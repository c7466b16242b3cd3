import SourceDigest.Options.Basic

/-!
The text of a configuration file that holds the defaults.
-/

namespace SourceDigest.Options

/-- A value as a configuration file writes it. -/
def written : Value → String
  | .bool b => if b then "true" else "false"
  | .text s => "\"" ++ s ++ "\""
  | .list items => "[" ++ ", ".intercalate (items.map fun v => "\"" ++ v.shown ++ "\"") ++ "]"
  | .tuple items => "[" ++ ", ".intercalate (items.map fun v => "\"" ++ v.shown ++ "\"") ++ "]"
  | v => v.shown

/-- The lines of one option. One that is nothing has none, and of excluded patterns only those of
the project are listed. -/
def templateLines (name : String) (v : Value) : List String :=
  match v with
  | .null => []
  | v =>
    if name = "exclude_patterns" then
      ["# exclude_patterns = [\"*.test.*\", \"coverage/**\"]", "exclude_patterns = []"]
    else [name ++ " = " ++ written v]

def template : String :=
  let lines := ({} : Options).toTable.flatMap fun entry => templateLines entry.1 entry.2
  "\n".intercalate ("[contextrank]" :: lines) ++ "\n"

end SourceDigest.Options
