import SourceDigest.Value

/-!
What a reader is told when something cannot be done: a sentence, and details by name. Notices
belong to categories, each within a wider one.
-/

namespace SourceDigest

inductive Notice.Category where
  | general
  | analysis
  | fileAccess
  | parsing
  | configuration
  | path
  | setting
  deriving DecidableEq, Repr, Inhabited

/-- A sentence with named details, in order. -/
structure Notice where
  category : Notice.Category
  sentence : String
  details : List (String × String)
  deriving DecidableEq, Repr, Inhabited

namespace Notice

/-- A category and those that contain it, the widest last. -/
def Category.chain : Category → List Category
  | general => [general]
  | analysis => [analysis, general]
  | fileAccess => [fileAccess, analysis, general]
  | parsing => [parsing, analysis, general]
  | configuration => [configuration, general]
  | path => [path, configuration, general]
  | setting => [setting, configuration, general]

def plain (sentence : String) : Notice :=
  ⟨.general, sentence, []⟩

def ofFile (path reason : String) : Notice :=
  ⟨.fileAccess, "Cannot access file: " ++ path, [("filepath", path), ("reason", reason)]⟩

def ofParsing (path language reason : String) : Notice :=
  ⟨.parsing, "Failed to parse " ++ language ++ " file: " ++ path,
    [("filepath", path), ("language", language), ("reason", reason)]⟩

def ofPath (path reason : String) : Notice :=
  ⟨.path, "Invalid path: " ++ path, [("path", path), ("reason", reason)]⟩

def ofSetting (key value reason : String) : Notice :=
  ⟨.setting, "Invalid configuration for " ++ key ++ ": " ++ value,
    [("key", key), ("value", value), ("reason", reason)]⟩

/-- The sentence, with the details in brackets if there are any. -/
def text (n : Notice) : String :=
  if n.details.isEmpty then n.sentence
  else
    let shown := n.details.map fun d => d.1 ++ "=" ++ d.2
    n.sentence ++ " (" ++ ", ".intercalate shown ++ ")"

end Notice

end SourceDigest
