import SourceDigest.Number.Reading
import SourceDigest.Options.Patterns
import SourceDigest.Text.Lower

/-!
Options from environment variables, one variable for each option. The text of a variable is read
as its option asks.
-/

namespace SourceDigest.Options

inductive Reading where
  | patterns
  | flag
  | whole
  | decimal
  | word
  deriving DecidableEq, Repr

def readingOf (name : String) : Reading :=
  if name ∈ ["exclude_patterns", "include_patterns", "prioritize_files"] then .patterns
  else if name ∈ ["include_hidden", "respect_gitignore", "use_ast_analysis",
      "include_metadata"] then .flag
  else if name ∈ ["max_file_size", "centrality_iterations", "max_tokens"] then .whole
  else if name ∈ ["ast_weight", "centrality_damping"] then .decimal
  else .word

/-- Why the text of a variable could not be read. -/
inductive TextFault where
  | noFlag (text : String)
  | noWhole (text : String)
  | tooLong (digits : Nat)
  | noDecimal (text : String)
  deriving DecidableEq, Repr, Inhabited

namespace TextFault

/-- A fault in words. Of a text that is no whole number at most two hundred characters are shown. -/
def message : TextFault → String
  | noFlag text => "expected true/false, got '" ++ text ++ "'"
  | noWhole text =>
    "invalid literal for int() with base 10: " ++
      String.ofList ((Text.quoted text.toList).take 200)
  | tooLong digits =>
    "Exceeds the limit (4300 digits) for integer string conversion: value has " ++
      toString digits ++ " digits; use sys.set_int_max_str_digits() to increase the limit"
  | noDecimal text =>
    "could not convert string to float: " ++ String.ofList (Text.quoted text.toList)

end TextFault

def readFlag (text : String) : Except TextFault Value :=
  let small := String.ofList (Text.lower text.toList)
  if small ∈ ["true", "1", "yes", "on"] then .ok (.bool true)
  else if small ∈ ["false", "0", "no", "off"] then .ok (.bool false)
  else .error (.noFlag text)

/-- A whole number. Too many digits are refused before what follows them is looked at. -/
def readWhole (text : String) : Except TextFault Value :=
  let digits := Reading.leadingDigits text.toList
  if Reading.digitLimit < digits then .error (.tooLong digits)
  else
    match (Reading.loosen? text.toList).bind Reading.whole? with
    | some n => .ok (.int n)
    | none => .error (.noWhole text)

def readDecimal (text : String) : Except TextFault Value :=
  match (Reading.loosen? text.toList).bind Reading.number? with
  | some x => .ok (.float x)
  | none => .error (.noDecimal text)

def readText (name text : String) : Except TextFault Value :=
  match readingOf name with
  | .patterns => .ok (.list ((splitPatterns text).map .text))
  | .flag => readFlag text
  | .whole => readWhole text
  | .decimal => readDecimal text
  | .word => .ok (.text text)

def variableOf (name : String) : String :=
  "CONTEXTRANK_" ++ name.toUpper

/-- A variable whose text could not be read. -/
structure VariableFault where
  name : String
  fault : TextFault
  deriving DecidableEq, Repr, Inhabited

/-- The options that variables set, in option order; the first text that cannot be read decides. -/
def ofEnvironment (environment : List (String × String)) :
    Except VariableFault (List (String × Value)) :=
  names.foldlM (fun (found : List (String × Value)) name =>
    match environment.lookup (variableOf name) with
    | none => .ok found
    | some text =>
      match readText name text with
      | .ok v => .ok (found ++ [(name, v)])
      | .error fault => .error ⟨variableOf name, fault⟩) []

end SourceDigest.Options
