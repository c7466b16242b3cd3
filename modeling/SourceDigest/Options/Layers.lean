import SourceDigest.Files.World
import SourceDigest.Options.Environment
import SourceDigest.Toml.Document

/-!
Options from several layers: a file in the home directory, a file of the project, a file that is
named, the environment, and what the caller sets. A later layer replaces what an earlier one set,
except that excluded patterns of all layers are added to the default ones.
-/

namespace SourceDigest.Options

/-- Values by option name. -/
abbrev Layer := List (String × Value)

inductive Source where
  | home
  | project
  | named
  deriving DecidableEq, Repr

inductive LoadFault where
  | badFile (source : Source) (path : String)
  | noFile (path : String)
  | unreachable (path : String) (fault : PathFault)
  | badVariable (fault : VariableFault)
  | unknownNames (names : List String)
  | options (fault : Fault)
  deriving Inhabited

/-- What the layers have set so far: all values in order, and the excluded patterns. -/
structure Merged where
  values : Layer
  excludes : List String

namespace Merged

def empty : Merged :=
  ⟨[], []⟩

/-- Adds a layer. Excluded patterns that are not set to anything are passed over. -/
def add (m : Merged) (layer : Layer) : Except Fault Merged := do
  let others := layer.filter fun entry => entry.1 != "exclude_patterns"
  let excludes ← match layer.lookup "exclude_patterns" with
    | some v => if v.isSet then patternList v else pure []
    | none => pure []
  return ⟨m.values ++ others, m.excludes ++ excludes⟩

/-- The last value that was set for a name. -/
def get? (m : Merged) (name : String) : Option Value :=
  m.values.reverse.lookup name

/-- The value of a list of patterns as a tuple, if one was set. -/
def patterns (m : Merged) (name : String) : Except Fault Layer :=
  match m.get? name with
  | some v => do return [(name, .ofTexts (← patternList v))]
  | none => .ok []

/-- Default patterns and after them those of the layers that are no default ones. -/
def excludePatterns (m : Merged) : Value :=
  .ofTexts (defaultExcludes ++ m.excludes.filter fun p => !defaultExcludes.contains p)

/-- The names that are no options, sorted and each once. -/
def unknownNames (m : Merged) : List String :=
  let unknown := (m.values.map (·.1)).filter fun name => !names.contains name
  unknown.eraseDups.mergeSort fun a b => !decide (b < a)

/-- The options of all layers together. -/
def toOptions (m : Merged) : Except LoadFault Options := do
  let lists ← ((do
    return (← m.patterns "include_patterns") ++ (← m.patterns "prioritize_files") :
      Except Fault Layer).mapError .options)
  if !m.unknownNames.isEmpty then throw (.unknownNames m.unknownNames)
  let excludes : Layer :=
    if m.excludes.isEmpty then [] else [("exclude_patterns", m.excludePatterns)]
  (ofTable (m.values ++ lists ++ excludes)).mapError .options

end Merged

/-- The table of a file: its part under the program's name, or else all of it. -/
def ownTable (entries : Layer) : Layer :=
  match entries.lookup "contextrank" with
  | some (.table inner) => inner
  | _ => entries

/-- Adds the layer of a file. What goes wrong there is told as a fault of the file. -/
def addFile (m : Merged) (source : Source) (path : String) (bytes : Except PathFault ByteArray) :
    Except LoadFault Merged :=
  match bytes with
  | .error .isDirectory => .error (.badFile source path)
  | .error _ => .ok m
  | .ok bytes =>
    match Toml.ofBytes? bytes with
    | none => .error (.badFile source path)
    | some entries => (m.add (ownTable entries)).mapError fun _ => .badFile source path

/-- What the caller sets, as a layer. The two switches for the amount of messages become one
option; values that are nothing are passed over. -/
def callerLayer (overrides : Layer) : Layer :=
  let verbose := ((overrides.lookup "verbose").map Value.isSet).getD false
  let quiet := ((overrides.lookup "quiet").map Value.isSet).getD false
  let others := overrides.filter fun entry => entry.1 != "verbose" && entry.1 != "quiet"
  let said : Layer :=
    (if verbose then [("verbosity", .text "verbose")] else []) ++
      (if quiet then [("verbosity", .text "quiet")] else [])
  (others ++ said).filter fun entry =>
    match entry.2 with
    | .null => false
    | _ => true

def homeFile : String :=
  ".contextrank.toml"

def projectFile : String :=
  "contextrank.toml"

/-- The options of a run in a world. -/
def load (w : World) (file : Option String) (overrides : Layer) : Except LoadFault Options := do
  let m ← addFile .empty .home (w.homeText ++ "/" ++ homeFile) (w.readHome homeFile)
  let m ← addFile m .project (w.hereText ++ "/" ++ projectFile) (w.read projectFile)
  let m ← match file with
    | none => pure m
    | some path => do
      let path := String.ofList (Path.tidy path.toList)
      match w.find path with
      | .error .nameTooLong => throw (.unreachable path .nameTooLong)
      | .error _ => throw (.noFile path)
      | .ok _ => addFile m .named path (w.read path)
  let settings ← (ofEnvironment w.environment).mapError .badVariable
  let m ← (m.add settings).mapError .options
  let m ← (m.add (callerLayer overrides)).mapError .options
  m.toOptions

namespace LoadFault

/-- What is said about a file that is no table of options. -/
def badFileText : String :=
  "cannot be read as options"

def sourceWords : Source → String
  | .home => "Invalid global config"
  | .project => "Invalid project config"
  | .named => "Invalid config file"

end LoadFault

def LoadFault.notice? : LoadFault → Option Notice
  | .badFile source path =>
    some (.plain (sourceWords source ++ " '" ++ path ++ "': " ++ badFileText))
  | .unreachable _ _ => none
  | .noFile path => some (.plain ("Config file not found: " ++ path))
  | .badVariable fault =>
    some (.plain ("Invalid " ++ fault.name ++ ": " ++ fault.fault.message))
  | .unknownNames names =>
    some (.plain ("Invalid configuration: unknown option(s) " ++ ", ".intercalate names))
  | .options fault => fault.notice?

end SourceDigest.Options
