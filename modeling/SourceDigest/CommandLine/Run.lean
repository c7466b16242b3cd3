import SourceDigest.CommandLine.Arguments
import SourceDigest.CommandLine.Status
import SourceDigest.Digest.OfProject
import SourceDigest.Options.Layers
import SourceDigest.Options.Template
import SourceDigest.Text.ControlSequence

/-!
A run of the program on a world of files: what it prints, what it says about the run, how it ends,
and the world after it.
-/

namespace SourceDigest.CommandLine

/-- How a run ended. `status` are the lines of its messages. -/
structure Outcome where
  exit : Nat
  output : String
  status : List String
  world : World
  deriving Inhabited

def tokensOf (text : String) : Int :=
  Tokens.estimate Float text

/-- Adds the lines of a message. -/
def show? (o : Outcome) (message : String) : Except Markup.Fault Outcome :=
  (messageLines message).map fun lines => { o with status := o.status ++ lines }

/-- Ends a run with a message about what went wrong, if it can be shown. -/
def fail {β : Type} (o : Outcome) (message : String) : Except Outcome β :=
  match show? o message with
  | .ok o => .error { o with exit := 1 }
  | .error _ => .error { o with exit := 1 }

/-- Ends a run with a notice, or with the bare words of a fault that has none. -/
def failWith {β : Type} (o : Outcome) (notice : Option Notice) (words : String) :
    Except Outcome β :=
  match notice with
  | some n => fail o ("[red]Error:[/red] " ++ n.text)
  | none => fail o ("[red]Unexpected error:[/red] " ++ words)

/-- Adds a message; one that cannot be shown ends the run. -/
def say (o : Outcome) (message : String) : Except Outcome Outcome :=
  match show? o message with
  | .ok o => .ok o
  | .error fault => failWith o none fault.message

/-- What is said about a whole number that is too long to be shown. -/
def tooLongText : String :=
  "Exceeds the limit (" ++ toString Reading.digitLimit ++
    " digits) for integer string conversion; use sys.set_int_max_str_digits() to increase the limit"

def optionWords : Options.Fault → String
  | .refused _ _ _ => tooLongText
  | .mismatched message => message
  | .noText typeName => "'" ++ typeName ++ "' object is no text"
  | .unshowable => tooLongText

def loadWords : Options.LoadFault → String
  | .options fault => optionWords fault
  | .unreachable path fault => fault.message path
  | _ => ""

def digestWords : Digest.Fault → String
  | .options fault => optionWords fault
  | .ranking (.options fault) => optionWords fault
  | .ranking (.graph fault) => fault.path
  | .project path fault => fault.message path

def renderText (o : Options) (d : Digest) (budget : Option Budget) : Except Json.Fault String :=
  match o.outputFormat with
  | .text "json" => d.json tokensOf o.includeMetadata.isSet budget
  | _ => .ok (d.markdown tokensOf o.includeMetadata.isSet budget)

def shownPath (path : String) : String :=
  String.ofList (Path.tidy path.toList)

def unlessQuiet (quiet : Bool) (o : Outcome) (message : String) : Except Outcome Outcome :=
  if quiet then .ok o else say o message

def printed (text : String) : String :=
  String.ofList (Text.withoutSequences [] text.toList) ++ "\n"

def deliver (r : RankRequest) (o : Outcome) (text : String) : Except Outcome Outcome :=
  match r.output with
  | none => .ok { o with output := printed text }
  | some path =>
    let shown := shownPath path
    match o.world.write shown text.toUTF8 with
    | .error fault => failWith o none (fault.message shown)
    | .ok world =>
      unlessQuiet r.quiet { o with world } ("[green]Output saved to:[/green] " ++ shown)

def generatedLine (text : String) (files : Nat) : String :=
  let size := Scalar.floatOfInt text.utf8ByteSize / 1024.0
  "[blue]Generated " ++ toString (Text.lines text.toList).length ++ " lines (" ++
    Number.fixed 2 size ++ " KB) from " ++ toString files ++ " files[/blue]"

/-- Ranks a project and renders it, step by step. -/
def rankSteps (w : World) (parser : Option Parser) (r : RankRequest) : Except Outcome Outcome := do
  let o : Outcome := ⟨0, "", [], w⟩
  let settings ← match Options.load w r.config r.overrides with
    | .ok settings => pure settings
    | .error fault => failWith o fault.notice? (loadWords fault)
  let o ← unlessQuiet r.quiet o ("[blue]Analyzing[/blue] " ++ shownPath r.path)
  let (digest, _) ← match Digest.ofProject w settings parser r.path with
    | .ok d => pure d
    | .error fault => failWith o fault.notice? (digestWords fault)
  let budget ← match Budget.ofValue? settings.maxTokens with
    | .ok budget => pure budget
    | .error fault => failWith o fault.notice? (optionWords fault)
  let text ← match renderText settings digest budget with
    | .ok text => pure text
    | .error fault => failWith o none fault.message
  let o ← deliver r o text
  if r.quiet then return o
  let o ← say o (generatedLine text digest.files.length)
  return { o with status := o.status ++ usageLines (Tokens.usage (tokensOf text)) }

/-- Writes a configuration file with the defaults, unless there is one. -/
def initSteps (w : World) (directory : String) (force : Bool) : Except Outcome Outcome := do
  let o : Outcome := ⟨0, "", [], w⟩
  let file := Options.projectFile.toList
  let target := String.ofList (Path.tidy (Path.join directory.toList file))
  if w.isThere target && !force then
    fail o ("[yellow]" ++ target ++ " already exists[/yellow] (use --force to overwrite)")
  else
    match w.write target Options.template.toUTF8 with
    | .error _ => throw { o with exit := 1 }
    | .ok world =>
      match show? { o with world } ("[green]Created " ++ target ++ "[/green]") with
      | .ok o => return o
      | .error _ => throw { o with world, exit := 1 }

/-- Uses of the program, each with a title. -/
def examples : List (String × String) :=
  [("Basic digest", "contextrank ./my-project"),
   ("Save to file", "contextrank ./my-project -o project-docs.md"),
   ("JSON output", "contextrank ./my-project -f json -o project.json"),
   ("Structural ranking", "contextrank ./my-project --ast"),
   ("Include hidden files", "contextrank ./my-project --include-hidden"),
   ("Custom exclusions", "contextrank ./my-project --exclude \"*.test.js,coverage/**\""),
   ("Larger file limit", "contextrank ./my-project --max-size 2097152"),
   ("Fit a context window", "contextrank ./my-project --max-tokens 128000")]

def exampleLines : List String :=
  ["contextrank usage examples:", ""] ++
    examples.flatMap fun use => [use.1 ++ ":", "  " ++ use.2, ""]

/-- The outcome of steps, whether they were all taken or not. -/
def outcomeOf (steps : Except Outcome Outcome) : Outcome :=
  match steps with
  | .ok o => o
  | .error o => o

def run (w : World) (parser : Option Parser) (arguments : List String) : Outcome :=
  match request w arguments with
  | .rank r => outcomeOf (rankSteps w parser r)
  | .init directory force => outcomeOf (initSteps w directory force)
  | .examples => ⟨0, "", exampleLines, w⟩
  | .help => ⟨0, "", [], w⟩
  | .refused => ⟨2, "", [], w⟩

end SourceDigest.CommandLine
