import SourceDigest.Options.Environment
import SourceDigest.Files.World

/-!
Arguments of the command line. Options may stand anywhere before `--`, several short ones in one
argument; of a repeated option the last one counts. Arguments that make no sense are refused as a
whole.
-/

namespace SourceDigest.CommandLine

/-- What an option takes. -/
inductive Kind where
  | switch (on : Bool)
  | taking
  deriving DecidableEq, Repr

/-- An option of a command: its names, what it takes, and the setting it belongs to. -/
structure Rule where
  names : List String
  kind : Kind
  setting : String
  deriving DecidableEq, Repr

def rankRules : List Rule :=
  [⟨["-o", "--output"], .taking, "output"⟩,
   ⟨["-f", "--format"], .taking, "format"⟩,
   ⟨["--ast"], .switch true, "ast"⟩,
   ⟨["--no-ast"], .switch false, "ast"⟩,
   ⟨["--max-size"], .taking, "max-size"⟩,
   ⟨["--exclude"], .taking, "exclude"⟩,
   ⟨["--include"], .taking, "include"⟩,
   ⟨["--include-hidden"], .switch true, "include-hidden"⟩,
   ⟨["--metadata"], .switch true, "metadata"⟩,
   ⟨["--no-metadata"], .switch false, "metadata"⟩,
   ⟨["--max-tokens"], .taking, "max-tokens"⟩,
   ⟨["-c", "--config"], .taking, "config"⟩,
   ⟨["--verbose", "-v"], .switch true, "verbose"⟩,
   ⟨["--quiet", "-q"], .switch true, "quiet"⟩,
   ⟨["--help"], .switch true, "help"⟩]

def initRules : List Rule :=
  [⟨["-C", "--directory"], .taking, "directory"⟩,
   ⟨["--force"], .switch true, "force"⟩,
   ⟨["--help"], .switch true, "help"⟩]

def exampleRules : List Rule :=
  [⟨["--help"], .switch true, "help"⟩]

/-- What an option was given: a switch its position, any other a text. -/
inductive Given where
  | switch (on : Bool)
  | text (s : String)
  deriving DecidableEq, Repr

/-- Arguments sorted into what options were given and what stands for itself. -/
structure Sorted where
  given : List (String × Given)
  positional : List String
  deriving DecidableEq, Repr, Inhabited

namespace Sorted

def note (s : Sorted) (setting : String) (g : Given) : Sorted :=
  { s with given := (setting, g) :: s.given }

/-- Adds an argument that stands for itself. -/
def keep (s : Sorted) (argument : String) : Sorted :=
  { s with positional := s.positional ++ [argument] }

/-- The last text given to an option. -/
def text? (s : Sorted) (setting : String) : Option String :=
  match s.given.lookup setting with
  | some (.text t) => some t
  | _ => none

/-- The last position of a switch. -/
def switch? (s : Sorted) (setting : String) : Option Bool :=
  match s.given.lookup setting with
  | some (.switch on) => some on
  | _ => none

end Sorted

def rule? (rules : List Rule) (name : String) : Option Rule :=
  rules.find? fun rule => rule.names.contains name

/-- Short options in one argument. The first one that takes a text takes the rest of the argument,
or the next argument if nothing is left. -/
def shortOptions (rules : List Rule) (s : Sorted) (rest : List String) :
    List Char → Option (Sorted × List String)
  | [] => some (s, rest)
  | c :: more =>
    match rule? rules (String.ofList ['-', c]) with
    | none => none
    | some rule =>
      match rule.kind with
      | .switch on => shortOptions rules (s.note rule.setting (.switch on)) rest more
      | .taking =>
        if more.isEmpty then
          match rest with
          | next :: rest => some (s.note rule.setting (.text next), rest)
          | [] => none
        else some (s.note rule.setting (.text (String.ofList more)), rest)

/-- A long option with the text after its equals sign, if it has one. -/
def longOption (rules : List Rule) (s : Sorted) (rest : List String) (argument : List Char) :
    Option (Sorted × List String) :=
  let name := argument.takeWhile (· != '=')
  let attached := (argument.drop name.length).tail?
  match rule? rules (String.ofList name) with
  | none => none
  | some rule =>
    match rule.kind, attached with
    | .switch on, none => some (s.note rule.setting (.switch on), rest)
    | .switch _, some _ => none
    | .taking, some t => some (s.note rule.setting (.text (String.ofList t)), rest)
    | .taking, none =>
      match rest with
      | next :: rest => some (s.note rule.setting (.text next), rest)
      | [] => none

/-- Sorts arguments from left to right; an option it does not know is refused. -/
def sortFrom (rules : List Rule) : (fuel : Nat) → Sorted → List String → Option Sorted
  | 0, s, _ => some s
  | _ + 1, s, [] => some s
  | fuel + 1, s, argument :: rest =>
    match argument.toList with
    | ['-', '-'] => some (rest.foldl Sorted.keep s)
    | '-' :: '-' :: more =>
      (longOption rules s rest ('-' :: '-' :: more)).bind fun r => sortFrom rules fuel r.1 r.2
    | '-' :: c :: more =>
      (shortOptions rules s rest (c :: more)).bind fun r => sortFrom rules fuel r.1 r.2
    | _ => sortFrom rules fuel (s.keep argument) rest

def sort (rules : List Rule) (arguments : List String) : Option Sorted :=
  sortFrom rules (arguments.length + 1) ⟨[], []⟩ arguments

structure RankRequest where
  path : String
  output : Option String
  config : Option String
  overrides : List (String × Value)
  quiet : Bool
  deriving Inhabited

inductive Request where
  | rank (r : RankRequest)
  | init (directory : String) (force : Bool)
  | examples
  | help
  | refused
  deriving Inhabited

/-- A letter without regard to case, where the long s and the kelvin sign count as letters. -/
def foldLetter (c : Char) : Char :=
  if c = 'ſ' then 's' else if c = '\u212a' then 'k' else c.toLower

/-- An output format by its name in any case. -/
def format? (text : String) : Option String :=
  let small := String.ofList (text.toList.map foldLetter)
  ["markdown", "json"].find? (· == small)

def positive? (text : String) : Option Int :=
  match Options.readWhole text with
  | .ok (.int n) => if 1 ≤ n then some n else none
  | _ => none

def read {β : Type} (text : Option String) (f : String → Option β) : Option (Option β) :=
  match text with
  | none => some none
  | some t => (f t).map some

/-- A path that names no directory, whether it is there or not. -/
def notDirectory? (w : World) (path : String) : Option String :=
  if w.isDirectory path then none else some path

def file? (w : World) (path : String) : Option String :=
  if w.isThere path && !w.isDirectory path then some path else none

def rankRequest? (w : World) (s : Sorted) : Option RankRequest := do
  let format ← read (s.text? "format") format?
  let maxSize ← read (s.text? "max-size") positive?
  let maxTokens ← read (s.text? "max-tokens") positive?
  let output ← read (s.text? "output") (notDirectory? w)
  let config ← read (s.text? "config") (file? w)
  let path ← match s.positional with
    | [path] => some path
    | _ => none
  let verbose := (s.switch? "verbose").getD false
  let quiet := (s.switch? "quiet").getD false
  let given (name : String) (v : Option Value) : List (String × Value) :=
    (v.map fun v => (name, v)).toList
  return {
    path, output, config, quiet
    overrides :=
      given "output_format" (format.map .text) ++
        given "use_ast_analysis" ((s.switch? "ast").map .bool) ++
        given "max_file_size" (maxSize.map .int) ++
        given "exclude_patterns" ((s.text? "exclude").map .text) ++
        given "include_patterns" ((s.text? "include").map .text) ++
        given "include_metadata" ((s.switch? "metadata").map .bool) ++
        given "max_tokens" (maxTokens.map .int) ++
        given "include_hidden" ((s.switch? "include-hidden").map .bool) ++
        [("verbose", .bool verbose), ("quiet", .bool quiet)] }

def directory? (w : World) (path : String) : Option String :=
  if w.isDirectory path then some path else none

def initRequest? (w : World) (s : Sorted) : Option Request := do
  let directory ← read (s.text? "directory") (directory? w)
  match s.positional with
  | [] => some (.init (directory.getD ".") ((s.switch? "force").getD false))
  | _ => none

/-- What sorted arguments ask for; a question for help comes before everything else. -/
def orHelp (sorted : Option Sorted) (f : Sorted → Option Request) : Request :=
  match sorted with
  | none => .refused
  | some s =>
    match s.switch? "help" with
    | some _ => .help
    | none => (f s).getD .refused

/-- What arguments ask for. The name of the command may be left out for ranking. -/
def request (w : World) (arguments : List String) : Request :=
  match arguments with
  | [] => .refused
  | "--help" :: _ => .help
  | "-h" :: _ => .refused
  | "init" :: rest => orHelp (sort initRules rest) (initRequest? w)
  | "examples" :: rest =>
    orHelp (sort exampleRules rest) fun s =>
      if s.positional.isEmpty then some .examples else none
  | "rank" :: rest => orHelp (sort rankRules rest) fun s => (rankRequest? w s).map .rank
  | arguments => orHelp (sort rankRules arguments) fun s => (rankRequest? w s).map .rank

end SourceDigest.CommandLine
