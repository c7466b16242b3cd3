import SourceDigest.Analysis.Surface
import SourceDigest.Syntax.Walk

/-!
Ways of deriving metrics from a file. A strategy is a step on metrics it is handed: it may change
them before it returns some, gives up or fails, so that the last two carry what it left behind.
A chain of strategies hands fresh metrics to each in turn and keeps the first that are returned.
-/

namespace SourceDigest

inductive Crash where
  | notImplemented
  | inParser
  deriving DecidableEq, Repr, Inhabited

/-- How a strategy ended; `left` is what became of the metrics it was handed. -/
inductive Attempt (α : Type) where
  | returns (m : Metrics α)
  | givesUp (left : Metrics α)
  | fails (left : Metrics α) (crash : Crash)

/-- A named way of deriving metrics from a path and a content. -/
structure Strategy (α : Type) where
  name : String
  analyze : (path content : String) → Metrics α → Attempt α

/-- What a parser makes of a text: nothing, a tree that may hold errors, or one of two failures,
of which the first only says that the text cannot be parsed. -/
inductive Parse where
  | nothing
  | tree (root : Syntax.Node) (hasError : Bool)
  | refused
  | crashed

structure Parser where
  supports : (grammar : String) → Bool
  parse : (grammar text : String) → Parse

namespace Strategy

variable {α : Type} [Scalar α]

/-- The strategy that knows nothing. -/
def unimplemented : Strategy α where
  name := "base"
  analyze _ _ m := .fails m .notImplemented

/-- Walks an error-free syntax tree of a supported grammar, and gives up where there is none. -/
def syntaxTree (parser : Option Parser) (grammar : String) (typed : Bool) : Strategy α where
  name := "tree-sitter:" ++ grammar
  analyze _ content m :=
    match parser with
    | none => .givesUp m
    | some parser =>
      if parser.supports grammar then
        match parser.parse grammar content with
        | .nothing => .givesUp m
        | .tree root hasError =>
          if hasError then .givesUp m else .returns (Syntax.walk typed root m)
        | .refused => .givesUp m
        | .crashed => .fails m .inParser
      else .givesUp m

/-- Reads import, function and class lines of Python. -/
def pythonLines : Strategy α where
  name := "regex:python"
  analyze _ content m := .returns (Surface.Python.analyze content m)

/-- Counts what looks like code in any language. -/
def anyLanguage : Strategy α where
  name := "regex:generic"
  analyze _ content m := .returns (Surface.analyze content m)

/-- The grammars of a language in the order in which they are tried, and whether they are typed. -/
def grammarsFor (language : String) : List (String × Bool) :=
  if language = "typescript" then [("typescript", true), ("tsx", true)]
  else if language = "tsx" then [("tsx", true)]
  else if language = "javascript" ∨ language = "jsx" then [("javascript", false)]
  else []

/-- The strategies for a language in the order in which they are tried. -/
def chainFor (parser : Option Parser) (language : String) : List (Strategy α) :=
  (grammarsFor language).map (fun g => syntaxTree parser g.1 g.2) ++
    (if language = "python" then [pythonLines] else []) ++ [anyLanguage]

/-- The result of the first strategy of a chain that returns metrics; each one is handed the
template afresh. If none does, the template alone. -/
def runChain (template : Metrics α) (path content : String) : List (Strategy α) → Metrics α
  | [] => { template.fresh with strategy := "none" }
  | s :: chain =>
    match s.analyze path content template.fresh with
    | .returns m => { m with strategy := s.name }
    | .givesUp _ => runChain template path content chain
    | .fails _ _ => runChain template path content chain

end Strategy

namespace Parser

/-- Grammars that have a parser when all of them are installed. -/
def knownGrammars : List String :=
  ["javascript", "tsx", "typescript"]

end Parser

end SourceDigest
