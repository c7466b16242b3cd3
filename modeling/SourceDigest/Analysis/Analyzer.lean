import SourceDigest.Analysis.Memo
import SourceDigest.Analysis.Strategy
import SourceDigest.Analysis.Traits

/-!
Analysis of one file after another. The analyzer runs the chain of the file's language on metrics
that hold the file's character alone, and remembers what came of it.
-/

namespace SourceDigest

/-- A chain for every language, and a memo. -/
structure Analyzer (α : Type) where
  chain : (language : String) → List (Strategy α)
  memo : Memo α

namespace Analyzer

variable {α : Type} [Scalar α]

/-- Metrics that hold the character of a file and nothing else. -/
def template (path content : String) : Metrics α :=
  { (Metrics.empty : Metrics α) with
    frameworks := Traits.frameworks content.toList
    isEntryPoint := Traits.isEntryPoint path.toList content.toList
    isTestFile := Traits.isTestFile path.toList content.toList
    isConfigFile := Traits.isConfigFile path.toList }

/-- The metrics of a file, without regard to any memo. -/
def analyzeFresh (chain : String → List (Strategy α)) (path content language : String) :
    Metrics α :=
  Strategy.runChain (template path content) path content (chain language)

def new (parser : Option Parser) (enabled : Bool) : Analyzer α :=
  ⟨Strategy.chainFor parser, Memo.new enabled⟩

def analyze (a : Analyzer α) (path content language : String) : Metrics α × Analyzer α :=
  let key := Memo.keyFor path content
  match a.memo.get key with
  | (some m, memo) => (m, { a with memo })
  | (none, memo) =>
    let m := analyzeFresh a.chain path content language
    (m, { a with memo := memo.set key m })

def clear (a : Analyzer α) : Analyzer α :=
  { a with memo := a.memo.clear }

end Analyzer

end SourceDigest
