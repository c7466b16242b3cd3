import SourceDigest.Analysis.Analyzer
import SourceDigest.Files.Discovery
import SourceDigest.Graph.Build
import SourceDigest.Graph.Centrality
import SourceDigest.Options.Patterns
import SourceDigest.Score.Heuristic
import SourceDigest.Score.Structural

/-!
Ranking of a batch of files. Every file gets a heuristic score; with structural analysis it also
gets metrics, a place in the import graph of the batch and a structural score, and its importance
is the blend of both scores. Files are ordered by falling importance, and by path where it is the
same.
-/

namespace SourceDigest

structure RankedFile (α : Type) where
  path : String
  content : String
  language : String
  size : Int
  importance : α
  heuristic : α
  metrics : Option (Metrics α)
  centrality : Option α
  deriving DecidableEq, Repr

/-- What a run of the ranking yields. Graph and memo are there with structural analysis only. -/
structure Ranking (α : Type) where
  usedStructure : Value
  files : List (RankedFile α)
  graph : Option (Graph α)
  memo : Option (Memo α)

inductive Ranking.Fault where
  | options (fault : Options.Fault)
  | graph (fault : Graph.UnknownPath)
  deriving Inhabited

namespace Ranking

variable {α : Type} [Scalar α]

def before (a b : RankedFile α) : Bool :=
  if b.importance < a.importance then true
  else if a.importance < b.importance then false
  else !decide (b.path < a.path)

def sorted (files : List (RankedFile α)) : List (RankedFile α) :=
  files.mergeSort before

def heuristics (prioritized : List String) (files : List SourceFile) : List (String × α) :=
  Keyed.ofList (files.map fun f => (f.path, Score.heuristic f.path f.content prioritized))

/-- The metrics of each path, and the analyzer after all files. -/
def analyzeAll (analyzer : Analyzer α) (files : List SourceFile) :
    List (String × Metrics α) × Analyzer α :=
  files.foldl (fun (found, analyzer) f =>
    let (m, analyzer) := analyzer.analyze f.path f.content f.language
    (Keyed.insert found f.path m, analyzer)) ([], analyzer)

def heuristicOf (scores : List (String × α)) (f : SourceFile) : α :=
  (scores.lookup f.path).getD 0.0

/-- A file whose importance is its heuristic score. -/
def plainFile (scores : List (String × α)) (f : SourceFile) : RankedFile α where
  path := f.path
  content := f.content
  language := f.language
  size := f.size
  importance := heuristicOf scores f
  heuristic := heuristicOf scores f
  metrics := none
  centrality := none

/-- What structural ranking is told beside the files. -/
structure Settings (α : Type) where
  damping : α
  rounds : Nat
  policy : Score.Policy
  weight : α

/-- A file whose importance is the blend of both scores. -/
def structuralFile (s : Settings α) (scores : List (String × α))
    (metrics : List (String × Metrics α)) (graph : Graph α) (f : SourceFile) : RankedFile α :=
  let m := (metrics.lookup f.path).getD Metrics.empty
  let centrality := graph.centrality f.path
  { path := f.path
    content := f.content
    language := f.language
    size := f.size
    importance :=
      Score.blend (heuristicOf scores f) (Score.structural s.policy m centrality) s.weight
    heuristic := heuristicOf scores f
    metrics := some m
    centrality := some centrality }

/-- The import graph of analyzed files with the centrality of each. -/
def scoredGraph (s : Settings α) (metrics : List (String × Metrics α)) :
    Except Graph.UnknownPath (Graph α) :=
  let graph := Graph.ofImports 0.0 (metrics.map fun entry => (entry.1, entry.2.dependencies))
  graph.computeCentrality s.damping s.rounds

/-- The number of rounds that an option stands for. A number with places is none. -/
def roundsOf (v : Value) : Except Options.Fault Nat :=
  match v with
  | .int n => .ok n.toNat
  | .bool b => .ok (if b then 1 else 0)
  | v =>
    .error (.mismatched ("'" ++ v.typeName ++ "' object cannot be interpreted as an integer"))

def policyOf (v : Value) : Score.Policy :=
  match v with
  | .text "legacy" => .legacy
  | _ => .additive

/-- The settings of options. Where there is nothing to score the number of rounds does not
matter. -/
def settingsOf (o : Options) (files : List SourceFile) : Except Options.Fault (Settings α) := do
  let rounds ← if files.isEmpty then pure 0 else roundsOf o.centralityRounds
  return {
    damping := o.centralityDamping.toScalar
    rounds
    policy := policyOf o.scoringPolicy
    weight := o.structureWeight.toScalar }

/-- The parts of names that options favour. One that is no text is a fault where a file has none
of those before it in its name. -/
def prioritizedOf (o : Options) (files : List SourceFile) : Except Options.Fault (List String) :=
  let (parts, fault) := Options.textItems o.prioritizeFiles
  match fault with
  | none => .ok parts
  | some fault =>
    if files.all fun f => Score.isPrioritized parts f.path then .ok parts else .error fault

/-- Ranks a batch with an analyzer, which comes back with what it has learnt. -/
def ofFilesWith (o : Options) (analyzer : Analyzer α) (files : List SourceFile) :
    Except Fault (Ranking α × Analyzer α) := do
  let prioritized ← (prioritizedOf o files).mapError .options
  let scores : List (String × α) := heuristics prioritized files
  if o.useStructure.isSet then
    let (metrics, analyzer) := analyzeAll analyzer files
    let settings ← (settingsOf o files).mapError .options
    let graph ← (scoredGraph settings metrics).mapError .graph
    let ranked := sorted (files.map (structuralFile settings scores metrics graph))
    return (⟨o.useStructure, ranked, some graph, some analyzer.memo⟩, analyzer)
  else
    return (⟨o.useStructure, sorted (files.map (plainFile scores)), none, none⟩, analyzer)

/-- Ranks a batch with an analyzer of its own. -/
def ofFiles (o : Options) (parser : Option Parser) (files : List SourceFile) :
    Except Fault (Ranking α) :=
  (ofFilesWith o (Analyzer.new parser true) files).map (·.1)

def find? (r : Ranking α) (path : String) : Option (RankedFile α) :=
  r.files.find? fun f => f.path == path

end Ranking

end SourceDigest
