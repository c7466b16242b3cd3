import SourceDigest.Graph.Basic
import SourceDigest.Number.Scalar

/-!
Damped centrality. A node's score is a fixed share plus the damped sum of what each dependent
passes on, its own score divided by the number of its imports. All nodes start at one, every
round reads the scores of the round before, and the number of rounds is given: there is no test
for convergence and no normalisation.
-/

namespace SourceDigest.Graph

variable {α : Type} [Scalar α]

/-- The scores of one round, by path and in node order. -/
abbrev Scores (α : Type) := List (String × α)

def initialScores (g : Graph α) : Scores α :=
  g.nodes.map fun node => (node.1, 1.0)

/-- What one dependent passes on is added to a score. A dependent without imports passes nothing
on. -/
def passOn (g : Graph α) (damping : α) (scores : Scores α) (score : α) (dependent : String) :
    Except UnknownPath α := do
  let links ← g.get dependent
  if links.outDegree = 0 then return score
  match scores.lookup dependent with
  | none => throw ⟨dependent⟩
  | some share => return score + damping * (share / Scalar.ofNat links.outDegree)

def nextScores (g : Graph α) (damping : α) (scores : Scores α) : Except UnknownPath (Scores α) :=
  g.nodes.mapM fun node => do
    let score ← node.2.dependents.foldlM (g.passOn damping scores) (1.0 - damping)
    return (node.1, score)

def scoresAfter (g : Graph α) (damping : α) :
    (rounds : Nat) → Scores α → Except UnknownPath (Scores α)
  | 0, scores => .ok scores
  | rounds + 1, scores => do g.scoresAfter damping rounds (← g.nextScores damping scores)

/-- The graph with every node's centrality set to its score. -/
def withScores (g : Graph α) (scores : Scores α) : Graph α :=
  { g with
    nodes := g.nodes.map fun node =>
      match scores.lookup node.1 with
      | some score => (node.1, { node.2 with centrality := score })
      | none => node }

def computeCentrality (g : Graph α) (damping : α) (rounds : Nat) :
    Except UnknownPath (Graph α) := do
  return g.withScores (← g.scoresAfter damping rounds g.initialScores)

/-- The centrality of a path; a path that is no node has none, which counts as zero. -/
def centrality (g : Graph α) (path : String) : α :=
  match g.find? path with
  | some links => links.centrality
  | none => 0.0

def defaultDamping : α :=
  0.85

def defaultRounds : Nat :=
  10

end SourceDigest.Graph
