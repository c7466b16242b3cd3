import SourceDigest.Analysis.Traits
import SourceDigest.Metrics

/-!
Structural importance of a file, from its metrics and its centrality. The additive policy adds a
bonus for each role, then scales tests and generated files down and takes off a penalty for many
imports; the order of these steps is part of the rule. The legacy policy weighs declarations only.
-/

namespace SourceDigest.Score

variable {α : Type} [Scalar α]

open Scalar

/-- How structure is turned into a score. -/
inductive Policy where
  | additive
  | legacy
  deriving DecidableEq, Repr, Inhabited

/-- Many exports and functions with a middling complexity make a file part of the main logic. -/
def isMainLogic (m : Metrics α) : Bool :=
  3 < m.exportCount && 5 < m.functionCount && decide ((5.0 : α) < m.complexity) &&
    decide (m.complexity < (50.0 : α))

/-- A file that uses a framework and has exports or several functions. -/
def isFrameworkCore (m : Metrics α) : Bool :=
  !m.frameworks.isEmpty && (0 < m.exportCount || 3 < m.functionCount)

def addFramework (score : α) (framework : String) : α :=
  let score := if framework ∈ Traits.frontend then score + 5.0 else score
  if framework ∈ Traits.backend then score + 6.0 else score

def bonuses (m : Metrics α) (centrality : α) : α :=
  let score : α := 0.0
  let score := if m.isEntryPoint then score + 20.0 else score
  let score := if isMainLogic m then score + 15.0 else score
  let score := score + ofInt m.exportCount * 3.0
  let score := score + ofInt m.publicMethods * 2.0
  let score := if isFrameworkCore m then score + 10.0 else score
  let score := if m.isConfigFile then score + 8.0 else score
  let score := m.frameworks.foldl addFramework score
  let score := score + least (m.complexity / 5.0) 5.0
  let score := score + centrality * 10.0
  if m.importCount == 0 && 0 < m.exportCount then score + 5.0 else score

/-- Tests count for three tenths, generated files for one tenth. -/
def scaled (m : Metrics α) (score : α) : α :=
  let score := if m.isTestFile then score * 0.3 else score
  if m.isGenerated then score * 0.1 else score

/-- Every import after the tenth costs a fifth of a point. -/
def penalised (m : Metrics α) (score : α) : α :=
  if 10 < m.importCount then score - ofInt (m.importCount - 10) * 0.2 else score

def additive (m : Metrics α) (centrality : α) : α :=
  most (penalised m (scaled m (bonuses m centrality))) 0.0

def legacy (m : Metrics α) (centrality : α) : α :=
  let score : α := 0.0
  let score := score + ofInt (m.exportCount * 2)
  let score := score + ofInt (m.classCount * 3)
  let score := score + ofInt (m.interfaceCount * 2)
  let score := score + ofInt m.typeCount
  let score :=
    if (5.0 : α) ≤ m.complexity ∧ m.complexity ≤ (25.0 : α) then score + 5.0 else score
  let score := score + centrality * 10.0
  let score := if m.isTestFile then score * 0.3 else score
  most score 0.0

def structural (policy : Policy) (m : Metrics α) (centrality : α) : α :=
  match policy with
  | .additive => additive m centrality
  | .legacy => legacy m centrality

end SourceDigest.Score
