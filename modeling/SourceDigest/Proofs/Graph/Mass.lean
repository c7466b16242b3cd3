import Mathlib.Tactic.Linarith
import Mathlib.Tactic.NormNum
import Mathlib.Tactic.Positivity
import SourceDigest.Proofs.Graph.Batch
import SourceDigest.Proofs.Graph.Flow

/-! The sum of all centralities. A round gives every node a fixed share and hands on the damped
scores of the nodes that import something, so that the sum never grows beyond the number of
nodes, and keeps it where no node is without an import. -/

namespace SourceDigest.Graph

open List

variable {g : Graph Rat} {edges : List (String × String)} {damping : Rat}

/-! ## Single scores -/

theorem received_nonneg {scores : String → Rat} (h : ∀ path, 0 ≤ scores path) (path : String) :
    0 ≤ g.received scores path := by
  apply sum_nonneg
  intro x hx
  obtain ⟨source, _, rfl⟩ := mem_map.mp hx
  exact div_nonneg (h source) (Nat.cast_nonneg _)

theorem share_le_round (h0 : 0 ≤ damping) {scores : String → Rat} (h : ∀ path, 0 ≤ scores path)
    (path : String) : 1 - damping ≤ g.round damping scores path := by
  rw [round_eq]
  have := mul_nonneg h0 (received_nonneg (g := g) h path)
  linarith

theorem scoreAfter_nonneg (h0 : 0 ≤ damping) (h1 : damping ≤ 1) (rounds : Nat) (path : String) :
    0 ≤ g.scoreAfter damping rounds path := by
  induction rounds generalizing path with
  | zero =>
    rw [scoreAfter_zero]
    exact zero_le_one
  | succ rounds ih =>
    rw [scoreAfter_succ]
    exact (sub_nonneg.mpr h1).trans (share_le_round h0 ih path)

/-! ## The sum of all scores -/

theorem total_const (g : Graph Rat) (x : Rat) : g.total (fun _ => x) = x * g.size := by
  rw [total, map_const', sum_replicate, nsmul_eq_mul, paths, length_map, size, mul_comm]

theorem total_scoreAfter_zero (g : Graph Rat) (damping : Rat) :
    g.total (g.scoreAfter damping 0) = g.size := by
  have hone : g.scoreAfter damping 0 = fun _ => 1 := funext (scoreAfter_zero g damping)
  rw [hone, total_const, one_mul]

theorem sum_importing_le {scores : String → Rat} (h : ∀ path, 0 ≤ scores path) :
    (g.importing.map scores).sum ≤ g.total scores := by
  apply Sublist.sum_le_sum (filter_sublist.map scores)
  intro x hx
  obtain ⟨path, _, rfl⟩ := mem_map.mp hx
  exact h path

theorem Records.total_round (h : g.Records edges edges) (damping : Rat)
    (scores : String → Rat) :
    g.total (g.round damping scores) =
      (1 - damping) * g.size + damping * (g.importing.map scores).sum := by
  have hround : g.round damping scores =
      fun path => (1 - damping) + damping * g.received scores path :=
    funext (round_eq g damping scores)
  have hsplit : g.total (fun path => (1 - damping) + damping * g.received scores path) =
      g.total (fun _ => 1 - damping) + damping * g.total (g.received scores) := by
    rw [total, sum_map_add, sum_map_mul_left]
    rfl
  rw [hround, hsplit, total_const, h.total_received]

theorem Records.total_scoreAfter_le (h : g.Records edges edges) (h0 : 0 ≤ damping)
    (h1 : damping ≤ 1) (rounds : Nat) : g.total (g.scoreAfter damping rounds) ≤ g.size := by
  induction rounds with
  | zero => exact (total_scoreAfter_zero g damping).le
  | succ rounds ih =>
    have hsum := sum_importing_le (g := g) (scoreAfter_nonneg (g := g) h0 h1 rounds)
    calc
      g.total (g.scoreAfter damping (rounds + 1)) =
          (1 - damping) * g.size +
            damping * (g.importing.map (g.scoreAfter damping rounds)).sum := by
        rw [scoreAfter_succ, h.total_round]
      _ ≤ (1 - damping) * g.size + damping * g.size := by
        have := mul_le_mul_of_nonneg_left (hsum.trans ih) h0
        linarith
      _ = g.size := by ring

theorem Records.total_scoreAfter_eq (h : g.Records edges edges)
    (hall : ∀ path ∈ g.paths, 0 < g.outDegree path) (damping : Rat) (rounds : Nat) :
    g.total (g.scoreAfter damping rounds) = g.size := by
  have himporting : g.importing = g.paths :=
    filter_eq_self.mpr fun path hp => decide_eq_true (hall path hp)
  induction rounds with
  | zero => exact total_scoreAfter_zero g damping
  | succ rounds ih =>
    rw [scoreAfter_succ, h.total_round, himporting]
    change _ + damping * g.total _ = _
    rw [ih]
    ring

/-- What becomes of the sum of all scores from round to round: it is the fixed shares and the
damped scores of the nodes that import something. -/
structure MassLaw (g : Graph Rat) (damping : Rat) (C : Nat → String → Rat) : Prop where
  start : ∀ path ∈ g.paths, C 0 path = 1
  step : ∀ rounds, g.total (C (rounds + 1)) =
    (1 - damping) * g.size + damping * (g.importing.map (C rounds)).sum
  total_le : ∀ rounds, g.total (C rounds) ≤ g.size
  share_le : ∀ rounds, ∀ path ∈ g.paths, 1 - damping ≤ C (rounds + 1) path
  total_eq : (∀ path ∈ g.paths, 0 < g.outDegree path) → ∀ rounds, g.total (C rounds) = g.size

/-- The centralities of every batch keep the mass law. -/
theorem centralities_massLaw (score : Rat) (files : List (String × List String))
    (h0 : 0 ≤ damping) (h1 : damping ≤ 1) :
    ∃ C, (ofImports score files).Centralities damping C ∧
      (ofImports score files).MassLaw damping C := by
  have h := ofImports_records score files
  refine ⟨_, h.centralities damping, ?_, ?_, ?_, ?_, ?_⟩
  · intro path _
    exact scoreAfter_zero _ _ path
  · intro rounds
    rw [scoreAfter_succ]
    exact h.total_round damping _
  · exact h.total_scoreAfter_le h0 h1
  · intro rounds path _
    rw [scoreAfter_succ]
    exact share_le_round h0 (scoreAfter_nonneg h0 h1 rounds) path
  · intro hall
    exact h.total_scoreAfter_eq hall damping

/-- Two files that import each other, one of them twice and itself as well. -/
def knot : List (String × List String) :=
  [("a.ts", ["./b"]), ("b.ts", ["./a", "./b", "./a"])]

theorem centralities_massLaw_knot :
    (0 : Rat) ≤ 17 / 20 ∧ (17 / 20 : Rat) ≤ 1 ∧
      ∃ C, (ofImports (0 : Rat) knot).Centralities (17 / 20) C ∧
        ∀ rounds, (ofImports 0 knot).total (C rounds) = 2 := by
  have h0 : (0 : Rat) ≤ 17 / 20 := by norm_num
  have h1 : (17 / 20 : Rat) ≤ 1 := by norm_num
  obtain ⟨C, hC, hmass⟩ := centralities_massLaw 0 knot h0 h1
  have hall : ∀ path ∈ (ofImports (0 : Rat) knot).paths,
      0 < (ofImports (0 : Rat) knot).outDegree path := by decide +kernel
  have hsize : (ofImports (0 : Rat) knot).size = 2 := by decide +kernel
  refine ⟨h0, h1, C, hC, ?_⟩
  intro rounds
  rw [hmass.total_eq hall, hsize]
  norm_num

end SourceDigest.Graph
