import Mathlib.Algebra.BigOperators.Ring.List
import Mathlib.Algebra.Order.BigOperators.Group.List
import Mathlib.Data.Rat.Defs
import Mathlib.Tactic.FieldSimp
import Mathlib.Tactic.NormNum.OfScientific
import Mathlib.Tactic.Ring
import SourceDigest.Proofs.Graph.Rounds

/-! Rounds without rounding. A node receives from each of its importers the importer's score
divided by its out-degree; summed over all nodes this is the score of every node that imports
something, once. -/

namespace SourceDigest.Graph

open List

variable {g : Graph Rat} {edges : List (String × String)}

def total (g : Graph Rat) (scores : String → Rat) : Rat :=
  (g.paths.map scores).sum

def received (g : Graph Rat) (scores : String → Rat) (path : String) : Rat :=
  ((g.importers path).map fun source => scores source / g.outDegree source).sum

theorem one_rat : (1.0 : Rat) = 1 := by
  norm_num

theorem ofNat_rat (n : Nat) : (Scalar.ofNat n : Rat) = n :=
  Int.cast_natCast n

theorem foldl_share (sources : List String) (damping score : Rat) (f : String → Rat) :
    sources.foldl (fun score source => score + damping * f source) score =
      score + damping * (sources.map f).sum := by
  induction sources generalizing score with
  | nil => simp
  | cons source sources ih =>
    rw [foldl_cons, ih, map_cons, sum_cons]
    ring

theorem round_eq (g : Graph Rat) (damping : Rat) (scores : String → Rat) (path : String) :
    g.round damping scores path = (1 - damping) + damping * g.received scores path := by
  rw [round, one_rat]
  simp only [ofNat_rat]
  exact foldl_share _ _ _ _

theorem scoreAfter_zero (g : Graph Rat) (damping : Rat) (path : String) :
    g.scoreAfter damping 0 path = 1 :=
  one_rat

/-! ## What all nodes receive -/

theorem sum_filter_eq_ite (paths : List String) (p : String → Prop) [DecidablePred p]
    (f : String → Rat) :
    ((paths.filter fun path => decide (p path)).map f).sum =
      (paths.map fun path => if p path then f path else 0).sum := by
  induction paths with
  | nil => rfl
  | cons path paths ih => by_cases hp : p path <;> simp [hp, ih]

/-- Every node that imports something hands on its whole score, every other node nothing. -/
theorem Records.total_received (h : g.Records edges edges) (scores : String → Rat) :
    g.total (g.received scores) = (g.importing.map scores).sum := by
  have hin : ∀ path, g.received scores path =
      ((edges.filter fun e => decide (e.2 = path)).map
        fun e => scores e.1 / g.outDegree e.1).sum := by
    intro path
    rw [received, h.importers_eq, sourcesOf, map_map]
    rfl
  have hout : ∀ path, ((edges.filter fun e => decide (e.1 = path)).map
      fun e => scores e.1 / g.outDegree e.1).sum =
        if 0 < g.outDegree path then scores path else 0 := by
    intro path
    have hconst : (edges.filter fun e => decide (e.1 = path)).map
        (fun e => scores e.1 / g.outDegree e.1) =
          (edges.filter fun e => decide (e.1 = path)).map
            fun _ => scores path / g.outDegree path := by
      apply map_congr_left
      intro e he
      rw [of_decide_eq_true (mem_filter.mp he).2]
    have hlength : (edges.filter fun e => decide (e.1 = path)).length = g.outDegree path := by
      rw [h.outDegree_eq, targetsOf, length_map]
    rw [hconst, map_const', sum_replicate, hlength, nsmul_eq_mul]
    by_cases hpos : 0 < g.outDegree path
    · have hne : (g.outDegree path : Rat) ≠ 0 := by exact_mod_cast hpos.ne'
      rw [if_pos hpos]
      field_simp
    · simp [Nat.eq_zero_of_not_pos hpos]
  calc
    g.total (g.received scores) =
        (edges.map fun e => scores e.1 / g.outDegree e.1).sum := by
      rw [total, map_congr_left fun path _ => hin path]
      exact sum_filter_ends h.nodup _ edges h.targets _
    _ = (g.paths.map fun path => if 0 < g.outDegree path then scores path else 0).sum := by
      simp only [← hout]
      exact (sum_filter_ends h.nodup _ edges h.sources _).symm
    _ = _ := (sum_filter_eq_ite g.paths _ scores).symm

end SourceDigest.Graph
