import Mathlib.Algebra.Order.BigOperators.Group.List
import SourceDigest.Proofs.Graph.Mass

/-! A round brings two score assignments closer: the sum of their distances over all nodes
shrinks at least by the damping. Two runs of different length therefore differ by no more than
a power of the damping. -/

namespace SourceDigest.Graph

open List

variable {g : Graph Rat} {edges : List (String × String)} {damping : Rat}

/-- The sum over all nodes of how far two scores are apart. -/
def distance (g : Graph Rat) (scores others : String → Rat) : Rat :=
  g.total fun path => |scores path - others path|

theorem received_sub (g : Graph Rat) (scores others : String → Rat) (path : String) :
    g.received scores path - g.received others path =
      g.received (fun source => scores source - others source) path := by
  rw [sub_eq_iff_eq_add]
  simp only [received]
  rw [← sum_map_add]
  simp only [← add_div, sub_add_cancel]

theorem abs_received_le (g : Graph Rat) (scores : String → Rat) (path : String) :
    |g.received scores path| ≤ g.received (fun source => |scores source|) path := by
  have habs : ∀ source, |scores source / (g.outDegree source : Rat)| =
      |scores source| / g.outDegree source := by
    intro source
    rw [abs_div, Nat.abs_cast]
  simp only [received, ← habs]
  induction g.importers path with
  | nil => simp
  | cons source sources ih =>
    rw [map_cons, map_cons, sum_cons, sum_cons]
    exact (abs_add_le _ _).trans (add_le_add_right ih _)

theorem Records.distance_round_le (h : g.Records edges edges) (h0 : 0 ≤ damping)
    (scores others : String → Rat) :
    g.distance (g.round damping scores) (g.round damping others) ≤
      damping * g.distance scores others := by
  let gap : String → Rat := fun path => |scores path - others path|
  have hgap : ∀ path, 0 ≤ gap path := fun path => abs_nonneg _
  have hnode : ∀ path ∈ g.paths,
      |g.round damping scores path - g.round damping others path| ≤
        damping * g.received gap path := by
    intro path _
    have hfactor : g.round damping scores path - g.round damping others path =
        damping * (g.received scores path - g.received others path) := by
      rw [round_eq, round_eq]
      ring
    rw [hfactor, abs_mul, abs_of_nonneg h0, received_sub]
    exact mul_le_mul_of_nonneg_left (abs_received_le g _ path) h0
  calc
    g.distance (g.round damping scores) (g.round damping others) ≤
        (g.paths.map fun path => damping * g.received gap path).sum := sum_le_sum hnode
    _ = damping * (g.importing.map gap).sum := by
      rw [sum_map_mul_left, ← h.total_received]
      rfl
    _ ≤ damping * g.distance scores others :=
      mul_le_mul_of_nonneg_left (sum_importing_le hgap) h0

theorem Records.distance_iterate_le (h : g.Records edges edges) (h0 : 0 ≤ damping)
    (rounds : Nat) (scores others : String → Rat) :
    g.distance ((g.round damping)^[rounds] scores) ((g.round damping)^[rounds] others) ≤
      damping ^ rounds * g.distance scores others := by
  induction rounds with
  | zero => simp
  | succ rounds ih =>
    rw [Function.iterate_succ_apply', Function.iterate_succ_apply', pow_succ']
    calc
      _ ≤ damping * g.distance ((g.round damping)^[rounds] scores)
          ((g.round damping)^[rounds] others) := h.distance_round_le h0 _ _
      _ ≤ damping * (damping ^ rounds * g.distance scores others) :=
        mul_le_mul_of_nonneg_left ih h0
      _ = _ := by ring

theorem distance_le_add {scores others : String → Rat} (h : ∀ path, 0 ≤ scores path)
    (hothers : ∀ path, 0 ≤ others path) :
    g.distance scores others ≤ g.total scores + g.total others := by
  have hnode : ∀ path ∈ g.paths, |scores path - others path| ≤ scores path + others path := by
    intro path _
    have hs := h path
    have ho := hothers path
    exact abs_le.mpr ⟨by linarith, by linarith⟩
  calc
    g.distance scores others ≤ (g.paths.map fun path => scores path + others path).sum :=
      sum_le_sum hnode
    _ = g.total scores + g.total others := by
      rw [sum_map_add]
      rfl

/-- The first round count is shared: both runs apply it to what the longer run has done before
and to the scores that all nodes start with. -/
theorem Records.distance_scoreAfter_le (h : g.Records edges edges) (h0 : 0 ≤ damping)
    (h1 : damping ≤ 1) (rounds more : Nat) :
    g.distance (g.scoreAfter damping (rounds + more)) (g.scoreAfter damping rounds) ≤
      2 * g.size * damping ^ rounds := by
  have hmore : g.scoreAfter damping (rounds + more) =
      (g.round damping)^[rounds] (g.scoreAfter damping more) :=
    Function.iterate_add_apply _ _ _ _
  have hstart : g.distance (g.scoreAfter damping more) (g.scoreAfter damping 0) ≤
      2 * g.size := by
    have hadd := distance_le_add (g := g) (scoreAfter_nonneg (g := g) h0 h1 more)
      (scoreAfter_nonneg (g := g) h0 h1 0)
    have hm := h.total_scoreAfter_le h0 h1 more
    have hz := h.total_scoreAfter_le h0 h1 0
    linarith
  calc
    g.distance (g.scoreAfter damping (rounds + more)) (g.scoreAfter damping rounds) ≤
        damping ^ rounds * g.distance (g.scoreAfter damping more) (g.scoreAfter damping 0) := by
      rw [hmore]
      exact h.distance_iterate_le h0 rounds _ _
    _ ≤ damping ^ rounds * (2 * g.size) :=
      mul_le_mul_of_nonneg_left hstart (pow_nonneg h0 rounds)
    _ = 2 * g.size * damping ^ rounds := by ring

/-- A fixed number of rounds is as close to every longer run as a power of the damping. -/
theorem centralities_geometric (score : Rat) (files : List (String × List String))
    (h0 : 0 ≤ damping) (h1 : damping ≤ 1) :
    ∃ C, (ofImports score files).Centralities damping C ∧
      (∀ path ∈ (ofImports score files).paths, C 0 path = 1) ∧
      ∀ rounds more,
        ((ofImports score files).paths.map fun path =>
          |C (rounds + more) path - C rounds path|).sum ≤
            2 * (ofImports score files).size * damping ^ rounds := by
  have h := ofImports_records score files
  refine ⟨_, h.centralities damping, ?_, ?_⟩
  · intro path _
    exact scoreAfter_zero _ _ path
  · exact h.distance_scoreAfter_le h0 h1

/-- The usual ten rounds on the knot are within eight tenths of every longer run. -/
theorem centralities_geometric_knot :
    (0 : Rat) ≤ 17 / 20 ∧ (17 / 20 : Rat) ≤ 1 ∧
      ∃ C, (ofImports (0 : Rat) knot).Centralities (17 / 20) C ∧
        ∀ more, ((ofImports (0 : Rat) knot).paths.map fun path =>
          |C (10 + more) path - C 10 path|).sum ≤ 4 / 5 := by
  have h0 : (0 : Rat) ≤ 17 / 20 := by norm_num
  have h1 : (17 / 20 : Rat) ≤ 1 := by norm_num
  obtain ⟨C, hC, _, hnear⟩ := centralities_geometric 0 knot h0 h1
  have hsize : (ofImports (0 : Rat) knot).size = 2 := by decide +kernel
  refine ⟨h0, h1, C, hC, ?_⟩
  intro more
  have hmore := hnear 10 more
  rw [hsize] at hmore
  exact hmore.trans (by norm_num)

end SourceDigest.Graph
