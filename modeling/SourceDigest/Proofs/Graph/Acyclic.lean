import Mathlib.Data.Set.Finite.List
import Mathlib.Logic.Relation
import Mathlib.Order.Lattice.Nat
import Mathlib.Order.WellFoundedSet
import SourceDigest.Proofs.Graph.Mass

/-! Graphs without import cycles. Every node has a longest chain of importers, and a score is
final one round after all scores that it is computed from: after as many rounds as that chain
has nodes. The final scores solve the equation that a round applies. -/

namespace SourceDigest.Graph

open List

variable {α : Type} {g : Graph α} {edges : List (String × String)}

/-! ## Chains of importers -/

def Imports (g : Graph α) (source path : String) : Prop :=
  ∃ links, g.find? source = some links ∧ path ∈ links.dependencies

/-- A chain of imports that ends in a node, with the number of its edges. -/
inductive ImportChain (g : Graph α) : Nat → String → Prop where
  | start {path} (h : path ∈ g.paths) : ImportChain g 0 path
  | extend {length source path} : ImportChain g length source → g.Imports source path →
      ImportChain g (length + 1) path

/-- The longest chain that ends in a node has this number of edges. -/
structure Depth (g : Graph α) (path : String) (length : Nat) : Prop where
  chain : g.ImportChain length path
  longest : ∀ other, g.ImportChain other path → other ≤ length

theorem Depth.unique {path : String} {length other : Nat} (h : g.Depth path length)
    (hother : g.Depth path other) : length = other :=
  le_antisymm (hother.longest length h.chain) (h.longest other hother.chain)

theorem Records.imports_iff (h : g.Records edges edges) {source path : String} :
    g.Imports source path ↔ (source, path) ∈ edges := by
  constructor
  · rintro ⟨links, hlinks, hm⟩
    have hnode := (Keyed.lookup_eq_some_iff h.nodup).mp hlinks
    rw [h.dependencies _ hnode] at hm
    exact mem_targetsOf.mp hm
  · intro hm
    obtain ⟨node, hnode, hsource⟩ := exists_node (h.sources _ hm)
    refine ⟨node.2, ?_, ?_⟩
    · rw [← show node.1 = source from hsource]
      exact find?_of_mem h.nodup hnode
    · rw [h.dependencies node hnode, hsource]
      exact mem_targetsOf.mpr hm

theorem Records.mem_importers_iff (h : g.Records edges edges) {source path : String} :
    source ∈ g.importers path ↔ g.Imports source path := by
  rw [h.mem_importers, h.imports_iff]

theorem Records.mem_paths_of_chain (h : g.Records edges edges) {length : Nat} {path : String}
    (hchain : g.ImportChain length path) : path ∈ g.paths := by
  cases hchain with
  | start hp => exact hp
  | extend _ himports => exact h.targets _ (h.imports_iff.mp himports)

/-- Chains that end in an importer are shorter than those they can be extended to. -/
theorem Records.chain_importer_le (h : g.Records edges edges) {source path : String}
    {length : Nat} (hpath : ∀ other, g.ImportChain other path → other ≤ length + 1)
    (hs : source ∈ g.importers path) :
    ∀ other, g.ImportChain other source → other ≤ length := by
  intro other hother
  have := hpath _ (.extend hother (h.mem_importers_iff.mp hs))
  omega

/-- A number that every import raises rules out cycles. -/
theorem Records.not_transGen_self (h : g.Records edges edges) (rank : String → Nat)
    (hrank : ∀ e ∈ edges, rank e.1 < rank e.2) (path : String) :
    ¬ Relation.TransGen g.Imports path path := by
  have hlt : ∀ source target, Relation.TransGen g.Imports source target →
      rank source < rank target := by
    intro source target hchain
    induction hchain with
    | single himports => exact hrank _ (h.imports_iff.mp himports)
    | tail _ himports ih => exact ih.trans (hrank _ (h.imports_iff.mp himports))
  intro hcycle
  exact (hlt path path hcycle).false

theorem Records.chain_le_rank (h : g.Records edges edges) (rank : String → Nat)
    (hrank : ∀ e ∈ edges, rank e.1 < rank e.2) {length : Nat} {path : String}
    (hchain : g.ImportChain length path) : length ≤ rank path := by
  induction hchain with
  | start _ => exact Nat.zero_le _
  | extend _ himports ih => exact ih.trans_lt (hrank _ (h.imports_iff.mp himports))

/-! ## Every node has a depth -/

theorem depth_of_bounded {path : String} (hp : path ∈ g.paths) (bound : Nat)
    (h : ∀ other, g.ImportChain other path → other ≤ bound) :
    ∃ length, g.Depth path length := by
  have hne : {length | g.ImportChain length path}.Nonempty := ⟨0, .start hp⟩
  have hbdd : BddAbove {length | g.ImportChain length path} := ⟨bound, h⟩
  exact ⟨_, Nat.sSup_mem hne hbdd, fun other hother => le_csSup hbdd hother⟩

/-- Importers come before what they import, and there are finitely many nodes. -/
theorem Records.exists_depth (h : g.Records edges edges)
    (hacyclic : ∀ path, ¬ Relation.TransGen g.Imports path path) {path : String}
    (hp : path ∈ g.paths) : ∃ length, g.Depth path length := by
  have : IsStrictOrder String (Relation.TransGen g.Imports) :=
    { irrefl := hacyclic, trans := fun _ _ _ => Relation.TransGen.trans }
  have hwf : {p | p ∈ g.paths}.WellFoundedOn (Relation.TransGen g.Imports) :=
    Set.Finite.wellFoundedOn g.paths.finite_toSet
  refine hwf.induction (P := fun path => ∃ length, g.Depth path length) hp ?_
  intro path hp ih
  have hsources : ∀ source ∈ g.importers path, ∃ length, g.Depth source length :=
    fun source hs => ih source (h.mem_paths_of_mem_importers hs)
      (.single (h.mem_importers_iff.mp hs))
  choose! depth hdepth using hsources
  apply depth_of_bounded hp ((g.importers path).toFinset.sup depth + 1)
  intro other hother
  cases hother with
  | start _ => exact Nat.zero_le _
  | @extend length source _ hchain himports =>
    have hs := h.mem_importers_iff.mpr himports
    have hle : depth source ≤ (g.importers path).toFinset.sup depth :=
      Finset.le_sup (mem_toFinset.mpr hs)
    exact Nat.succ_le_succ (((hdepth source hs).longest length hchain).trans hle)

/-! ## Scores become final -/

section Final

variable [Scalar α]

/-- The starting score is forgotten one round after the last chain has been read. -/
theorem Records.scoreAfter_final (h : g.Records edges edges) (damping : α) {path : String}
    {length rounds : Nat} (hpath : ∀ other, g.ImportChain other path → other ≤ length)
    (hrounds : length + 1 ≤ rounds) :
    g.scoreAfter damping rounds path = g.scoreAfter damping (length + 1) path := by
  induction length generalizing path rounds with
  | zero =>
    obtain ⟨before, rfl⟩ : ∃ before, rounds = before + 1 := ⟨rounds - 1, by omega⟩
    rw [scoreAfter_succ, scoreAfter_succ]
    apply round_congr
    intro source hs
    have hchain := ImportChain.extend (.start (h.mem_paths_of_mem_importers hs))
      (h.mem_importers_iff.mp hs)
    have := hpath _ hchain
    omega
  | succ length ih =>
    obtain ⟨before, rfl⟩ : ∃ before, rounds = before + 1 := ⟨rounds - 1, by omega⟩
    rw [scoreAfter_succ, scoreAfter_succ]
    apply round_congr
    intro source hs
    exact ih (h.chain_importer_le hpath hs) (by omega)

/-- When a node's score is final, so are those of its importers. -/
theorem Records.scoreAfter_importer (h : g.Records edges edges) (damping : α)
    {source path : String} {length before : Nat} (hpath : g.Depth path length)
    (hsource : g.Depth source before) (hs : source ∈ g.importers path) :
    g.scoreAfter damping (length + 1) source = g.scoreAfter damping (before + 1) source := by
  have hlt := hpath.longest _ (.extend hsource.chain (h.mem_importers_iff.mp hs))
  exact h.scoreAfter_final damping hsource.longest (by omega)

end Final

theorem Records.exists_final {g : Graph Rat} (h : g.Records edges edges)
    (hacyclic : ∀ path, ¬ Relation.TransGen g.Imports path path) (damping : Rat) :
    ∃ final : String → Rat,
      (∀ path length, g.Depth path length → ∀ rounds, length + 1 ≤ rounds →
        g.scoreAfter damping rounds path = final path) ∧
      ∀ path ∈ g.paths, final path = (1 - damping) + damping * g.received final path := by
  have hdepths : ∀ path ∈ g.paths, ∃ length, g.Depth path length :=
    fun path hp => h.exists_depth hacyclic hp
  choose! depth hdepth using hdepths
  let final : String → Rat := fun path => g.scoreAfter damping (depth path + 1) path
  refine ⟨final, ?_, ?_⟩
  · intro path length hlength rounds hrounds
    obtain rfl := (hdepth path (h.mem_paths_of_chain hlength.chain)).unique hlength
    exact h.scoreAfter_final damping hlength.longest hrounds
  · intro path hp
    have hfinal : ∀ source ∈ g.importers path,
        g.scoreAfter damping (depth path + 1) source = final source := by
      intro source hs
      have hsource := hdepth source (h.mem_paths_of_mem_importers hs)
      exact h.scoreAfter_importer damping (hdepth path hp) hsource hs
    calc
      final path = g.scoreAfter damping (depth path + 1 + 1) path :=
        (h.scoreAfter_final damping (hdepth path hp).longest (Nat.le_succ _)).symm
      _ = g.round damping final path := by
        rw [scoreAfter_succ, round_congr hfinal]
      _ = (1 - damping) + damping * g.received final path := round_eq g damping final path

/-- Without import cycles every node has a longest chain of importers, its score is the same
after every number of rounds beyond that chain's length, and these scores solve the equation of
a round exactly. -/
theorem centralities_acyclic (score damping : Rat) (files : List (String × List String))
    (hacyclic : ∀ path, ¬ Relation.TransGen (ofImports score files).Imports path path) :
    ∃ C, (ofImports score files).Centralities damping C ∧
      (∀ path ∈ (ofImports score files).paths,
        ∃ length, (ofImports score files).Depth path length) ∧
      ∃ final : String → Rat,
        (∀ path length, (ofImports score files).Depth path length →
          ∀ rounds, length + 1 ≤ rounds → C rounds path = final path) ∧
        ∀ path ∈ (ofImports score files).paths,
          final path = (1 - damping) + damping *
            (((ofImports score files).importers path).map fun source =>
              final source / (ofImports score files).outDegree source).sum := by
  have h := ofImports_records score files
  exact ⟨_, h.centralities damping, fun path hp => h.exists_depth hacyclic hp,
    h.exists_final hacyclic damping⟩

/-- Three files, of which the first imports the second twice. -/
def ladder : List (String × List String) :=
  [("a.ts", ["./b", "./b", "./c"]), ("b.ts", ["./c"]), ("c.ts", ["./gone"])]

theorem centralities_acyclic_ladder :
    (∀ path, ¬ Relation.TransGen (ofImports (0 : Rat) ladder).Imports path path) ∧
      ∃ C, (ofImports (0 : Rat) ladder).Centralities (17 / 20) C ∧
        ∀ rounds, 3 ≤ rounds → C rounds "c.ts" = 1569 / 4000 := by
  have h := ofImports_records (0 : Rat) ladder
  let rank : String → Nat := fun path => if path = "a.ts" then 0 else if path = "b.ts" then 1 else 2
  have hrank : ∀ e ∈ batchEdges ladder, rank e.1 < rank e.2 := by decide +kernel
  have hacyclic := h.not_transGen_self rank hrank
  have hdepth : (ofImports (0 : Rat) ladder).Depth "c.ts" 2 := by
    have hab : (ofImports (0 : Rat) ladder).Imports "a.ts" "b.ts" :=
      h.imports_iff.mpr (by decide +kernel)
    have hbc : (ofImports (0 : Rat) ladder).Imports "b.ts" "c.ts" :=
      h.imports_iff.mpr (by decide +kernel)
    exact ⟨.extend (.extend (.start (by decide +kernel)) hab) hbc,
      fun _ hother => h.chain_le_rank rank hrank hother⟩
  obtain ⟨C, hC, _, final, hfinal, hround⟩ := centralities_acyclic 0 (17 / 20) ladder hacyclic
  have ha := hround "a.ts" (by decide +kernel)
  have hb := hround "b.ts" (by decide +kernel)
  have hc := hround "c.ts" (by decide +kernel)
  have hia : (ofImports (0 : Rat) ladder).importers "a.ts" = [] := by decide +kernel
  have hib : (ofImports (0 : Rat) ladder).importers "b.ts" = ["a.ts", "a.ts"] := by
    decide +kernel
  have hic : (ofImports (0 : Rat) ladder).importers "c.ts" = ["a.ts", "b.ts"] := by
    decide +kernel
  have hoa : (ofImports (0 : Rat) ladder).outDegree "a.ts" = 3 := by decide +kernel
  have hob : (ofImports (0 : Rat) ladder).outDegree "b.ts" = 1 := by decide +kernel
  refine ⟨hacyclic, C, hC, ?_⟩
  intro rounds hrounds
  rw [hfinal "c.ts" 2 hdepth rounds hrounds, hc, hic]
  simp only [map_cons, map_nil, sum_cons, sum_nil, hoa, hob, hb, hib, ha, hia]
  norm_num

end SourceDigest.Graph
