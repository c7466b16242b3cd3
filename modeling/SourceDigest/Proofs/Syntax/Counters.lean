import Mathlib.Algebra.BigOperators.Group.List.Basic
import Mathlib.Tactic.Linarith
import SourceDigest.Proofs.Number.Whole
import SourceDigest.Proofs.Syntax.Order

/-! Counters of a walk. Every visit adds at most one to one of the counts and at most two points of
complexity, a method is counted where a function is, and an import string where an import is; so
the counters of a tree bound each other and are bounded by the number of its named nodes. A tree
is taken for generated if none of its nodes shows code. -/

namespace SourceDigest.Syntax

open List

variable {α : Type} [Scalar α]

/-! ## Kinds of nodes -/

/-- The kinds that have a role, as grammars name them. -/
def Role.kinds : Role → List String
  | importing => ["import_statement"]
  | exporting => ["export_statement"]
  | function => ["function_declaration", "generator_function_declaration", "function_expression",
      "generator_function", "arrow_function", "method_definition"]
  | classLike => ["class_declaration", "abstract_class_declaration", "class"]
  | interface => ["interface_declaration"]
  | typeAlias => ["type_alias_declaration"]
  | branch => ["if_statement", "switch_statement", "ternary_expression"]
  | operation => ["binary_expression"]
  | loop => ["for_statement", "for_in_statement", "while_statement", "do_statement"]
  | attempt => ["try_statement"]

/-- No kind has two roles, so that it does not matter which one is looked for first. -/
theorem Role.ofKind?_eq_some_iff {kind : String} {role : Role} :
    Role.ofKind? kind = some role ↔ kind ∈ role.kinds := by
  constructor
  · intro h
    unfold Role.ofKind? at h
    split_ifs at h <;> cases h <;> assumption
  · revert kind
    cases role <;> decide

theorem isLogical_iff {kind : String} : isLogical kind = true ↔ kind ∈ ["&&", "||", "??"] :=
  decide_eq_true_iff

/-- Whether a node shows that there is code: a function, a class, an export, a branch, a loop or an
attempt by its kind, an operation by its operator. -/
def ShowsCode (node : Node) : Prop :=
  (∃ role ∈ [Role.function, .classLike, .exporting, .branch, .loop, .attempt],
    node.kind ∈ role.kinds) ∨
  node.kind ∈ Role.operation.kinds ∧
    ∃ operator, node.child? "operator" = some operator ∧ operator.kind ∈ ["&&", "||", "??"]

/-! ## One node -/

variable (node : Node) (parent : Option Node) (role : Role)

theorem countOf_nonneg : 0 ≤ countOf role node := by
  unfold countOf
  split <;> decide

theorem publicOf_nonneg : 0 ≤ publicOf parent node := by
  unfold publicOf
  split <;> decide

theorem publicOf_le : publicOf parent node ≤ countOf .function node := by
  unfold publicOf countOf
  split
  · rename_i hpublic
    rw [if_pos hpublic.1]
  · split <;> decide

theorem length_importOf_le : ((importOf node).length : Int) ≤ countOf .importing node := by
  unfold importOf countOf
  split
  · cases importSource? node with
    | none => decide
    | some source => cases h : (unquoted source.text).isEmpty <;> simp [h]
  · decide

theorem counts_le_one (typed : Bool) :
    countOf .importing node + countOf .exporting node + countOf .function node +
      countOf .classLike node + (if typed then countOf .interface node else 0) +
      (if typed then countOf .typeAlias node else 0) ≤ 1 := by
  unfold countOf
  cases Role.ofKind? node.kind with
  | none => cases typed <;> decide
  | some role => cases role <;> cases typed <;> decide

/-- Points of complexity come one by one or in pairs. -/
theorem mem_pointsOf {points : Int} (h : points ∈ pointsOf node) : points = 1 ∨ points = 2 := by
  unfold pointsOf at h
  split at h
  · simp_all
  · simp_all
  · split at h <;> simp_all
  · simp_all
  · split at h <;> simp_all
  · cases h

theorem sum_pointsOf_le : (pointsOf node).sum ≤ 2 := by
  unfold pointsOf
  split
  · decide
  · decide
  · split <;> decide
  · decide
  · split <;> decide
  · decide

theorem countOf_function_le : countOf .function node ≤ (pointsOf node).sum := by
  unfold countOf pointsOf
  cases Role.ofKind? node.kind with
  | none => simp
  | some role =>
    cases role <;> simp
    · split <;> decide
    · split <;> decide

theorem not_showsCode_iff : ¬ShowsCode node ↔
    countOf .function node = 0 ∧ countOf .classLike node = 0 ∧ countOf .exporting node = 0 ∧
      (pointsOf node).sum = 0 := by
  simp only [ShowsCode, ← Role.ofKind?_eq_some_iff, ← isLogical_iff]
  unfold countOf pointsOf
  cases Role.ofKind? node.kind with
  | none => simp
  | some role =>
    cases role with
    | operation =>
      cases hoperator : node.child? "operator" with
      | none => simp
      | some operator => by_cases hlogical : isLogical operator.kind = true <;> simp [hlogical]
    | attempt => by_cases hhandler : (node.child? "handler").isSome = true <;> simp [hhandler]
    | _ => simp

/-! ## One visit after another -/

/-- All points of complexity of some visits, in the order in which they are added. -/
def pointsAt (seen : List Pending) : List Int :=
  seen.flatMap fun p => pointsOf p.1

/-- How the counts go together after the visits `seen`, whatever complexity is counted in. -/
structure CountBounds (seen : List Pending) (m : Metrics α) : Prop where
  publicMethods_le : m.publicMethods ≤ m.functionCount
  dependencies_le : (m.dependencies.length : Int) ≤ m.importCount
  counts_le : m.importCount + m.exportCount + m.functionCount + m.classCount +
    m.interfaceCount + m.typeCount ≤ seen.length

/-- What every visit preserves. The points stand for the complexity: of them alone it is known that
nothing is lost in a sum. -/
structure Tallied (seen : List Pending) (m : Metrics α) : Prop extends CountBounds seen m where
  exportCount_nonneg : 0 ≤ m.exportCount
  classCount_nonneg : 0 ≤ m.classCount
  publicMethods_nonneg : 0 ≤ m.publicMethods
  functionCount_le : m.functionCount ≤ (pointsAt seen).sum
  points_le : (pointsAt seen).sum ≤ 2 * seen.length
  nothing_iff : (m.functionCount = 0 ∧ m.classCount = 0 ∧ m.exportCount = 0 ∧
    (pointsAt seen).sum = 0) ↔ ∀ p ∈ seen, ¬ShowsCode p.1

variable {seen : List Pending} {m : Metrics α}

theorem tallied_fresh (m : Metrics α) : Tallied [] m.fresh := by
  constructor
  · constructor <;> simp [Metrics.fresh, Metrics.empty]
  all_goals simp [Metrics.fresh, Metrics.empty, pointsAt]

theorem sum_pointsAt_concat (seen : List Pending) :
    (pointsAt (seen ++ [(node, parent)])).sum = (pointsAt seen).sum + (pointsOf node).sum := by
  simp [pointsAt]

/-- What a node adds to one side of a bound it adds to the other. -/
theorem CountBounds.visit (h : CountBounds seen m) (typed : Bool) (p : Pending) :
    CountBounds (seen ++ [p]) (visit typed p.2 p.1 m) := by
  rw [visit_eq]
  constructor
  · exact add_le_add h.publicMethods_le (publicOf_le p.1 p.2)
  · rw [length_append, Int.natCast_add]
    exact add_le_add h.dependencies_le (length_importOf_le p.1)
  · have hone := counts_le_one p.1 typed
    have hseen := h.counts_le
    simp only [length_append, length_singleton]
    omega

theorem Tallied.visit (h : Tallied seen m) (typed : Bool) (p : Pending) :
    Tallied (seen ++ [p]) (visit typed p.2 p.1 m) := by
  have hcounts := h.toCountBounds.visit typed p
  obtain ⟨node, parent⟩ := p
  have hsum := sum_pointsAt_concat node parent seen
  have hfunction := countOf_function_le node
  rw [visit_eq] at hcounts ⊢
  refine ⟨hcounts, ?_, ?_, ?_, ?_, ?_, ?_⟩
  · exact add_nonneg h.exportCount_nonneg (countOf_nonneg node .exporting)
  · exact add_nonneg h.classCount_nonneg (countOf_nonneg node .classLike)
  · exact add_nonneg h.publicMethods_nonneg (publicOf_nonneg node parent)
  · rw [hsum]
    exact add_le_add h.functionCount_le hfunction
  · have hpoints := sum_pointsOf_le node
    have hseen := h.points_le
    rw [hsum, length_append, length_singleton]
    omega
  · -- No count goes down, so all are zero at the end only if nothing was added to zero.
    have hfunctions := h.publicMethods_nonneg.trans h.publicMethods_le
    have hnode := countOf_nonneg node .function
    rw [hsum, forall_mem_append, ← h.nothing_iff, forall_mem_singleton, not_showsCode_iff,
      add_eq_zero_iff_of_nonneg hfunctions hnode,
      add_eq_zero_iff_of_nonneg h.classCount_nonneg (countOf_nonneg node .classLike),
      add_eq_zero_iff_of_nonneg h.exportCount_nonneg (countOf_nonneg node .exporting),
      add_eq_zero_iff_of_nonneg (hfunctions.trans h.functionCount_le) (hnode.trans hfunction)]
    tauto

theorem Tallied.foldl_visit (h : Tallied seen m) (typed : Bool) (visits : List Pending) :
    Tallied (seen ++ visits) (visits.foldl (fun m p => Syntax.visit typed p.2 p.1 m) m) := by
  induction visits generalizing seen m with
  | nil => simpa using h
  | cons p visits ih => simpa using ih (h.visit typed p)

theorem tallied_walk (typed : Bool) (root : Node) (m : Metrics α) :
    Tallied (visits root) (walk typed root m.fresh) := by
  rw [walk_eq_foldl]
  exact (tallied_fresh m).foldl_visit typed (visits root)

/-! ## Complexity -/

theorem complexity_foldl_visit (typed : Bool) (visits : List Pending) (m : Metrics α) :
    (visits.foldl (fun m p => visit typed p.2 p.1 m) m).complexity =
      (pointsAt visits).foldl (fun sum point => sum + Scalar.ofInt point) m.complexity := by
  induction visits generalizing m with
  | nil => rfl
  | cons p visits ih =>
    rw [foldl_cons, ih, visit_eq]
    simp only [pointsAt, flatMap_cons, foldl_append]

theorem complexity_walk (typed : Bool) (root : Node) (m : Metrics α) :
    (walk typed root m.fresh).complexity =
      (pointsAt (visits root)).foldl (fun sum point => sum + Scalar.ofInt point) 0.0 := by
  rw [walk_eq_foldl, complexity_foldl_visit]
  rfl

theorem foldl_points_rat (points : List Int) (start : Rat) :
    points.foldl (fun sum point => sum + Scalar.ofInt point) start = start + points.sum := by
  induction points generalizing start with
  | nil => simp
  | cons point points ih =>
    rw [foldl_cons, ih, sum_cons, Int.cast_add, ← add_assoc]
    rfl

theorem zero_literal : (0.0 : Rat) = 0 := by
  decide +kernel

theorem complexity_walk_rat (typed : Bool) (root : Node) (m : Metrics Rat) :
    (walk typed root m.fresh).complexity = (pointsAt (visits root)).sum := by
  rw [complexity_walk, foldl_points_rat, zero_literal, zero_add]

/-- The sum of the points is exact in doubles where it is a double of its own. -/
theorem complexity_walk_float (typed : Bool) (root : Node) (m : Metrics Float) {points : Nat}
    (hpoints : (pointsAt (visits root)).sum = points) (h : points < 2 ^ 53) :
    (walk typed root m.fresh).complexity = Whole.toFloat points := by
  rw [complexity_walk]
  apply Whole.foldl_points (a := 0)
  · intro point hmem
    obtain ⟨p, -, hp⟩ := mem_flatMap.mp hmem
    exact mem_pointsOf p.1 hp
  · simpa using hpoints
  · exact h

/-! ## A whole walk -/

/-- How the counters of a tree go together, with the complexity as an exact number, and what it
takes to be taken for generated. -/
structure CounterRelations (root : Node) (result : Metrics α) (complexity : Rat) : Prop
    extends CountBounds (visits root) result where
  functionCount_le : (result.functionCount : Rat) ≤ complexity
  complexity_le : complexity ≤ 2 * (visits root).length
  isGenerated_iff : result.isGenerated = true ↔ ∀ p ∈ visits root, ¬ShowsCode p.1

/-- Counts that go together with the points do so with a complexity that is their sum. -/
theorem Tallied.counters {root : Node} (h : Tallied (visits root) m)
    (hzero : (m.complexity == (0.0 : α)) = true ↔ (pointsAt (visits root)).sum = 0) :
    CounterRelations root m ((pointsAt (visits root)).sum : Rat) where
  toCountBounds := h.toCountBounds
  functionCount_le := by exact_mod_cast h.functionCount_le
  complexity_le := by exact_mod_cast h.points_le
  isGenerated_iff := by
    rw [← h.nothing_iff, ← hzero]
    simp [Metrics.isGenerated, and_assoc]

/-- Every walk from empty metrics leaves counters that go together: with exact numbers for every
tree, and with doubles too as long as no sum can leave the whole numbers that are doubles. -/
theorem walk_counters (typed : Bool) (root : Node) :
    (∀ m : Metrics Rat,
      CounterRelations root (walk typed root m.fresh) (walk typed root m.fresh).complexity) ∧
    ∀ m : Metrics Float, CountBounds (visits root) (walk typed root m.fresh) ∧
      ((visits root).length < 2 ^ 52 → ∃ complexity : Rat,
        (Binary.ofFloat (walk typed root m.fresh).complexity).toRat? = some complexity ∧
        CounterRelations root (walk typed root m.fresh) complexity) := by
  constructor
  · intro m
    have hsum := complexity_walk_rat typed root m
    rw [hsum]
    apply (tallied_walk typed root m).counters
    rw [hsum, zero_literal, beq_iff_eq, Int.cast_eq_zero]
  · intro m
    have htallied := tallied_walk typed root m
    refine ⟨htallied.toCountBounds, fun hlength => ?_⟩
    have hfunctions := htallied.publicMethods_nonneg.trans htallied.publicMethods_le
    obtain ⟨points, hpoints⟩ := Int.eq_ofNat_of_zero_le
      (hfunctions.trans htallied.functionCount_le)
    have hbound : points < 2 ^ 53 := by
      have hle := htallied.points_le
      omega
    have hsum := complexity_walk_float typed root m hpoints hbound
    have hcounters := htallied.counters (by
      rw [hsum, Whole.beq_zero_iff hbound, hpoints, Int.natCast_eq_zero])
    rw [hpoints, Int.cast_natCast] at hcounters
    refine ⟨points, ?_, hcounters⟩
    rw [hsum, Whole.toRat?_ofFloat hbound]

/-- A class with a method that branches. -/
def shape : Node :=
  .mk "class_declaration" true none ""
    [.mk "class" false none "class" [],
     .mk "type_identifier" true (some "name") "Shape" [],
     .mk "class_body" true (some "body") ""
      [.mk "method_definition" true none ""
        [.mk "property_identifier" true (some "name") "area" [],
         .mk "if_statement" true none "" []]]]

theorem walk_counters_shape : (visits shape).length = 6 ∧ ∃ complexity : Rat,
    (Binary.ofFloat (walk true shape (Metrics.empty : Metrics Float).fresh).complexity).toRat? =
      some complexity ∧
    CounterRelations shape (walk true shape (Metrics.empty : Metrics Float).fresh) complexity := by
  have hlength : (visits shape).length = 6 := by decide
  have hbound : (visits shape).length < 2 ^ 52 := by
    rw [hlength]
    decide
  exact ⟨hlength, ((walk_counters true shape).2 Metrics.empty).2 hbound⟩

end SourceDigest.Syntax
