import Mathlib.Data.List.Basic
import Mathlib.Logic.Function.Iterate
import SourceDigest.Syntax.Walk

/-! Document order. The stack of a walk always holds what is left of the document order of the
tree, so that the turns of the walk visit the nodes in that order, one in each turn, and no turn
is left when all have been visited. The result is that of the plain recursion over the tree. -/

namespace SourceDigest.Syntax

open List

variable {α : Type} [Scalar α]

/-! ## Document order -/

mutual

/-- A node and all below it, each with its parent. A node comes before its children, and the
children come from left to right. -/
def inOrder (parent : Option Node) : Node → List Pending
  | .mk kind named field text children =>
    (.mk kind named field text children, parent) ::
      inOrderAll (some (.mk kind named field text children)) children

def inOrderAll (parent : Option Node) : List Node → List Pending
  | [] => []
  | child :: rest => inOrder parent child ++ inOrderAll parent rest

end

/-- The document order of what is on a stack. -/
def orderOf (stack : List Pending) : List Pending :=
  stack.flatMap fun pending => inOrder pending.2 pending.1

theorem inOrder_eq (parent : Option Node) (node : Node) :
    inOrder parent node = (node, parent) :: inOrderAll (some node) node.children := by
  cases node
  simp only [inOrder, Node.children]

theorem inOrderAll_eq (parent : Option Node) (nodes : List Node) :
    inOrderAll parent nodes = orderOf (nodes.map fun node => (node, parent)) := by
  induction nodes with
  | nil => simp [inOrderAll, orderOf]
  | cons node nodes ih => simp [inOrderAll, orderOf, ih, flatMap_map]

/-- The children of the top of a stack take its place. -/
theorem orderOf_cons (node : Node) (parent : Option Node) (stack : List Pending) :
    orderOf ((node, parent) :: stack) =
      (node, parent) :: orderOf (node.children.map (fun child => (child, some node)) ++ stack) := by
  rw [orderOf, flatMap_cons, inOrder_eq, inOrderAll_eq, orderOf, orderOf, flatMap_append]
  rfl

theorem orderOf_eq_nil {stack : List Pending} : orderOf stack = [] ↔ stack = [] := by
  cases stack with
  | nil => simp [orderOf]
  | cons pending stack => simp [orderOf_cons pending.1 pending.2 stack]

/-! ## Turns of a walk -/

/-- What a turn does to the metrics: anonymous nodes are passed over. -/
def visitNamed (typed : Bool) (m : Metrics α) (pending : Pending) : Metrics α :=
  if pending.1.named then visit typed pending.2 pending.1 m else m

/-- One turn: the top of the stack is visited, and its children take its place. -/
def turn (typed : Bool) : Metrics α × List Pending → Metrics α × List Pending
  | (m, []) => (m, [])
  | (m, (node, parent) :: stack) =>
    (visitNamed typed m (node, parent),
      node.children.map (fun child => (child, some node)) ++ stack)

/-- A turn visits the first node in document order and leaves the others. -/
theorem turn_spec (typed : Bool) (m : Metrics α) (stack : List Pending) :
    orderOf (turn typed (m, stack)).2 = (orderOf stack).drop 1 ∧
      (turn typed (m, stack)).1 = ((orderOf stack).take 1).foldl (visitNamed typed) m := by
  cases stack with
  | nil => simp [turn, orderOf]
  | cons pending stack =>
    obtain ⟨node, parent⟩ := pending
    simp [turn, orderOf_cons]

/-- After some turns as many nodes have been visited, and the stack holds the others. -/
theorem iterate_turn_spec (typed : Bool) (turns : Nat) (m : Metrics α) (stack : List Pending) :
    orderOf ((turn typed)^[turns] (m, stack)).2 = (orderOf stack).drop turns ∧
      ((turn typed)^[turns] (m, stack)).1 =
        ((orderOf stack).take turns).foldl (visitNamed typed) m := by
  induction turns with
  | zero => simp
  | succ turns ih =>
    obtain ⟨horder, hmetrics⟩ := ih
    have hstep := turn_spec typed ((turn typed)^[turns] (m, stack)).1
      ((turn typed)^[turns] (m, stack)).2
    rw [Function.iterate_succ_apply', hstep.1, hstep.2, horder, hmetrics]
    constructor
    · rw [drop_drop]
    · rw [take_add, foldl_append]

/-- A walk can go on after any number of turns. -/
theorem walkFrom_iterate_turn (typed : Bool) (turns : Nat) (s : Metrics α × List Pending) :
    walkFrom typed ((turn typed)^[turns] s).1 ((turn typed)^[turns] s).2 =
      walkFrom typed s.1 s.2 := by
  induction turns with
  | zero => rfl
  | succ turns ih =>
    rw [Function.iterate_succ_apply', ← ih]
    obtain ⟨m, stack⟩ := (turn typed)^[turns] s
    cases stack with
    | nil => rfl
    | cons pending stack => exact (walkFrom.eq_2 ..).symm

/-- The stack is empty after a turn for each node. -/
theorem stack_iterate_turn (typed : Bool) (m : Metrics α) (stack : List Pending) :
    ((turn typed)^[(orderOf stack).length] (m, stack)).2 = [] := by
  apply orderOf_eq_nil.mp
  rw [(iterate_turn_spec typed _ m stack).1, drop_length]

/-- A walk folds the visits over the document order of its stack. -/
theorem walkFrom_eq_foldl (typed : Bool) (m : Metrics α) (stack : List Pending) :
    walkFrom typed m stack = (orderOf stack).foldl (visitNamed typed) m := by
  have hwalk := walkFrom_iterate_turn typed (orderOf stack).length (m, stack)
  have hmetrics := (iterate_turn_spec typed (orderOf stack).length m stack).2
  rw [stack_iterate_turn, walkFrom, hmetrics, take_length] at hwalk
  exact hwalk.symm

theorem orderOf_singleton (node : Node) (parent : Option Node) :
    orderOf [(node, parent)] = inOrder parent node := by
  simp [orderOf]

/-! ## Recursion over the tree -/

mutual

/-- Visits a node and then all below it. -/
def descend (typed : Bool) (parent : Option Node) (m : Metrics α) : Node → Metrics α
  | .mk kind named field text children =>
    descendAll typed (some (.mk kind named field text children))
      (if named then visit typed parent (.mk kind named field text children) m else m) children

def descendAll (typed : Bool) (parent : Option Node) (m : Metrics α) : List Node → Metrics α
  | [] => m
  | child :: rest => descendAll typed parent (descend typed parent m child) rest

end

mutual

theorem descend_eq_foldl (typed : Bool) (parent : Option Node) (m : Metrics α) :
    ∀ node, descend typed parent m node = (inOrder parent node).foldl (visitNamed typed) m
  | .mk kind named field text children => by
    rw [descend, descendAll_eq_foldl, inOrder, foldl_cons]
    rfl

theorem descendAll_eq_foldl (typed : Bool) (parent : Option Node) (m : Metrics α) :
    ∀ nodes, descendAll typed parent m nodes =
      (inOrderAll parent nodes).foldl (visitNamed typed) m
  | [] => by simp [descendAll, inOrderAll]
  | child :: rest => by
    rw [descendAll, descend_eq_foldl, descendAll_eq_foldl, inOrderAll, foldl_append]

end

/-! ## What a visit adds -/

/-- One for a node of the role. -/
def countOf (role : Role) (node : Node) : Int :=
  if Role.ofKind? node.kind = some role then 1 else 0

def publicOf (parent : Option Node) (node : Node) : Int :=
  if Role.ofKind? node.kind = some .function ∧ node.kind = "method_definition" ∧
    isPublicMethod parent node = true then 1 else 0

/-- The points of complexity of a node, in the order in which they are added. -/
def pointsOf (node : Node) : List Int :=
  match Role.ofKind? node.kind with
  | some .function | some .branch => [1]
  | some .operation => if (node.child? "operator").any (isLogical ·.kind) then [1] else []
  | some .loop => [2]
  | some .attempt => if (node.child? "handler").isSome then [1, 1] else [1]
  | _ => []

def importOf (node : Node) : List String :=
  if Role.ofKind? node.kind = some .importing then
    ((importSource? node).map fun source => unquoted source.text).toList.filter
      fun target => !target.isEmpty
  else []

/-- The names that a node introduces where names are collected. -/
def namesOf (node : Node) : List String :=
  match Role.ofKind? node.kind with
  | some .exporting => ((node.child? "declaration").map declaredNames).getD []
  | some .classLike | some .interface | some .typeAlias => (node.childText? "name").toList
  | _ => []

/-- A visit adds to the counts, to the complexity and to both lists, and to nothing else. -/
theorem visit_eq (typed : Bool) (parent : Option Node) (node : Node) (m : Metrics α) :
    visit typed parent node m =
      { m with
        importCount := m.importCount + countOf .importing node
        exportCount := m.exportCount + countOf .exporting node
        functionCount := m.functionCount + countOf .function node
        classCount := m.classCount + countOf .classLike node
        interfaceCount := m.interfaceCount + if typed then countOf .interface node else 0
        typeCount := m.typeCount + if typed then countOf .typeAlias node else 0
        publicMethods := m.publicMethods + publicOf parent node
        complexity := (pointsOf node).foldl (· + Scalar.ofInt ·) m.complexity
        dependencies := m.dependencies ++ importOf node
        exports := m.exports ++ if typed then namesOf node else [] } := by
  unfold visit countOf publicOf pointsOf importOf namesOf
  cases hrole : Role.ofKind? node.kind with
  | none => simp
  | some role =>
    cases role with
    | importing =>
      cases hsource : importSource? node with
      | none => simp
      | some source =>
        by_cases hempty : (unquoted source.text).isEmpty <;> simp [hempty]
    | exporting =>
      cases typed with
      | false => simp
      | true => cases hdeclaration : node.child? "declaration" <;> simp
    | function =>
      by_cases hmethod : node.kind = "method_definition"
      · by_cases hpublic : isPublicMethod parent node = true <;>
          simp [hmethod, hpublic, Metrics.addComplexity]
      · simp [hmethod, Metrics.addComplexity]
    | classLike => cases typed <;> simp [addName]
    | interface => cases typed <;> simp [addName]
    | typeAlias => cases typed <;> simp [addName]
    | branch => simp [Metrics.addComplexity]
    | operation =>
      cases hoperator : node.child? "operator" with
      | none => simp
      | some operator =>
        by_cases hlogical : isLogical operator.kind = true <;>
          simp [hlogical, Metrics.addComplexity]
    | loop => simp [Metrics.addComplexity]
    | attempt =>
      by_cases hhandler : (node.child? "handler").isSome = true <;>
        simp [hhandler, Metrics.addComplexity]

/-- What every visit adds to a list stands there in the order of the visits. -/
theorem foldl_visit_append {β : Type} (list : Metrics α → List β) (adds : Node → List β)
    (typed : Bool)
    (h : ∀ parent node m, list (visit typed parent node m) = list m ++ adds node)
    (visits : List Pending) (m : Metrics α) :
    list (visits.foldl (fun m p => visit typed p.2 p.1 m) m) =
      list m ++ visits.flatMap fun p => adds p.1 := by
  induction visits generalizing m with
  | nil => simp
  | cons p visits ih => rw [foldl_cons, ih, h, flatMap_cons, append_assoc]

/-! ## A whole walk -/

/-- The named nodes of a tree in document order, each with its parent. -/
def visits (root : Node) : List Pending :=
  (inOrder none root).filter fun pending => pending.1.named

/-- The walk over a tree as a loop and as a recursion. Its turns end, one for each node, and leave
the metrics that the recursion gives: those of a visit to every named node in document order. What
the visits collect stands in that order after what was there. -/
structure DocumentOrderWalk (typed : Bool) (root : Node) (m result : Metrics α) : Prop where
  running : ∀ turns < (inOrder none root).length,
    ((turn typed)^[turns] (m, [(root, none)])).2 ≠ []
  ended : (turn typed)^[(inOrder none root).length] (m, [(root, none)]) = (result, [])
  recursive : result = descend typed none m root
  visited : result = (visits root).foldl (fun m p => visit typed p.2 p.1 m) m
  dependencies : result.dependencies =
    m.dependencies ++ (visits root).flatMap fun p => importOf p.1
  exports : result.exports =
    m.exports ++ (visits root).flatMap fun p => if typed then namesOf p.1 else []

theorem walk_eq_foldl (typed : Bool) (root : Node) (m : Metrics α) :
    walk typed root m = (visits root).foldl (fun m p => visit typed p.2 p.1 m) m := by
  rw [walk, walkFrom_eq_foldl, orderOf_singleton, visits, foldl_filter]
  rfl

/-- Every tree is walked in document order. -/
theorem walk_inDocumentOrder (typed : Bool) (root : Node) (m : Metrics α) :
    DocumentOrderWalk typed root m (walk typed root m) := by
  have horder := orderOf_singleton root none
  have hfold : walk typed root m = (inOrder none root).foldl (visitNamed typed) m := by
    rw [walk, walkFrom_eq_foldl, horder]
  have hvisits := walk_eq_foldl typed root m
  refine ⟨?_, ?_, ?_, hvisits, ?_, ?_⟩
  · intro turns hturns hempty
    have hrest := (iterate_turn_spec typed turns m [(root, none)]).1
    rw [horder, orderOf_eq_nil.mpr hempty, eq_comm, drop_eq_nil_iff] at hrest
    omega
  · have hmetrics := (iterate_turn_spec typed (inOrder none root).length m [(root, none)]).2
    have hstack := stack_iterate_turn typed m [(root, none)]
    rw [horder] at hmetrics hstack
    rw [take_length] at hmetrics
    exact Prod.ext (hmetrics.trans hfold.symm) hstack
  · rw [hfold, descend_eq_foldl]
  · rw [hvisits]
    apply foldl_visit_append Metrics.dependencies importOf
    intro parent node m
    rw [visit_eq]
  · rw [hvisits]
    apply foldl_visit_append Metrics.exports fun node => if typed then namesOf node else []
    intro parent node m
    rw [visit_eq]

/-- An exported class gives its name twice, at the export and at the class below it. -/
example : (walk true (.mk "export_statement" true none ""
    [.mk "export" false none "export" [],
     .mk "class_declaration" true (some "declaration") ""
      [.mk "class" false none "class" [],
       .mk "type_identifier" true (some "name") "Circle" []]])
      (Metrics.empty : Metrics Rat)).exports = ["Circle", "Circle"] := by
  rw [walk_eq_foldl]
  decide +kernel

end SourceDigest.Syntax
