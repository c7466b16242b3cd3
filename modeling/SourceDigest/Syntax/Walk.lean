import SourceDigest.Metrics
import SourceDigest.Syntax.Node

/-!
Metrics of a syntax tree. A walk visits every named node once, parents before children and
children from left to right, with a stack of its own, so that its depth is not bounded by
anything but the tree. A visit reads the node, its children and its parent.
-/

namespace SourceDigest.Syntax

variable {α : Type} [Scalar α]

/-- What a kind of node means for the metrics. -/
inductive Role where
  | importing
  | exporting
  | function
  | classLike
  | interface
  | typeAlias
  | branch
  | operation
  | loop
  | attempt
  deriving DecidableEq, Repr

/-- The role of each kind; most kinds have none. -/
def Role.ofKind? (kind : String) : Option Role :=
  if kind ∈ ["import_statement"] then some importing
  else if kind ∈ ["export_statement"] then some exporting
  else if kind ∈ ["function_declaration", "generator_function_declaration", "function_expression",
      "generator_function", "arrow_function", "method_definition"] then some function
  else if kind ∈ ["class_declaration", "abstract_class_declaration", "class"] then some classLike
  else if kind ∈ ["interface_declaration"] then some interface
  else if kind ∈ ["type_alias_declaration"] then some typeAlias
  else if kind ∈ ["if_statement", "switch_statement", "ternary_expression"] then some branch
  else if kind ∈ ["binary_expression"] then some operation
  else if kind ∈ ["for_statement", "for_in_statement", "while_statement", "do_statement"] then
    some loop
  else if kind ∈ ["try_statement"] then some attempt
  else none

/-- Operators that decide which of their operands is evaluated. -/
def isLogical (kind : String) : Bool :=
  kind ∈ ["&&", "||", "??"]

/-- The inside of a text in quotes of one kind; any other text as it is. -/
def unquoted (text : String) : String :=
  match text.toList with
  | first :: rest =>
    if first ∈ ['\'', '"', '\x60'] ∧ rest.getLast? = some first then String.ofList rest.dropLast
    else text
  | [] => text

/-- The node that names what an import statement imports: its source, or the source of a clause
that requires a module. -/
def importSource? (node : Node) : Option Node :=
  match node.child? "source" with
  | some source => some source
  | none =>
    match node.children.find? fun child => child.kind == "import_require_clause" with
    | some clause => clause.child? "source"
    | none => none

/-- The names that an exported declaration introduces. -/
def declaredNames (declaration : Node) : List String :=
  if declaration.kind ∈ ["function_declaration", "generator_function_declaration",
      "class_declaration", "abstract_class_declaration"] then
    (declaration.childText? "name").toList
  else if declaration.kind ∈ ["lexical_declaration", "variable_declaration"] then
    declaration.children.filterMap fun child =>
      if child.kind == "variable_declarator" then
        match child.child? "name" with
        | some name => if name.kind == "identifier" then some name.text else none
        | none => none
      else none
  else []

/-- A method of a class body is public unless a modifier says otherwise or its name is private. -/
def isPublicMethod (parent : Option Node) (node : Node) : Bool :=
  match parent with
  | none => false
  | some parent =>
    parent.kind == "class_body" &&
      !(node.children.any fun child =>
        child.kind == "accessibility_modifier" &&
          (child.text == "private" || child.text == "protected")) &&
      match node.child? "name" with
      | none => true
      | some name => name.kind != "private_property_identifier"

def addName (m : Metrics α) (node : Node) : Metrics α :=
  { m with exports := m.exports ++ (node.childText? "name").toList }

/-- What one named node adds to the metrics. Only with `typed` are interfaces and type aliases
counted and names collected. A function counts for one point of complexity, a branch and a logical
operator too, a loop for two, an attempt for one and for another if it handles what goes wrong. -/
def visit (typed : Bool) (parent : Option Node) (node : Node) (m : Metrics α) : Metrics α :=
  match Role.ofKind? node.kind with
  | none => m
  | some .importing =>
    let m := { m with importCount := m.importCount + 1 }
    match importSource? node with
    | none => m
    | some source =>
      let target := unquoted source.text
      if target.isEmpty then m else { m with dependencies := m.dependencies ++ [target] }
  | some .exporting =>
    let m := { m with exportCount := m.exportCount + 1 }
    if typed then
      match node.child? "declaration" with
      | some declaration => { m with exports := m.exports ++ declaredNames declaration }
      | none => m
    else m
  | some .function =>
    let m := { m with functionCount := m.functionCount + 1 }.addComplexity 1
    if node.kind == "method_definition" && isPublicMethod parent node then
      { m with publicMethods := m.publicMethods + 1 }
    else m
  | some .classLike =>
    let m := { m with classCount := m.classCount + 1 }
    if typed then addName m node else m
  | some .interface =>
    if typed then addName { m with interfaceCount := m.interfaceCount + 1 } node else m
  | some .typeAlias =>
    if typed then addName { m with typeCount := m.typeCount + 1 } node else m
  | some .branch => m.addComplexity 1
  | some .operation =>
    match node.child? "operator" with
    | some operator => if isLogical operator.kind then m.addComplexity 1 else m
    | none => m
  | some .loop => m.addComplexity 2
  | some .attempt =>
    let m := m.addComplexity 1
    if (node.child? "handler").isSome then m.addComplexity 1 else m

/-- A node that is still to be visited, with its parent. -/
abbrev Pending := Node × Option Node

noncomputable def weight : List Pending → Nat
  | [] => 0
  | (node, _) :: stack => sizeOf node + weight stack

theorem weight_children_lt (node : Node) (stack : List Pending) :
    weight (node.children.map (fun child => (child, some node)) ++ stack) <
      sizeOf node + weight stack := by
  cases node with
  | mk kind named field text children =>
    have h (xs : List Node) (p : Option Node) :
        weight (xs.map (fun child => (child, p)) ++ stack) < sizeOf xs + weight stack := by
      induction xs with
      | nil => simp [List.nil.sizeOf_spec]
      | cons x xs ih =>
        simp only [List.map_cons, List.cons_append, weight, List.cons.sizeOf_spec]
        omega
    have := h children (some (.mk kind named field text children))
    simp only [Node.children, Node.mk.sizeOf_spec]
    omega

/-- Visits the nodes on the stack and all below them; the top of the stack comes first. -/
def walkFrom (typed : Bool) (m : Metrics α) : List Pending → Metrics α
  | [] => m
  | (node, parent) :: stack =>
    walkFrom typed (if node.named then visit typed parent node m else m)
      (node.children.map (fun child => (child, some node)) ++ stack)
  termination_by stack => weight stack
  decreasing_by
    exact weight_children_lt node stack

def walk (typed : Bool) (root : Node) (m : Metrics α) : Metrics α :=
  walkFrom typed m [(root, none)]

end SourceDigest.Syntax
