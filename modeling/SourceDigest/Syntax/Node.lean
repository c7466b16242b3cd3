/-!
Syntax trees as a parser delivers them: every node has a kind, a text and children, a child may
fill a named field of its parent, and keywords and punctuation are anonymous nodes.
-/

namespace SourceDigest.Syntax

inductive Node where
  | mk (kind : String) (named : Bool) (field : Option String) (text : String)
      (children : List Node)
  deriving Inhabited

namespace Node

def kind : Node → String
  | mk kind _ _ _ _ => kind

def named : Node → Bool
  | mk _ named _ _ _ => named

def field : Node → Option String
  | mk _ _ field _ _ => field

def text : Node → String
  | mk _ _ _ text _ => text

def children : Node → List Node
  | mk _ _ _ _ children => children

def child? (node : Node) (field : String) : Option Node :=
  node.children.find? fun child => child.field == some field

/-- The text of a child, where there is one and it is not empty. -/
def childText? (node : Node) (field : String) : Option String :=
  match node.child? field with
  | some child => if child.text.isEmpty then none else some child.text
  | none => none

end Node

end SourceDigest.Syntax
