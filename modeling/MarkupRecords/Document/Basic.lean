import MarkupRecords.Document.Tree

/-!
Documents and their nodes. A `Document` is a tree whose nodes are numbered in document order, the
document node being 0; it keeps for each number the subtree there and the number of the parent. A
`Node` is a document with one of its numbers, and `Node.children`, `Node.descendants` and
`Node.parent?` lead to other nodes of the same document. Two nodes are equal if they have the same
number in the same document; `label` tells apart documents that were read one by one.
-/

set_option autoImplicit false
set_option relaxedAutoImplicit false

namespace MarkupRecords

/-- What stands at one number of a document. -/
structure Place where
  subtree : Tree
  parent : Option Nat

/-- The places of a tree's nodes, in document order. -/
def Tree.places (t : Tree) : List Place :=
  List.zipWith Place.mk t.flatten (t.parents none 0)

/-- A tree with its nodes numbered in document order. -/
structure Document where
  label : Nat
  tree : Tree
  places : Array Place
  places_eq : places = tree.places.toArray

/-- One node of a document. -/
structure Node where
  document : Document
  index : Nat
  inside : index < document.places.size

namespace Document

/-- The document of a tree. -/
def ofTree (t : Tree) : Document := ⟨0, t, t.places.toArray, rfl⟩

/-- The same tree as a document with another label. -/
def withLabel (d : Document) (label : Nat) : Document := { d with label }

/-- The node with a number, if there is one. -/
def node? (d : Document) (index : Nat) : Option Node :=
  if h : index < d.places.size then some ⟨d, index, h⟩ else none

/-- Whether two documents were read at once and are the same. -/
def beq (d d' : Document) : Bool := d.label == d'.label && d.tree == d'.tree

end Document

namespace Node

/-- What stands at the node's number. -/
def place (n : Node) : Place := getElem n.document.places n.index n.inside

/-- The node with everything below it. -/
def tree (n : Node) : Tree := n.place.subtree

/-- Whether two nodes are the same node of the same document. -/
def beq (n n' : Node) : Bool := n.index == n'.index && n.document.beq n'.document

/-- The node is the document itself. -/
def isDocument (n : Node) : Bool := n.tree.isDocument

/-- The node is an element. -/
def isElement (n : Node) : Bool := n.tree.isElement

/-- The node is a text. -/
def isText (n : Node) : Bool := n.tree.isText

/-- The name of an element; the document node and texts have fixed names. -/
def name (n : Node) : String := n.tree.name

/-- All text in the node and below it. -/
def innerText (n : Node) : String := n.tree.innerText

/-- The attributes of an element, in order. -/
def attributes (n : Node) : List (String × String) := n.tree.attributes

/-- The value of an attribute. -/
def attribute? (n : Node) (name : String) : Option String := n.tree.attribute? name

/-- The node directly above. -/
def parent? (n : Node) : Option Node := n.place.parent.bind n.document.node?

/-- The nodes directly below, in document order. -/
def children (n : Node) : List Node :=
  (Tree.starts (n.index + 1) n.tree.children).filterMap n.document.node?

/-- The elements directly below, in document order. -/
def elements (n : Node) : List Node := n.children.filter isElement

/-- All nodes below, in document order. They have the numbers that follow the node's own. -/
def descendants (n : Node) : List Node :=
  (List.range' (n.index + 1) (n.tree.size - 1)).filterMap n.document.node?

/-- A node as `Node(<name>#number)`. -/
def text (n : Node) : String := "Node(<" ++ n.name ++ ">#" ++ toString n.index ++ ")"

end Node

namespace Tree

/-- The tree itself stands at its first place, without a parent. -/
theorem exists_places_eq_cons (t : Tree) : ∃ rest, t.places = ⟨t, none⟩ :: rest := by
  cases t <;> exact ⟨_, rfl⟩

theorem places_ne_nil (t : Tree) : t.places ≠ [] := by
  obtain ⟨rest, h⟩ := t.exists_places_eq_cons
  simp [h]

end Tree

namespace Document

/-- The document node. -/
def root (d : Document) : Node :=
  ⟨d, 0, by simpa [d.places_eq, List.length_pos_iff] using d.tree.places_ne_nil⟩

/-- The outermost element. -/
def rootElement? (d : Document) : Option Node := d.root.elements.head?

end Document

namespace Node

/-- The outermost element in place of the document node; any other node itself. -/
def unwrapDocument (n : Node) : Node :=
  if n.isDocument then n.document.rootElement?.getD n else n

/-- The node at the end of a path of child numbers, counted from 0. -/
def descend? (n : Node) : List Nat → Option Node
  | [] => some n
  | i :: path => n.children[i]?.bind fun child ↦ child.descend? path
termination_by structural path => path

end Node

end MarkupRecords
