import MarkupRecords.Document.Basic

/-!
Documents as arenas. An `Arena` has a `Cell` for each node, in which stands what the node is and the
numbers of the nodes directly above and below it; `Document.arena` is the arena of a document.

An arena is gone through by numbers. A `Walk` keeps a list of nodes that wait: each step takes one
from the end of the list and puts its children there, the first of them last. `Arena.walk` sets out
from the children of a node. `Arena.Collects` says how texts are collected at and below nodes, by
going down from each node to its children.
-/

set_option autoImplicit false
set_option relaxedAutoImplicit false

namespace MarkupRecords

/-- What a node is, without the nodes around it. -/
inductive NodeKind where
  | document
  | element (name : String) (attributes : List (String × String))
  | text (content : String)
deriving DecidableEq, Repr

/-- The content of a text. -/
def NodeKind.content? : NodeKind → Option String
  | text content => some content
  | _ => none

/-- A node with the numbers of the one directly above and of those directly below, in order. -/
structure Cell where
  kind : NodeKind
  parent : Option Nat
  children : List Nat
deriving DecidableEq, Repr

/-- The node with one more child, after the others. -/
def Cell.addChild (i : Nat) (cell : Cell) : Cell :=
  { cell with children := cell.children ++ [i] }

/-- The same node with another kind. -/
def Cell.withKind (kind : NodeKind) (cell : Cell) : Cell := { cell with kind }

/-- The nodes of a document, each at its number. -/
structure Arena where
  cells : List Cell
deriving DecidableEq, Repr

/-! ### The arena of a document -/

/-- What the topmost node of a tree is. -/
def Tree.kind : Tree → NodeKind
  | document _ => .document
  | element name attributes _ => .element name attributes
  | text content => .text content

namespace Node

/-- The content of a text. -/
def content? (n : Node) : Option String := n.tree.kind.content?

/-- The node with the numbers of its parent and its children. -/
def cell (n : Node) : Cell := ⟨n.tree.kind, n.parent?.map index, n.children.map index⟩

end Node

/-- The arena in which each node of the document stands at its number. -/
def Document.arena (d : Document) : Arena :=
  ⟨((List.range d.places.size).filterMap d.node?).map Node.cell⟩

/-- The number of the node directly above. -/
def Arena.parent? (arena : Arena) (i : Nat) : Option Nat := arena.cells[i]?.bind Cell.parent

/-! ### Going through an arena -/

/-- A walk under way: the nodes it has been to, in order, and those that wait, the next one last. -/
structure Walk where
  visited : List Nat
  pending : List Nat
deriving DecidableEq, Repr

namespace Walk

/-- Goes to the node that is next, whose children wait from then on. There is no step if no node
waits. -/
def next? (arena : Arena) (w : Walk) : Option Walk := do
  let i ← w.pending.getLast?
  let cell ← arena.cells[i]?
  return ⟨w.visited ++ [i], w.pending.dropLast ++ cell.children.reverse⟩

/-- Takes a number of steps. -/
def run (arena : Arena) : Nat → Walk → Option Walk
  | 0, w => some w
  | steps + 1, w => do run arena steps (← w.next? arena)

end Walk

namespace Arena

/-- The walk to what is below a node, after a number of steps. -/
def walk (arena : Arena) (i steps : Nat) : Option Walk := do
  let cell ← arena.cells[i]?
  Walk.run arena steps ⟨[], cell.children.reverse⟩

/-- To collect the texts at some nodes and below them, one node after the other, turns the text that
has been collected before into a longer one. -/
inductive Collects (arena : Arena) : List Nat → String → String → Prop where
  | done (out : String) : Collects arena [] out out
  | node {i : Nat} {is : List Nat} {cell : Cell} {out below after : String}
    (hcell : arena.cells[i]? = some cell)
    (hbelow : Collects arena cell.children (out ++ cell.kind.content?.getD "") below)
    (hafter : Collects arena is below after) : Collects arena (i :: is) out after

end Arena

end MarkupRecords
