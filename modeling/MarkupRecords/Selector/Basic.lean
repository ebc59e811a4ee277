import MarkupRecords.Scalar.Decimal

/-!
Selectors as data. A `Path` leads from a node to other nodes by `Step`s; a step goes along an
`Axis`, keeps the nodes that pass a `NodeTest`, and filters them by `Predicate`s, which count
positions or ask an `Expr`. A `Selector` is a path together with the text it was written as. `Mode`
says whether the first step of a bare path looks among the children or among all descendants.
-/

set_option autoImplicit false
set_option relaxedAutoImplicit false

namespace MarkupRecords

/-- Where a step goes from a node. -/
inductive Axis where
  | child
  | descendant
  | self
  | parent
deriving DecidableEq, Repr

/-- What kind of node a step keeps. -/
inductive NodeTest where
  | name (name : String)
  | anyElement
  | text
  | anyNode
deriving DecidableEq, Repr

/-- What a value is compared with: a text in quotes, or a number with the value it rounds to. -/
inductive Literal where
  | text (content : String)
  | number (written : String) (value : Float)

mutual

/-- A sequence of steps from the document node if `absolute`, and from the context node if not. The
first step of a `bare` path may also look among all descendants. -/
structure Path where
  absolute : Bool
  bare : Bool
  steps : List Step

/-- One step of a path. -/
structure Step where
  axis : Axis
  test : NodeTest
  predicates : List Predicate

/-- A condition on the nodes of one step, which may depend on a node's place among them. -/
inductive Predicate where
  /-- Keeps the node at a place, counted from 1. -/
  | position (n : Nat)
  /-- Keeps the last node. -/
  | last
  /-- Keeps the nodes with a property. -/
  | condition (e : Expr)

/-- A property of a node. -/
inductive Expr where
  | or (left right : Expr)
  | and (left right : Expr)
  /-- Some value is there. -/
  | exists (operand : Operand)
  /-- Some value is equal to the literal, or different from it if `negated`. -/
  | compare (operand : Operand) (negated : Bool) (literal : Literal)

/-- Values that a node has: an attribute, its texts, its whole text, or the texts of the nodes that
a path leads to. -/
inductive Operand where
  | attribute (name : String)
  | text
  | context
  | path (path : Path)

end

/-- A path and its source text. -/
structure Selector where
  source : String
  path : Path

/-- Whether a bare path looks for its first step among all descendants or among the children. -/
inductive Selector.Mode where
  | search
  | strict
deriving DecidableEq, Repr

namespace Selector

/-- The selector leads from each node to this node itself. -/
def isEmpty (s : Selector) : Bool := !s.path.absolute && s.path.steps.isEmpty

end Selector

end MarkupRecords
