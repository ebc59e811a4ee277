import MarkupRecords.Document.Basic
import MarkupRecords.Selector.Basic
import MarkupRecords.Text.Blank

/-!
What a selector matches. `Axis.groups` gives the candidates of one step, grouped so that positions
count the children of one node. `Path.evaluate`, with the functions it is mutually recursive with,
follows the steps of a path from a node; after each step the nodes reached are put in document order
and each is kept once. `Selector.select` and `Selector.first?` start from a context node.
-/

set_option autoImplicit false
set_option relaxedAutoImplicit false

namespace MarkupRecords

/-- Puts a node in its place in a list in document order, unless it is there already. -/
def Node.insertInOrder (n : Node) : List Node → List Node
  | [] => [n]
  | m :: ms =>
    if n.index < m.index then n :: m :: ms
    else if n.index = m.index then m :: ms
    else m :: n.insertInOrder ms

/-- The nodes of a list, all of one document, in document order and each once. -/
def Node.inOrder (ns : List Node) : List Node := ns.foldr Node.insertInOrder []

/-- The candidates of a step from a node. Along the descendant axis there is one group for each node
that has children, so that positions are counted among siblings. -/
def Axis.groups (axis : Axis) (n : Node) : List (List Node) :=
  match axis with
  | .child => [n.children]
  | .descendant => n.children :: n.descendants.map Node.children
  | .self => [[n]]
  | .parent => [n.parent?.toList]

/-- Whether a node is of the kind, and has the name, that is asked for. -/
def NodeTest.accepts (test : NodeTest) (n : Node) : Bool :=
  match test with
  | .name wanted => n.isElement && n.name == wanted
  | .anyElement => n.isElement
  | .text => n.isText
  | .anyNode => true

/-- Whether a value is equal to a literal. Against a number the value is read as a number too,
blanks around it aside; a value that is none is equal to no number. -/
def Literal.equals (literal : Literal) (value : String) : Bool :=
  match literal with
  | .text content => value == content
  | .number _ x => (Decimal.ofText? (Text.trim value.toList)).any fun d ↦ d.toFloat == x

mutual

/-- The nodes that a path leads to from a node. If `search` is set, the first step of a bare path
looks among all descendants. -/
def Path.evaluate (path : Path) (search : Bool) (n : Node) : List Node :=
  match path with
  | ⟨absolute, bare, steps⟩ =>
    Step.follow steps (bare && search) [if absolute then n.document.root else n]

/-- The nodes that steps lead to from any of the given nodes. If `deep` is set, the first step goes
along the descendant axis instead of its own. -/
def Step.follow (steps : List Step) (deep : Bool) (contexts : List Node) : List Node :=
  match steps with
  | [] => contexts
  | ⟨axis, test, predicates⟩ :: rest =>
    Step.follow rest false <| Node.inOrder <| contexts.flatMap fun context ↦
      ((if deep then Axis.descendant else axis).groups context).flatMap fun group ↦
        Predicate.filterAll predicates (group.filter test.accepts)

/-- The nodes of a group that pass all predicates, from left to right. Each predicate counts
positions among the nodes that passed the ones before it. -/
def Predicate.filterAll (predicates : List Predicate) (group : List Node) : List Node :=
  match predicates with
  | [] => group
  | predicate :: rest =>
    Predicate.filterAll rest <|
      ((group.zipIdx 1).filter fun m ↦ predicate.keeps group.length m.2 m.1).map Prod.fst

/-- Whether a node at a position among `size` nodes passes. -/
def Predicate.keeps (predicate : Predicate) (size position : Nat) (n : Node) : Bool :=
  match predicate with
  | .position k => position == k
  | .last => position == size
  | .condition e => e.holds n

/-- Whether a node has a property. -/
def Expr.holds (e : Expr) (n : Node) : Bool :=
  match e with
  | .or left right => left.holds n || right.holds n
  | .and left right => left.holds n && right.holds n
  | .exists operand => !(operand.values n).isEmpty
  | .compare operand negated literal =>
    (operand.values n).any fun value ↦ literal.equals value != negated

/-- The values that an operand has at a node. -/
def Operand.values (operand : Operand) (n : Node) : List String :=
  match operand with
  | .attribute name => (n.attribute? name).toList
  | .text => (n.children.filter Node.isText).map Node.innerText
  | .context => [n.innerText]
  | .path path => (path.evaluate false n).map Node.innerText

end

namespace Selector

/-- All matches from a node, in document order. -/
def select (s : Selector) (mode : Mode) (n : Node) : List Node :=
  s.path.evaluate (mode == .search) n

/-- The first match in document order; a bare selector is searched for among the descendants. -/
def first? (s : Selector) (n : Node) : Option Node := (s.path.evaluate true n).head?

end Selector

end MarkupRecords
