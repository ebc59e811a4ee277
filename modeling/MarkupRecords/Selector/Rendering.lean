import MarkupRecords.Selector.Reading

/-!
Writing selectors. `Path.render` writes a path so that reading it back gives the same path, with the
parentheses that are forced because `and` binds tighter than `or` and both go to the left.
`Path.isWritable` says for which paths this is so: those that the grammar has a text for, without
numbers as literals.
-/

set_option autoImplicit false
set_option relaxedAutoImplicit false

namespace MarkupRecords

/-! ### Rendering -/

/-- What a place allows to stand there without parentheses. -/
inductive Expr.Binding where
  /-- Every condition. -/
  | alternative
  /-- Conjunctions, comparisons and lone operands. -/
  | conjunct
  /-- Comparisons and lone operands. -/
  | member
deriving DecidableEq, Repr

/-- A text in parentheses, if they are needed. -/
def parenthesized (needed : Bool) (cs : List Char) : List Char :=
  if needed then '(' :: cs ++ [')'] else cs

/-- A text in the quotes that it does not contain. -/
def Literal.chars : Literal → List Char
  | .text content =>
    let quote := if content.toList.contains '\'' then '"' else '\''
    quote :: content.toList ++ [quote]
  | .number written _ => written.toList

/-- A test as it is written on an axis. -/
def NodeTest.chars (axis : Axis) (test : NodeTest) : List Char :=
  match axis, test with
  | .self, _ => ['.']
  | .parent, _ => ['.', '.']
  | _, .name n => n.toList
  | _, .anyElement => ['*']
  | _, .text => ['t', 'e', 'x', 't', '(', ')']
  | _, .anyNode => ['n', 'o', 'd', 'e', '(', ')']

/-- What stands before a step along an axis. -/
def Axis.separator : Axis → List Char
  | .descendant => ['/', '/']
  | _ => ['/']

mutual

/-- The text of a path. -/
def Path.chars : Path → List Char
  | ⟨true, _, []⟩ => ['/']
  | ⟨true, _, steps⟩ => stepsChars steps
  | ⟨false, _, []⟩ => []
  | ⟨false, _, step :: steps⟩ => step.chars ++ stepsChars steps

/-- The text of steps, each with its separator before it. -/
def stepsChars : List Step → List Char
  | [] => []
  | ⟨axis, test, predicates⟩ :: steps =>
    axis.separator ++ test.chars axis ++ predicatesChars predicates ++ stepsChars steps

/-- The text of a step. -/
def Step.chars : Step → List Char
  | ⟨axis, test, predicates⟩ => test.chars axis ++ predicatesChars predicates

/-- The text of predicates, each in brackets. -/
def predicatesChars : List Predicate → List Char
  | [] => []
  | p :: ps => '[' :: p.chars ++ ']' :: predicatesChars ps

/-- The text of a predicate. -/
def Predicate.chars : Predicate → List Char
  | .position n => Nat.toDigits 10 n
  | .last => ['l', 'a', 's', 't', '(', ')']
  | .condition e => e.chars .alternative

/-- The text of a condition, with parentheses if `binding` asks for them. -/
def Expr.chars (binding : Expr.Binding) : Expr → List Char
  | .or left right =>
    parenthesized (binding ≠ .alternative) <|
      left.chars .alternative ++ [' ', 'o', 'r', ' '] ++ right.chars .conjunct
  | .and left right =>
    parenthesized (binding = .member) <|
      left.chars .conjunct ++ [' ', 'a', 'n', 'd', ' '] ++ right.chars .member
  | .exists operand => operand.chars
  | .compare operand negated literal =>
    operand.chars ++ (if negated then ['!', '='] else ['=']) ++ literal.chars

/-- The text of an operand. -/
def Operand.chars : Operand → List Char
  | .attribute name => '@' :: name.toList
  | .text => ['t', 'e', 'x', 't', '(', ')']
  | .context => ['.']
  | .path path => path.chars

end

/-- The text of a path. -/
def Path.render (p : Path) : String := .ofList p.chars

/-! ### Paths with a text -/

/-- A text is a name. -/
def isName (s : String) : Bool :=
  match s.toList with
  | [] => false
  | c :: cs => Selector.isNameStart c && cs.all Selector.isNameChar

/-- A literal that can be written: a text that leaves a quote for its ends. -/
def Literal.isWritable : Literal → Bool
  | .text content => !(content.toList.contains '\'' && content.toList.contains '"')
  | .number _ _ => false

/-- A test that can be written on an axis. -/
def NodeTest.isWritable (axis : Axis) (test : NodeTest) : Bool :=
  match axis, test with
  | .self, test | .parent, test => test = .anyNode
  | _, .name n => isName n
  | _, _ => true

/-- A step can come first in a path that begins at the context node. -/
def Step.leads (s : Step) : Bool := s.axis ≠ .descendant

/-- A step can come first in an operand that begins at the context node: it is a name, any element
or the parent. -/
def Step.leadsOperand (s : Step) : Bool :=
  match s.axis, s.test with
  | .child, .name _ | .child, .anyElement => true
  | .parent, _ => true
  | _, _ => false

mutual

/-- The steps can be written, one after the other. -/
def stepsWritable : List Step → Bool
  | [] => true
  | ⟨axis, test, predicates⟩ :: steps =>
    test.isWritable axis && predicatesWritable predicates && stepsWritable steps

/-- The predicates can be written. -/
def predicatesWritable : List Predicate → Bool
  | [] => true
  | p :: ps => p.isWritable && predicatesWritable ps

/-- The predicate can be written. -/
def Predicate.isWritable : Predicate → Bool
  | .position n => 1 ≤ n && n < UInt64.size
  | .last => true
  | .condition e => e.isWritable

/-- The condition can be written. -/
def Expr.isWritable : Expr → Bool
  | .or left right | .and left right => left.isWritable && right.isWritable
  | .exists operand => operand.isWritable
  | .compare operand _ literal => operand.isWritable && literal.isWritable

/-- The operand can be written. -/
def Operand.isWritable : Operand → Bool
  | .attribute name => isName name
  | .text | .context => true
  | .path ⟨absolute, bare, steps⟩ =>
    !bare && !steps.isEmpty && (absolute || steps.head?.any Step.leadsOperand) &&
      stepsWritable steps

end

/-- The path can be written: it has a step, and looks for its first step among all descendants only
if it begins at the context node with neither `.` nor `..`. -/
def Path.isWritable (p : Path) : Bool :=
  match p.steps with
  | [] => false
  | first :: _ =>
    (p.absolute || first.leads) && stepsWritable p.steps &&
      p.bare == (!p.absolute && first.axis ≠ .self && first.axis ≠ .parent)

end MarkupRecords
