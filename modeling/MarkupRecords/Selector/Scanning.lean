import MarkupRecords.Selector.Reading

/-!
Reading selectors with a cursor. A `Cursor` stands at a place in a text that does not change. It can
be moved on, the characters from an earlier place up to it can be cut out, and it can be noted that
a part of the selector begins where it stands; all of this is kept in a record, and the cursor
stands where the last event of its record happened. A `Scan` runs on a cursor and gives a value or a
complaint. Its loops and its recursion do not watch the cursor; how deep they may go is bounded from
outside, and a scan that would go deeper has no outcome. `Scan.whole` reads a whole text.
-/

set_option autoImplicit false
set_option relaxedAutoImplicit false

namespace MarkupRecords.Selector

namespace Cursor

/-- The parts of a selector that may come again and again: a path, and a round of each of the loops
over steps, over predicates, over what follows `or` and over what follows `and`. -/
inductive Part where
  | path
  | step
  | predicate
  | alternative
  | member
deriving DecidableEq, Repr

/-- What can happen at a cursor. -/
inductive Event where
  /-- The cursor comes to a place. -/
  | moved (pos : Nat)
  /-- The characters between two places are cut out, the second being that of the cursor. -/
  | cut (start stop : Nat)
  /-- A part begins at the place of the cursor. -/
  | begun (part : Part) (pos : Nat)
deriving DecidableEq, Repr

/-- The place of the cursor after an event. -/
def Event.pos : Event → Nat
  | moved pos => pos
  | cut _ stop => stop
  | begun _ pos => pos

/-- The place at which the given part begins, if the event is its beginning. -/
def Event.beginning? (part : Part) : Event → Option Nat
  | begun p pos => if p = part then some pos else none
  | _ => none

end Cursor

/-- A place in a text, with the record of all that happened there and on the way, the latest event
first. -/
structure Cursor where
  latest : Cursor.Event
  earlier : List Cursor.Event
deriving DecidableEq, Repr

namespace Cursor

/-- The cursor comes to the start of the text. -/
def start : Cursor := ⟨.moved 0, []⟩

/-- The number of characters before the cursor. -/
def pos (c : Cursor) : Nat := c.latest.pos

/-- All events, the latest first. -/
def events (c : Cursor) : List Event := c.latest :: c.earlier

/-- The places at which the given part has begun, the latest first. -/
def beginnings (c : Cursor) (part : Part) : List Nat := c.events.filterMap (Event.beginning? part)

/-- The cursor after one more event. -/
def record (c : Cursor) (e : Event) : Cursor := ⟨e, c.events⟩

/-- Goes on by a number of characters, whether the text has so many or not. -/
def move (c : Cursor) (count : Nat) : Cursor := c.record (.moved (c.pos + count))

/-- Cuts out what stands between a place and the cursor. -/
def cut (c : Cursor) (start : Nat) : Cursor := c.record (.cut start c.pos)

/-- Notes that a part begins. -/
def mark (c : Cursor) (part : Part) : Cursor := c.record (.begun part c.pos)

end Cursor

/-- Reading that moves a cursor. There is no outcome if it does not end in time. -/
abbrev Scan := ExceptT Complaint (StateT Cursor Option)

namespace Scan

/-! ### The cursor -/

/-- Gives up without an outcome. -/
def tooDeep {α : Type} : Scan α := fun _ ↦ none

/-- The place of the cursor. -/
def here : Scan Nat := return (← get).pos

/-- Moves the cursor on. -/
def move (count : Nat) : Scan Unit := modify (·.move count)

/-- Notes that a part begins at the cursor. -/
def mark (part : Cursor.Part) : Scan Unit := modify (·.mark part)

variable (text : List Char)

/-- The characters from a place up to the cursor. -/
def cut (start : Nat) : Scan (List Char) :=
  modifyGet fun c ↦ ((text.drop start).take (c.pos - start), c.cut start)

/-- The character at the cursor. -/
def peek : Scan (Option Char) := return text[← here]?

/-- Whether the cursor stands at the end of the text. -/
def atEnd : Scan Bool := return text.length ≤ (← here)

/-- Whether a token stands at the cursor. -/
def startsWith (token : List Char) : Scan Bool := return token.isPrefixOf (text.drop (← here))

/-- Moves over a token, if it stands at the cursor. -/
def eat (token : List Char) : Scan Bool := do
  if ← startsWith text token then
    move token.length
    return true
  else return false

/-- Moves over characters one by one, as long as they satisfy `p`. -/
def passWhile (p : Char → Bool) : (depth : Nat) → Scan Unit
  | 0 => tooDeep
  | depth + 1 => do
    if (← peek text).any p then
      move 1
      passWhile p depth
    else return ()

/-! ### Tokens -/

section Tokens

variable (depth : Nat)

/-- Moves over a character that has to come next after blanks. -/
def expect (c : Char) : Scan Unit := do
  passWhile text Text.isBlank depth
  if ← eat text [c] then return () else throw (.missing (.singleton c))

/-- Moves over blanks, and over a word after them if no name goes on after it. -/
def eatWord (word : List Char) : Scan Bool := do
  passWhile text Text.isBlank depth
  if ← startsWith text word then
    if text[(← here) + word.length]?.any isNameChar then return false
    else
      move word.length
      return true
  else return false

/-- The name that comes next. -/
def name? : Scan (Option String) := do
  let start ← here
  if (← peek text).any isNameStart then
    passWhile text isNameChar depth
    return some (.ofList (← cut text start))
  else return none

/-- Moves over a minus sign, if it stands at the cursor. -/
def passMinus : Scan Unit := do
  if (← peek text) = some '-' then move 1 else return ()

/-- The text of the number that comes next. -/
def numberText : Scan (List Char) := do
  let start ← here
  passMinus text
  passWhile text isNumberChar depth
  cut text start

/-- The text between the quote at the cursor and the next one. -/
def quotedText (quote : Char) : Scan Literal := do
  move 1
  let start ← here
  passWhile text (· ≠ quote) depth
  if ← atEnd text then throw .openString
  else
    let content ← cut text start
    move 1
    return .text (.ofList content)

/-- The number at the cursor. -/
def number : Scan Literal := do
  let written ← numberText text depth
  match Decimal.ofText? written with
  | some d => return .number (.ofList written) d.toFloat
  | none => throw .badNumber

/-- The literal that comes next after blanks. -/
def literal : Scan Literal := do
  passWhile text Text.isBlank depth
  match ← peek text with
  | none => throw .noLiteral
  | some c =>
    if c = '\'' ∨ c = '"' then quotedText text depth c
    else if c.isDigit || c == '-' then number text depth
    else throw .noLiteral

/-- What comes after a name: nothing, or the parentheses that make it a function. -/
def named (axis : Axis) (name : String) : Scan (Axis × NodeTest) := do
  if ← eat text ['('] then
    expect text depth ')'
    if name = "text" then return (axis, .text)
    else if name = "node" then return (axis, .anyNode)
    else throw (.unknownFunction name)
  else return (axis, .name name)

/-- The node test that comes next, with its axis. -/
def test (axis : Axis) : Scan (Axis × NodeTest) := do
  if ← eat text ['.', '.'] then return (.parent, .anyNode)
  else if ← eat text ['.'] then return (.self, .anyNode)
  else if ← eat text ['*'] then return (axis, .anyElement)
  else
    match ← name? text depth with
    | some name => named text depth axis name
    | none => throw .noStep

/-- What an operand that has been read is compared with, if anything. -/
def compared (operand : Operand) : Scan Expr := do
  passWhile text Text.isBlank depth
  if ← eat text ['!', '='] then return .compare operand true (← literal text depth)
  else if ← eat text ['='] then return .compare operand false (← literal text depth)
  else return .exists operand

end Tokens

/-! ### The grammar -/

mutual

/-- The path that comes next after blanks. -/
def path : (depth : Nat) → Scan Path
  | 0 => tooDeep
  | depth + 1 => do
    mark .path
    passWhile text Text.isBlank depth
    if ← eat text ['/', '/'] then return ⟨true, false, ← steps .descendant depth⟩
    else if ← eat text ['/'] then
      let next ← peek text
      if next = none ∨ next = some ']' then return ⟨true, false, []⟩
      else return ⟨true, false, ← steps .child depth⟩
    else
      let next ← peek text
      return ⟨false, next ≠ some '.', ← steps .child depth⟩

/-- The steps that come next, the first of them along `axis`. -/
def steps (axis : Axis) : (depth : Nat) → Scan (List Step)
  | 0 => tooDeep
  | depth + 1 => do
    mark .step
    let first ← step axis depth
    if ← eat text ['/', '/'] then return first :: (← steps .descendant depth)
    else if ← eat text ['/'] then return first :: (← steps .child depth)
    else return [first]

/-- The step that comes next, along `axis` unless it is `.` or `..`. -/
def step (axis : Axis) : (depth : Nat) → Scan Step
  | 0 => tooDeep
  | depth + 1 => do
    let found ← test text depth axis
    return ⟨found.1, found.2, ← predicates depth⟩

/-- All predicates in brackets that come next. -/
def predicates : (depth : Nat) → Scan (List Predicate)
  | 0 => tooDeep
  | depth + 1 => do
    if ← eat text ['['] then
      mark .predicate
      let first ← predicate depth
      expect text depth ']'
      return first :: (← predicates depth)
    else return []

/-- The predicate that comes next after blanks, without its brackets. -/
def predicate : (depth : Nat) → Scan Predicate
  | 0 => tooDeep
  | depth + 1 => do
    passWhile text Text.isBlank depth
    if (← peek text).any Char.isDigit then
      match position? (← numberText text depth) with
      | some n => return .position n
      | none => throw .badPosition
    else if ← eat text ['l', 'a', 's', 't', '(', ')'] then return .last
    else return .condition (← disjunction depth)

/-- The condition that comes next, `or` binding least. -/
def disjunction : (depth : Nat) → Scan Expr
  | 0 => tooDeep
  | depth + 1 => do
    let first ← conjunction depth
    alternatives first depth

/-- Goes on a condition with the alternatives that come next. -/
def alternatives (left : Expr) : (depth : Nat) → Scan Expr
  | 0 => tooDeep
  | depth + 1 => do
    if ← eatWord text depth ['o', 'r'] then
      mark .alternative
      let right ← conjunction depth
      alternatives (.or left right) depth
    else return left

/-- The conjunction that comes next. -/
def conjunction : (depth : Nat) → Scan Expr
  | 0 => tooDeep
  | depth + 1 => do
    let first ← comparison depth
    members first depth

/-- Goes on a conjunction with the members that come next. -/
def members (left : Expr) : (depth : Nat) → Scan Expr
  | 0 => tooDeep
  | depth + 1 => do
    if ← eatWord text depth ['a', 'n', 'd'] then
      mark .member
      let right ← comparison depth
      members (.and left right) depth
    else return left

/-- The comparison, the lone operand or the condition in parentheses that comes next. -/
def comparison : (depth : Nat) → Scan Expr
  | 0 => tooDeep
  | depth + 1 => do
    passWhile text Text.isBlank depth
    if ← eat text ['('] then
      let inner ← disjunction depth
      expect text depth ')'
      return inner
    else
      let found ← operand depth
      compared text depth found

/-- The operand that comes next. A point is the context node, unless `..` or `./` begins there. -/
def operand : (depth : Nat) → Scan Operand
  | 0 => tooDeep
  | depth + 1 => do
    if ← eat text ['@'] then
      match ← name? text depth with
      | some name => return .attribute name
      | none => throw .noAttributeName
    else if ← eat text ['t', 'e', 'x', 't', '(', ')'] then return .text
    else if (← startsWith text ['.']) && !(← startsWith text ['.', '.']) &&
        !(← startsWith text ['.', '/']) then
      move 1
      return .context
    else
      let found ← path depth
      return .path { found with bare := false }

end

/-! ### Whole texts -/

/-- The path that a text begins with; the empty text denotes the context node. -/
def pathOrEmpty (depth : Nat) : Scan Path := do
  if ← atEnd text then return ⟨false, false, []⟩ else path text depth

/-- The path that a trimmed text denotes. -/
def whole (depth : Nat) : Scan Path := do
  let found ← pathOrEmpty text depth
  passWhile text Text.isBlank depth
  if ← atEnd text then return found else throw .trailing

end Scan

end MarkupRecords.Selector
