import MarkupRecords.Selector.Basic
import MarkupRecords.Selector.Fault
import MarkupRecords.Text.Blank
import MarkupRecords.Text.Letters
import MarkupRecords.Text.Taken

/-!
Reading selectors. Each function of the grammar takes the characters that are left and gives what it
read together with the characters after it; the type `Taken` keeps the proof that these are fewer,
which is why the mutual recursion through nested conditions ends. Failures are `Stuck`: a complaint
with the number of characters left there. `Selector.ofText?` reads a whole text.
-/

set_option autoImplicit false
set_option relaxedAutoImplicit false

namespace MarkupRecords.Selector

open Text (Taken after? length_lt_succ)

/-! ### Results -/

/-- A complaint, and how many characters were left when it arose. -/
structure Stuck where
  complaint : Complaint
  left : Nat

/-- The outcome of reading from a text of fewer than `bound` characters, or of `bound` characters if
at least one is used up. -/
abbrev Reading (α : Type) (bound : Nat) := Except Stuck (Taken α bound)

/-- Reading gets stuck before `cs`. -/
def stuck {α : Type} {n : Nat} (complaint : Complaint) (cs : List Char) : Reading α n :=
  .error ⟨complaint, cs.length⟩

/-! ### Tokens -/

/-- The text without its leading blanks. -/
def skipBlanks (cs : List Char) : List Char := Text.trimStart cs

theorem length_skipBlanks_le (cs : List Char) : (skipBlanks cs).length ≤ cs.length :=
  (List.dropWhile_sublist _).length_le

/-- Whether a character can begin a name. -/
def isNameStart (c : Char) : Bool := Text.alphabetic.contains c || c == '_'

/-- Whether a character can go on a name. -/
def isNameChar (c : Char) : Bool :=
  Text.alphabetic.contains c || Text.numeric.contains c ||
    c == '_' || c == '-' || c == '.' || c == ':'

/-- The name that comes next. It is as long as possible. -/
def readName? : (cs : List Char) → Option (Taken String cs.length)
  | [] => none
  | c :: cs =>
    if isNameStart c then
      some ⟨.ofList (c :: cs.takeWhile isNameChar), cs.dropWhile isNameChar,
        Nat.lt_succ_of_le (List.dropWhile_sublist _).length_le⟩
    else none

/-- What follows the given character, which has to come next after blanks. -/
def expect (c : Char) (cs : List Char) : Reading Unit cs.length :=
  match h : skipBlanks cs with
  | d :: rest =>
    if c = d then
      .ok ⟨(), rest, by have := length_skipBlanks_le cs; rw [h] at this; exact this⟩
    else stuck (.missing (.singleton c)) (d :: rest)
  | [] => stuck (.missing (.singleton c)) []

/-- What follows `word`, if it comes next after blanks and no name goes on after it. -/
def afterWord? (word cs : List Char) :
    Option {rest : List Char // rest.length + word.length ≤ cs.length} :=
  match after? word (skipBlanks cs) with
  | some rest =>
    if rest.1.head?.any isNameChar then none
    else some ⟨rest.1, Nat.le_trans (Nat.le_of_eq rest.2) (length_skipBlanks_le cs)⟩
  | none => none

/-- Whether a character can go on a number. -/
def isNumberChar (c : Char) : Bool := c.isDigit || c == '.'

/-- The text of the number that comes next: a digit or a minus sign, and all digits and points after
it. -/
def readNumberText? : (cs : List Char) → Option (Taken (List Char) cs.length)
  | [] => none
  | c :: cs =>
    if c.isDigit || c == '-' then
      some ⟨c :: cs.takeWhile isNumberChar, cs.dropWhile isNumberChar,
        Nat.lt_succ_of_le (List.dropWhile_sublist _).length_le⟩
    else none

/-- What follows the quote `q` that ends a text, after the text itself. -/
def readQuoted? (q : Char) (cs : List Char) : Option (Taken String cs.length) :=
  match h : cs.dropWhile (· ≠ q) with
  | [] => none
  | _ :: rest => some ⟨.ofList (cs.takeWhile (· ≠ q)), rest, by
      have := (List.dropWhile_sublist (l := cs) (· ≠ q)).length_le
      rw [h] at this
      exact this⟩

/-- The place that a text of digits names. -/
def position? (text : List Char) : Option Nat :=
  if text.all Char.isDigit then
    let n := Nat.ofDigitChars 10 text 0
    if 1 ≤ n ∧ n < UInt64.size then some n else none
  else none

/-- The literal that comes next. -/
def readLiteralHere (cs : List Char) : Reading Literal cs.length :=
  match readNumberText? cs with
  | some text =>
    match Decimal.ofText? text.value with
    | some d => .ok (text.map fun t ↦ .number (.ofList t) d.toFloat)
    | none => stuck .badNumber text.rest
  | none =>
    match cs with
    | [] => stuck .noLiteral []
    | c :: rest =>
      if c = '\'' ∨ c = '"' then
        match readQuoted? c rest with
        | some content => .ok (content.map .text).later
        | none => stuck .openString []
      else stuck .noLiteral (c :: rest)

/-- The literal that comes next after blanks. -/
def readLiteral (cs : List Char) : Reading Literal cs.length :=
  (readLiteralHere (skipBlanks cs)).map (·.widen (length_skipBlanks_le cs))

/-- What follows a point that stands for the context node: one that begins neither `..` nor `./`. -/
def afterContext? : (cs : List Char) → Option (Taken Unit cs.length)
  | '.' :: rest =>
    if rest.head? = some '.' ∨ rest.head? = some '/' then none
    else some ⟨(), rest, length_lt_succ rest⟩
  | _ => none

/-- The node test that comes next, with the axis it goes along; `axis` is the one that the separator
before it asks for. -/
def readTest (axis : Axis) (cs : List Char) : Reading (Axis × NodeTest) cs.length :=
  match cs with
  | '.' :: '.' :: rest => .ok ⟨(.parent, .anyNode), rest, by simp only [List.length_cons]; omega⟩
  | '.' :: rest => .ok ⟨(.self, .anyNode), rest, length_lt_succ rest⟩
  | '*' :: rest => .ok ⟨(axis, .anyElement), rest, length_lt_succ rest⟩
  | cs =>
    match readName? cs with
    | none => stuck .noStep cs
    | some name =>
      match h : name.rest with
      | '(' :: rest => do
        let close ← expect ')' rest
        have bound : close.rest.length < cs.length := by
          have := name.shorter
          have := close.shorter
          rw [h] at *
          simp only [List.length_cons] at *
          omega
        if name.value = "text" then .ok ⟨(axis, .text), close.rest, bound⟩
        else if name.value = "node" then .ok ⟨(axis, .anyNode), close.rest, bound⟩
        else stuck (.unknownFunction name.value) close.rest
      | _ => .ok (name.map fun n ↦ (axis, .name n))

/-! ### The grammar -/

mutual

/-- The path that comes next after blanks. -/
def readPath (cs : List Char) : Reading Path cs.length :=
  have blanks := length_skipBlanks_le cs
  match h : skipBlanks cs with
  | '/' :: '/' :: rest => do
    have bound : rest.length < cs.length := by
      rw [h] at blanks
      simp only [List.length_cons] at blanks
      omega
    let steps ← readSteps .descendant rest
    return (steps.map (⟨true, false, ·⟩)).widen (Nat.le_of_lt bound)
  | '/' :: rest => do
    have bound : rest.length < cs.length := by
      rw [h] at blanks
      exact blanks
    if rest = [] ∨ rest.head? = some ']' then
      return ⟨⟨true, false, []⟩, rest, bound⟩
    else
      let steps ← readSteps .child rest
      return (steps.map (⟨true, false, ·⟩)).widen (Nat.le_of_lt bound)
  | rest => do
    have bound : rest.length ≤ cs.length := h ▸ blanks
    let steps ← readSteps .child rest
    return (steps.map (⟨false, rest.head? ≠ some '.', ·⟩)).widen bound
termination_by 8 * cs.length + 2

/-- The steps that come next, the first of them along `axis`. -/
def readSteps (axis : Axis) (cs : List Char) : Reading (List Step) cs.length := do
  let step ← readStep axis cs
  have bound := step.shorter
  match h : step.rest with
  | '/' :: '/' :: rest =>
    have shorter : rest.length < cs.length := by
      rw [h] at bound
      simp only [List.length_cons] at bound
      omega
    let steps ← readSteps .descendant rest
    return (steps.map (step.value :: ·)).widen (Nat.le_of_lt shorter)
  | '/' :: rest =>
    have shorter : rest.length < cs.length := by
      rw [h] at bound
      simp only [List.length_cons] at bound
      omega
    let steps ← readSteps .child rest
    return (steps.map (step.value :: ·)).widen (Nat.le_of_lt shorter)
  | _ => return step.map ([·])
termination_by 8 * cs.length + 1

/-- The step that comes next, along `axis` unless it is `.` or `..`. -/
def readStep (axis : Axis) (cs : List Char) : Reading Step cs.length := do
  let test ← readTest axis cs
  have bound := test.shorter
  let predicates ← readPredicates test.rest
  return (predicates.map (⟨test.value.1, test.value.2, ·⟩)).widen bound
termination_by 8 * cs.length + 0

/-- All predicates in brackets that come next. -/
def readPredicates (cs : List Char) : Reading (List Predicate) (cs.length + 1) :=
  match cs with
  | '[' :: rest => do
    let predicate ← readPredicate rest
    have bound := predicate.shorter
    let close ← expect ']' predicate.rest
    have bound' := close.shorter
    let predicates ← readPredicates close.rest
    return (predicates.map (predicate.value :: ·)).widen (by
      simp only [List.length_cons]
      omega)
  | cs => return ⟨[], cs, length_lt_succ cs⟩
termination_by 8 * cs.length + 0

/-- The predicate that comes next after blanks, without its brackets. -/
def readPredicate (cs : List Char) : Reading Predicate cs.length :=
  have blanks := length_skipBlanks_le cs
  match (skipBlanks cs).head?.any Char.isDigit, readNumberText? (skipBlanks cs) with
  | true, some text =>
    match position? text.value with
    | some n => .ok ((text.map fun _ ↦ .position n).widen blanks)
    | none => stuck .badPosition text.rest
  | _, _ =>
    match after? ['l', 'a', 's', 't', '(', ')'] (skipBlanks cs) with
    | some rest => .ok ⟨.last, rest.1, by
        have := rest.2
        simp only [List.length_cons] at this
        omega⟩
    | none => do
      let e ← readOr (skipBlanks cs)
      return (e.map .condition).widen blanks
termination_by 8 * cs.length + 7

/-- The condition that comes next, `or` binding least. -/
def readOr (cs : List Char) : Reading Expr cs.length := do
  let first ← readAnd cs
  have bound := first.shorter
  let rest ← readOrs first.value first.rest
  return rest.widen bound
termination_by 8 * cs.length + 6

/-- Goes on a condition with the alternatives that come next. -/
def readOrs (left : Expr) (cs : List Char) : Reading Expr (cs.length + 1) :=
  match afterWord? ['o', 'r'] cs with
  | none => return ⟨left, cs, length_lt_succ cs⟩
  | some rest => do
    have : rest.1.length < cs.length :=
      Nat.lt_of_lt_of_le (by simp only [List.length_cons]; omega) rest.2
    let right ← readAnd rest.1
    have := right.shorter
    let more ← readOrs (.or left right.value) right.rest
    return more.widen (by omega)
termination_by 8 * cs.length + 0

/-- The conjunction that comes next. -/
def readAnd (cs : List Char) : Reading Expr cs.length := do
  let first ← readComparison cs
  have bound := first.shorter
  let rest ← readAnds first.value first.rest
  return rest.widen bound
termination_by 8 * cs.length + 5

/-- Goes on a conjunction with the members that come next. -/
def readAnds (left : Expr) (cs : List Char) : Reading Expr (cs.length + 1) :=
  match afterWord? ['a', 'n', 'd'] cs with
  | none => return ⟨left, cs, length_lt_succ cs⟩
  | some rest => do
    have : rest.1.length < cs.length :=
      Nat.lt_of_lt_of_le (by simp only [List.length_cons]; omega) rest.2
    let right ← readComparison rest.1
    have := right.shorter
    let more ← readAnds (.and left right.value) right.rest
    return more.widen (by omega)
termination_by 8 * cs.length + 0

/-- The comparison, the lone operand or the condition in parentheses that comes next. -/
def readComparison (cs : List Char) : Reading Expr cs.length :=
  have blanks := length_skipBlanks_le cs
  match h : skipBlanks cs with
  | '(' :: rest => do
    have bound : rest.length < cs.length := by
      rw [h] at blanks
      exact blanks
    let inner ← readOr rest
    have := inner.shorter
    let close ← expect ')' inner.rest
    have := close.shorter
    return ⟨inner.value, close.rest, by omega⟩
  | start => do
    have bound : start.length ≤ cs.length := h ▸ blanks
    let operand ← readOperand start
    have := operand.shorter
    have gap := length_skipBlanks_le operand.rest
    match h' : skipBlanks operand.rest with
    | '!' :: '=' :: rest =>
      let literal ← readLiteral rest
      have := literal.shorter
      return ⟨.compare operand.value true literal.value, literal.rest, by
        rw [h'] at gap
        simp only [List.length_cons] at gap
        omega⟩
    | '=' :: rest =>
      let literal ← readLiteral rest
      have := literal.shorter
      return ⟨.compare operand.value false literal.value, literal.rest, by
        rw [h'] at gap
        simp only [List.length_cons] at gap
        omega⟩
    | _ => return ⟨.exists operand.value, operand.rest, by omega⟩
termination_by 8 * cs.length + 4

/-- The operand that comes next. -/
def readOperand (cs : List Char) : Reading Operand cs.length :=
  match cs with
  | '@' :: rest =>
    match readName? rest with
    | some name => .ok (name.map .attribute).later
    | none => stuck .noAttributeName rest
  | cs =>
    match after? ['t', 'e', 'x', 't', '(', ')'] cs with
    | some rest => .ok ⟨.text, rest.1, by
        have := rest.2
        simp only [List.length_cons] at this
        omega⟩
    | none =>
      match afterContext? cs with
      | some rest => .ok (rest.map fun _ ↦ .context)
      | none => do
        let path ← readPath cs
        return path.map fun p ↦ .path { p with bare := false }
termination_by 8 * cs.length + 3

end

/-! ### Whole texts -/

/-- The path that a trimmed text denotes; the empty text denotes the context node. -/
def readWhole (cs : List Char) : Except Stuck Path :=
  match cs with
  | [] => .ok ⟨false, false, []⟩
  | cs =>
    match readPath cs with
    | .error s => .error s
    | .ok path =>
      match skipBlanks path.rest with
      | [] => .ok path.value
      | rest => .error ⟨.trailing, rest.length⟩

/-- The selector that a text denotes. Blanks around it do not matter, but are kept in its source. -/
def ofText? (source : String) : Except Fault Selector :=
  let cs := Text.trim source.toList
  match readWhole cs with
  | .ok path => .ok ⟨source, path⟩
  | .error s => .error ⟨s.complaint, cs.length - s.left⟩

end MarkupRecords.Selector
