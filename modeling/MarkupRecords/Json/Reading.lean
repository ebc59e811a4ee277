import MarkupRecords.Json.Basic
import MarkupRecords.Text.Taken

/-!
Reading JSON. Each function of the grammar takes the characters that are left and gives a `Taken`
value with the characters after it; `Json.ofText?` reads a whole text. Whatever does
not follow the grammar is refused, but an escape for half of a surrogate pair only makes the value
`broken`.
-/

set_option autoImplicit false
set_option relaxedAutoImplicit false

namespace MarkupRecords.Json

open Text (Taken after? length_lt_succ)

/-! ### Tokens -/

/-- Whether a character is blank in JSON. -/
def isBlank (c : Char) : Bool := c = ' ' || c = '\n' || c = '\t' || c = '\r'

/-- The text without its leading blanks. -/
def skipBlanks (cs : List Char) : List Char := cs.dropWhile isBlank

theorem length_skipBlanks_le (cs : List Char) : (skipBlanks cs).length ≤ cs.length :=
  (List.dropWhile_sublist _).length_le

/-- The value of a hexadecimal digit. -/
def hexDigit? (c : Char) : Option Nat :=
  if c.isDigit then some (c.toNat - '0'.toNat)
  else if 'a' ≤ c ∧ c ≤ 'f' then some (c.toNat - 'a'.toNat + 10)
  else if 'A' ≤ c ∧ c ≤ 'F' then some (c.toNat - 'A'.toNat + 10)
  else none

/-- The code unit that four hexadecimal digits denote. -/
def unit? (a b c d : Char) : Option Nat := do
  return ((← hexDigit? a) * 16 + (← hexDigit? b)) * 256 + (← hexDigit? c) * 16 + (← hexDigit? d)

/-- The character that a letter stands for after a backslash. -/
def escaped? (c : Char) : Option Char :=
  match c with
  | '"' => some '"'
  | '\\' => some '\\'
  | '/' => some '/'
  | 'b' => some '\x08'
  | 'f' => some '\x0c'
  | 'n' => some '\n'
  | 'r' => some '\r'
  | 't' => some '\t'
  | _ => none

/-- The code points and code units up to the closing quote, and what follows it. -/
def readUnits : (cs : List Char) → Option (Taken (List Nat) cs.length)
  | [] => none
  | '"' :: rest => some ⟨[], rest, length_lt_succ rest⟩
  | '\\' :: 'u' :: a :: b :: c :: d :: rest => do
    let unit ← unit? a b c d
    let more ← readUnits rest
    return (more.map (unit :: ·)).widen (by simp only [List.length_cons]; omega)
  | '\\' :: c :: rest => do
    let c ← escaped? c
    let more ← readUnits rest
    return (more.map (c.toNat :: ·)).widen (by simp only [List.length_cons]; omega)
  | c :: rest =>
    if c.toNat < 0x20 ∨ c = '\\' then none
    else do
      let more ← readUnits rest
      return (more.map (c.toNat :: ·)).later

/-- The first half of a surrogate pair. -/
def isHighHalf (n : Nat) : Bool := 0xD800 ≤ n && n < 0xDC00

/-- The second half of a surrogate pair. -/
def isLowHalf (n : Nat) : Bool := 0xDC00 ≤ n && n < 0xE000

/-- The characters of code points and of pairs of halves. A half on its own is no character. -/
def joinUnits : List Nat → Option (List Char)
  | [] => some []
  | [n] => if isHighHalf n || isLowHalf n then none else some [Char.ofNat n]
  | n :: m :: rest =>
    if isHighHalf n then
      if isLowHalf m then
        (joinUnits rest).map (Char.ofNat (0x10000 + (n - 0xD800) * 0x400 + (m - 0xDC00)) :: ·)
      else none
    else if isLowHalf n then none
    else (joinUnits (m :: rest)).map (Char.ofNat n :: ·)

/-- The text up to the closing quote, unless it is broken, and what follows the quote. -/
def readString (cs : List Char) : Option (Taken (Option String) cs.length) :=
  (readUnits cs).map (·.map fun units ↦ (joinUnits units).map .ofList)

/-- The fraction that comes next, if there is one, and what follows it. -/
def readFraction (cs : List Char) : Option (List Char × List Char) :=
  match cs with
  | '.' :: rest =>
    let ds := rest.takeWhile Char.isDigit
    if ds = [] then none else some ('.' :: ds, rest.dropWhile Char.isDigit)
  | _ => some ([], cs)

/-- The exponent that comes next, if there is one, and what follows it. -/
def readExponent (cs : List Char) : Option (List Char × List Char) :=
  match cs with
  | e :: rest =>
    if e = 'e' ∨ e = 'E' then
      let (sign, rest) := match rest with
        | '+' :: rest => (['+'], rest)
        | '-' :: rest => (['-'], rest)
        | rest => ([], rest)
      let ds := rest.takeWhile Char.isDigit
      if ds = [] then none else some (e :: sign ++ ds, rest.dropWhile Char.isDigit)
    else some ([], cs)
  | [] => some ([], [])

/-- The characters of the number that comes next. No zero stands before other digits. -/
def numberText? (cs : List Char) : Option (List Char) := do
  let (sign, rest) := match cs with
    | '-' :: rest => (['-'], rest)
    | rest => ([], rest)
  let whole := rest.takeWhile Char.isDigit
  if whole = [] ∨ (whole.head? = some '0' ∧ whole.length > 1) then none
  else
    let (fraction, rest) ← readFraction (rest.dropWhile Char.isDigit)
    let (exponent, _) ← readExponent rest
    return sign ++ whole ++ fraction ++ exponent

/-- The number that comes next. -/
def readNumber (cs : List Char) : Option (Taken Json cs.length) := do
  let text ← numberText? cs
  let rest := cs.drop text.length
  if h : rest.length < cs.length then some ⟨number (.ofList text), rest, h⟩ else none

/-- The value that the word of characters `c :: word` stands for, if it comes next. -/
def readWord (c : Char) (word : List Char) (value : Json) (cs : List Char) :
    Option (Taken Json cs.length) :=
  (after? (c :: word) cs).map fun rest ↦ ⟨value, rest.1, by
    have := rest.2
    simp only [List.length_cons] at this
    omega⟩

/-! ### The grammar -/

mutual

/-- The value that comes next after blanks. -/
def readValue (cs : List Char) : Option (Taken Json cs.length) :=
  have blanks := length_skipBlanks_le cs
  match h : skipBlanks cs with
  | '"' :: rest => do
    let s ← readString rest
    return (s.map fun s ↦ (s.map text).getD broken).widen (by
      rw [h] at blanks
      exact Nat.le_of_lt blanks)
  | '[' :: rest => do
    have bound : rest.length < cs.length := by
      rw [h] at blanks
      exact blanks
    match h' : skipBlanks rest with
    | ']' :: rest' => return ⟨array [], rest', by
        have := length_skipBlanks_le rest
        rw [h'] at this
        simp only [List.length_cons] at this
        omega⟩
    | _ =>
      let items ← readItems rest
      return (items.map array).widen (Nat.le_of_lt bound)
  | '\x7b' :: rest => do
    have bound : rest.length < cs.length := by
      rw [h] at blanks
      exact blanks
    match h' : skipBlanks rest with
    | '\x7d' :: rest' => return ⟨object [], rest', by
        have := length_skipBlanks_le rest
        rw [h'] at this
        simp only [List.length_cons] at this
        omega⟩
    | _ =>
      let members ← readMembers rest
      return (members.map fun ms ↦ (ms.map object).getD broken).widen (Nat.le_of_lt bound)
  | 'n' :: rest =>
    (readWord 'n' ['u', 'l', 'l'] null ('n' :: rest)).map (·.widen (h ▸ blanks))
  | 't' :: rest =>
    (readWord 't' ['r', 'u', 'e'] (bool true) ('t' :: rest)).map (·.widen (h ▸ blanks))
  | 'f' :: rest =>
    (readWord 'f' ['a', 'l', 's', 'e'] (bool false) ('f' :: rest)).map (·.widen (h ▸ blanks))
  | rest => (readNumber rest).map (·.widen (h ▸ blanks))
termination_by 2 * cs.length

/-- The items that come next, at least one, and what follows the closing bracket. -/
def readItems (cs : List Char) : Option (Taken (List Json) cs.length) := do
  let item ← readValue cs
  have bound := item.shorter
  have blanks := length_skipBlanks_le item.rest
  match h : skipBlanks item.rest with
  | ',' :: rest =>
    have shorter : rest.length < cs.length := by
      rw [h] at blanks
      simp only [List.length_cons] at blanks
      omega
    let items ← readItems rest
    return (items.map (item.value :: ·)).widen (Nat.le_of_lt shorter)
  | ']' :: rest => return ⟨[item.value], rest, by
      rw [h] at blanks
      simp only [List.length_cons] at blanks
      omega⟩
  | _ => none
termination_by 2 * cs.length + 1

/-- The members that come next, at least one, and what follows the closing brace. The list is
missing if one of the names is broken. -/
def readMembers (cs : List Char) : Option (Taken (Option (List (String × Json))) cs.length) := do
  have blanks := length_skipBlanks_le cs
  match h : skipBlanks cs with
  | '"' :: rest =>
    let name ← readString rest
    have bound := name.shorter
    have blanks' := length_skipBlanks_le name.rest
    match h' : skipBlanks name.rest with
    | ':' :: rest' =>
      have shorter : rest'.length < cs.length := by
        rw [h] at blanks
        rw [h'] at blanks'
        simp only [List.length_cons] at blanks blanks'
        omega
      let value ← readValue rest'
      have bound' := value.shorter
      have blanks'' := length_skipBlanks_le value.rest
      let member := name.value.map (·, value.value)
      match h'' : skipBlanks value.rest with
      | ',' :: rest'' =>
        have shorter' : rest''.length < cs.length := by
          rw [h''] at blanks''
          simp only [List.length_cons] at blanks''
          omega
        let members ← readMembers rest''
        return (members.map fun ms ↦ do return (← member) :: (← ms)).widen (Nat.le_of_lt shorter')
      | '\x7d' :: rest'' => return ⟨member.map ([·]), rest'', by
          rw [h''] at blanks''
          simp only [List.length_cons] at blanks''
          omega⟩
      | _ => none
    | _ => none
  | _ => none
termination_by 2 * cs.length + 1

end

/-- The value that a whole text denotes. -/
def ofText? (s : String) : Option Json := do
  let value ← readValue s.toList
  if skipBlanks value.rest = [] then some value.value else none

end MarkupRecords.Json
