import MarkupRecords.Text.Casing.Table

/-!
Case conversion by the full mappings of Unicode. `upper` and `lower` convert a single character and
may give several; `upcase`, `downcase` and `capitalize` convert a text. In `downcase` a capital
sigma at the end of a word becomes the final form `ς`, which is the only mapping that depends on
the neighbours; `capitalize` maps character by character and never gives that form.
-/

set_option autoImplicit false
set_option relaxedAutoImplicit false

namespace MarkupRecords.Text

/-- The image of a code point under a shift, if the shift moves it. -/
def Shift.image? (s : Shift) (n : Nat) : Option Nat :=
  if s.first ≤ n ∧ n ≤ s.last ∧ (n - s.first) % s.stride = 0 then some (n + s.distance).toNat
  else none

/-- Converts one character by a list of shifts and a list of mappings to several characters. A
character that neither of them mentions stays as it is. -/
def convert (shifts : List Shift) (specials : List (Nat × List Nat)) (c : Char) : List Char :=
  match specials.lookup c.toNat with
  | some image => image.map Char.ofNat
  | none => [Char.ofNat ((shifts.findSome? (·.image? c.toNat)).getD c.toNat)]

/-- The upper-case form of one character. -/
def upper (c : Char) : List Char := convert upperShifts upperSpecials c

/-- The lower-case form of one character. -/
def lower (c : Char) : List Char := convert lowerShifts lowerSpecials c

/-- Whether a cased character comes next once case-ignorable ones are skipped. -/
def meetsCased (cs : List Char) : Bool :=
  (cs.dropWhile caseIgnorable.contains).head?.any cased.contains

/-- Converts a text to upper case. -/
def upcase (s : String) : String := .ofList (s.toList.flatMap upper)

/-- The lower-case form of a text whose preceding characters, nearest first, are `before`. A
capital sigma ends a word if a cased character stands before it and none after it, case-ignorable
characters aside. -/
def downcaseAfter (before : List Char) : List Char → List Char
  | [] => []
  | c :: cs =>
    let image := if c = 'Σ' then
        (if meetsCased before && !meetsCased cs then ['ς'] else ['σ'])
      else lower c
    image ++ downcaseAfter (c :: before) cs

/-- Converts a text to lower case. -/
def downcase (s : String) : String := .ofList (downcaseAfter [] s.toList)

/-- Converts the first character of a text to upper case and each other one to lower case. -/
def capitalize (s : String) : String :=
  match s.toList with
  | [] => ""
  | c :: cs => .ofList (upper c ++ cs.flatMap lower)

end MarkupRecords.Text
