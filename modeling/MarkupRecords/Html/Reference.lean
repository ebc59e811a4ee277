import MarkupRecords.Html.Reference.Table

/-!
Character references in HTML. `reference?` reads what follows an ampersand: a number in decimal or
hexadecimal, or the longest name that fits. `expand` replaces the references in a text and leaves
every other ampersand as it is, so that it takes any text.
-/

set_option autoImplicit false
set_option relaxedAutoImplicit false

namespace MarkupRecords.Html

/-- The character that stands for what cannot be read. -/
def replacement : Char := '\uFFFD'

/-- The code points that the numbers from 0x80 to 0x9F stand for; zero where the number stands for
itself. -/
def controlCodes : List Nat := [
  0x20AC, 0, 0x201A, 0x192, 0x201E, 0x2026, 0x2020, 0x2021, 0x2C6, 0x2030, 0x160, 0x2039, 0x152, 0,
  0x17D, 0, 0, 0x2018, 0x2019, 0x201C, 0x201D, 0x2022, 0x2013, 0x2014, 0x2DC, 0x2122, 0x161, 0x203A,
  0x153, 0, 0x17E, 0x178]

/-- The character that a number stands for. Zero and numbers that are no character give the
replacement character. -/
def numbered (n : Nat) : Char :=
  if n = 0 ∨ ¬ n.isValidChar then replacement
  else if 0x80 ≤ n ∧ n ≤ 0x9F then
    match controlCodes[n - 0x80]? with
    | none | some 0 => .ofNat n
    | some code => .ofNat code
  else .ofNat n

/-- The value of a digit in a base up to 16. -/
def digitIn? (base : Nat) (c : Char) : Option Nat :=
  let n := if c.isDigit then c.toNat - '0'.toNat
    else if 'a' ≤ c ∧ c ≤ 'f' then c.toNat - 'a'.toNat + 10
    else if 'A' ≤ c ∧ c ≤ 'F' then c.toNat - 'A'.toNat + 10
    else base
  if n < base then some n else none

/-- A reference by number: its characters, and how many characters it takes up. `taken` stand before
the digits, and a semicolon after them belongs to the reference. -/
def numericReference? (base taken : Nat) (cs : List Char) : Option (List Char × Nat) :=
  let digits := cs.takeWhile fun c ↦ (digitIn? base c).isSome
  if digits.isEmpty then none
  else
    let n := (digits.filterMap (digitIn? base)).foldl (fun n d ↦ min (base * n + d) 0x110000) 0
    let closing := if cs[digits.length]? = some ';' then 1 else 0
    some ([numbered n], taken + digits.length + closing)

/-- How many characters of a text a name takes up, if the text begins with `initial` and `cs`, and
the name with `initial` and `tail`. The semicolon after the name counts, and has to be there unless
the name is one of the old ones. -/
def nameLength? (initial : Char) (tail : String) (cs : List Char) : Option Nat :=
  if tail.toList.isPrefixOf cs then
    if cs[tail.length]? = some ';' then some (tail.length + 2)
    else if legacyNames.contains (.singleton initial ++ tail) then some (tail.length + 1)
    else none
  else none

/-- The longest name that a text begins with: its characters and its length. -/
def longestName? (cs : List Char) : Option (List Char × Nat) :=
  match cs with
  | [] => none
  | c :: cs =>
    (namedIn c).foldl (fun best (tail, codes) ↦
      match nameLength? c tail cs with
      | none => best
      | some n =>
        match best with
        | some (_, m) => if m < n then some (codes.map Char.ofNat, n) else best
        | none => some (codes.map Char.ofNat, n)) none

/-- A reference by name: its characters and its length. In the value of an attribute a name without
semicolon is no reference if an equals sign, a letter or a digit follows it. -/
def namedReference? (inValue : Bool) (cs : List Char) : Option (List Char × Nat) :=
  (longestName? cs).filter fun (_, n) ↦
    !inValue || cs[n - 1]? == some ';' || !(cs[n]?).any fun c ↦ c = '=' || c.isAlphanum

/-- The reference that an ampersand before `cs` begins: the characters it stands for, and how many
characters of `cs` belong to it. -/
def reference? (inValue : Bool) (cs : List Char) : Option (List Char × Nat) :=
  match cs with
  | '#' :: 'x' :: cs | '#' :: 'X' :: cs => numericReference? 16 2 cs
  | '#' :: cs => numericReference? 10 1 cs
  | cs => namedReference? inValue cs

/-- Whether a text begins with a reference that no semicolon ends. -/
def beginsUnclosed : List Char → Bool
  | '&' :: cs => (reference? false cs).any fun (_, length) ↦ cs[length - 1]? != some ';'
  | _ => false

/-- Replaces the references in a text whose first `skipped` characters belong to a reference that
has been replaced. -/
def expandAfter (inValue : Bool) : (skipped : Nat) → List Char → List Char
  | _, [] => []
  | skipped + 1, _ :: cs => expandAfter inValue skipped cs
  | 0, c :: cs =>
    match if c = '&' then reference? inValue cs else none with
    | some (found, length) => found ++ expandAfter inValue length cs
    | none => c :: expandAfter inValue 0 cs

/-- Replaces the references in a text, which may be the value of an attribute. -/
def expand (inValue : Bool) (cs : List Char) : List Char := expandAfter inValue 0 cs

end MarkupRecords.Html
