/-!
References in XML text. `expand` replaces `&…;` by the character it stands for: one of the five
predefined names, or a code point in decimal or hexadecimal. Anything else is a `ReferenceFault`,
which gives places in the text by their offset in bytes.
-/

set_option autoImplicit false
set_option relaxedAutoImplicit false

namespace MarkupRecords.Xml

/-- The number of bytes of a text in UTF-8. -/
def byteLength : List Char → Nat
  | [] => 0
  | c :: cs => c.utf8Size + byteLength cs

/-- What is wrong with a reference. -/
inductive ReferenceFault where
  /-- No such name is defined; the offsets are those of the name. -/
  | unknown (first last : Nat) (name : String)
  /-- There is no semicolon; the offsets are those of the ampersand and the end of the text. -/
  | unfinished (first last : Nat)
  | signed
  | noDigits
  | badDigit
  | tooLarge
  | noCharacter (code : Nat)
  | nullCharacter
deriving DecidableEq, Repr

/-- A fault of a reference in words. -/
def ReferenceFault.message : ReferenceFault → String
  | unknown first last name =>
    "at " ++ toString first ++ ".." ++ toString last ++ ": unrecognized entity `" ++ name ++ "`"
  | unfinished first last =>
    "Error while escaping character at range " ++ toString first ++ ".." ++ toString last ++
      ": Cannot find ';' after '&'"
  | signed => "invalid character reference: unexpected number sign"
  | noDigits => "invalid character reference: cannot parse integer from empty string"
  | badDigit => "invalid character reference: invalid digit found in string"
  | tooLarge => "invalid character reference: number too large to fit in target type"
  | noCharacter code =>
    "invalid character reference: `" ++ toString code ++ "` is not a valid codepoint"
  | nullCharacter => "invalid character reference: 0x0 character is not permitted in XML"

/-- The value of a digit in a base up to 16. -/
def digit? (base : Nat) (c : Char) : Option Nat :=
  let n := if c.isDigit then some (c.toNat - '0'.toNat)
    else if 'a' ≤ c ∧ c ≤ 'f' then some (c.toNat - 'a'.toNat + 10)
    else if 'A' ≤ c ∧ c ≤ 'F' then some (c.toNat - 'A'.toNat + 10)
    else none
  n.filter (· < base)

/-- The number that digits denote after those that gave `n`. It has to stay within 32 bits, and the
first digit at which something goes wrong decides what is reported. -/
def number (base : Nat) (n : Nat) : List Char → Except ReferenceFault Nat
  | [] => .ok n
  | c :: cs =>
    match digit? base c with
    | none => .error .badDigit
    | some d =>
      if base * n + d < UInt32.size then number base (base * n + d) cs else .error .tooLarge

/-- The number that a whole text of digits denotes. -/
def unsigned (base : Nat) (cs : List Char) : Except ReferenceFault Nat :=
  match cs with
  | [] => .error .noDigits
  | '+' :: _ | '-' :: _ => .error .signed
  | cs => number base 0 cs

/-- The character that the text between `&#` and the semicolon refers to. -/
def codePoint (cs : List Char) : Except ReferenceFault Char := do
  let n ← match cs with
    | 'x' :: digits => unsigned 16 digits
    | digits => unsigned 10 digits
  if n = 0 then throw .nullCharacter
  else if n.isValidChar then return Char.ofNat n
  else throw (.noCharacter n)

/-- The characters with a name. -/
def predefined : List (String × Char) :=
  [("lt", '<'), ("gt", '>'), ("amp", '&'), ("apos", '\''), ("quot", '"')]

/-- The character that the text between `&` and the semicolon refers to; the text begins at the
offset `first`. -/
def resolve (first : Nat) (cs : List Char) : Except ReferenceFault Char :=
  match cs with
  | '#' :: cs => codePoint cs
  | cs =>
    match predefined.lookup (.ofList cs) with
    | some c => .ok c
    | none => .error (.unknown first (first + byteLength cs) (.ofList cs))

/-- What follows a reference is shorter than the text in which the reference stands. -/
theorem length_after_lt {p q : Char → Bool} {cs rest after : List Char} {c d : Char}
    (h : cs.dropWhile p = c :: rest) (h' : rest.dropWhile q = d :: after) :
    after.length < cs.length := by
  have h₁ := (List.dropWhile_sublist (l := cs) p).length_le
  have h₂ := (List.dropWhile_sublist (l := rest) q).length_le
  rw [h, List.length_cons] at h₁
  rw [h', List.length_cons] at h₂
  omega

/-- Replaces the references in a text whose end has the offset `total`. -/
def expandUpTo (total : Nat) (cs : List Char) : Except ReferenceFault (List Char) :=
  let plain := cs.takeWhile (· ≠ '&')
  match h : cs.dropWhile (· ≠ '&') with
  | [] => .ok plain
  | amp :: rest =>
    let body := rest.takeWhile fun c ↦ c ≠ '&' && c ≠ ';'
    match h' : rest.dropWhile fun c ↦ c ≠ '&' && c ≠ ';' with
    | ';' :: after => do
      let c ← resolve (total - byteLength rest) body
      have := length_after_lt h h'
      return plain ++ c :: (← expandUpTo total after)
    | _ => .error (.unfinished (total - byteLength (amp :: rest)) total)
termination_by cs.length

/-- Replaces the references in a text. -/
def expand (s : String) : Except ReferenceFault String :=
  (expandUpTo s.utf8ByteSize s.toList).map .ofList

end MarkupRecords.Xml
