import MarkupRecords.Text.CharSet

/-!
Blank characters and trimming. A character is blank if it has the Unicode property White_Space.
`trimStart` and `trimEnd` take the blanks off one end of a text and `trim` off both; the versions on
`String` go through the list of characters, so that `trimmed_toList` reduces one to the other.
-/

set_option autoImplicit false
set_option relaxedAutoImplicit false

namespace MarkupRecords.Text

/-- Characters with the property White_Space. -/
def blanks : CharSet := .ofRanges [
  (0x9, 0xD), (0x20, 0x20), (0x85, 0x85), (0xA0, 0xA0), (0x1680, 0x1680), (0x2000, 0x200A),
  (0x2028, 0x2029), (0x202F, 0x202F), (0x205F, 0x205F), (0x3000, 0x3000)]

/-- Whether a character is white space. -/
def isBlank (c : Char) : Bool := blanks.contains c

/-- A text without the characters at its start that satisfy `p`. -/
def dropStart (p : Char → Bool) (cs : List Char) : List Char := cs.dropWhile p

/-- A text without the characters at its end that satisfy `p`. -/
def dropEnd (p : Char → Bool) (cs : List Char) : List Char := (cs.reverse.dropWhile p).reverse

/-- A text without its leading blanks. -/
def trimStart (cs : List Char) : List Char := dropStart isBlank cs

/-- A text without its trailing blanks. -/
def trimEnd (cs : List Char) : List Char := dropEnd isBlank cs

/-- A text without its leading and trailing blanks. -/
def trim (cs : List Char) : List Char := trimEnd (trimStart cs)

/-- `trim` on strings. -/
def trimmed (s : String) : String := .ofList (trim s.toList)

/-- Whether a text consists of blanks only; the empty text does. -/
def isBlankText (s : String) : Bool := s.toList.all isBlank

@[simp] theorem trimmed_toList (s : String) : (trimmed s).toList = trim s.toList := by
  simp [trimmed]

end MarkupRecords.Text
