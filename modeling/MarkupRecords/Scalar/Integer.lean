import MarkupRecords.Text.Blank

/-!
Whole numbers in 64 bits. `Integer.ofText?` reads the signed numeral a text starts with and
`Integer.text` writes a number in decimal. The digits of a numeral have to fit in 64 bits by
themselves, before the sign is looked at, so the least number of the type can be written but not
read. `Integer.add?` and `Integer.mul?` give no result where the exact one does not fit.
-/

set_option autoImplicit false
set_option relaxedAutoImplicit false

namespace MarkupRecords.Integer

/-- The largest number in 64 bits. -/
def largest : Nat := UInt64.size / 2 - 1

/-- An integer in 64 bits, if it fits. -/
def ofInt? (z : Int) : Option Int64 :=
  if Int64.minValue.toInt ≤ z ∧ z ≤ Int64.maxValue.toInt then some (Int64.ofInt z) else none

/-- The sum of two numbers, if it fits. -/
def add? (a b : Int64) : Option Int64 := ofInt? (a.toInt + b.toInt)

/-- The product of two numbers, if it fits. -/
def mul? (a b : Int64) : Option Int64 := ofInt? (a.toInt * b.toInt)

/-- The number that a run of decimal digits denotes, unless there are no digits or it does not
fit. -/
def ofDigits? (digits : List Char) : Option Int64 :=
  if digits = [] then none else ofInt? (Nat.ofDigitChars 10 digits 0)

/-- Splits a sign off a numeral; a numeral without one is positive. -/
def splitSign : List Char → Int64 × List Char
  | '-' :: digits => (-1, digits)
  | '+' :: digits => (1, digits)
  | digits => (1, digits)

/-- The number that stands at the start of a text, after blanks: a sign or none, and all digits
that follow. -/
def ofText? (s : String) : Option Int64 :=
  let (sign, rest) := splitSign (Text.trimStart s.toList)
  (ofDigits? (rest.takeWhile Char.isDigit)).map (sign * ·)

/-- The decimal digits of an integer, after a minus sign if it is negative. -/
def digits (n : Int) : List Char :=
  if n < 0 then '-' :: Nat.toDigits 10 n.natAbs else Nat.toDigits 10 n.natAbs

/-- A number in decimal. -/
def text (n : Int64) : String := .ofList (digits n.toInt)

/-- The count of something as a number of this type; a count beyond `largest` becomes `largest`. -/
def ofCount (n : Nat) : Int64 := Int64.ofInt (min n largest)

end MarkupRecords.Integer
