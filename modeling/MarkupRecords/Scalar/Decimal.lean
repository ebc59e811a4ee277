/-!
Decimal numbers as text. `Decimal.ofText?` reads a sign, digits with a point among, before or after
them, and an exponent, and also the words for infinity and for what is no number; the text has to
be used up. `Decimal.toFloat` rounds to the nearest floating-point number.
-/

set_option autoImplicit false
set_option relaxedAutoImplicit false

namespace MarkupRecords

/-- A number as it is written in decimal. -/
inductive Decimal where
  /-- The number `mantissa * 10 ^ exponent`, with a sign also on zero. -/
  | finite (negative : Bool) (mantissa : Nat) (exponent : Int)
  | infinite (negative : Bool)
  /-- What is no number. -/
  | undefined
deriving DecidableEq

namespace Decimal

/-- The digits before and after the point, and the rest. There has to be a digit. -/
def splitPoint (cs : List Char) : Option (List Char × List Char × List Char) :=
  let whole := cs.takeWhile Char.isDigit
  let (fraction, rest) := match cs.dropWhile Char.isDigit with
    | '.' :: rest => (rest.takeWhile Char.isDigit, rest.dropWhile Char.isDigit)
    | rest => ([], rest)
  if whole = [] ∧ fraction = [] then none else some (whole, fraction, rest)

/-- The exponent that makes up the whole of a text, which is zero if the text is empty. -/
def exponent? : List Char → Option Int
  | [] => some 0
  | e :: rest =>
    if e = 'e' ∨ e = 'E' then
      let (negative, ds) := match rest with
        | '-' :: ds => (true, ds)
        | '+' :: ds => (false, ds)
        | ds => (false, ds)
      if ds ≠ [] ∧ ds.all Char.isDigit then
        let n : Int := Nat.ofDigitChars 10 ds 0
        some (if negative then -n else n)
      else none
    else none

/-- The number without its sign. -/
def unsigned? (negative : Bool) (cs : List Char) : Option Decimal :=
  let word := cs.map Char.toLower
  if word = "inf".toList ∨ word = "infinity".toList then some (infinite negative)
  else if word = "nan".toList then some undefined
  else do
    let (whole, fraction, rest) ← splitPoint cs
    let e ← exponent? rest
    return finite negative (Nat.ofDigitChars 10 (whole ++ fraction) 0) (e - fraction.length)

/-- The number that a text denotes. -/
def ofText? : List Char → Option Decimal
  | '-' :: cs => unsigned? true cs
  | '+' :: cs => unsigned? false cs
  | cs => unsigned? false cs

/-- The nearest floating-point number to `mantissa * 10 ^ exponent`. Beyond the powers of ten that
the format reaches it is infinity or zero. -/
def magnitude (mantissa : Nat) (exponent : Int) : Float :=
  let size := (Nat.toDigits 10 mantissa).length + exponent
  if mantissa = 0 ∨ size < -330 then 0.0
  else if size > 310 then 1.0 / 0.0
  else Float.ofScientific mantissa (exponent < 0) exponent.natAbs

/-- The nearest floating-point number. -/
def toFloat : Decimal → Float
  | finite negative m e => if negative then -(magnitude m e) else magnitude m e
  | infinite negative => if negative then -(1.0 / 0.0) else 1.0 / 0.0
  | undefined => 0.0 / 0.0

end Decimal

end MarkupRecords
