import MarkupRecords.Scalar.Integer

/-!
Durations in seconds. `Duration.ofText?` reads a plain number of seconds, minutes and seconds
(`3:12`), hours, minutes and seconds (`1:12:42`), and the forms `PT3M12S` and `PT1H3M12S`. All
arithmetic is in 64 bits: `Duration.total?` gives no total if a step on the way to it does not fit.
-/

set_option autoImplicit false
set_option relaxedAutoImplicit false

namespace MarkupRecords.Duration

/-- The total of hours, minutes and seconds, in seconds, if every product and sum on the way
fits. -/
def total? (h m s : Int64) : Option Int64 := do
  let hours ← Integer.mul? h 3600
  let minutes ← Integer.mul? m 60
  Integer.add? (← Integer.add? hours minutes) s

/-- The number that a text denotes if it consists of at least one and at most `width` digits. -/
def numeral? (width : Option Nat) (cs : List Char) : Option Int64 :=
  if cs.all Char.isDigit ∧ width.all (cs.length ≤ ·) then Integer.ofDigits? cs else none

/-- The total of three numerals. Those of minutes and seconds have at most `width` digits. -/
def numeralTotal? (width : Option Nat) (h m s : List Char) : Option Int64 := do
  total? (← numeral? none h) (← numeral? width m) (← numeral? width s)

/-- Splits a text at the first `sep`, which belongs to neither part. -/
def splitAt? (sep : Char) (cs : List Char) : Option (List Char × List Char) :=
  match cs.dropWhile (· ≠ sep) with
  | [] => none
  | _ :: rest => some (cs.takeWhile (· ≠ sep), rest)

/-- Reads `H:M:S`. Minutes and seconds have one or two digits each. -/
def clockSeconds? (cs : List Char) : Option Int64 := do
  let (h, rest) ← splitAt? ':' cs
  let (m, s) ← splitAt? ':' rest
  numeralTotal? (some 2) h m s

/-- Reads `H…M…S` with the letters after the numbers, and nothing more. -/
def letteredSeconds? (cs : List Char) : Option Int64 := do
  let (h, rest) ← splitAt? 'H' cs
  let (m, rest) ← splitAt? 'M' rest
  let (s, rest) ← splitAt? 'S' rest
  if rest = [] then numeralTotal? none h m s else none

/-- Reads `H:M:S`, or `M:S` if there is only one colon. -/
def colonSeconds? (cs : List Char) : Option Int64 :=
  clockSeconds? (if cs.count ':' = 1 then '0' :: '0' :: ':' :: cs else cs)

/-- Reads what follows `PT` in `PT…H…M…S`, where the hours may be left out. -/
def designatedSeconds? (cs : List Char) : Option Int64 :=
  letteredSeconds? (if cs.contains 'H' then cs else '0' :: 'H' :: cs)

/-- The number of seconds that a text without surrounding blanks denotes. -/
def seconds? (cs : List Char) : Option Int64 :=
  if cs.all Char.isDigit then numeral? none cs
  else if cs.contains ':' then colonSeconds? cs
  else
    match cs with
    | 'P' :: 'T' :: rest => designatedSeconds? rest
    | _ => none

/-- The number of seconds that a text denotes, if it fits in 64 bits. -/
def ofText? (s : String) : Option Int64 := seconds? (Text.trim s.toList)

end MarkupRecords.Duration
