import MarkupRecords.Scalar.Date

/-!
Reading dates. A notation is a list of `DateField`s, read from left to right by `DateField.read`;
`dateNotations` lists those that are tried, in this order. `Date.ofText?` also knows eight digits
without separators, and takes the first ten bytes of a time stamp.
-/

set_option autoImplicit false
set_option relaxedAutoImplicit false

namespace MarkupRecords

/-- One item of a notation for dates. -/
inductive DateField where
  /-- A signed year, or one of at most four digits. -/
  | year
  /-- A month of at most two digits. -/
  | month
  /-- The name of a month, in full or its first three letters. -/
  | monthName
  /-- A day of at most two digits. -/
  | day
  /-- Blanks, possibly none. -/
  | gap
  /-- The character itself. -/
  | mark (c : Char)
deriving DecidableEq

/-- Year, month and day as far as they have been read. -/
structure DateParts where
  year : Int := 0
  month : Nat := 0
  day : Nat := 0

namespace DateField

/-- The names of the months, January first, each split after its third letter. -/
def monthNames : List (List Char × List Char) :=
  [("jan", "uary"), ("feb", "ruary"), ("mar", "ch"), ("apr", "il"), ("may", ""), ("jun", "e"),
    ("jul", "y"), ("aug", "ust"), ("sep", "tember"), ("oct", "ober"), ("nov", "ember"),
    ("dec", "ember")].map fun name ↦ (name.1.toList, name.2.toList)

/-- What follows `word` at the start of a text, upper and lower case being the same. -/
def skipWord? (word cs : List Char) : Option (List Char) :=
  if (cs.take word.length).map Char.toLower = word then some (cs.drop word.length) else none

/-- The number of the month whose name comes next, and the rest. The full name is preferred. -/
def readMonthName (cs : List Char) : Option (Nat × List Char) :=
  monthNames.zipIdx.findSome? fun (name, i) ↦
    (skipWord? name.1 cs).map fun rest ↦ (i + 1, (skipWord? name.2 rest).getD rest)

/-- The number that comes next and the rest: one digit or more, at most `width` if that is given. -/
def readDigits (width : Option Nat) (cs : List Char) : Option (Nat × List Char) :=
  let ds := (match width with
    | some w => cs.take w
    | none => cs).takeWhile Char.isDigit
  if ds = [] then none else some (Nat.ofDigitChars 10 ds 0, cs.drop ds.length)

/-- The number of a field of digits, which may follow blanks. -/
def readNumber (width : Nat) (cs : List Char) : Option (Nat × List Char) :=
  readDigits (some width) (Text.trimStart cs)

/-- The year that comes next, which may follow blanks. With a sign it has any number of digits. -/
def readYear (cs : List Char) : Option (Int × List Char) :=
  match Text.trimStart cs with
  | '-' :: rest => (readDigits none rest).map fun (n, rest) ↦ (-n, rest)
  | '+' :: rest => (readDigits none rest).map fun (n, rest) ↦ (n, rest)
  | rest => (readDigits (some 4) rest).map fun (n, rest) ↦ (n, rest)

/-- Reads a whole text field by field. -/
def read : List DateField → List Char → DateParts → Option DateParts
  | [], cs, parts => if cs = [] then some parts else none
  | .year :: fields, cs, parts => do
    let (n, rest) ← readYear cs
    read fields rest { parts with year := n }
  | .month :: fields, cs, parts => do
    let (n, rest) ← readNumber 2 cs
    read fields rest { parts with month := n }
  | .monthName :: fields, cs, parts => do
    let (n, rest) ← readMonthName cs
    read fields rest { parts with month := n }
  | .day :: fields, cs, parts => do
    let (n, rest) ← readNumber 2 cs
    read fields rest { parts with day := n }
  | .gap :: fields, cs, parts => read fields (Text.trimStart cs) parts
  | .mark c :: fields, cs, parts =>
    match cs with
    | d :: rest => if c = d then read fields rest parts else none
    | [] => none

end DateField

namespace Date

/-- Year, month and day with hyphens. -/
def hyphenated : List DateField := [.year, .mark '-', .month, .mark '-', .day]

/-- The notations that are tried, in order. -/
def dateNotations : List (List DateField) := [
  hyphenated,
  [.year, .mark '/', .month, .mark '/', .day],
  [.day, .mark '.', .month, .mark '.', .year],
  [.monthName, .gap, .day, .mark ',', .gap, .year],
  [.day, .gap, .monthName, .gap, .year]]

/-- The date that a text denotes in one notation. -/
def readAs (fields : List DateField) (cs : List Char) : Option Date := do
  let parts ← DateField.read fields cs { }
  ofYmd? parts.year parts.month parts.day

/-- Splits a text after its first `n` bytes in UTF-8, unless a character lies across that place. -/
def splitAtByte? : Nat → List Char → Option (List Char × List Char)
  | 0, cs => some ([], cs)
  | _ + 1, [] => none
  | n + 1, c :: cs =>
    if c.utf8Size ≤ n + 1 then
      (splitAtByte? (n + 1 - c.utf8Size) cs).map fun (front, rest) ↦ (c :: front, rest)
    else none
termination_by n => n
decreasing_by
  have := Char.utf8Size_pos c
  omega

/-- Reads eight digits as year, month and day. -/
def readCompact (cs : List Char) : Option Date :=
  readAs hyphenated (cs.take 4 ++ '-' :: (cs.drop 4).take 2 ++ '-' :: cs.drop 6)

/-- Reads the date of a time stamp, which is the part before a `T` or a space at the eleventh
byte. -/
def readStamp (cs : List Char) : Option Date :=
  match splitAtByte? 10 cs with
  | some (front, 'T' :: _) | some (front, ' ' :: _) => readAs hyphenated front
  | _ => none

/-- The date that a text denotes. -/
def ofText? (s : String) : Option Date :=
  let cs := Text.trim s.toList
  match dateNotations.findSome? (readAs · cs) with
  | some d => some d
  | none =>
    if cs.length = 8 ∧ cs.all Char.isDigit then readCompact cs else readStamp cs

end Date

end MarkupRecords
