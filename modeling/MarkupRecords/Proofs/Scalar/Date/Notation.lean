import MarkupRecords.Proofs.Selector.Character
import MarkupRecords.Proofs.Text.Ends
import MarkupRecords.Scalar.Date.Reading

/-!
How the notations for dates read digits. `Date.IsNumber` says which number digits denote. A field
of a date takes as many of them as it has room for and leaves what follows
(`DateField.readNumber_append`, `DateField.readYear_yearDigits`). From this it follows which texts a
whole notation reads (`Date.readAs_yearFirst`, `Date.readAs_dayFirst`) and, from the first
characters alone, which ones it does not; and that every date is read back from its text
(`Date.ofText?_text`).
-/

set_option autoImplicit false
set_option relaxedAutoImplicit false

namespace MarkupRecords

open Text (Stops)

/-! ### Numbers in decimal digits -/

/-- Decimal digits, at least one of them, for a number. -/
structure Date.IsNumber (cs : List Char) (n : Nat) : Prop where
  ne_nil : cs ≠ []
  digits : ∀ c ∈ cs, c.isDigit = true
  value : Nat.ofDigitChars 10 cs 0 = n

namespace Date

theorem isNumber_padded (width n : Nat) : IsNumber (padded width n) n where
  ne_nil := List.append_ne_nil_of_right_ne_nil _ Nat.toDigits_ne_nil
  digits c hc := by
    rcases List.mem_append.mp hc with hc | hc
    · rw [(List.mem_replicate.mp hc).2]
      rfl
    · exact Nat.isDigit_of_mem_toDigits (by decide) (by decide) hc
  value := by
    rw [padded, Nat.ofDigitChars_append, Nat.ofDigitChars_replicate_zero, Nat.mul_zero,
      Nat.ofDigitChars_ten_toDigits]

/-- A number that needs no more digits than asked for is written with exactly as many. -/
theorem length_padded {width n : Nat} (h : (Nat.toDigits 10 n).length ≤ width) :
    (padded width n).length = width := by
  rw [padded, List.length_append, List.length_replicate]
  exact Nat.sub_add_cancel h

theorem length_year {year : Nat} (hyear : year ≤ 9999) : (padded 4 year).length = 4 :=
  length_padded ((Nat.length_toDigits_le_iff (by decide) (by decide)).mpr (by omega))

theorem length_month {month : Nat} (hmonth : month ≤ 99) : (padded 2 month).length = 2 :=
  length_padded ((Nat.length_toDigits_le_iff (by decide) (by decide)).mpr (by omega))

/-- The digits come before the letters. -/
theorem lt_of_isDigit {c : Char} (hc : c.isDigit = true) : c < 'A' := by
  simp only [Char.isDigit, Bool.and_eq_true, decide_eq_true_eq] at hc
  exact UInt32.lt_of_le_of_lt hc.2 (by decide)

namespace IsNumber

variable {cs : List Char} {n : Nat}

theorem exists_cons (h : IsNumber cs n) : ∃ c tail, cs = c :: tail ∧ c.isDigit = true := by
  obtain ⟨c, tail, rfl⟩ := List.exists_cons_of_ne_nil h.ne_nil
  exact ⟨c, tail, rfl, h.digits c List.mem_cons_self⟩

theorem of_subset {ds : List Char} (h : IsNumber cs n) (hne : ds ≠ []) (hds : ds ⊆ cs) :
    IsNumber ds (Nat.ofDigitChars 10 ds 0) :=
  ⟨hne, fun c hc ↦ h.digits c (hds hc), rfl⟩

theorem ne_of_mem_head? (h : IsNumber cs n) {mark : Char} (hmark : mark.isDigit = false)
    (rest : List Char) : ∀ c ∈ (cs ++ rest).head?, mark ≠ c := by
  obtain ⟨c, tail, rfl, hc⟩ := h.exists_cons
  rintro _ ⟨⟩ rfl
  rw [hmark] at hc
  cases hc

theorem lt_of_mem_head? (h : IsNumber cs n) (rest : List Char) :
    ∀ c ∈ (cs ++ rest).head?, c < 'A' := by
  obtain ⟨c, tail, rfl, hc⟩ := h.exists_cons
  rintro _ ⟨⟩
  exact lt_of_isDigit hc

theorem stops_isBlank (h : IsNumber cs n) : Stops Text.isBlank cs := by
  obtain ⟨c, tail, rfl, hc⟩ := h.exists_cons
  exact Text.stops_of_head? rfl (Selector.isBlank_eq_false_of_isDigit hc)

theorem stops_isBlank_reverse (h : IsNumber cs n) : Stops Text.isBlank cs.reverse := fun c hc ↦
  Selector.isBlank_eq_false_of_isDigit (h.digits c (List.mem_reverse.mp (List.mem_of_mem_head? hc)))

theorem trimStart_append (h : IsNumber cs n) (rest : List Char) :
    Text.trimStart (cs ++ rest) = cs ++ rest :=
  Text.dropStart_eq_self_iff.mpr (Text.stops_append_left h.ne_nil h.stops_isBlank)

theorem utf8Size (h : IsNumber cs n) {c : Char} (hc : c ∈ cs) : c.utf8Size = 1 := by
  have hlt := UInt32.lt_iff_toNat_lt.mp (lt_of_isDigit (h.digits c hc))
  rw [Char.utf8Size_eq_one_iff, UInt32.le_iff_toNat_le]
  exact Nat.le_of_lt (Nat.lt_of_lt_of_le hlt (by decide))

end IsNumber

end Date

/-! ### Reading one field -/

namespace DateField

variable {cs rest : List Char} {n width : Nat}

/-- All digits that come next are read if no digit follows them. -/
theorem readDigits_append (h : Date.IsNumber cs n) (hrest : Stops Char.isDigit rest) :
    readDigits none (cs ++ rest) = some (n, rest) := by
  have htake : (cs ++ rest).takeWhile Char.isDigit = cs :=
    Text.takeWhile_append_of_stops h.digits hrest
  rw [readDigits]
  simp only [htake, if_neg h.ne_nil, h.value, List.drop_left]

/-- Digits are read up to the width, and fewer if something else follows them. -/
theorem readDigits_append_of_length (h : Date.IsNumber cs n) (hlength : cs.length ≤ width)
    (hend : cs.length = width ∨ Stops Char.isDigit rest) :
    readDigits (some width) (cs ++ rest) = some (n, rest) := by
  have hstops : Stops Char.isDigit (rest.take (width - cs.length)) := by
    intro c hc
    rw [List.head?_take] at hc
    split at hc
    · cases hc
    · exact hend.resolve_left (by omega) c hc
  have htake : ((cs ++ rest).take width).takeWhile Char.isDigit = cs := by
    rw [List.take_append, List.take_of_length_le hlength]
    exact Text.takeWhile_append_of_stops h.digits hstops
  rw [readDigits]
  simp only [htake, if_neg h.ne_nil, h.value, List.drop_left]

theorem readNumber_append (h : Date.IsNumber cs n) (hlength : cs.length = width)
    (rest : List Char) : readNumber width (cs ++ rest) = some (n, rest) := by
  rw [readNumber, h.trimStart_append,
    readDigits_append_of_length h (Nat.le_of_eq hlength) (.inl hlength)]

/-- Of more digits than a field has the field takes the first ones and leaves the others. -/
theorem exists_readNumber_append (h : Date.IsNumber cs n) (hwidth : 0 < width)
    (hlength : width < cs.length) :
    ∃ k ds m, Date.IsNumber ds m ∧
      ∀ rest, readNumber width (cs ++ rest) = some (k, ds ++ rest) := by
  have htake : (cs.take width).length = width := List.length_take_of_le (Nat.le_of_lt hlength)
  have hdrop : (cs.drop width).length = cs.length - width := List.length_drop
  have hfront := h.of_subset (List.ne_nil_of_length_pos (by omega)) (List.take_subset width cs)
  have hback := h.of_subset (List.ne_nil_of_length_pos (by omega)) (List.drop_subset width cs)
  refine ⟨Nat.ofDigitChars 10 (cs.take width) 0, cs.drop width, _, hback, fun rest ↦ ?_⟩
  have hread := readNumber_append hfront htake (cs.drop width ++ rest)
  rwa [← List.append_assoc, List.take_append_drop] at hread

theorem readYear_append (h : Date.IsNumber cs n) (hlength : cs.length ≤ 4)
    (hend : cs.length = 4 ∨ Stops Char.isDigit rest) :
    readYear (cs ++ rest) = some ((n : Int), rest) := by
  have hread := readDigits_append_of_length h hlength hend
  obtain ⟨c, tail, rfl, hc⟩ := h.exists_cons
  rw [readYear, h.trimStart_append]
  split
  · next heq =>
    rw [(List.cons.inj heq).1] at hc
    cases hc
  · next heq =>
    rw [(List.cons.inj heq).1] at hc
    cases hc
  · rw [hread]
    rfl

/-- The year of a text is read with its sign, however many digits it has. -/
theorem readYear_yearDigits (year : Int) (hrest : Stops Char.isDigit rest) :
    readYear (Date.yearDigits year ++ rest) = some (year, rest) := by
  have hnumber := Date.isNumber_padded 4 year.natAbs
  have hread := readDigits_append hnumber hrest
  have hsign {c : Char} (hc : Text.isBlank c = false) (cs : List Char) :
      Text.trimStart (c :: cs) = c :: cs :=
    Text.dropStart_eq_self_iff.mpr (Text.stops_of_head? rfl hc)
  rw [Date.yearDigits]
  -- After a sign all digits are read; without one four are, and there are no more of them.
  split
  · rw [List.append_assoc, List.singleton_append, readYear, hsign (by decide +kernel)]
    simp only [hread, Option.map_some, Option.some.injEq, Prod.mk.injEq, and_true]
    omega
  · split
    · rw [List.append_assoc, List.singleton_append, readYear, hsign (by decide +kernel)]
      simp only [hread, Option.map_some, Option.some.injEq, Prod.mk.injEq, and_true]
      omega
    · have hlength : (Date.padded 4 year.natAbs).length = 4 := Date.length_year (by omega)
      rw [List.nil_append, readYear_append hnumber (Nat.le_of_eq hlength) (.inl hlength)]
      simp only [Option.some.injEq, Prod.mk.injEq, and_true]
      omega

/-- No name of a month begins with a character before the letters. -/
theorem readMonthName_of_lt {c : Char} (hc : c < 'A') (cs : List Char) :
    readMonthName (c :: cs) = none := by
  have hlower : c.toLower = c := dif_neg fun h ↦ absurd h.1 (UInt32.not_le.mpr hc)
  have hnames : ∀ name ∈ monthNames, name.1 ≠ [] ∧ name.1.all ('A' ≤ ·) = true := by decide
  rw [readMonthName, List.findSome?_eq_none_iff]
  rintro ⟨name, i⟩ hname
  obtain ⟨hne, hletters⟩ := hnames name (List.fst_mem_of_mem_zipIdx hname)
  obtain ⟨l, word, hword⟩ := List.exists_cons_of_ne_nil hne
  have hl : 'A' ≤ l := by
    rw [hword] at hletters
    exact of_decide_eq_true (List.all_eq_true.mp hletters l List.mem_cons_self)
  have hskip : skipWord? name.1 (c :: cs) = none := by
    rw [hword, skipWord?, if_neg]
    intro heq
    rw [List.length_cons, List.take_succ_cons, List.map_cons, hlower] at heq
    rw [(List.cons.inj heq).1] at hc
    exact absurd hl (Char.not_le.mpr hc)
  simp only [hskip, Option.map_none]

/-! ### Reading fields -/

variable {fields : List DateField} {parts : DateParts}

theorem read_year {year : Int} (h : readYear cs = some (year, rest)) :
    read (.year :: fields) cs parts = read fields rest { parts with year := year } := by
  rw [read, h]
  rfl

theorem read_month {month : Nat} (h : readNumber 2 cs = some (month, rest)) :
    read (.month :: fields) cs parts = read fields rest { parts with month := month } := by
  rw [read, h]
  rfl

theorem read_day {day : Nat} (h : readNumber 2 cs = some (day, rest)) :
    read (.day :: fields) cs parts = read fields rest { parts with day := day } := by
  rw [read, h]
  rfl

theorem read_mark (mark : Char) :
    read (.mark mark :: fields) (mark :: cs) parts = read fields cs parts := by
  rw [read, if_pos rfl]

theorem read_mark_eq_none {mark : Char} (h : ∀ c ∈ cs.head?, mark ≠ c) :
    read (.mark mark :: fields) cs parts = none := by
  cases cs with
  | nil => rfl
  | cons c cs => rw [read, if_neg (h c rfl)]

theorem read_monthName_eq_none (h : ∀ c ∈ cs.head?, c < 'A') :
    read (.monthName :: fields) cs parts = none := by
  cases cs with
  | nil => rfl
  | cons c cs =>
    rw [read, readMonthName_of_lt (h c rfl)]
    rfl

end DateField

namespace Date

open DateField

/-! ### Reading one notation -/

/-- Three numbers with a mark between them. -/
def parted (mark : Char) (xs ys zs : List Char) : List Char := xs ++ mark :: (ys ++ mark :: zs)

theorem parted_eq (mark : Char) (xs ys zs : List Char) :
    parted mark xs ys zs = xs ++ (mark :: (ys ++ [mark]) ++ zs) := by
  simp only [parted, List.append_assoc, List.cons_append, List.nil_append]

/-- Year, month and day with a mark between them. -/
def yearFirst (mark : Char) : List DateField := [.year, .mark mark, .month, .mark mark, .day]

/-- Day, month and year with a mark between them. -/
def dayFirst (mark : Char) : List DateField := [.day, .mark mark, .month, .mark mark, .year]

theorem readAs_eq (fields : List DateField) (cs : List Char) :
    readAs fields cs = (DateField.read fields cs { }).bind
      fun parts ↦ ofYmd? parts.year parts.month parts.day := rfl

theorem readAs_eq_none {fields : List DateField} {cs : List Char}
    (h : DateField.read fields cs { } = none) : readAs fields cs = none := by
  rw [readAs_eq, h, Option.bind_none]

section Notation

variable {mark : Char} {month day : Nat}

/-- A date in digits with marks between them is read if the text ends with it. -/
theorem readAs_yearFirst (hmark : mark.isDigit = false) (year : Int) (hmonth : month ≤ 99)
    (hday : day ≤ 99) (rest : List Char) :
    readAs (yearFirst mark)
        (parted mark (yearDigits year) (padded 2 month) (padded 2 day) ++ rest) =
      if rest = [] then ofYmd? year month day else none := by
  have hm := readNumber_append (isNumber_padded 2 month) (length_month hmonth)
  have hd := readNumber_append (isNumber_padded 2 day) (length_month hday)
  rw [readAs_eq, yearFirst, parted]
  simp only [List.append_assoc, List.cons_append]
  rw [read_year (readYear_yearDigits year (Text.stops_of_head? rfl hmark)), read_mark,
    read_month (hm _), read_mark, read_day (hd _), DateField.read]
  split <;> rfl

theorem readAs_dayFirst (year : Int) (hmonth : month ≤ 99) (hday : day ≤ 99) :
    readAs (dayFirst mark) (parted mark (padded 2 day) (padded 2 month) (yearDigits year)) =
      ofYmd? year month day := by
  have hm := readNumber_append (isNumber_padded 2 month) (length_month hmonth)
  have hd := readNumber_append (isNumber_padded 2 day) (length_month hday)
  have hy : readYear (yearDigits year ++ []) = some (year, []) := readYear_yearDigits year nofun
  rw [List.append_nil] at hy
  rw [readAs_eq, dayFirst, parted, read_day (hd _), read_mark, read_month (hm _), read_mark,
    read_year hy]
  rfl

variable {xs rest : List Char} {n : Nat} {fields : List DateField}

/-- Four digits or fewer are no year of a notation that goes on with another mark. -/
theorem readAs_yearFirst_eq_none (hxs : IsNumber xs n) (hlength : xs.length ≤ 4)
    (hend : xs.length = 4 ∨ Stops Char.isDigit rest) (hrest : ∀ c ∈ rest.head?, mark ≠ c) :
    readAs (yearFirst mark) (xs ++ rest) = none := by
  refine readAs_eq_none ?_
  rw [yearFirst, read_year (readYear_append hxs hlength hend), read_mark_eq_none hrest]

/-- Three digits or more are no day of a notation that goes on with a mark. -/
theorem readAs_dayFirst_eq_none (hmark : mark.isDigit = false) (hxs : IsNumber xs n)
    (hlength : 2 < xs.length) : readAs (dayFirst mark) (xs ++ rest) = none := by
  obtain ⟨k, ds, m, hds, hread⟩ := exists_readNumber_append hxs Nat.two_pos hlength
  refine readAs_eq_none ?_
  rw [dayFirst, read_day (hread rest), read_mark_eq_none (hds.ne_of_mem_head? hmark rest)]

theorem readAs_monthName_eq_none (hxs : IsNumber xs n) :
    readAs (.monthName :: fields) (xs ++ rest) = none :=
  readAs_eq_none (read_monthName_eq_none (hxs.lt_of_mem_head? rest))

/-- Three digits or more are no day before the name of a month. -/
theorem readAs_day_monthName_eq_none (hxs : IsNumber xs n) (hlength : 2 < xs.length) :
    readAs (.day :: .gap :: .monthName :: fields) (xs ++ rest) = none := by
  obtain ⟨k, ds, m, hds, hread⟩ := exists_readNumber_append hxs Nat.two_pos hlength
  refine readAs_eq_none ?_
  rw [read_day (hread rest), DateField.read, hds.trimStart_append,
    read_monthName_eq_none (hds.lt_of_mem_head? rest)]

end Notation

theorem dateNotations_eq : dateNotations = [yearFirst '-', yearFirst '/', dayFirst '.',
    [.monthName, .gap, .day, .mark ',', .gap, .year],
    [.day, .gap, .monthName, .gap, .year]] := rfl

/-- What begins with four digits can only be in a notation that begins with the year. -/
theorem readAs_dateNotations {xs : List Char} {n : Nat} (hxs : IsNumber xs n)
    (hlength : xs.length = 4) (rest : List Char) :
    dateNotations.findSome? (readAs · (xs ++ rest)) =
      (readAs (yearFirst '-') (xs ++ rest)).or (readAs (yearFirst '/') (xs ++ rest)) := by
  have hlong : 2 < xs.length := by omega
  have hday : readAs (dayFirst '.') (xs ++ rest) = none :=
    readAs_dayFirst_eq_none (by decide) hxs hlong
  simp only [dateNotations_eq, List.findSome?_cons, List.findSome?_nil, hday,
    readAs_monthName_eq_none hxs, readAs_day_monthName_eq_none hxs hlong]
  cases readAs (yearFirst '-') (xs ++ rest) with
  | some d => rfl
  | none => cases readAs (yearFirst '/') (xs ++ rest) <;> rfl

/-! ### Reading a whole text -/

/-- The date that a text without blanks at its ends denotes. -/
def ofTrimmed? (cs : List Char) : Option Date :=
  (dateNotations.findSome? (readAs · cs)).or
    (if cs.length = 8 ∧ cs.all Char.isDigit then readCompact cs else readStamp cs)

theorem ofText?_eq (s : String) : ofText? s = ofTrimmed? (Text.trim s.toList) := by
  rw [ofText?, ofTrimmed?]
  cases dateNotations.findSome? (readAs · (Text.trim s.toList)) <;> rfl

/-! ### The text of a date -/

theorem month_le_and_day_le (d : Date) : d.month ≤ 12 ∧ d.day ≤ 31 := by
  obtain ⟨-, -, hone, hlast⟩ := d.isDay
  unfold Calendar.daysIn at hlast
  split at hlast
  all_goals try split at hlast
  all_goals omega

theorem stops_isBlank_yearDigits (year : Int) (rest : List Char) :
    Stops Text.isBlank (yearDigits year ++ rest) := by
  rw [yearDigits]
  split
  · exact Text.stops_of_head? rfl (by decide +kernel)
  · split
    · exact Text.stops_of_head? rfl (by decide +kernel)
    · have hnumber := isNumber_padded 4 year.natAbs
      exact Text.stops_append_left hnumber.ne_nil hnumber.stops_isBlank

/-- A date of any year is read back from its text. -/
theorem ofText?_text (d : Date) : ofText? d.text = some d := by
  obtain ⟨hmonth, hday⟩ := d.month_le_and_day_le
  have hnumber := isNumber_padded 2 d.day
  have htext : d.text.toList =
      parted '-' (yearDigits d.year) (padded 2 d.month) (padded 2 d.day) := by
    rw [text, String.toList_ofList, parted, List.append_assoc]
    rfl
  have htrim : Text.trim d.text.toList = d.text.toList := by
    rw [htext, parted_eq, ← List.append_assoc]
    exact Text.trim_append (List.append_ne_nil_of_right_ne_nil _ (List.cons_ne_nil _ _))
      (stops_isBlank_yearDigits d.year _) hnumber.ne_nil hnumber.stops_isBlank_reverse
  have hread := readAs_yearFirst (show '-'.isDigit = false from rfl) d.year
    (show d.month ≤ 99 by omega) (show d.day ≤ 99 by omega) []
  rw [List.append_nil, if_pos rfl, ofYmd?_eq_some_iff.mpr ⟨rfl, rfl, rfl⟩] at hread
  rw [ofText?_eq, htrim, htext, ofTrimmed?, dateNotations_eq, List.findSome?_cons, hread]
  rfl

end Date

end MarkupRecords
