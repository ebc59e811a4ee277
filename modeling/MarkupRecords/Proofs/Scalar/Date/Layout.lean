import MarkupRecords.Proofs.Scalar.Date.Notation

/-!
Days in digits. A `Date.Layout` is a way to write a year in four digits, a month in two and a day in
two, alone or as the start of a time stamp. The notations are tried one after the other, so for each
layout the ones before its own are shown to read nothing. Then a text in any layout, between any
blanks, denotes the day with these numbers if there is one, and nothing otherwise
(`Date.ofText?_reads_layout`).
-/

set_option autoImplicit false
set_option relaxedAutoImplicit false

namespace MarkupRecords

open Text (Stops)

namespace Date

open DateField

/-! ### Time stamps -/

theorem splitAtByte?_append {front : List Char} (hfront : ∀ c ∈ front, c.utf8Size = 1)
    (rest : List Char) : splitAtByte? front.length (front ++ rest) = some (front, rest) := by
  induction front with
  | nil => rw [List.length_nil, splitAtByte?, List.nil_append]
  | cons c front ih =>
    have hc := hfront c List.mem_cons_self
    rw [List.length_cons, List.cons_append, splitAtByte?, if_pos (by omega), hc, Nat.add_sub_cancel,
      ih fun d hd ↦ hfront d (List.mem_cons_of_mem c hd)]
    rfl

section Stamp

variable {front : List Char}

theorem readStamp_eq_none (hfront : ∀ c ∈ front, c.utf8Size = 1) (hlength : front.length = 10) :
    readStamp front = none := by
  have hsplit := splitAtByte?_append hfront []
  rw [List.append_nil, hlength] at hsplit
  rw [readStamp, hsplit]

theorem readStamp_append (hfront : ∀ c ∈ front, c.utf8Size = 1) (hlength : front.length = 10)
    {c : Char} (hc : c = 'T' ∨ c = ' ') (rest : List Char) :
    readStamp (front ++ c :: rest) = readAs hyphenated front := by
  have hsplit := splitAtByte?_append hfront (c :: rest)
  rw [hlength] at hsplit
  rcases hc with rfl | rfl
  all_goals
    rw [readStamp, hsplit]
    rfl

end Stamp

/-! ### Layouts -/

/-- Four digits of the year, two of the month and two of the day with a mark between them. -/
def ymd (mark : Char) (year month day : Nat) : List Char :=
  parted mark (padded 4 year) (padded 2 month) (padded 2 day)

/-- How a day of a year with four digits can be written in digits. -/
inductive Layout where
  /-- Year, month and day with hyphens. -/
  | hyphens
  /-- Year, month and day with slashes. -/
  | slashes
  /-- Year, month and day without anything between them. -/
  | compact
  /-- Day, month and year with points. -/
  | points
  /-- Year, month and day with hyphens, then a `T` and any text. -/
  | stamp (rest : List Char)
  /-- Year, month and day with hyphens, then a space and any text. -/
  | spaced (rest : List Char)

/-- The text of a day in a layout. -/
def Layout.chars (year month day : Nat) : Layout → List Char
  | .hyphens => ymd '-' year month day
  | .slashes => ymd '/' year month day
  | .compact => padded 4 year ++ (padded 2 month ++ padded 2 day)
  | .points => parted '.' (padded 2 day) (padded 2 month) (padded 4 year)
  | .stamp rest => ymd '-' year month day ++ 'T' :: rest
  | .spaced rest => ymd '-' year month day ++ ' ' :: rest

section Layout

variable {mark : Char} {xs ys zs : List Char} {a b n : Nat}

theorem length_parted (mark : Char) (xs ys zs : List Char) :
    (parted mark xs ys zs).length = xs.length + ys.length + zs.length + 2 := by
  simp only [parted, List.length_append, List.length_cons]
  omega

theorem utf8Size_of_mem_parted (hmark : mark.utf8Size = 1) (hxs : IsNumber xs a)
    (hys : IsNumber ys b) (hzs : IsNumber zs n) : ∀ c ∈ parted mark xs ys zs, c.utf8Size = 1 := by
  intro c hc
  simp only [parted, List.mem_append, List.mem_cons] at hc
  rcases hc with hc | rfl | hc | rfl | hc
  · exact hxs.utf8Size hc
  · exact hmark
  · exact hys.utf8Size hc
  · exact hmark
  · exact hzs.utf8Size hc

/-- From a text that begins and ends with a digit only the blanks around it are trimmed. -/
theorem trim_surrounded {front : List Char} (hfront : ∀ c ∈ front, Text.isBlank c = true)
    (hxs : IsNumber xs a) (hzs : IsNumber zs n) (more : List Char) :
    Text.trim (front ++ (xs ++ (ys ++ zs) ++ more)) = xs ++ (ys ++ zs) ++ Text.trimEnd more := by
  have hstart : Stops Text.isBlank (xs ++ (ys ++ zs)) :=
    Text.stops_append_left hxs.ne_nil hxs.stops_isBlank
  have hend : Stops Text.isBlank (xs ++ (ys ++ zs)).reverse := by
    rw [← List.append_assoc, List.reverse_append]
    exact Text.stops_append_left (List.reverse_ne_nil_iff.mpr hzs.ne_nil) hzs.stops_isBlank_reverse
  exact Text.trim_append_append hfront (List.append_ne_nil_of_left_ne_nil hxs.ne_nil _) hstart hend

theorem trim_parted {front : List Char} (hfront : ∀ c ∈ front, Text.isBlank c = true)
    (hxs : IsNumber xs a) (hzs : IsNumber zs n) (more : List Char) :
    Text.trim (front ++ (parted mark xs ys zs ++ more)) =
      parted mark xs ys zs ++ Text.trimEnd more := by
  rw [parted_eq]
  exact trim_surrounded hfront hxs hzs more

/-- Ten bytes are neither the digits of a date nor a time stamp. -/
theorem fallback_eq_none {cs : List Char} (hcs : ∀ c ∈ cs, c.utf8Size = 1)
    (hlength : cs.length = 10) :
    (if cs.length = 8 ∧ cs.all Char.isDigit then readCompact cs else readStamp cs) = none := by
  rw [if_neg (by omega), readStamp_eq_none hcs hlength]

variable {year month day : Nat}

theorem yearDigits_natCast (hyear : year ≤ 9999) : yearDigits year = padded 4 year := by
  rw [yearDigits, if_neg (by omega), if_neg (by omega), Int.natAbs_natCast, List.nil_append]

theorem utf8Size_of_mem_ymd (hmark : mark.utf8Size = 1) (year month day : Nat) :
    ∀ c ∈ ymd mark year month day, c.utf8Size = 1 :=
  utf8Size_of_mem_parted hmark (isNumber_padded 4 year) (isNumber_padded 2 month)
    (isNumber_padded 2 day)

variable (hyear : year ≤ 9999) (hmonth : month ≤ 99) (hday : day ≤ 99)
include hyear

/-- A notation that begins with the year is told from others by its mark. -/
theorem readAs_ymd_of_ne {other : Char} (hother : other ≠ mark) (month day : Nat)
    (rest : List Char) : readAs (yearFirst other) (ymd mark year month day ++ rest) = none := by
  have hlength := length_year hyear
  rw [ymd, parted, List.append_assoc]
  refine readAs_yearFirst_eq_none (isNumber_padded 4 year) (Nat.le_of_eq hlength) (.inl hlength) ?_
  rintro _ ⟨⟩
  exact hother

theorem readAs_dateNotations_ymd (mark : Char) (month day : Nat) (rest : List Char) :
    dateNotations.findSome? (readAs · (ymd mark year month day ++ rest)) =
      (readAs (yearFirst '-') (ymd mark year month day ++ rest)).or
        (readAs (yearFirst '/') (ymd mark year month day ++ rest)) := by
  rw [ymd, parted, List.append_assoc]
  exact readAs_dateNotations (isNumber_padded 4 year) (length_year hyear) _

include hmonth hday

theorem length_ymd (mark : Char) : (ymd mark year month day).length = 10 := by
  rw [ymd, length_parted, length_year hyear, length_month hmonth, length_month hday]

theorem readAs_ymd (hmark : mark.isDigit = false) (rest : List Char) :
    readAs (yearFirst mark) (ymd mark year month day ++ rest) =
      if rest = [] then ofYmd? year month day else none := by
  rw [ymd, ← yearDigits_natCast hyear]
  exact readAs_yearFirst hmark year hmonth hday rest

/-- What follows the hyphens and digits matters only in that a time stamp goes on so. -/
theorem ofTrimmed?_hyphens {rest : List Char} (hrest : ∀ c ∈ rest.head?, c = 'T' ∨ c = ' ') :
    ofTrimmed? (ymd '-' year month day ++ rest) = ofYmd? year month day := by
  have hlength := length_ymd hyear hmonth hday '-'
  have hsize := utf8Size_of_mem_ymd (show '-'.utf8Size = 1 from rfl) year month day
  have hread := readAs_ymd hyear hmonth hday (show '-'.isDigit = false from rfl)
  have hslash := readAs_ymd_of_ne hyear (show '/' ≠ '-' by decide) month day rest
  have hnot : ¬ ((ymd '-' year month day ++ rest).length = 8 ∧
      (ymd '-' year month day ++ rest).all Char.isDigit) := by
    rw [List.length_append]
    omega
  rw [ofTrimmed?, readAs_dateNotations_ymd hyear, hslash, Option.or_none, hread, if_neg hnot]
  -- The notation with hyphens reads a date alone; before anything else only a time stamp does.
  cases rest with
  | nil => rw [List.append_nil, readStamp_eq_none hsize hlength, if_pos rfl, Option.or_none]
  | cons c rest =>
    have hfront := hread []
    rw [List.append_nil, if_pos rfl] at hfront
    rw [if_neg (List.cons_ne_nil c rest), readStamp_append hsize hlength (hrest c rfl),
      Option.none_or]
    exact hfront

theorem ofTrimmed?_slashes : ofTrimmed? (ymd '/' year month day) = ofYmd? year month day := by
  have hnone := fallback_eq_none
    (utf8Size_of_mem_ymd (show '/'.utf8Size = 1 from rfl) year month day)
    (length_ymd hyear hmonth hday '/')
  have hnotations := readAs_dateNotations_ymd hyear '/' month day []
  rw [readAs_ymd_of_ne hyear (by decide), readAs_ymd hyear hmonth hday rfl, if_pos rfl,
    Option.none_or, List.append_nil] at hnotations
  rw [ofTrimmed?, hnotations, hnone, Option.or_none]

theorem readAs_dateNotations_points :
    dateNotations.findSome?
        (readAs · (parted '.' (padded 2 day) (padded 2 month) (padded 4 year))) =
      ofYmd? year month day := by
  have hlength := length_month hday
  have hyears (mark : Char) (hmark : mark ≠ '.') : readAs (yearFirst mark)
      (parted '.' (padded 2 day) (padded 2 month) (padded 4 year)) = none := by
    refine readAs_yearFirst_eq_none (isNumber_padded 2 day) (by omega)
      (.inr (Text.stops_of_head? rfl rfl)) ?_
    rintro _ ⟨⟩
    exact hmark
  have hdays : readAs (dayFirst '.')
      (parted '.' (padded 2 day) (padded 2 month) (padded 4 year)) = ofYmd? year month day := by
    rw [← yearDigits_natCast hyear]
    exact readAs_dayFirst year hmonth hday
  have hname : readAs [.monthName, .gap, .day, .mark ',', .gap, .year]
      (parted '.' (padded 2 day) (padded 2 month) (padded 4 year)) = none :=
    readAs_monthName_eq_none (isNumber_padded 2 day)
  -- Here the day is read, and it is the point after it that begins no name of a month.
  have hday_name : readAs [.day, .gap, .monthName, .gap, .year]
      (parted '.' (padded 2 day) (padded 2 month) (padded 4 year)) = none := by
    have hpoint {cs : List Char} : Text.trimStart ('.' :: cs) = '.' :: cs :=
      Text.dropStart_eq_self_iff.mpr (Text.stops_of_head? rfl (by decide +kernel))
    refine readAs_eq_none ?_
    rw [parted, read_day (readNumber_append (isNumber_padded 2 day) hlength _), DateField.read,
      hpoint, read_monthName_eq_none]
    rintro _ ⟨⟩
    decide
  simp only [dateNotations_eq, List.findSome?_cons, List.findSome?_nil,
    hyears '-' (by decide), hyears '/' (by decide), hdays, hname, hday_name]
  cases ofYmd? year month day <;> rfl

theorem ofTrimmed?_points :
    ofTrimmed? (parted '.' (padded 2 day) (padded 2 month) (padded 4 year)) =
      ofYmd? year month day := by
  have hnone := fallback_eq_none
    (utf8Size_of_mem_parted (show '.'.utf8Size = 1 from rfl) (isNumber_padded 2 day)
      (isNumber_padded 2 month) (isNumber_padded 4 year))
    (by rw [length_parted, length_year hyear, length_month hmonth, length_month hday])
  rw [ofTrimmed?, readAs_dateNotations_points hyear hmonth hday, hnone, Option.or_none]

theorem readCompact_digits :
    readCompact (padded 4 year ++ (padded 2 month ++ padded 2 day)) = ofYmd? year month day := by
  have hy := length_year hyear
  have hm := length_month hmonth
  have hread := readAs_ymd hyear hmonth hday (show '-'.isDigit = false from rfl) []
  rw [List.append_nil, if_pos rfl] at hread
  have hmiddle : ((padded 4 year ++ (padded 2 month ++ padded 2 day)).drop 4).take 2 =
      padded 2 month := by
    rw [List.drop_left' hy, List.take_left' hm]
  have hend : (padded 4 year ++ (padded 2 month ++ padded 2 day)).drop 6 = padded 2 day := by
    rw [← List.append_assoc]
    exact List.drop_left' (by rw [List.length_append, hy, hm])
  rw [readCompact, hmiddle, hend, List.take_left' hy, ← hread, ymd, parted, List.append_assoc]
  rfl

theorem ofTrimmed?_compact :
    ofTrimmed? (padded 4 year ++ (padded 2 month ++ padded 2 day)) = ofYmd? year month day := by
  have hlength := length_year hyear
  have hdigits := isNumber_padded 2 month
  have hnone {mark : Char} (hmark : mark.isDigit = false) : readAs (yearFirst mark)
      (padded 4 year ++ (padded 2 month ++ padded 2 day)) = none :=
    readAs_yearFirst_eq_none (isNumber_padded 4 year) (Nat.le_of_eq hlength) (.inl hlength)
      (hdigits.ne_of_mem_head? hmark _)
  have height : (padded 4 year ++ (padded 2 month ++ padded 2 day)).length = 8 ∧
      (padded 4 year ++ (padded 2 month ++ padded 2 day)).all Char.isDigit := by
    refine ⟨?_, List.all_eq_true.mpr fun c hc ↦ ?_⟩
    · rw [List.length_append, List.length_append, hlength, length_month hmonth, length_month hday]
    · rcases List.mem_append.mp hc with hc | hc
      · exact (isNumber_padded 4 year).digits c hc
      · rcases List.mem_append.mp hc with hc | hc
        · exact hdigits.digits c hc
        · exact (isNumber_padded 2 day).digits c hc
  rw [ofTrimmed?, readAs_dateNotations (isNumber_padded 4 year) hlength, hnone rfl, hnone rfl,
    Option.or_none, Option.none_or, if_pos height, readCompact_digits hyear hmonth hday]

/-- Between blanks a day in a layout denotes what its numbers do, whatever the layout is. -/
theorem ofText?_layout (layout : Layout) {front back : List Char}
    (hfront : ∀ c ∈ front, Text.isBlank c = true) (hback : ∀ c ∈ back, Text.isBlank c = true) :
    ofText? (.ofList (front ++ (layout.chars year month day ++ back))) =
      ofYmd? year month day := by
  have hstamp {c : Char} (hc : c = 'T' ∨ c = ' ') (rest : List Char) :
      ∀ d ∈ (Text.trimEnd (c :: rest ++ back)).head?, d = 'T' ∨ d = ' ' := by
    intro d hd
    rwa [← Option.some.inj (Text.mem_head?_of_dropEnd hd)]
  have hnil := Text.trimEnd_eq_nil hback
  rw [ofText?_eq, String.toList_ofList]
  cases layout with
  | hyphens =>
    rw [Layout.chars, ymd, trim_parted hfront (isNumber_padded 4 year) (isNumber_padded 2 day),
      hnil]
    exact ofTrimmed?_hyphens hyear hmonth hday nofun
  | slashes =>
    rw [Layout.chars, ymd, trim_parted hfront (isNumber_padded 4 year) (isNumber_padded 2 day),
      hnil, List.append_nil]
    exact ofTrimmed?_slashes hyear hmonth hday
  | compact =>
    rw [Layout.chars, trim_surrounded hfront (isNumber_padded 4 year) (isNumber_padded 2 day), hnil,
      List.append_nil]
    exact ofTrimmed?_compact hyear hmonth hday
  | points =>
    rw [Layout.chars, trim_parted hfront (isNumber_padded 2 day) (isNumber_padded 4 year), hnil,
      List.append_nil]
    exact ofTrimmed?_points hyear hmonth hday
  | stamp rest =>
    rw [Layout.chars, List.append_assoc, ymd,
      trim_parted hfront (isNumber_padded 4 year) (isNumber_padded 2 day)]
    exact ofTrimmed?_hyphens hyear hmonth hday (hstamp (.inl rfl) rest)
  | spaced rest =>
    rw [Layout.chars, List.append_assoc, ymd,
      trim_parted hfront (isNumber_padded 4 year) (isNumber_padded 2 day)]
    exact ofTrimmed?_hyphens hyear hmonth hday (hstamp (.inr rfl) rest)

end Layout

theorem ofYmd?_eq_none_iff {year : Int} {month day : Nat} :
    ofYmd? year month day = none ↔ ¬ Calendar.IsDay year month day := by
  rw [ofYmd?]
  split
  · next h => simp [h]
  · next h => simp [h]

/-- A text with a day in any layout, between any blanks, denotes this day if its month has it, and
nothing otherwise. -/
theorem ofText?_reads_layout (layout : Layout) {year month day : Nat} (hyear : year ≤ 9999)
    (hmonth : month ≤ 99) (hday : day ≤ 99) {front back : List Char}
    (hfront : ∀ c ∈ front, Text.isBlank c = true) (hback : ∀ c ∈ back, Text.isBlank c = true) :
    let s := String.ofList (front ++ (layout.chars year month day ++ back))
    (1 ≤ day ∧ day ≤ Calendar.daysIn year month →
        ∃ d, ofText? s = some d ∧ d.year = year ∧ d.month = month ∧ d.day = day) ∧
      (¬ (1 ≤ day ∧ day ≤ Calendar.daysIn year month) → ofText? s = none) := by
  intro s
  have hs : ofText? s = ofYmd? year month day :=
    ofText?_layout hyear hmonth hday layout hfront hback
  rw [hs]
  constructor
  · rintro ⟨hone, hlast⟩
    have hday : Calendar.IsDay year month day := by
      refine ⟨?_, ?_, hone, hlast⟩
      · rw [Calendar.firstYear]
        omega
      · rw [Calendar.lastYear]
        omega
    exact ⟨⟨year, month, day, hday⟩, ofYmd?_eq_some_iff.mpr ⟨rfl, rfl, rfl⟩, rfl, rfl, rfl⟩
  · intro hnot
    exact ofYmd?_eq_none_iff.mpr fun h ↦ hnot h.2.2

theorem ofText?_reads_layout_leapDay :
    (∃ d, ofText? "\u3000\t2000-02-29T10:00 – früh\n" = some d ∧
      d.year = 2000 ∧ d.month = 2 ∧ d.day = 29) ∧
    ofText? " 19000229\n" = none := by
  have hyear : 2000 ≤ 9999 ∧ 1900 ≤ 9999 := by omega
  have hmonth : 2 ≤ 99 := by omega
  have hday : 29 ≤ 99 := by omega
  have hstart : ∀ c ∈ ['\u3000', '\t'], Text.isBlank c = true :=
    List.all_eq_true.mp (by decide +kernel)
  have hblank : ∀ c ∈ [' '], Text.isBlank c = true :=
    List.all_eq_true.mp (by decide +kernel)
  have hend : ∀ c ∈ ['\n'], Text.isBlank c = true :=
    List.all_eq_true.mp (by decide +kernel)
  have hleap := (ofText?_reads_layout (.stamp "10:00 – früh".toList) hyear.1 hmonth hday hstart
    hend).1 (by decide)
  have hcentury := (ofText?_reads_layout .compact hyear.2 hmonth hday hblank hend).2 (by decide)
  exact ⟨hleap, hcentury⟩

end Date

end MarkupRecords
