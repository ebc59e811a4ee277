import MarkupRecords.Proofs.Scalar.Integer
import MarkupRecords.Scalar.Duration

/-!
Which texts are durations, and of how many seconds. `Duration.Denotes` lists the notations: a plain
number, numbers with colons between them, and numbers with letters after them; the number of seconds
is exact and of any size. Reading gives this number if it fits in 64 bits, and nothing otherwise
(`Duration.ofText?_reads_denoted`). The total is reckoned in 64 bits, but no product or sum on the
way exceeds it, since nothing is negative (`Duration.total?_eq_some_iff`).
-/

set_option autoImplicit false
set_option relaxedAutoImplicit false

namespace MarkupRecords.Duration

open Text (Stops)

/-! ### Notations -/

/-- The text consists of decimal digits, at least one and at most `width`. -/
structure IsNumeral (width : Option Nat) (cs : List Char) : Prop where
  ne_nil : cs ≠ []
  digits : ∀ c ∈ cs, c.isDigit = true
  short : ∀ k ∈ width, cs.length ≤ k

/-- The number that decimal digits denote. -/
def number (cs : List Char) : Nat := Nat.ofDigitChars 10 cs 0

/-- The text is a duration of so many seconds. -/
inductive Denotes : List Char → Nat → Prop where
  | seconds {s : List Char} : IsNumeral none s → Denotes s (number s)
  | minutes {m s : List Char} : IsNumeral (some 2) m → IsNumeral (some 2) s →
      Denotes (m ++ ':' :: s) (60 * number m + number s)
  | hours {h m s : List Char} : IsNumeral none h → IsNumeral (some 2) m → IsNumeral (some 2) s →
      Denotes (h ++ ':' :: (m ++ ':' :: s)) (3600 * number h + 60 * number m + number s)
  | letteredMinutes {m s : List Char} : IsNumeral none m → IsNumeral none s →
      Denotes ('P' :: 'T' :: (m ++ 'M' :: (s ++ ['S']))) (60 * number m + number s)
  | letteredHours {h m s : List Char} : IsNumeral none h → IsNumeral none m → IsNumeral none s →
      Denotes ('P' :: 'T' :: (h ++ 'H' :: (m ++ 'M' :: (s ++ ['S']))))
        (3600 * number h + 60 * number m + number s)

section IsNumeral

variable {width : Option Nat} {cs : List Char}

theorem IsNumeral.notMem (h : IsNumeral width cs) {c : Char} (hc : c.isDigit = false) : c ∉ cs := by
  intro hmem
  rw [h.digits c hmem] at hc
  cases hc

theorem IsNumeral.trim_eq (h : IsNumeral width cs) : Text.trim cs = cs := by
  have hblank : ∀ c ∈ cs, Text.isBlank c = false := fun c hc ↦
    Selector.isBlank_eq_false_of_isDigit (h.digits c hc)
  refine Text.trim_eq_self_iff.mpr ⟨fun c hc ↦ hblank c (List.mem_of_mem_head? hc), fun c hc ↦ ?_⟩
  exact hblank c (List.mem_reverse.mp (List.mem_of_mem_head? hc))

theorem IsNumeral.count_colon (h : IsNumeral width cs) : cs.count ':' = 0 :=
  List.count_eq_zero_of_not_mem (h.notMem rfl)

theorem numeral?_eq_some_iff {n : Int64} :
    numeral? width cs = some n ↔ IsNumeral width cs ∧ n.toInt = number cs := by
  rw [numeral?]
  constructor
  · intro h
    split at h
    · next hnumeral =>
      obtain ⟨hne, hn⟩ := Integer.ofDigits?_eq_some_iff.mp h
      refine ⟨⟨hne, List.all_eq_true.mp hnumeral.1, fun k hk ↦ ?_⟩, hn⟩
      have hshort := hnumeral.2
      rw [Option.mem_def.mp hk] at hshort
      simpa using hshort
    · cases h
  · rintro ⟨⟨hne, hdigits, hshort⟩, hn⟩
    have hwidth : width.all (cs.length ≤ ·) = true := by
      cases width with
      | none => rfl
      | some k => simpa using hshort k rfl
    rw [if_pos ⟨List.all_eq_true.mpr hdigits, hwidth⟩]
    exact Integer.ofDigits?_eq_some_iff.mpr ⟨hne, hn⟩

end IsNumeral

/-! ### Totals -/

/-- The total of numbers that are not negative is missing only if it does not fit itself. -/
theorem total?_eq_some_iff {h m s n : Int64} (hh : 0 ≤ h.toInt) (hm : 0 ≤ m.toInt)
    (hs : 0 ≤ s.toInt) :
    total? h m s = some n ↔ n.toInt = 3600 * h.toInt + 60 * m.toInt + s.toInt := by
  simp only [total?, Option.bind_eq_bind, Option.bind_eq_some_iff, Integer.mul?_eq_some_iff,
    Integer.add?_eq_some_iff]
  have hhour : (3600 : Int64).toInt = 3600 := rfl
  have hminute : (60 : Int64).toInt = 60 := rfl
  rw [hhour, hminute]
  constructor
  · rintro ⟨hours, hhours, minutes, hminutes, sum, hsum, hn⟩
    omega
  · intro hn
    have hmin : Int64.minValue.toInt ≤ 0 := by decide
    have hmax := n.toInt_le
    obtain ⟨hours, hhours⟩ := Integer.exists_toInt_eq (z := h.toInt * 3600) (by omega) (by omega)
    obtain ⟨minutes, hminutes⟩ := Integer.exists_toInt_eq (z := m.toInt * 60) (by omega) (by omega)
    obtain ⟨sum, hsum⟩ := Integer.exists_toInt_eq (z := hours.toInt + minutes.toInt) (by omega)
      (by omega)
    exact ⟨hours, hhours, minutes, hminutes, sum, hsum, by omega⟩

theorem numeralTotal?_eq_some_iff {width : Option Nat} {h m s : List Char} {n : Int64} :
    numeralTotal? width h m s = some n ↔
      IsNumeral none h ∧ IsNumeral width m ∧ IsNumeral width s ∧
        n.toInt = 3600 * number h + 60 * number m + number s := by
  simp only [numeralTotal?, Option.bind_eq_bind, Option.bind_eq_some_iff, numeral?_eq_some_iff]
  constructor
  · rintro ⟨a, ⟨hh, ha⟩, b, ⟨hm, hb⟩, c, ⟨hs, hc⟩, htotal⟩
    rw [total?_eq_some_iff (by omega) (by omega) (by omega), ha, hb, hc] at htotal
    exact ⟨hh, hm, hs, htotal⟩
  · rintro ⟨hh, hm, hs, hn⟩
    have hmin : Int64.minValue.toInt ≤ 0 := by decide
    have hmax := n.toInt_le
    -- each of the three numbers fits because the total does
    obtain ⟨a, ha⟩ := Integer.exists_toInt_eq (z := number h) (by omega) (by omega)
    obtain ⟨b, hb⟩ := Integer.exists_toInt_eq (z := number m) (by omega) (by omega)
    obtain ⟨c, hc⟩ := Integer.exists_toInt_eq (z := number s) (by omega) (by omega)
    refine ⟨a, ⟨hh, ha⟩, b, ⟨hm, hb⟩, c, ⟨hs, hc⟩, ?_⟩
    rw [total?_eq_some_iff (by omega) (by omega) (by omega), ha, hb, hc, hn]

/-! ### Parts of a text -/

theorem splitAt?_eq_some_iff {sep : Char} {cs front back : List Char} :
    splitAt? sep cs = some (front, back) ↔ cs = front ++ sep :: back ∧ sep ∉ front := by
  constructor
  · intro h
    have hcs := List.takeWhile_append_dropWhile (p := (· ≠ sep)) (l := cs)
    have hstops := Text.stops_dropWhile (· ≠ sep) cs
    rw [splitAt?] at h
    split at h
    · cases h
    · next c rest hdrop =>
      cases h
      rw [hdrop] at hcs hstops
      have hc : c = sep := by simpa using hstops c rfl
      rw [hc] at hcs
      refine ⟨hcs.symm, fun hmem ↦ ?_⟩
      have hne := List.mem_takeWhile_imp hmem
      simp at hne
  · rintro ⟨rfl, hfront⟩
    have hpass : ∀ c ∈ front, decide (c ≠ sep) = true := fun c hc ↦
      decide_eq_true fun heq ↦ hfront (heq ▸ hc)
    have hstops : Stops (· ≠ sep) (sep :: back) := by
      rintro c ⟨⟩
      simp
    rw [splitAt?, Text.dropWhile_append_of_stops hpass hstops,
      Text.takeWhile_append_of_stops hpass hstops]

theorem clockSeconds?_eq_some_iff {cs : List Char} {n : Int64} :
    clockSeconds? cs = some n ↔
      ∃ h m s, cs = h ++ ':' :: (m ++ ':' :: s) ∧ IsNumeral none h ∧ IsNumeral (some 2) m ∧
        IsNumeral (some 2) s ∧ n.toInt = 3600 * number h + 60 * number m + number s := by
  simp only [clockSeconds?, Option.bind_eq_bind, Option.bind_eq_some_iff, Prod.exists,
    splitAt?_eq_some_iff, numeralTotal?_eq_some_iff]
  constructor
  · rintro ⟨h, rest, ⟨rfl, -⟩, m, s, ⟨rfl, -⟩, htotal⟩
    exact ⟨h, m, s, rfl, htotal⟩
  · rintro ⟨h, m, s, rfl, hh, hm, htotal⟩
    have hcolon : Char.isDigit ':' = false := rfl
    exact ⟨h, _, ⟨rfl, hh.notMem hcolon⟩, m, s, ⟨rfl, hm.notMem hcolon⟩, hh, hm, htotal⟩

theorem letteredSeconds?_eq_some_iff {cs : List Char} {n : Int64} :
    letteredSeconds? cs = some n ↔
      ∃ h m s, cs = h ++ 'H' :: (m ++ 'M' :: (s ++ ['S'])) ∧ IsNumeral none h ∧
        IsNumeral none m ∧ IsNumeral none s ∧
        n.toInt = 3600 * number h + 60 * number m + number s := by
  simp only [letteredSeconds?, Option.bind_eq_bind, Option.bind_eq_some_iff, Prod.exists,
    splitAt?_eq_some_iff, Option.ite_none_right_eq_some, numeralTotal?_eq_some_iff]
  constructor
  · rintro ⟨h, rest, ⟨rfl, -⟩, m, rest', ⟨rfl, -⟩, s, rest'', ⟨rfl, -⟩, rfl, htotal⟩
    exact ⟨h, m, s, rfl, htotal⟩
  · rintro ⟨h, m, s, rfl, hh, hm, hs, htotal⟩
    exact ⟨h, _, ⟨rfl, hh.notMem rfl⟩, m, _, ⟨rfl, hm.notMem rfl⟩, s, [], ⟨rfl, hs.notMem rfl⟩, rfl,
      hh, hm, hs, htotal⟩

/-! ### Hours left out -/

theorem clockSeconds?_hourless {cs : List Char} {n : Int64} :
    clockSeconds? ('0' :: '0' :: ':' :: cs) = some n ↔
      ∃ m s, cs = m ++ ':' :: s ∧ IsNumeral (some 2) m ∧ IsNumeral (some 2) s ∧
        n.toInt = 60 * number m + number s := by
  have hsplit : splitAt? ':' ('0' :: '0' :: ':' :: cs) = some (['0', '0'], cs) :=
    splitAt?_eq_some_iff.mpr ⟨rfl, by decide⟩
  have hzero : IsNumeral none ['0', '0'] :=
    ⟨List.cons_ne_nil _ _, List.all_eq_true.mp rfl, nofun⟩
  have hnumber : number ['0', '0'] = 0 := rfl
  rw [clockSeconds?]
  simp only [hsplit, Option.bind_eq_bind, Option.bind_some, Option.bind_eq_some_iff, Prod.exists,
    splitAt?_eq_some_iff, numeralTotal?_eq_some_iff, hnumber, and_iff_right hzero]
  constructor
  · rintro ⟨m, s, ⟨rfl, -⟩, hm, hs, hn⟩
    exact ⟨m, s, rfl, hm, hs, by omega⟩
  · rintro ⟨m, s, rfl, hm, hs, hn⟩
    exact ⟨m, s, ⟨rfl, hm.notMem rfl⟩, hm, hs, by omega⟩

theorem letteredSeconds?_hourless {cs : List Char} {n : Int64} :
    letteredSeconds? ('0' :: 'H' :: cs) = some n ↔
      ∃ m s, cs = m ++ 'M' :: (s ++ ['S']) ∧ IsNumeral none m ∧ IsNumeral none s ∧
        n.toInt = 60 * number m + number s := by
  have hsplit : splitAt? 'H' ('0' :: 'H' :: cs) = some (['0'], cs) :=
    splitAt?_eq_some_iff.mpr ⟨rfl, by decide⟩
  have hzero : IsNumeral none ['0'] :=
    ⟨List.cons_ne_nil _ _, List.all_eq_true.mp rfl, nofun⟩
  have hnumber : number ['0'] = 0 := rfl
  rw [letteredSeconds?]
  simp only [hsplit, Option.bind_eq_bind, Option.bind_some, Option.bind_eq_some_iff, Prod.exists,
    splitAt?_eq_some_iff, Option.ite_none_right_eq_some, numeralTotal?_eq_some_iff, hnumber,
    and_iff_right hzero]
  constructor
  · rintro ⟨m, rest, ⟨rfl, -⟩, s, rest', ⟨rfl, -⟩, rfl, hm, hs, hn⟩
    exact ⟨m, s, rfl, hm, hs, by omega⟩
  · rintro ⟨m, s, rfl, hm, hs, hn⟩
    exact ⟨m, _, ⟨rfl, hm.notMem rfl⟩, s, [], ⟨rfl, hs.notMem rfl⟩, rfl, hm, hs, by omega⟩

/-! ### Reading -/

theorem seconds?_of_colon {cs : List Char} (hcolon : ':' ∈ cs) :
    seconds? cs = colonSeconds? cs := by
  have hdigits : ¬ cs.all Char.isDigit = true := fun hall ↦
    absurd (List.all_eq_true.mp hall ':' hcolon) (by decide)
  rw [seconds?.eq_def, if_neg hdigits, if_pos (List.contains_iff_mem.mpr hcolon)]

theorem seconds?_designated {cs : List Char} (hcolon : ':' ∉ cs) :
    seconds? ('P' :: 'T' :: cs) = designatedSeconds? cs := by
  have hcontains : ¬ ('P' :: 'T' :: cs).contains ':' = true := by
    rw [List.contains_iff_mem]
    simpa using hcolon
  rw [seconds?, if_neg (by simp), if_neg hcontains]

theorem denotes_of_seconds? {cs : List Char} {n : Int64} (h : seconds? cs = some n) :
    ∃ k, Denotes cs k ∧ n.toInt = k := by
  rw [seconds?.eq_def] at h
  split at h
  · obtain ⟨hs, hn⟩ := numeral?_eq_some_iff.mp h
    exact ⟨_, .seconds hs, hn⟩
  split at h
  · rw [colonSeconds?] at h
    split at h
    · obtain ⟨m, s, rfl, hm, hs, hn⟩ := clockSeconds?_hourless.mp h
      exact ⟨_, .minutes hm hs, by omega⟩
    · obtain ⟨h, m, s, rfl, hh, hm, hs, hn⟩ := clockSeconds?_eq_some_iff.mp h
      exact ⟨_, .hours hh hm hs, by omega⟩
  split at h
  · rw [designatedSeconds?] at h
    split at h
    · obtain ⟨h, m, s, rfl, hh, hm, hs, hn⟩ := letteredSeconds?_eq_some_iff.mp h
      exact ⟨_, .letteredHours hh hm hs, by omega⟩
    · obtain ⟨m, s, rfl, hm, hs, hn⟩ := letteredSeconds?_hourless.mp h
      exact ⟨_, .letteredMinutes hm hs, by omega⟩
  · cases h

theorem Denotes.seconds?_eq {cs : List Char} {k : Nat} {n : Int64} (h : Denotes cs k)
    (hn : n.toInt = k) : seconds? cs = some n := by
  -- the notations are told apart by their colons and by the letter of the hours
  cases h with
  | seconds hs =>
    rw [seconds?.eq_def, if_pos (List.all_eq_true.mpr hs.digits)]
    exact numeral?_eq_some_iff.mpr ⟨hs, hn⟩
  | @minutes m s hm hs =>
    have hcount : (m ++ ':' :: s).count ':' = 1 := by
      simp [hm.count_colon, hs.count_colon]
    rw [seconds?_of_colon (by simp), colonSeconds?, if_pos hcount]
    exact clockSeconds?_hourless.mpr ⟨m, s, rfl, hm, hs, by omega⟩
  | @hours h m s hh hm hs =>
    have hcount : ¬ (h ++ ':' :: (m ++ ':' :: s)).count ':' = 1 := by
      rw [List.count_append, List.count_cons_self, List.count_append, List.count_cons_self]
      omega
    rw [seconds?_of_colon (by simp), colonSeconds?, if_neg hcount]
    exact clockSeconds?_eq_some_iff.mpr ⟨h, m, s, rfl, hh, hm, hs, by omega⟩
  | @letteredMinutes m s hm hs =>
    have hhours : ¬ (m ++ 'M' :: (s ++ ['S'])).contains 'H' = true := by
      rw [List.contains_iff_mem]
      simp [hm.notMem, hs.notMem]
    rw [seconds?_designated (by simp [hm.notMem, hs.notMem]), designatedSeconds?, if_neg hhours]
    exact letteredSeconds?_hourless.mpr ⟨m, s, rfl, hm, hs, by omega⟩
  | @letteredHours h m s hh hm hs =>
    have hhours : (h ++ 'H' :: (m ++ 'M' :: (s ++ ['S']))).contains 'H' = true := by
      simp
    rw [seconds?_designated (by simp [hh.notMem, hm.notMem, hs.notMem]), designatedSeconds?,
      if_pos hhours]
    exact letteredSeconds?_eq_some_iff.mpr ⟨h, m, s, rfl, hh, hm, hs, by omega⟩

theorem seconds?_eq_some_iff {cs : List Char} {n : Int64} :
    seconds? cs = some n ↔ ∃ k, Denotes cs k ∧ n.toInt = k :=
  ⟨denotes_of_seconds?, fun ⟨_, h, hn⟩ ↦ h.seconds?_eq hn⟩

theorem seconds?_eq_none_iff {cs : List Char} :
    seconds? cs = none ↔ ∀ k, Denotes cs k → Int64.maxValue.toInt < k := by
  rw [Option.eq_none_iff_forall_ne_some]
  constructor
  · intro hnone k hk
    by_contra hfits
    have hmin : Int64.minValue.toInt ≤ 0 := by decide
    obtain ⟨n, hn⟩ := Integer.exists_toInt_eq (z := k) (by omega) (Int.not_lt.mp hfits)
    exact hnone n (hk.seconds?_eq hn)
  · intro hlarge n hn
    obtain ⟨k, hk, hnk⟩ := denotes_of_seconds? hn
    have hmax := n.toInt_le
    have hlt := hlarge k hk
    omega

/-! ### Reading back -/

theorem nonneg_of_ofText? {s : String} {n : Int64} (h : ofText? s = some n) : 0 ≤ n.toInt := by
  obtain ⟨k, -, hk⟩ := seconds?_eq_some_iff.mp h
  omega

theorem isNumeral_toDigits (k : Nat) : IsNumeral none (Nat.toDigits 10 k) :=
  ⟨Nat.toDigits_ne_nil, fun _ hc ↦ Nat.isDigit_of_mem_toDigits (by decide) (by decide) hc, nofun⟩

/-- A number that is not negative is a duration of so many seconds. -/
theorem ofText?_text {n : Int64} (hn : 0 ≤ n.toInt) : ofText? (Integer.text n) = some n := by
  have hdigits : (Integer.text n).toList = Nat.toDigits 10 n.toInt.natAbs := by
    rw [Integer.text, String.toList_ofList, Integer.digits, if_neg (Int.not_lt.mpr hn)]
  have hnumber : number (Nat.toDigits 10 n.toInt.natAbs) = n.toInt.natAbs :=
    Nat.ofDigitChars_ten_toDigits
  have hnumeral := isNumeral_toDigits n.toInt.natAbs
  rw [ofText?, hdigits, hnumeral.trim_eq]
  refine seconds?_eq_some_iff.mpr ⟨_, .seconds hnumeral, ?_⟩
  rw [hnumber]
  exact (Int.natAbs_of_nonneg hn).symm

/-- A text without its surrounding blanks is read as the number of seconds that it denotes if this
fits in 64 bits, and otherwise as nothing, also where it denotes none; a total that fits is never
missing because of a step on the way to it. -/
theorem ofText?_reads_denoted :
    (∀ (s : String) (n : Int64),
        ofText? s = some n ↔ ∃ k, Denotes (Text.trim s.toList) k ∧ n.toInt = k) ∧
      (∀ s : String, ofText? s = none ↔
        ∀ k, Denotes (Text.trim s.toList) k → Int64.maxValue.toInt < k) ∧
      ∀ h m s n : Int64, 0 ≤ h.toInt → 0 ≤ m.toInt → 0 ≤ s.toInt →
        (total? h m s = some n ↔ n.toInt = 3600 * h.toInt + 60 * m.toInt + s.toInt) :=
  ⟨fun _ _ ↦ seconds?_eq_some_iff, fun _ ↦ seconds?_eq_none_iff, fun _ _ _ _ ↦ total?_eq_some_iff⟩

theorem ofText?_reads_denoted_largest :
    ofText? " PT2562047788015215H30M7S " = some Int64.maxValue ∧
      ofText? "PT2562047788015215H30M8S" = none ∧
      (∃ k, Denotes (Text.trim " PT2562047788015215H30M7S ".toList) k ∧
        Int64.maxValue.toInt = k) ∧
      (∀ k, Denotes (Text.trim "PT2562047788015215H30M8S".toList) k →
        Int64.maxValue.toInt < k) ∧
      0 ≤ (30 : Int64).toInt ∧ 0 ≤ (7 : Int64).toInt ∧
      total? 30 30 7 = some 109807 := by
  obtain ⟨hsome, hnone, htotal⟩ := ofText?_reads_denoted
  have hlargest : ofText? " PT2562047788015215H30M7S " = some Int64.maxValue := by decide +kernel
  have hlarger : ofText? "PT2562047788015215H30M8S" = none := by decide +kernel
  have hminutes : 0 ≤ (30 : Int64).toInt := by decide
  have hseconds : 0 ≤ (7 : Int64).toInt := by decide
  exact ⟨hlargest, hlarger, (hsome _ _).mp hlargest, (hnone _).mp hlarger, hminutes, hseconds,
    (htotal 30 30 7 109807 hminutes hminutes hseconds).mpr rfl⟩

end MarkupRecords.Duration
