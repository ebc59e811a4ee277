import MarkupRecords.Proofs.Selector.Character
import MarkupRecords.Proofs.Text.Ends
import MarkupRecords.Proofs.Transform.Chain

/-!
How numbers in 64 bits are read and written. The sum and the product of two numbers are exact or
missing (`Integer.add?_eq_some_iff`, `Integer.mul?_eq_some_iff`). `Integer.Begins` says that a text
begins with a numeral, after blanks, and which integer that is, of any size. Reading gives exactly
this integer if it fits in 64 bits and is not the least number of the type
(`Integer.ofText?_eq_some_iff`), which is the only number that is written and not read back
(`Integer.not_ofText?_least`).
-/

set_option autoImplicit false
set_option relaxedAutoImplicit false

namespace MarkupRecords.Integer

open Text (Stops)

/-! ### Numbers that fit -/

theorem ofInt?_eq_some_iff {z : Int} {n : Int64} : ofInt? z = some n ↔ n.toInt = z := by
  rw [ofInt?]
  constructor
  · intro h
    split at h
    · next hfits =>
      rw [Int64.toInt_minValue, Int64.toInt_maxValue] at hfits
      rw [← Option.some.inj h]
      exact Int64.toInt_ofInt_of_le hfits.1 (by omega)
    · cases h
  · rintro rfl
    rw [if_pos ⟨n.minValue_le_toInt, n.toInt_le⟩, Int64.ofInt_toInt]

/-- An integer between two others that fit does so too. -/
theorem exists_toInt_eq {z : Int} (hmin : Int64.minValue.toInt ≤ z)
    (hmax : z ≤ Int64.maxValue.toInt) : ∃ n : Int64, n.toInt = z := by
  refine ⟨Int64.ofInt z, ofInt?_eq_some_iff.mp ?_⟩
  rw [ofInt?, if_pos ⟨hmin, hmax⟩]

theorem add?_eq_some_iff {a b n : Int64} : add? a b = some n ↔ n.toInt = a.toInt + b.toInt :=
  ofInt?_eq_some_iff

theorem mul?_eq_some_iff {a b n : Int64} : mul? a b = some n ↔ n.toInt = a.toInt * b.toInt :=
  ofInt?_eq_some_iff

theorem ofDigits?_eq_some_iff {digits : List Char} {n : Int64} :
    ofDigits? digits = some n ↔
      digits ≠ [] ∧ n.toInt = Nat.ofDigitChars 10 digits 0 := by
  rw [ofDigits?]
  split
  · next hnil => simp [hnil]
  · next hne => rw [ofInt?_eq_some_iff, and_iff_right hne]

/-! ### Numerals -/

/-- What can stand before the digits of a numeral, and by what it multiplies their number. -/
inductive IsSign : List Char → Int → Prop where
  | none : IsSign [] 1
  | plus : IsSign ['+'] 1
  | minus : IsSign ['-'] (-1)

/-- After blanks, the text begins with a numeral for the integer: a sign or none, at least one digit
and as many as stand there. -/
def Begins (cs : List Char) (z : Int) : Prop :=
  ∃ (blanks sign digits rest : List Char) (factor : Int),
    cs = blanks ++ (sign ++ (digits ++ rest)) ∧ (∀ c ∈ blanks, Text.isBlank c = true) ∧
      IsSign sign factor ∧ digits ≠ [] ∧ (∀ c ∈ digits, c.isDigit = true) ∧
      Stops Char.isDigit rest ∧ z = factor * Nat.ofDigitChars 10 digits 0

theorem isSign_splitSign (cs : List Char) :
    ∃ sign, cs = sign ++ (splitSign cs).2 ∧ IsSign sign (splitSign cs).1.toInt := by
  rw [splitSign.eq_def]
  split
  · exact ⟨['-'], rfl, .minus⟩
  · exact ⟨['+'], rfl, .plus⟩
  · exact ⟨[], rfl, .none⟩

section IsSign

variable {sign digits rest : List Char} {factor : Int}

theorem IsSign.eq_one_or_eq_neg_one (h : IsSign sign factor) : factor = 1 ∨ factor = -1 := by
  cases h with
  | none => exact .inl rfl
  | plus => exact .inl rfl
  | minus => exact .inr rfl

theorem IsSign.splitSign_append (h : IsSign sign factor) (hne : digits ≠ [])
    (hdigits : ∀ c ∈ digits, c.isDigit = true) :
    splitSign (sign ++ (digits ++ rest)) = (Int64.ofInt factor, digits ++ rest) := by
  cases h with
  | none =>
    obtain ⟨c, digits, rfl⟩ := List.exists_cons_of_ne_nil hne
    have hc : c.isDigit = true := hdigits c List.mem_cons_self
    rw [List.nil_append, List.cons_append, splitSign]
    · rfl
    all_goals
      intro tail heq
      rw [(List.cons.inj heq).1] at hc
      cases hc
  | plus => rfl
  | minus => rfl

/-- Neither a sign nor a digit is blank. -/
theorem IsSign.stops_isBlank (h : IsSign sign factor) (hne : digits ≠ [])
    (hdigits : ∀ c ∈ digits, c.isDigit = true) :
    Stops Text.isBlank (sign ++ (digits ++ rest)) := by
  cases h with
  | none =>
    obtain ⟨c, digits, rfl⟩ := List.exists_cons_of_ne_nil hne
    rintro d ⟨⟩
    exact Selector.isBlank_eq_false_of_isDigit (hdigits c List.mem_cons_self)
  | plus =>
    rintro d ⟨⟩
    decide +kernel
  | minus =>
    rintro d ⟨⟩
    decide +kernel

end IsSign

/-- A sign does not make a number overflow that is not negative. -/
theorem toInt_sign_mul {sign n : Int64} (hsign : sign.toInt = 1 ∨ sign.toInt = -1)
    (hn : 0 ≤ n.toInt) : (sign * n).toInt = sign.toInt * n.toInt := by
  have hmax := n.toInt_lt
  rw [Int64.toInt_mul]
  refine Int.bmod_eq_of_le ?_ ?_
  all_goals rcases hsign with h | h <;> rw [h] <;> omega

/-! ### Reading -/

theorem ofText?_eq (s : String) :
    ofText? s = (ofDigits? ((splitSign (Text.trimStart s.toList)).2.takeWhile Char.isDigit)).map
      ((splitSign (Text.trimStart s.toList)).1 * ·) := rfl

theorem begins_of_ofText? {s : String} {n : Int64} (h : ofText? s = some n) :
    Begins s.toList n.toInt ∧ n ≠ Int64.minValue := by
  obtain ⟨sign, hsplit, hsign⟩ := isSign_splitSign (Text.trimStart s.toList)
  rw [ofText?_eq] at h
  generalize splitSign (Text.trimStart s.toList) = parts at h hsplit hsign
  obtain ⟨factor, numeral⟩ := parts
  obtain ⟨k, hk, rfl⟩ := Option.map_eq_some_iff.mp h
  obtain ⟨hne, hvalue⟩ := ofDigits?_eq_some_iff.mp hk
  have hfactor := hsign.eq_one_or_eq_neg_one
  have hmul := toInt_sign_mul hfactor (n := k) (by omega)
  constructor
  · refine ⟨s.toList.takeWhile Text.isBlank, sign, numeral.takeWhile Char.isDigit,
      numeral.dropWhile Char.isDigit, factor.toInt, ?_, fun c hc ↦ List.mem_takeWhile_imp hc, hsign,
      hne, fun c hc ↦ List.mem_takeWhile_imp hc, Text.stops_dropWhile Char.isDigit numeral, ?_⟩
    · rw [List.takeWhile_append_dropWhile, ← hsplit]
      exact List.takeWhile_append_dropWhile.symm
    · rw [hmul, hvalue]
  · intro hleast
    have hmax := k.toInt_lt
    rw [hleast, Int64.toInt_minValue] at hmul
    rcases hfactor with hone | hone <;> rw [hone] at hmul <;> omega

theorem ofText?_of_begins {s : String} {n : Int64} (h : Begins s.toList n.toInt)
    (hn : n ≠ Int64.minValue) : ofText? s = some n := by
  obtain ⟨blanks, sign, digits, rest, factor, hs, hblanks, hsign, hne, hdigits, hrest, hvalue⟩ := h
  have htrim : Text.trimStart s.toList = sign ++ (digits ++ rest) := by
    rw [hs]
    exact Text.dropWhile_append_of_stops hblanks (hsign.stops_isBlank hne hdigits)
  have hleast : n.toInt ≠ Int64.minValue.toInt := fun heq ↦ hn (Int64.toInt_inj.mp heq)
  have hfits : (Nat.ofDigitChars 10 digits 0 : Int) ≤ Int64.maxValue.toInt := by
    have hmin := n.le_toInt
    have hmax := n.toInt_le
    rw [Int64.toInt_minValue] at hleast
    rw [Int64.toInt_maxValue] at hmax ⊢
    rcases hsign.eq_one_or_eq_neg_one with hone | hone <;> rw [hone] at hvalue <;> omega
  obtain ⟨k, hk⟩ := exists_toInt_eq (by rw [Int64.toInt_minValue]; omega) hfits
  have hfactor : (Int64.ofInt factor).toInt = factor := by
    rcases hsign.eq_one_or_eq_neg_one with rfl | rfl <;> rfl
  rw [ofText?_eq, htrim, hsign.splitSign_append hne hdigits,
    Text.takeWhile_append_of_stops hdigits hrest, ofDigits?_eq_some_iff.mpr ⟨hne, hk⟩,
    Option.map_some, Option.some.injEq, ← Int64.toInt_inj, toInt_sign_mul _ (by omega), hfactor,
    hvalue, hk]
  rw [hfactor]
  exact hsign.eq_one_or_eq_neg_one

theorem ofText?_eq_some_iff {s : String} {n : Int64} :
    ofText? s = some n ↔ Begins s.toList n.toInt ∧ n ≠ Int64.minValue :=
  ⟨begins_of_ofText?, fun h ↦ ofText?_of_begins h.1 h.2⟩

/-- Nothing is read from a text if it begins with no numeral that fits, the least number aside. -/
theorem ofText?_eq_none_iff {s : String} :
    ofText? s = none ↔
      ∀ z, Begins s.toList z → z ≤ Int64.minValue.toInt ∨ Int64.maxValue.toInt < z := by
  rw [Option.eq_none_iff_forall_ne_some]
  constructor
  · intro hnone z hz
    by_contra hfits
    rw [not_or, Int.not_le, Int.not_lt] at hfits
    obtain ⟨n, rfl⟩ := exists_toInt_eq (Int.le_of_lt hfits.1) hfits.2
    refine hnone n (ofText?_of_begins hz ?_)
    rintro rfl
    exact Int.lt_irrefl _ hfits.1
  · intro hbegins n hn
    obtain ⟨hn, hleast⟩ := begins_of_ofText? hn
    rcases hbegins _ hn with hle | hlt
    · exact hleast (Int64.toInt_inj.mp (Int.le_antisymm hle n.minValue_le_toInt))
    · exact absurd n.toInt_le (Int.not_le.mpr hlt)

/-! ### Reading back -/

theorem begins_digits (z : Int) : Begins (digits z) z := by
  have hdigits : ∀ c ∈ Nat.toDigits 10 z.natAbs, c.isDigit = true := fun c hc ↦
    Nat.isDigit_of_mem_toDigits (by decide) (by decide) hc
  rw [digits]
  split
  · refine ⟨[], ['-'], _, [], -1, ?_, nofun, .minus, Nat.toDigits_ne_nil, hdigits, nofun, ?_⟩
    · rw [List.nil_append, List.append_nil, List.singleton_append]
    · rw [Nat.ofDigitChars_ten_toDigits]
      omega
  · refine ⟨[], [], _, [], 1, ?_, nofun, .none, Nat.toDigits_ne_nil, hdigits, nofun, ?_⟩
    · rw [List.nil_append, List.nil_append, List.append_nil]
    · rw [Nat.ofDigitChars_ten_toDigits]
      omega

theorem begins_text (n : Int64) : Begins (text n).toList n.toInt := by
  rw [text, String.toList_ofList]
  exact begins_digits n.toInt

theorem ofText?_text {n : Int64} (hn : n ≠ Int64.minValue) : ofText? (text n) = some n :=
  ofText?_of_begins (begins_text n) hn

theorem applyChain_to_s_to_i (tables : List TransformTable) (n : Int64) :
    Value.applyChain tables ["to_s", "to_i"] (.integer n) = Value.readInteger (text n) := by
  have hto_s : (Value.integer n).operation? "to_s" = some (.text (text n)) := by
    rw [Value.operation?, operation?]
  have hto_i : (Value.text (text n)).operation? "to_i" = some (Value.readInteger (text n)) := by
    rw [Value.operation?, Text.operation?]
  rw [Value.applyChain_cons rfl, Value.applyNamed_of_operation? hto_s, Value.applyChain_cons rfl,
    Value.applyNamed_of_operation? hto_i, Value.applyChain_nil]

/-- The integer that a text begins with is read if it fits, and nothing else is; what is written is
read back, and writing a number and reading it changes nothing. In all this the least number is left
out. -/
theorem ofText?_reads_numeral (s : String) (n : Int64) :
    (ofText? s = some n ↔ Begins s.toList n.toInt ∧ n ≠ Int64.minValue) ∧
      (ofText? s = none ↔
        ∀ z, Begins s.toList z → z ≤ Int64.minValue.toInt ∨ Int64.maxValue.toInt < z) ∧
      (n ≠ Int64.minValue → ofText? (text n) = some n ∧ ∀ tables : List TransformTable,
        Value.applyChain tables ["to_s", "to_i"] (.integer n) = .integer n) := by
  refine ⟨ofText?_eq_some_iff, ofText?_eq_none_iff, fun hn ↦ ⟨ofText?_text hn, fun tables ↦ ?_⟩⟩
  rw [applyChain_to_s_to_i, Value.readInteger, ofText?_text hn]
  rfl

theorem ofText?_reads_numeral_largest :
    let s := " +09223372036854775807th"
    ofText? s = some Int64.maxValue ∧ Begins s.toList Int64.maxValue.toInt ∧
      Int64.maxValue ≠ Int64.minValue ∧ ofText? (text Int64.maxValue) = some Int64.maxValue ∧
      ∀ tables : List TransformTable, Value.applyChain tables ["to_s", "to_i"]
        (.integer Int64.maxValue) = .integer Int64.maxValue := by
  intro s
  obtain ⟨hreads, -, hback⟩ := ofText?_reads_numeral s Int64.maxValue
  have hs : ofText? s = some Int64.maxValue := by decide +kernel
  obtain ⟨hbegins, hne⟩ := hreads.mp hs
  exact ⟨hs, hbegins, hne, hback hne⟩

/-- The digits of the least number do not fit without their sign, so it is not read. -/
theorem not_ofText?_least :
    text Int64.minValue = "-9223372036854775808" ∧ ofText? "-9223372036854775808" = none ∧
      (¬ ∀ (s : String) (n : Int64), ofText? s = some n ↔ Begins s.toList n.toInt) ∧
      Value.applyChain [] ["to_s", "to_i"] (.integer Int64.minValue) = .nil := by
  have htext : text Int64.minValue = "-9223372036854775808" := by decide +kernel
  have hnone : ofText? "-9223372036854775808" = none := by decide +kernel
  refine ⟨htext, hnone, fun hreads ↦ ?_, ?_⟩
  · have hsome := (hreads (text Int64.minValue) Int64.minValue).mpr (begins_text _)
    rw [htext, hnone] at hsome
    cases hsome
  · rw [applyChain_to_s_to_i, Value.readInteger, htext, hnone]
    rfl

end MarkupRecords.Integer
