import MarkupRecords.Selector.Rendering
import Mathlib.Tactic.Tauto

/-!
The characters of names. Sets of characters whose ranges lie apart have no character in common
(`CharSet.contains_eq_false`); so no character of a name is blank, and none at the start of one is a
digit. The marks of the grammar neither begin nor go on a name.
-/

set_option autoImplicit false
set_option relaxedAutoImplicit false

namespace MarkupRecords

/-- The ranges of two sets lie apart. -/
def CharSet.Apart (s t : CharSet) : Prop :=
  ∀ r ∈ s.ranges, ∀ r' ∈ t.ranges, r.2 < r'.1 ∨ r'.2 < r.1

theorem CharSet.contains_eq_false {s t : CharSet} (h : Apart s t) {c : Char}
    (hc : s.contains c = true) : t.contains c = false := by
  rw [Bool.eq_false_iff]
  intro hc'
  obtain ⟨r, hr, hle, hge⟩ := contains_iff.mp hc
  obtain ⟨r', hr', hle', hge'⟩ := contains_iff.mp hc'
  rcases h r hr r' hr' with hlt | hlt <;> omega

namespace Selector

theorem apart_alphabetic_blanks : CharSet.Apart Text.alphabetic Text.blanks := by
  unfold CharSet.Apart
  decide +kernel

theorem apart_numeric_blanks : CharSet.Apart Text.numeric Text.blanks := by
  unfold CharSet.Apart
  decide +kernel

/-- The digits that numbers are written with. -/
def digits : CharSet := .ofRanges [(0x30, 0x39)]

theorem contains_digits {c : Char} (h : c.isDigit = true) : digits.contains c = true := by
  refine CharSet.contains_iff.mpr ⟨_, List.mem_singleton_self _, ?_⟩
  simpa [Char.isDigit, UInt32.le_iff_toNat_le] using h

theorem apart_digits_blanks : CharSet.Apart digits Text.blanks := by
  unfold CharSet.Apart
  decide +kernel

theorem apart_digits_alphabetic : CharSet.Apart digits Text.alphabetic := by
  unfold CharSet.Apart
  decide +kernel

theorem isNameChar_of_isNameStart {c : Char} (h : isNameStart c = true) : isNameChar c = true := by
  simp only [isNameStart, isNameChar, Bool.or_eq_true] at h ⊢
  tauto

theorem isBlank_eq_false_of_isNameChar {c : Char} (h : isNameChar c = true) :
    Text.isBlank c = false := by
  simp only [isNameChar, Bool.or_eq_true, beq_iff_eq, or_assoc] at h
  rcases h with h | h | rfl | rfl | rfl | rfl
  · exact CharSet.contains_eq_false apart_alphabetic_blanks h
  · exact CharSet.contains_eq_false apart_numeric_blanks h
  all_goals decide +kernel

theorem isBlank_eq_false_of_isDigit {c : Char} (h : c.isDigit = true) : Text.isBlank c = false :=
  CharSet.contains_eq_false apart_digits_blanks (contains_digits h)

theorem isDigit_eq_false_of_isNameStart {c : Char} (h : isNameStart c = true) :
    c.isDigit = false := by
  rw [Bool.eq_false_iff]
  intro hdigit
  simp only [isNameStart, Bool.or_eq_true, beq_iff_eq] at h
  rcases h with h | rfl
  · rw [CharSet.contains_eq_false apart_digits_alphabetic (contains_digits hdigit)] at h
    cases h
  · revert hdigit
    decide

/-- A check of all characters of a list, one after the other. -/
theorem eq_of_all {p : Char → Bool} {b : Bool} {cs : List Char}
    (h : (cs.all fun c ↦ p c == b) = true) : ∀ c ∈ cs, p c = b :=
  fun c hc ↦ beq_iff_eq.mp (List.all_eq_true.mp h c hc)

/-- The characters that can stand right after a step: those before further steps or predicates, at
the end of a predicate or of parentheses, and before what a condition goes on with. -/
def afterStep : List Char := ['/', '[', ']', ')', ' ', '=', '!']

theorem isNameChar_eq_false_of_mem {c : Char} (hc : c ∈ '(' :: afterStep) : isNameChar c = false :=
  eq_of_all (by decide +kernel) c hc

theorem isNameStart_eq_false_of_mem {c : Char} (hc : c ∈ ['.', '*', '/', '@', '(', ']', '[']) :
    isNameStart c = false :=
  eq_of_all (by decide +kernel) c hc

theorem not_isNameChar_slash : isNameChar '/' = false :=
  isNameChar_eq_false_of_mem (by decide)

theorem exists_cons_of_isName {name : String} (hname : isName name = true) :
    ∃ c cs, name.toList = c :: cs ∧ isNameStart c = true ∧ ∀ d ∈ cs, isNameChar d = true := by
  unfold isName at hname
  split at hname
  · cases hname
  · rename_i c cs hcs
    obtain ⟨hstart, hall⟩ := Bool.and_eq_true_iff.mp hname
    exact ⟨c, cs, hcs, hstart, List.all_eq_true.mp hall⟩

theorem isNameChar_of_mem {name : String} (hname : isName name = true) {c : Char}
    (hc : c ∈ name.toList) : isNameChar c = true := by
  obtain ⟨d, ds, hds, hstart, hall⟩ := exists_cons_of_isName hname
  rw [hds] at hc
  rcases List.mem_cons.mp hc with rfl | hc
  · exact isNameChar_of_isNameStart hstart
  · exact hall c hc

end Selector

end MarkupRecords
