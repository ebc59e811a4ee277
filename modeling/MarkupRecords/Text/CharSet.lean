/-!
Sets of characters given by ranges of code points. `CharSet.contains` asks whether a character lies
in one of the ranges, `contains_iff` says so as a proposition. The sets of this library are data of
the Unicode standard; each stands in a module named for the property it is about.
-/

set_option autoImplicit false
set_option relaxedAutoImplicit false

namespace MarkupRecords

/-- A set of characters as a list of ranges of code points, both ends included. -/
structure CharSet where
  ranges : List (Nat × Nat)

namespace CharSet

/-- The set of the characters in any of the given ranges. -/
def ofRanges (ranges : List (Nat × Nat)) : CharSet := ⟨ranges⟩

/-- Whether a character lies in one of the ranges. -/
def contains (s : CharSet) (c : Char) : Bool :=
  s.ranges.any fun r ↦ r.1 ≤ c.toNat && c.toNat ≤ r.2

theorem contains_iff {s : CharSet} {c : Char} :
    s.contains c = true ↔ ∃ r ∈ s.ranges, r.1 ≤ c.toNat ∧ c.toNat ≤ r.2 := by
  simp [contains]

end CharSet

end MarkupRecords
