import MarkupRecords.Specification.Basic

/-!
Properties of a specification and of all those that are applied with it: its parent, the nested
specifications of its entries, and theirs in turn. `Specification.everywhere_iff` unfolds one level.
-/

set_option autoImplicit false
set_option relaxedAutoImplicit false

namespace MarkupRecords

mutual

/-- The property holds of the specification, of its parent and of the nested specifications of its
entries, and so on. -/
def Specification.Everywhere (p : Specification → Prop) : Specification → Prop
  | ⟨entries, hook, mode, parent, transforms⟩ =>
    p ⟨entries, hook, mode, parent, transforms⟩ ∧ Entry.NestedEverywhere p entries ∧
      Specification.MaybeEverywhere p parent

/-- `Specification.Everywhere` for the nested specification of each entry. -/
def Entry.NestedEverywhere (p : Specification → Prop) : List Entry → Prop
  | [] => True
  | ⟨_, _, _, _, nested⟩ :: rest =>
    Specification.MaybeEverywhere p nested ∧ Entry.NestedEverywhere p rest

/-- `Specification.Everywhere` for a specification, if there is one. -/
def Specification.MaybeEverywhere (p : Specification → Prop) : Option Specification → Prop
  | none => True
  | some spec => spec.Everywhere p

end

variable {p : Specification → Prop}

theorem Specification.maybeEverywhere_iff {spec? : Option Specification} :
    Specification.MaybeEverywhere p spec? ↔ ∀ spec, spec? = some spec → spec.Everywhere p := by
  cases spec? with
  | none => simp [Specification.MaybeEverywhere]
  | some spec => simp [Specification.MaybeEverywhere]

theorem Entry.nestedEverywhere_iff {entries : List Entry} :
    Entry.NestedEverywhere p entries ↔
      ∀ e ∈ entries, ∀ nested, e.nested? = some nested → nested.Everywhere p := by
  induction entries with
  | nil => simp [Entry.NestedEverywhere]
  | cons e rest ih =>
    obtain ⟨kind, selector, key, options, nested⟩ := e
    rw [Entry.NestedEverywhere, ih, Specification.maybeEverywhere_iff, List.forall_mem_cons]
    rfl

theorem Specification.everywhere_iff {spec : Specification} :
    spec.Everywhere p ↔ p spec ∧
      (∀ e ∈ spec.entries, ∀ nested, e.nested? = some nested → nested.Everywhere p) ∧
        ∀ parent, spec.parent? = some parent → parent.Everywhere p := by
  obtain ⟨entries, hook, mode, parent, transforms⟩ := spec
  rw [Specification.Everywhere, Entry.nestedEverywhere_iff, Specification.maybeEverywhere_iff]
  rfl

theorem Specification.sizeOf_nested_lt {spec nested : Specification} {e : Entry}
    (he : e ∈ spec.entries) (hnested : e.nested? = some nested) : sizeOf nested < sizeOf spec := by
  obtain ⟨entries, hook, mode, parent, transforms⟩ := spec
  obtain ⟨kind, selector, key, options, _⟩ := e
  cases hnested
  have hlt : sizeOf (Entry.mk kind selector key options (some nested)) < sizeOf entries :=
    List.sizeOf_lt_of_mem he
  simp only [Entry.mk.sizeOf_spec, Option.some.sizeOf_spec] at hlt
  simp only [Specification.mk.sizeOf_spec]
  omega

theorem Specification.sizeOf_parent_lt {spec parent : Specification}
    (hparent : spec.parent? = some parent) : sizeOf parent < sizeOf spec := by
  obtain ⟨entries, hook, mode, _, transforms⟩ := spec
  cases hparent
  simp only [Specification.mk.sizeOf_spec, Option.some.sizeOf_spec]
  omega

/-- What goes over to a specification from its parent and from the nested specifications of its
entries holds of all specifications. -/
theorem Specification.induction {motive : Specification → Prop}
    (step : ∀ spec : Specification,
      (∀ e ∈ spec.entries, ∀ nested, e.nested? = some nested → motive nested) →
        (∀ parent, spec.parent? = some parent → motive parent) → motive spec)
    (spec : Specification) : motive spec :=
  step spec (fun _ he nested hnested ↦
      have := Specification.sizeOf_nested_lt he hnested
      Specification.induction step nested)
    fun parent hparent ↦
      have := Specification.sizeOf_parent_lt hparent
      Specification.induction step parent
termination_by sizeOf spec

theorem Specification.Everywhere.imp {p q : Specification → Prop} (hpq : ∀ spec, p spec → q spec)
    {spec : Specification} (h : spec.Everywhere p) : spec.Everywhere q := by
  induction spec using Specification.induction with
  | step spec ihNested ihParent =>
    obtain ⟨hspec, hnested, hparent⟩ := everywhere_iff.mp h
    exact everywhere_iff.mpr ⟨hpq spec hspec,
      fun e he nested hgiven ↦ ihNested e he nested hgiven (hnested e he nested hgiven),
      fun parent hgiven ↦ ihParent parent hgiven (hparent parent hgiven)⟩

end MarkupRecords
