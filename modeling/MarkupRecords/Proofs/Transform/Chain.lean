import MarkupRecords.Transform.Table

/-!
Chains of transforms, one name after the other. A chain ends at nil (`Value.applyChain_of_isNil`);
what is not nil goes through the first transform and then through the rest of the chain
(`Value.applyChain_cons`).
-/

set_option autoImplicit false
set_option relaxedAutoImplicit false

namespace MarkupRecords.Value

theorem applyChain_nil (tables : List TransformTable) (v : Value) :
    v.applyChain tables [] = v :=
  rfl

theorem applyChain_of_isNil {tables : List TransformTable} {v : Value} (hv : v.isNil = true)
    (names : List String) : v.applyChain tables names = v := by
  induction names with
  | nil => rfl
  | cons name names ih =>
    rw [applyChain, List.foldl_cons, if_pos hv]
    exact ih

theorem applyChain_cons {tables : List TransformTable} {v : Value} (hv : v.isNil = false)
    (name : String) (names : List String) :
    v.applyChain tables (name :: names) = (v.applyNamed tables name).applyChain tables names := by
  rw [applyChain, List.foldl_cons, hv]
  rfl

/-- The rest of a chain goes on from what its first transform has made. -/
theorem applyChain_cons_eq (tables : List TransformTable) (name : String) (names : List String)
    (v : Value) : v.applyChain tables (name :: names) =
      (v.applyChain tables [name]).applyChain tables names := rfl

/-- An operation that the kind of a value has goes before all transforms of that name. -/
theorem applyNamed_of_operation? {tables : List TransformTable} {name : String} {v w : Value}
    (h : v.operation? name = some w) : v.applyNamed tables name = w := by
  rw [applyNamed, h]

end MarkupRecords.Value
