import MarkupRecords.Proofs.Extraction.Lineage
import MarkupRecords.Proofs.Extraction.Throughout
import MarkupRecords.Proofs.Value.Distinct

/-!
Extracted containers hold each key once, at every depth (`Specification.distinct_extractIn`). Hooks
and transforms must not spoil this; everything else puts values in with `Container.insert`.
-/

set_option autoImplicit false
set_option relaxedAutoImplicit false

namespace MarkupRecords

/-- The transforms give values that hold each key once, from such values. -/
def TransformTable.KeepsDistinct (t : TransformTable) : Prop :=
  ∀ (name : String) (f : Value → Value), t.get? name = some f → ∀ v, v.Distinct → (f v).Distinct

/-- The hook and the transforms of the specification itself keep keys from being held twice. -/
structure Specification.KeepsDistinct (spec : Specification) : Prop where
  hook : ∀ hook, spec.hook? = some hook → ∀ c : Container, c.Distinct → (hook c).Distinct
  transforms : spec.transforms.KeepsDistinct

theorem TransformTable.KeepsDistinct.keeps {t : TransformTable} (h : t.KeepsDistinct) :
    t.Keeps (·.keys.Nodup) := by
  intro name f hf v hv
  exact Value.distinct_iff_throughout.mp (h name f hf v (Value.distinct_iff_throughout.mpr hv))

namespace Specification

theorem KeepsDistinct.keeps {spec : Specification} (h : spec.KeepsDistinct) :
    spec.Keeps (·.keys.Nodup) where
  transforms := h.transforms.keeps
  ownPass outer source n hvalues := by
    have hrecorded : Container.Distinct (source.record ((Container.ofSource source.path
        (some n)).fill (spec.entries.map fun e ↦
          e.item spec.mode (spec.transforms :: outer) source n))) := by
      refine Container.distinct_iff.mpr
        ⟨source.nodup_keys_record (Container.nodup_keys_fill ?_ _), ?_⟩
      · exact List.nodup_nil
      · exact holds_record_fill Container.lasting_nodup_keys hvalues
    refine Container.distinct_iff_throughout.mp (Container.distinct_withNode ?_ none)
    cases hhook : spec.hook? with
    | none => exact hrecorded
    | some hook => exact h.hook hook hhook _ hrecorded

/-- No key is held twice in what is extracted, if no hook and no transform spoils this. -/
theorem distinct_extractIn {spec : Specification} (h : spec.Everywhere KeepsDistinct)
    {outer : List TransformTable} (houter : ∀ t ∈ outer, t.KeepsDistinct) (source : Source)
    (n : Node) : (spec.extractIn outer source n).Distinct := by
  rw [Container.distinct_iff_throughout]
  exact throughout_extractIn Container.lasting_nodup_keys (h.imp fun _ hspec ↦ hspec.keeps)
    (fun t ht ↦ (houter t ht).keeps) source n

end Specification

end MarkupRecords
