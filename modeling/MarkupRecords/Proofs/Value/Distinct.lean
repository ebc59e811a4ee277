import MarkupRecords.Proofs.Value.Merge
import MarkupRecords.Proofs.Value.Throughout

/-!
Keys that are held once. That no key is held twice in a value is a property of the containers in it
(`Value.distinct_iff_throughout`), and it lasts (`Container.lasting_nodup_keys`).
-/

set_option autoImplicit false
set_option relaxedAutoImplicit false

namespace MarkupRecords

mutual

theorem Value.distinct_iff_throughout : ∀ {v : Value},
    v.Distinct ↔ v.Throughout (·.keys.Nodup)
  | .list items => by
    rw [Value.Distinct, Value.Throughout, Value.allDistinct_iff_allThroughout]
  | .map c => by rw [Value.Distinct, Value.Throughout, Container.distinct_iff_throughout]
  | .nil | .bool _ | .integer _ | .text _ | .date _ | .node _ => Iff.rfl

theorem Value.allDistinct_iff_allThroughout : ∀ {vs : List Value},
    Value.AllDistinct vs ↔ Value.AllThroughout (·.keys.Nodup) vs
  | [] => Iff.rfl
  | v :: vs => by
    rw [Value.AllDistinct, Value.AllThroughout, Value.distinct_iff_throughout,
      Value.allDistinct_iff_allThroughout]

theorem Container.distinct_iff_throughout : ∀ {c : Container},
    c.Distinct ↔ c.Throughout (·.keys.Nodup)
  | ⟨entries, path, node⟩ => by
    rw [Container.Distinct, Container.Throughout, Container.entriesDistinct_iff_entriesThroughout]
    rfl

theorem Container.entriesDistinct_iff_entriesThroughout : ∀ {entries : List (String × Value)},
    Container.EntriesDistinct entries ↔ Container.EntriesThroughout (·.keys.Nodup) entries
  | [] => Iff.rfl
  | (_, v) :: rest => by
    rw [Container.EntriesDistinct, Container.EntriesThroughout, Value.distinct_iff_throughout,
      Container.entriesDistinct_iff_entriesThroughout]

end

theorem Value.distinct_list_iff {items : List Value} :
    (Value.list items).Distinct ↔ ∀ v ∈ items, v.Distinct := by
  simp only [Value.distinct_iff_throughout, Value.throughout_list_iff]

theorem Value.distinct_map_iff {c : Container} : (Value.map c).Distinct ↔ c.Distinct := by
  rw [Value.Distinct]

namespace Container

theorem lasting_nodup_keys : Lasting (·.keys.Nodup) where
  empty := List.nodup_nil
  insert _ key value hc := nodup_keys_insert hc key value
  erase _ key hc := nodup_keys_erase hc key

theorem distinct_iff {c : Container} : c.Distinct ↔ c.keys.Nodup ∧ c.Holds (·.keys.Nodup) := by
  rw [distinct_iff_throughout, throughout_iff]

theorem distinct_iff_forall {c : Container} :
    c.Distinct ↔ c.keys.Nodup ∧ ∀ e ∈ c.entries, e.2.Distinct := by
  simp only [distinct_iff, Holds, Value.distinct_iff_throughout]

theorem distinct_withNode {c : Container} (hc : c.Distinct) (node : Option Node) :
    Container.Distinct { c with sourceNode := node } := by
  rw [distinct_iff] at hc ⊢
  exact hc

/-- A container with nothing twice is equal to itself. -/
theorem beq_self {c : Container} (hc : c.Distinct) : (c == c) = true := by
  rw [← Value.map_beq_map]
  exact Value.beq_self (by rwa [Value.Distinct])

end Container

end MarkupRecords
