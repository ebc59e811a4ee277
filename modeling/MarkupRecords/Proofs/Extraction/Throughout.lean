import MarkupRecords.Proofs.Extraction.Pass
import MarkupRecords.Proofs.Value.Throughout

/-!
Properties of the containers in what is extracted. The values of entries other than those of kind
`many` hold no container but by a transform, so a property of containers is left to the transforms
(`TransformTable.Keeps`) and to what an own pass does with values that have it
(`Specification.Keeps`). If all specifications that are applied keep it, every container that is
extracted has it, at any depth (`Specification.throughout_extractIn`).
-/

set_option autoImplicit false
set_option relaxedAutoImplicit false

namespace MarkupRecords

variable {p : Container → Prop}

/-- The transforms give values throughout which the property holds, from such values. -/
def TransformTable.Keeps (t : TransformTable) (p : Container → Prop) : Prop :=
  ∀ (name : String) (f : Value → Value), t.get? name = some f →
    ∀ v, v.Throughout p → (f v).Throughout p

/-- The transforms of the specification itself keep the property, and its own pass has it throughout
if the values of its entries do. -/
structure Specification.Keeps (p : Container → Prop) (spec : Specification) : Prop where
  transforms : spec.transforms.Keeps p
  ownPass : ∀ (outer : List TransformTable) (source : Source) (n : Node),
    (∀ e ∈ spec.entries,
      (e.value spec.mode (spec.transforms :: outer) source n).Throughout p) →
    (spec.ownPass outer source n).Throughout p

namespace Value

/-! ### Values of entries -/

theorem throughout_getD {α : Type} {f : α → Value} (hf : ∀ a, (f a).Throughout p)
    (a? : Option α) : ((a?.map f).getD .nil).Throughout p := by
  cases a? with
  | none => trivial
  | some a => exact hf a

theorem throughout_readInteger (s : String) : (readInteger s).Throughout p :=
  throughout_getD (f := integer) (fun _ ↦ trivial) _

theorem throughout_readBool (s : String) : (readBool s).Throughout p :=
  throughout_getD (f := bool) (fun _ ↦ trivial) _

theorem throughout_coerce (kind : Kind) {v : Value} (hv : v.Throughout p) :
    (v.coerce kind).Throughout p := by
  unfold coerce
  split
  · exact throughout_readInteger _
  · exact throughout_readBool _
  · exact hv

theorem throughout_text_operation? {name s : String} {v : Value}
    (h : Text.operation? name s = some v) : v.Throughout p := by
  unfold Text.operation? at h
  split at h <;> cases h
  any_goals trivial
  exact throughout_readInteger s

theorem throughout_node_operation? {name : String} {n : Node} {v : Value}
    (h : n.operation? name = some v) : v.Throughout p := by
  unfold Node.operation? at h
  split at h <;> cases h <;> trivial

theorem throughout_integer_operation? {name : String} {n : Int64} {v : Value}
    (h : Integer.operation? name n = some v) : v.Throughout p := by
  unfold Integer.operation? at h
  split at h <;> cases h <;> trivial

theorem throughout_list_operation? {name : String} {items : List Value} {v : Value}
    (hitems : ∀ item ∈ items, item.Throughout p) (h : (list items).operation? name = some v) :
    v.Throughout p := by
  have hgetD : ∀ item? : Option Value, (∀ item, item? = some item → item ∈ items) →
      (item?.getD nil).Throughout p := by
    intro item? hmem
    cases item? with
    | none => trivial
    | some item => exact hitems item (hmem item rfl)
  unfold operation? at h
  dsimp only at h
  split at h <;> cases h
  · trivial
  · exact hgetD _ fun _ ↦ List.mem_of_mem_head?
  · exact hgetD _ fun _ ↦ List.mem_of_mem_getLast?

theorem throughout_operation? {name : String} {v w : Value} (hv : v.Throughout p)
    (h : v.operation? name = some w) : w.Throughout p := by
  cases v with
  | nil => cases h
  | text s => exact throughout_text_operation? h
  | node n => exact throughout_node_operation? h
  | integer n => exact throughout_integer_operation? h
  | list items => exact throughout_list_operation? (throughout_list_iff.mp hv) h
  | _ =>
    rw [operation?] at h
    split at h <;> cases h
    trivial

theorem throughout_builtin? {name : String} {v w : Value} (h : v.builtin? name = some w) :
    w.Throughout p := by
  obtain ⟨read, hread, rfl⟩ := Option.map_eq_some_iff.mp h
  refine throughout_getD (fun s ↦ ?_) _
  unfold builtinReader? at hread
  split at hread <;> cases hread
  · exact throughout_getD (f := date) (fun _ ↦ trivial) _
  · exact throughout_getD (f := integer) (fun _ ↦ trivial) _
  · exact throughout_readBool s

section Tables

variable {tables : List TransformTable} (htables : ∀ t ∈ tables, t.Keeps p)

include htables

theorem throughout_applyNamed (name : String) {v : Value} (hv : v.Throughout p) :
    (v.applyNamed tables name).Throughout p := by
  rw [applyNamed]
  split
  · next w hw => exact throughout_operation? hv hw
  · split
    · next f hf =>
      obtain ⟨t, ht, hget⟩ := List.exists_of_findSome?_eq_some hf
      exact htables t ht name f hget v hv
    · cases hbuiltin : v.builtin? name with
      | none => exact hv
      | some w => exact throughout_builtin? hbuiltin

theorem throughout_applyChain (names : List String) {v : Value} (hv : v.Throughout p) :
    (v.applyChain tables names).Throughout p := by
  rw [applyChain]
  induction names generalizing v with
  | nil => exact hv
  | cons name names ih =>
    rw [List.foldl_cons]
    refine ih ?_
    split
    · exact hv
    · exact throughout_applyNamed htables name hv

end Tables

end Value

namespace Entry

theorem throughout_read (kind : Kind) (selector : Selector) (options : Options) (n : Node) :
    (read kind selector options n).Throughout p := by
  have hattribute (name : String) : (readAttribute selector name n).Throughout p :=
    Value.throughout_getD (f := Value.text) (fun _ ↦ trivial) _
  have htext : (readText selector n).Throughout p := by
    rw [readText]
    split
    · split <;> trivial
    · trivial
  unfold read
  split
  any_goals trivial
  · exact Value.throughout_getD (f := Value.node) (fun _ ↦ trivial) _
  · exact hattribute _

theorem throughout_scalarValue (kind : Kind) (selector : Selector) (options : Options)
    {tables : List TransformTable} (htables : ∀ t ∈ tables, t.Keeps p) (n : Node) :
    (scalarValue kind selector options tables n).Throughout p := by
  have hread : (read kind selector options n).Throughout p :=
    throughout_read kind selector options n
  rw [scalarValue]
  split
  · exact Value.throughout_applyChain htables _ (Value.throughout_coerce kind hread)
  · exact hread

/-- The value of an entry has the property throughout if all that its nested specification extracts
has. -/
theorem throughout_value {e : Entry} {tables : List TransformTable}
    (htables : ∀ t ∈ tables, t.Keeps p) {source : Source}
    (hitems : ∀ nested, e.nested? = some nested →
      ∀ m : Node, (nested.extractIn tables source.nested m).Throughout p)
    (mode : Selector.Mode) (n : Node) : (e.value mode tables source n).Throughout p := by
  rw [value]
  split
  · refine Value.throughout_list_iff.mpr fun v hv ↦ ?_
    cases hnested : e.nested? with
    | none =>
      rw [hnested, Specification.extractEach] at hv
      cases hv
    | some nested =>
      rw [hnested, Specification.extractEach] at hv
      obtain ⟨m, -, rfl⟩ := List.mem_map.mp hv
      exact Value.throughout_map_iff.mpr (hitems nested hnested m)
  · exact throughout_scalarValue e.kind e.selector e.options htables n

end Entry

/-! ### Containers -/

namespace Container

theorem Holds.record {c : Container} (hc : c.Holds p) (s : Source) : (s.record c).Holds p := by
  rw [Source.record]
  split
  · exact hc.insert _ trivial
  · exact hc

theorem Lasting.throughout_forget (hp : Lasting p) {c : Container} (hc : c.Throughout p)
    (s : Source) : (s.forget c).Throughout p := by
  rw [Source.forget]
  split
  · exact hp.throughout_erase hc _
  · exact hc

end Container

namespace Specification

/-- What the entries fill in, and the path of the file with it, holds the property if the values of
the entries do. -/
theorem holds_record_fill (hp : Container.Lasting p) {spec : Specification}
    {tables : List TransformTable} {source : Source} {n : Node}
    (hvalues : ∀ e ∈ spec.entries, (e.value spec.mode tables source n).Throughout p) :
    (source.record ((Container.ofSource source.path (some n)).fill
      (spec.entries.map fun e ↦ e.item spec.mode tables source n))).Holds p :=
  ((Container.holds_of_entries_eq_nil rfl).fill hp (List.forall_mem_map.mpr hvalues)).record source

/-- Every container that is extracted has the property, at any depth, if all specifications that are
applied keep it. -/
theorem throughout_extractIn (hp : Container.Lasting p) {spec : Specification}
    (h : spec.Everywhere (Keeps p)) :
    ∀ {outer : List TransformTable}, (∀ t ∈ outer, t.Keeps p) → ∀ (source : Source) (n : Node),
      (spec.extractIn outer source n).Throughout p := by
  induction spec using Specification.induction with
  | step spec ihNested ihParent =>
    intro outer houter source n
    obtain ⟨hkeeps, hnestedKeeps, hparentKeeps⟩ := everywhere_iff.mp h
    have htables : ∀ t ∈ spec.transforms :: outer, t.Keeps p :=
      List.forall_mem_cons.mpr ⟨hkeeps.transforms, houter⟩
    have hown : (spec.ownPass outer source n).Throughout p :=
      hkeeps.ownPass outer source n fun e he ↦ e.throughout_value htables
        (fun nested hnested m ↦ ihNested e he nested hnested
          (hnestedKeeps e he nested hnested) htables source.nested m) spec.mode n
    rw [extractIn_eq]
    cases hparent : spec.parent? with
    | none => exact hown
    | some parent =>
      have hinherited := ihParent parent hparent (hparentKeeps parent hparent) houter source n
      exact hp.throughout_merge (hp.throughout_forget hinherited source)
        (Container.throughout_iff.mp hown).2

end Specification

end MarkupRecords
