import MarkupRecords.Extraction
import MarkupRecords.Proofs.Specification.Everywhere
import MarkupRecords.Proofs.Value.KeyPath

/-!
One pass of an extraction. `Specification.ownPass` is what a specification yields by its own entries
and its hook; an extraction merges this over what the parent gives (`Specification.extractIn_eq`).
The entries fill a container with their values (`Entry.fillAll_eq_fill`), each of which depends on
the entry, the tables and the node, and on nothing that is already in the container.

Of the tables an extraction uses only what each name means in them: tables that agree on this give
the same container (`Specification.extractIn_congr`), so a table without entries might as well not
be there.
-/

set_option autoImplicit false
set_option relaxedAutoImplicit false

namespace MarkupRecords

/-- What an entry yields at a node: its value after its transforms, or for the kind `many` the list
of what its nested specification yields at each match. -/
def Entry.value (e : Entry) (mode : Selector.Mode) (tables : List TransformTable) (source : Source)
    (n : Node) : Value :=
  if e.kind = .many then
    .list (Specification.extractEach e.nested? tables source.nested (e.selector.select mode n))
  else Entry.scalarValue e.kind e.selector e.options tables n

/-- The value of an entry, with the path under which it goes. -/
def Entry.item (e : Entry) (mode : Selector.Mode) (tables : List TransformTable) (source : Source)
    (n : Node) : List String × Value :=
  (e.key.segments, e.value mode tables source n)

theorem Entry.map_item_congr {entries : List Entry} {mode : Selector.Mode}
    {tables tables' : List TransformTable} {source : Source} {n n' : Node}
    (h : ∀ e ∈ entries, e.value mode tables source n = e.value mode tables' source n') :
    (entries.map fun e ↦ e.item mode tables source n) =
      entries.map fun e ↦ e.item mode tables' source n' :=
  List.map_congr_left fun e he ↦ congrArg (Prod.mk e.key.segments) (h e he)

theorem Entry.fillAll_eq_fill (entries : List Entry) (mode : Selector.Mode)
    (tables : List TransformTable) (source : Source) (n : Node) (c : Container) :
    Entry.fillAll entries mode tables source n c =
      c.fill (entries.map fun e ↦ e.item mode tables source n) := by
  induction entries generalizing c with
  | nil =>
    rw [Entry.fillAll]
    rfl
  | cons e rest ih =>
    obtain ⟨kind, selector, key, options, nested⟩ := e
    rw [Entry.fillAll, ih]
    rfl

theorem Source.record_of_key_eq_none {s : Source} (hkey : s.key = .none) (c : Container) :
    s.record c = c := by
  rw [record, hkey]

theorem Source.record_withNode (s : Source) (c : Container) (node : Option Node) :
    s.record { c with sourceNode := node } = { s.record c with sourceNode := node } := by
  unfold record
  split <;> rfl

/-- What a specification yields without its parent: its entries fill a container, the path of the
file is added if it is asked for, and the hook edits the container. -/
def Specification.ownPass (spec : Specification) (outer : List TransformTable) (source : Source)
    (n : Node) : Container :=
  let recorded := source.record <| (Container.ofSource source.path (some n)).fill <|
    spec.entries.map fun e ↦ e.item spec.mode (spec.transforms :: outer) source n
  { spec.hook?.elim recorded (fun hook ↦ hook recorded) with sourceNode := none }

theorem Specification.ownPass_of_hook?_eq_none {spec : Specification} (hhook : spec.hook? = none)
    (outer : List TransformTable) (source : Source) (n : Node) :
    spec.ownPass outer source n =
      { source.record ((Container.ofSource source.path (some n)).fill
          (spec.entries.map fun e ↦ e.item spec.mode (spec.transforms :: outer) source n)) with
        sourceNode := none } := by
  rw [ownPass, hhook]
  rfl

/-- An extraction merges the own pass over what the parent gives. -/
theorem Specification.extractIn_eq (spec : Specification) (outer : List TransformTable)
    (source : Source) (n : Node) :
    spec.extractIn outer source n =
      Specification.mergeOver spec.parent? outer source n (spec.ownPass outer source n) := by
  obtain ⟨entries, hook, mode, parent, transforms⟩ := spec
  unfold Specification.extractIn
  rw [Entry.fillAll_eq_fill]
  cases hook <;> rfl

/-! ### Tables that agree -/

/-- Each name means the same in both lists of tables. -/
def TransformTable.Agree (tables tables' : List TransformTable) : Prop :=
  ∀ name : String, tables.findSome? (·.get? name) = tables'.findSome? (·.get? name)

theorem TransformTable.Agree.cons {tables tables' : List TransformTable} (h : Agree tables tables')
    (t : TransformTable) : Agree (t :: tables) (t :: tables') := by
  intro name
  rw [List.findSome?_cons, List.findSome?_cons, h name]

/-- A table without entries gives no name a meaning. -/
theorem TransformTable.agree_cons_of_isEmpty {t : TransformTable} (ht : t.isEmpty = true)
    (tables : List TransformTable) : Agree (t :: tables) tables := by
  intro name
  have hnone : t.get? name = none := by rw [get?, List.isEmpty_iff.mp ht, List.lookup_nil]
  rw [List.findSome?_cons, hnone]

open TransformTable (Agree)

variable {tables tables' : List TransformTable}

theorem Value.applyNamed_congr (h : Agree tables tables') (name : String) (v : Value) :
    v.applyNamed tables name = v.applyNamed tables' name := by
  rw [Value.applyNamed, Value.applyNamed, h name]

theorem Entry.scalarValue_congr (h : Agree tables tables') (kind : Kind) (selector : Selector)
    (options : Options) (n : Node) :
    scalarValue kind selector options tables n = scalarValue kind selector options tables' n := by
  have hchain (v : Value) (names : List String) :
      v.applyChain tables names = v.applyChain tables' names := by
    simp only [Value.applyChain, Value.applyNamed_congr h]
  rw [scalarValue, scalarValue, hchain]

theorem Specification.extractIn_congr (spec : Specification) :
    ∀ {outer outer' : List TransformTable}, Agree outer outer' → ∀ (source : Source) (n : Node),
      spec.extractIn outer source n = spec.extractIn outer' source n := by
  induction spec using Specification.induction with
  | step spec ihNested ihParent =>
    intro outer outer' h source n
    have htables := h.cons spec.transforms
    have hvalue : ∀ e ∈ spec.entries,
        e.value spec.mode (spec.transforms :: outer) source n =
          e.value spec.mode (spec.transforms :: outer') source n := by
      intro e he
      rw [Entry.value, Entry.value, Entry.scalarValue_congr htables]
      cases hnested : e.nested? with
      | none => rfl
      | some nested => simp only [extractEach, ihNested e he nested hnested htables]
    have hown : spec.ownPass outer source n = spec.ownPass outer' source n := by
      rw [ownPass, ownPass, Entry.map_item_congr hvalue]
    rw [extractIn_eq, extractIn_eq, hown]
    cases hparent : spec.parent? with
    | none => rfl
    | some parent => rw [mergeOver, mergeOver, ihParent parent hparent h]

theorem Entry.value_congr (h : Agree tables tables') (e : Entry) (mode : Selector.Mode)
    (source : Source) (n : Node) :
    e.value mode tables source n = e.value mode tables' source n := by
  rw [Entry.value, Entry.value, Entry.scalarValue_congr h]
  cases e.nested? with
  | none => rfl
  | some nested => simp only [Specification.extractEach, nested.extractIn_congr h]

end MarkupRecords
