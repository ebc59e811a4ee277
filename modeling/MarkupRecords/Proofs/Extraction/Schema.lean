import MarkupRecords.Proofs.Extraction.Many
import MarkupRecords.Proofs.Specification.Hereditary

/-!
The schema of a specification. `Kind.Admits` says which values an entry of a kind may have, and
`Specification.Conforms` that a container has such a value for each entry under its key, those of
kind `many` holding containers that conform to the nested specification, and nothing anywhere else.
Without hooks, parents and transforms that an entry names, and with keys that lie apart, every
extraction conforms (`Specification.conforms_extractIn`): values come out of `Entry.read` and
`Value.coerce` alone (`Entry.admits_scalarValue`), and no entry touches the value of another.
-/

set_option autoImplicit false
set_option relaxedAutoImplicit false

namespace MarkupRecords

/-! ### Values of a kind -/

/-- An entry of the kind may have the value; `Item` says which containers a list may hold. -/
def Kind.Admits (Item : Container → Prop) : Kind → Value → Prop
  | .text, v => v = .nil ∨ ∃ s, s ≠ "" ∧ v = .text s
  | .attribute, v => v = .nil ∨ ∃ s, v = .text s
  | .integer, v => v = .nil ∨ ∃ i, v = .integer i
  | .boolean, v => v = .nil ∨ ∃ b, v = .bool b
  | .exists, v | .notExists, v => ∃ b, v = .bool b
  | .nodeName, v | .innerText, v => ∃ s, v = .text s
  | .node, v => v = .nil ∨ ∃ n, v = .node n
  | .many, v => ∃ cs : List Container, v = .list (cs.map .map) ∧ ∀ c ∈ cs, Item c

mutual

/-- The container has a value for each entry of the specification, and nothing that is not on the
way to the key of an entry or below it. -/
def Specification.Conforms : Specification → Container → Prop
  | ⟨entries, _, _, _, _⟩ => fun c ↦ Entry.AllConform entries c ∧
    ∀ path v, c.getPath? path = some v → ∃ e ∈ entries,
      path <+: e.key.segments ∨ e.key.segments <+: path

/-- The container has a value for each entry. -/
def Entry.AllConform : List Entry → Container → Prop
  | [] => fun _ ↦ True
  | ⟨kind, _, key, _, nested⟩ :: rest => fun c ↦
    (∃ v, c.getPath? key.segments = some v ∧ kind.Admits (Specification.SomeConforms nested) v) ∧
      Entry.AllConform rest c

/-- There is a specification to which the container conforms. -/
def Specification.SomeConforms : Option Specification → Container → Prop
  | none => fun _ ↦ False
  | some spec => spec.Conforms

end

theorem Specification.someConforms_iff {spec? : Option Specification} {c : Container} :
    SomeConforms spec? c ↔ ∃ spec, spec? = some spec ∧ spec.Conforms c := by
  cases spec? with
  | none => simp [SomeConforms]
  | some spec => simp [SomeConforms]

theorem Entry.allConform_iff {entries : List Entry} {c : Container} :
    AllConform entries c ↔ ∀ e ∈ entries, ∃ v, c.getPath? e.key.segments = some v ∧
      e.kind.Admits (fun d ↦ ∃ nested, e.nested? = some nested ∧ nested.Conforms d) v := by
  induction entries with
  | nil => simp [AllConform]
  | cons e rest ih =>
    obtain ⟨kind, selector, key, options, nested⟩ := e
    have hnested : Specification.SomeConforms nested =
        fun d ↦ ∃ spec, nested = some spec ∧ spec.Conforms d :=
      funext fun d ↦ propext Specification.someConforms_iff
    rw [AllConform, hnested, List.forall_mem_cons, ← ih]
    rfl

theorem Specification.conforms_iff {spec : Specification} {c : Container} :
    spec.Conforms c ↔
      (∀ e ∈ spec.entries, ∃ v, c.getPath? e.key.segments = some v ∧
        e.kind.Admits (fun d ↦ ∃ nested, e.nested? = some nested ∧ nested.Conforms d) v) ∧
      ∀ path v, c.getPath? path = some v → ∃ e ∈ spec.entries,
        path <+: e.key.segments ∨ e.key.segments <+: path := by
  obtain ⟨entries, hook, mode, parent, transforms⟩ := spec
  rw [Conforms]
  exact and_congr Entry.allConform_iff Iff.rfl

/-! ### Values of entries -/

namespace Entry

variable (Item : Container → Prop)

theorem readText_eq (selector : Selector) (n : Node) :
    readText selector n = .nil ∨ ∃ s, s ≠ "" ∧ readText selector n = .text s := by
  unfold readText
  split
  · split_ifs with hempty
    · exact .inl rfl
    · exact .inr ⟨_, hempty, rfl⟩
  · exact .inl rfl

/-- A text that is read is the value, or the whole number or truth value that it denotes. -/
theorem admits_coerce_readText {kind : Kind}
    (hkind : kind = .text ∨ kind = .integer ∨ kind = .boolean) (selector : Selector) (n : Node) :
    kind.Admits Item ((readText selector n).coerce kind) := by
  obtain hnil | ⟨s, hs, htext⟩ := readText_eq selector n
  · rw [hnil]
    rcases hkind with rfl | rfl | rfl <;> exact .inl rfl
  · rw [htext]
    rcases hkind with rfl | rfl | rfl
    · exact .inr ⟨s, hs, rfl⟩
    · rw [Value.coerce, Value.readInteger]
      cases Integer.ofText? s with
      | none => exact .inl rfl
      | some i => exact .inr ⟨i, rfl⟩
    · rw [Value.coerce, Value.readBool]
      cases Flag.ofText? s with
      | none => exact .inl rfl
      | some b => exact .inr ⟨b, rfl⟩

/-- Without transforms the value of an entry is one that its kind may have. -/
theorem admits_scalarValue {kind : Kind} (hkind : kind ≠ .many) (selector : Selector)
    {options : Options} (hoptions : options.afterMap = []) (tables : List TransformTable)
    (n : Node) :
    kind.Admits Item (scalarValue kind selector options tables n) := by
  have hchain (v : Value) : v.applyChain tables options.afterMap = v := by rw [hoptions]; rfl
  unfold scalarValue
  simp only [hchain]
  cases kind with
  | text => exact admits_coerce_readText Item (by simp) selector n
  | integer => exact admits_coerce_readText Item (by simp) selector n
  | boolean => exact admits_coerce_readText Item (by simp) selector n
  | «exists» => exact ⟨_, rfl⟩
  | notExists => exact ⟨_, rfl⟩
  | nodeName => exact ⟨_, rfl⟩
  | innerText => exact ⟨_, rfl⟩
  | node =>
    simp only [isMapped, if_true, read, Value.coerce]
    cases selector.first? n with
    | none => exact .inl rfl
    | some found => exact .inr ⟨found, rfl⟩
  | «attribute» =>
    simp only [isMapped, if_true, read, readAttribute, Value.coerce]
    cases (selector.first? n).bind fun found ↦
        found.unwrapDocument.attribute? (options.attributeName.getD "") with
    | none => exact .inl rfl
    | some value => exact .inr ⟨value, rfl⟩
  | many => exact absurd rfl hkind

end Entry

/-! ### Extractions -/

/-- The specification says nothing but what the entries read, and where the values go. -/
structure Specification.IsSchema (spec : Specification) : Prop where
  hook : spec.hook? = none
  parent : spec.parent? = none
  afterMap : ∀ e ∈ spec.entries, e.options.afterMap = []
  keys : spec.entries.Pairwise fun a b ↦ KeysApart a.key.segments b.key.segments

theorem Container.getPath?_ofSource (file : Option String) (node : Option Node)
    (path : List String) : (ofSource file node).getPath? path = none := by
  unfold getPath?
  split <;> rfl

/-- Something is found only on the way to what has been filled in, or below it. -/
theorem Container.exists_of_getPath?_fill {c : Container} (hc : ∀ path, c.getPath? path = none)
    {items : List (List String × Value)} {path : List String} {v : Value}
    (hv : (c.fill items).getPath? path = some v) :
    ∃ item ∈ items, path <+: item.1 ∨ item.1 <+: path := by
  by_contra hnone
  have hapart : ∀ item ∈ items, KeysApart path item.1 := fun item hitem ↦
    ⟨fun hprefix ↦ hnone ⟨item, hitem, .inl hprefix⟩,
      fun hprefix ↦ hnone ⟨item, hitem, .inr hprefix⟩⟩
  rw [getPath?_fill_of_apart c hapart, hc] at hv
  cases hv

namespace Specification

variable {spec : Specification}

/-- In a specification that has been built, the nested specifications give lists of containers. -/
theorem admits_value (hbuilt : spec.IsBuilt) (hschema : spec.IsSchema) {e : Entry}
    (he : e ∈ spec.entries) {Item : Container → Prop} {tables : List TransformTable}
    {source : Source} {n : Node}
    (hitem : ∀ nested, e.nested? = some nested →
      ∀ m, Item (nested.extractIn tables source.nested m)) :
    e.kind.Admits Item (e.value spec.mode tables source n) := by
  by_cases hkind : e.kind = .many
  · obtain ⟨nested, hnested⟩ :=
      Option.isSome_iff_exists.mp ((hbuilt.wellFormed e he).nested_iff.mpr hkind)
    rw [hkind, Entry.value_of_many hkind hnested]
    refine ⟨(e.selector.select spec.mode n).map (nested.extractIn tables source.nested), ?_, ?_⟩
    · rw [List.map_map]
      rfl
    · exact List.forall_mem_map.mpr fun m _ ↦ hitem nested hnested m
  · rw [Entry.value, if_neg hkind]
    exact Entry.admits_scalarValue Item hkind e.selector (hschema.afterMap e he) tables n

/-- What a specification extracts conforms to it, if it has been built and if neither it nor a
specification that is applied with it has a hook, a parent, an entry that names a transform or two
keys of which one begins with the other. -/
theorem conforms_extractIn (hbuilt : spec.IsBuilt) (hschema : spec.Everywhere IsSchema)
    (outer : List TransformTable) {source : Source} (hkey : source.key = none) (n : Node) :
    spec.Conforms (spec.extractIn outer source n) := by
  induction spec using Specification.induction generalizing outer source n with
  | step spec ihNested _ =>
    obtain ⟨hspec, hnestedSchema, -⟩ := everywhere_iff.mp hschema
    obtain ⟨-, hnestedBuilt, -⟩ := everywhere_iff.mp hbuilt.everywhere
    refine conforms_iff.mpr ⟨fun e he ↦
      ⟨e.value spec.mode (spec.transforms :: outer) source n, ?_, ?_⟩, fun path v hv ↦ ?_⟩
    · obtain ⟨before, after, hentries⟩ := List.append_of_mem he
      have hlater : ∀ later ∈ after, KeysApart e.key.segments later.key.segments := by
        have hkeys := hspec.keys
        rw [hentries] at hkeys
        exact fun _ ↦ List.rel_of_pairwise_cons (List.pairwise_append.mp hkeys).2.1
      exact getPath?_extractIn hspec.hook hspec.parent hkey hentries
        (hbuilt.wellFormed e he).segments_ne_nil hlater outer n
    · refine admits_value hbuilt hspec he fun nested hnested m ↦ ⟨nested, hnested, ?_⟩
      exact ihNested e he nested hnested ((everywhere_iff.mp (hnestedBuilt e he nested hnested)).1)
        (hnestedSchema e he nested hnested) _ rfl m
    · rw [extractIn_eq_fill hspec.hook hspec.parent hkey] at hv
      obtain ⟨item, hitem, hpath⟩ :=
        Container.exists_of_getPath?_fill (Container.getPath?_ofSource source.path none) hv
      obtain ⟨e, he, rfl⟩ := List.mem_map.mp hitem
      exact ⟨e, he, hpath⟩

theorem conforms_extractIn_tracks :
    let number : Declaration := .scalar .integer [⟨"", .ofKey "number"⟩] { }
    let nested : Specification :=
      ⟨[⟨.integer, ⟨"", ⟨false, false, []⟩⟩, .ofKey "number", { }, none⟩], none, .search, none,
        .empty⟩
    let tracks : Entry :=
      ⟨.many, ⟨"track", ⟨false, true, [⟨.child, .name "track", []⟩]⟩⟩, ⟨["disc", "tracks"]⟩, { },
        some nested⟩
    let label : Entry := ⟨.text, ⟨"", ⟨false, false, []⟩⟩, ⟨["disc", "label"]⟩, { }, none⟩
    let spec : Specification := ⟨[tracks, label], none, .search, none, .empty⟩
    let n := (Document.ofTree (.document [.element "album" [] [
      .element "track" [] [.text "1"], .element "track" [] [.text "two"]]])).root
    build [.many [⟨"track", ⟨["disc", "tracks"]⟩⟩] [number],
      .scalar .text [⟨"", ⟨["disc", "label"]⟩⟩] { }] = .ok spec ∧
    spec.Everywhere IsSchema ∧ spec.Conforms (spec.extract n) ∧
    (spec.extract n).getPath? ["disc", "label"] = some (.text "1two") := by
  intro number nested tracks label spec n
  have htrack : Selector.ofText? "track" = .ok tracks.selector :=
    Selector.ofText?_of_eq_render (by decide +kernel) (by decide +kernel)
  have htracks : Draft.declare [] { } (.many [⟨"track", ⟨["disc", "tracks"]⟩⟩] [number]) =
      { entries := [tracks] } := by
    have hnested : Draft.declareAll [] { } [number] = { entries := nested.entries } := rfl
    rw [Draft.declare, hnested]
    change Draft.push { } .many "track" ⟨["disc", "tracks"]⟩ { } (some nested) = _
    rw [Draft.push, htrack]
    rfl
  have hbuild : build [.many [⟨"track", ⟨["disc", "tracks"]⟩⟩] [number],
      .scalar .text [⟨"", ⟨["disc", "label"]⟩⟩] { }] = .ok spec := by
    rw [build, Draft.declareAll, htracks]
    rfl
  have hbuilt : spec.IsBuilt := .build (fun other hother ↦ absurd hother (by
    simp [Declaration.othersAll, Declaration.others, number])) hbuild
  have hnested : nested.Everywhere IsSchema := by
    refine everywhere_iff.mpr ⟨⟨rfl, rfl, ?_, ?_⟩, ?_, fun _ hparent ↦ by cases hparent⟩
    · simp [nested, entries, Entry.options]
    · simp [nested, entries]
    · simp [nested, entries, Entry.nested?]
  have hschema : spec.Everywhere IsSchema := by
    refine everywhere_iff.mpr ⟨⟨rfl, rfl, ?_, ?_⟩, ?_, fun _ hparent ↦ by cases hparent⟩
    · simp [spec, tracks, label, entries, Entry.options]
    · simp [spec, tracks, label, entries, Entry.key, KeysApart]
    · simpa [spec, tracks, label, entries, Entry.nested?] using hnested
  exact ⟨hbuild, hschema, conforms_extractIn hbuilt hschema [] rfl n, by rfl⟩

end Specification

end MarkupRecords
