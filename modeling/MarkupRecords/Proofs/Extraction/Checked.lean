import MarkupRecords.Proofs.Extraction.Pass
import MarkupRecords.Proofs.Selector.RoundTrip
import MarkupRecords.Proofs.Specification.Hereditary

/-!
Extraction that checks what it takes for granted. Four cases of an extraction have an answer
although no entry that has been declared leads to them: an entry of kind `many` without a nested
specification, reading a value of that kind, an attribute without a name, and a path without keys.
`Specification.extractIn?` is the extraction that fails in each of them. What it gives is what an
extraction gives (`Specification.extractIn_eq_of_extractIn?`), and it does not fail if all entries
are well formed, in the specification and in all that are applied with it
(`Specification.extractIn?_eq_some`). Those that have been built are
(`Specification.extractIn?_of_built`).
-/

set_option autoImplicit false
set_option relaxedAutoImplicit false

namespace MarkupRecords

/-! ### Values and paths -/

/-- `Container.insertPath`, unless the path has no keys. -/
def Container.insertPath? (c : Container) (path : List String) (value : Value) : Option Container :=
  match path with
  | [] => none
  | [key] => some (c.insert key value)
  | key :: path =>
    ((c.inner key).insertPath? path value).map fun inner ↦ c.insert key (.map inner)

/-- `Entry.read`, unless the kind is `many` or the name of an attribute is missing. -/
def Entry.read? (kind : Kind) (selector : Selector) (options : Options) (n : Node) : Option Value :=
  match kind with
  | .many => none
  | .attribute => options.attributeName.map fun name ↦ readAttribute selector name n
  | kind => some (read kind selector options n)

/-- `Entry.scalarValue`, if the value can be read. -/
def Entry.scalarValue? (kind : Kind) (selector : Selector) (options : Options)
    (tables : List TransformTable) (n : Node) : Option Value :=
  (read? kind selector options n).map fun raw ↦
    if isMapped kind then (raw.coerce kind).applyChain tables options.afterMap else raw

theorem Container.insertPath?_eq (c : Container) (path : List String) (value : Value) :
    c.insertPath? path value = if path = [] then none else some (c.insertPath path value) := by
  induction path generalizing c with
  | nil => rfl
  | cons key path ih =>
    cases path with
    | nil => rfl
    | cons next path => simp [insertPath?, insertPath, ih]

theorem Entry.read?_eq (kind : Kind) (selector : Selector) (options : Options) (n : Node) :
    read? kind selector options n =
      if kind = .many ∨ (kind = .attribute ∧ options.attributeName = none) then none
      else some (read kind selector options n) := by
  by_cases hattribute : kind = .attribute
  · subst hattribute
    cases hname : options.attributeName with
    | none => simp [read?, hname]
    | some name => simp [read?, read, hname]
  · cases kind with
    | many => simp [read?]
    | _ => simp_all [read?]

theorem Entry.scalarValue?_eq (kind : Kind) (selector : Selector) (options : Options)
    (tables : List TransformTable) (n : Node) :
    scalarValue? kind selector options tables n =
      if kind = .many ∨ (kind = .attribute ∧ options.attributeName = none) then none
      else some (scalarValue kind selector options tables n) := by
  rw [scalarValue?, read?_eq]
  by_cases hflaw : kind = .many ∨ (kind = .attribute ∧ options.attributeName = none)
  · rw [if_pos hflaw, if_pos hflaw]
    rfl
  · rw [if_neg hflaw, if_neg hflaw]
    rfl

/-! ### Specifications -/

mutual

/-- `Specification.extractIn` that fails where an entry is not well formed. -/
def Specification.extractIn? (spec : Specification) (outer : List TransformTable) (source : Source)
    (n : Node) : Option Container :=
  match spec with
  | ⟨entries, hook, mode, parent, transforms⟩ =>
    (Entry.fillAll? entries mode (transforms :: outer) source n
      (Container.ofSource source.path (some n))).bind fun filled ↦
        let recorded := source.record filled
        let edited := match hook with
          | some hook => hook recorded
          | none => recorded
        Specification.mergeOver? parent outer source n { edited with sourceNode := none }

/-- `Specification.mergeOver`, if the parent does not fail. -/
def Specification.mergeOver? (parent : Option Specification) (outer : List TransformTable)
    (source : Source) (n : Node) (own : Container) : Option Container :=
  match parent with
  | none => some own
  | some parent =>
    (parent.extractIn? outer source n).map fun inherited ↦ (source.forget inherited).merge own

/-- `Entry.fillAll`, if each entry has a value and a path for it. -/
def Entry.fillAll? (entries : List Entry) (mode : Selector.Mode) (tables : List TransformTable)
    (source : Source) (n : Node) (c : Container) : Option Container :=
  match entries with
  | [] => some c
  | ⟨kind, selector, key, options, nested⟩ :: rest =>
    let value? := if kind = .many then
        (Specification.extractEach? nested tables source.nested (selector.select mode n)).map .list
      else Entry.scalarValue? kind selector options tables n
    value?.bind fun value ↦ (c.insertPath? key.segments value).bind fun c ↦
      Entry.fillAll? rest mode tables source n c

/-- `Specification.extractEach`, unless the nested specification is missing. -/
def Specification.extractEach? (nested : Option Specification) (tables : List TransformTable)
    (source : Source) (ms : List Node) : Option (List Value) :=
  match nested with
  | none => none
  | some nested => ms.mapM fun m ↦ (nested.extractIn? tables source m).map .map

end

/-- `Entry.value` that fails where the entry is not well formed. -/
def Entry.value? (e : Entry) (mode : Selector.Mode) (tables : List TransformTable) (source : Source)
    (n : Node) : Option Value :=
  if e.kind = .many then
    (Specification.extractEach? e.nested? tables source.nested (e.selector.select mode n)).map .list
  else Entry.scalarValue? e.kind e.selector e.options tables n

theorem Entry.fillAll?_cons (e : Entry) (rest : List Entry) (mode : Selector.Mode)
    (tables : List TransformTable) (source : Source) (n : Node) (c : Container) :
    Entry.fillAll? (e :: rest) mode tables source n c =
      (e.value? mode tables source n).bind fun value ↦
        (c.insertPath? e.key.segments value).bind fun c ↦
          Entry.fillAll? rest mode tables source n c := by
  obtain ⟨kind, selector, key, options, nested⟩ := e
  rw [Entry.fillAll?]
  rfl

theorem Entry.fillAll_cons (e : Entry) (rest : List Entry) (mode : Selector.Mode)
    (tables : List TransformTable) (source : Source) (n : Node) (c : Container) :
    Entry.fillAll (e :: rest) mode tables source n c =
      Entry.fillAll rest mode tables source n
        (c.insertPath e.key.segments (e.value mode tables source n)) := by
  obtain ⟨kind, selector, key, options, nested⟩ := e
  rw [Entry.fillAll]
  rfl

section

variable {mode : Selector.Mode} {tables : List TransformTable} {source : Source} {n : Node}

/-! ### What the checks let through -/

theorem Specification.extractEach_of_extractEach? {nested : Specification}
    (hnested : ∀ (m : Node) (c : Container), nested.extractIn? tables source m = some c →
      nested.extractIn tables source m = c) {ms : List Node} {vs : List Value}
    (h : extractEach? (some nested) tables source ms = some vs) :
    extractEach (some nested) tables source ms = vs := by
  rw [extractEach?] at h
  rw [extractEach]
  induction ms generalizing vs with
  | nil =>
    rw [List.mapM_nil] at h
    exact Option.some.inj h
  | cons m ms ih =>
    simp only [List.mapM_cons, Option.bind_eq_bind, Option.bind_eq_some_iff,
      Option.map_eq_some_iff, Option.pure_def, Option.some.injEq] at h
    obtain ⟨_, ⟨c, hc, rfl⟩, more, hmore, rfl⟩ := h
    rw [List.map_cons, hnested m c hc, ih hmore]

theorem Entry.fillAll_of_fillAll? {entries : List Entry}
    (hvalue : ∀ e ∈ entries, ∀ v, e.value? mode tables source n = some v →
      e.value mode tables source n = v) {c filled : Container}
    (h : Entry.fillAll? entries mode tables source n c = some filled) :
    Entry.fillAll entries mode tables source n c = filled := by
  induction entries generalizing c with
  | nil =>
    rw [Entry.fillAll?] at h
    rw [Entry.fillAll, Option.some.inj h]
  | cons e rest ih =>
    obtain ⟨he, hrest⟩ := List.forall_mem_cons.mp hvalue
    rw [Entry.fillAll?_cons] at h
    obtain ⟨v, hv, hmore⟩ := Option.bind_eq_some_iff.mp h
    obtain ⟨next, hnext, hfilled⟩ := Option.bind_eq_some_iff.mp hmore
    rw [Container.insertPath?_eq] at hnext
    split_ifs at hnext
    rw [Entry.fillAll_cons, he v hv, Option.some.inj hnext]
    exact ih hrest hfilled

theorem Entry.value_of_value? {e : Entry}
    (hnested : ∀ nested, e.nested? = some nested → ∀ (m : Node) (c : Container),
      nested.extractIn? tables source.nested m = some c →
        nested.extractIn tables source.nested m = c) {v : Value}
    (h : e.value? mode tables source n = some v) : e.value mode tables source n = v := by
  rw [Entry.value?] at h
  rw [Entry.value]
  split_ifs at h ⊢
  · obtain ⟨vs, hvs, rfl⟩ := Option.map_eq_some_iff.mp h
    cases hgiven : e.nested? with
    | none =>
      rw [hgiven, Specification.extractEach?] at hvs
      cases hvs
    | some nested =>
      rw [hgiven] at hvs
      rw [Specification.extractEach_of_extractEach? (hnested nested hgiven) hvs]
  · rw [scalarValue?_eq] at h
    split_ifs at h
    exact Option.some.inj h

end

namespace Specification

theorem extractIn?_eq_bind (spec : Specification) (outer : List TransformTable) (source : Source)
    (n : Node) :
    spec.extractIn? outer source n =
      (Entry.fillAll? spec.entries spec.mode (spec.transforms :: outer) source n
        (Container.ofSource source.path (some n))).bind fun filled ↦
          mergeOver? spec.parent? outer source n
            { spec.hook?.elim (source.record filled) (fun hook ↦ hook (source.record filled)) with
              sourceNode := none } := by
  obtain ⟨entries, hook, mode, parent, transforms⟩ := spec
  rw [extractIn?]
  cases hook <;> rfl

/-- What the checked extraction gives is what extraction gives. -/
theorem extractIn_eq_of_extractIn? (spec : Specification) :
    ∀ {outer : List TransformTable} {source : Source} {n : Node} {c : Container},
      spec.extractIn? outer source n = some c → spec.extractIn outer source n = c := by
  induction spec using Specification.induction with
  | step spec ihNested ihParent =>
    intro outer source n c h
    rw [extractIn?_eq_bind] at h
    obtain ⟨filled, hfilled, hmerge⟩ := Option.bind_eq_some_iff.mp h
    have hown := Entry.fillAll_of_fillAll? (fun e he v hv ↦ Entry.value_of_value?
      (fun nested hnested m c hc ↦ ihNested e he nested hnested hc) hv) hfilled
    rw [Entry.fillAll_eq_fill] at hown
    rw [extractIn_eq, ownPass, hown]
    cases hparent : spec.parent? with
    | none =>
      rw [hparent, mergeOver?] at hmerge
      exact Option.some.inj hmerge
    | some parent =>
      rw [hparent, mergeOver?] at hmerge
      obtain ⟨inherited, hinherited, rfl⟩ := Option.map_eq_some_iff.mp hmerge
      rw [mergeOver, ihParent parent hparent hinherited]

end Specification

/-! ### Nothing fails -/

section

variable {mode : Selector.Mode} {tables : List TransformTable} {source : Source} {n : Node}

theorem Entry.WellFormed.value?_eq_some {e : Entry} (h : e.WellFormed)
    (hnested : ∀ nested, e.nested? = some nested → ∀ m : Node,
      nested.extractIn? tables source.nested m = some (nested.extractIn tables source.nested m)) :
    e.value? mode tables source n = some (e.value mode tables source n) := by
  rw [Entry.value?, Entry.value]
  by_cases hkind : e.kind = .many
  · obtain ⟨nested, hgiven⟩ := Option.isSome_iff_exists.mp (h.nested_iff.mpr hkind)
    rw [if_pos hkind, if_pos hkind, hgiven, Specification.extractEach?, Specification.extractEach]
    simp only [hnested nested hgiven, Option.map_some]
    exact congrArg (Option.map Value.list) (List.mapM_pure (m := Option))
  · have hname : ¬ (e.kind = .many ∨ (e.kind = .attribute ∧ e.options.attributeName = none)) := by
      rintro (hmany | ⟨hattribute, hnone⟩)
      · exact hkind hmany
      · obtain ⟨name, hsome, -⟩ := h.attributeName hattribute
        rw [hnone] at hsome
        cases hsome
    rw [if_neg hkind, if_neg hkind, Entry.scalarValue?_eq, if_neg hname]

theorem Entry.fillAll?_eq_some {entries : List Entry}
    (hentries : ∀ e ∈ entries, e.key.segments ≠ [] ∧
      e.value? mode tables source n = some (e.value mode tables source n)) (c : Container) :
    Entry.fillAll? entries mode tables source n c =
      some (Entry.fillAll entries mode tables source n c) := by
  induction entries generalizing c with
  | nil => rw [Entry.fillAll?, Entry.fillAll]
  | cons e rest ih =>
    obtain ⟨⟨hkey, hvalue⟩, hrest⟩ := List.forall_mem_cons.mp hentries
    rw [Entry.fillAll?_cons, Entry.fillAll_cons, hvalue, Option.bind_some,
      Container.insertPath?_eq, if_neg hkey, Option.bind_some, ih hrest]

end

namespace Specification

/-- All entries are well formed. -/
def AllWellFormed (spec : Specification) : Prop := ∀ e ∈ spec.entries, e.WellFormed

/-- The checked extraction does not fail if all entries are well formed, down to those of the nested
specifications and up to those of the parents. -/
theorem extractIn?_eq_some (spec : Specification) (h : spec.Everywhere AllWellFormed) :
    ∀ (outer : List TransformTable) (source : Source) (n : Node),
      spec.extractIn? outer source n = some (spec.extractIn outer source n) := by
  induction spec using Specification.induction with
  | step spec ihNested ihParent =>
    intro outer source n
    obtain ⟨hentries, hnested, hparents⟩ := everywhere_iff.mp h
    have hvalues : ∀ e ∈ spec.entries, e.key.segments ≠ [] ∧
        e.value? spec.mode (spec.transforms :: outer) source n =
          some (e.value spec.mode (spec.transforms :: outer) source n) := by
      intro e he
      refine ⟨(hentries e he).segments_ne_nil, (hentries e he).value?_eq_some ?_⟩
      intro nested hgiven m
      exact ihNested e he nested hgiven (hnested e he nested hgiven) _ _ m
    rw [extractIn?_eq_bind, Entry.fillAll?_eq_some hvalues, Option.bind_some, extractIn_eq, ownPass,
      Entry.fillAll_eq_fill]
    cases hparent : spec.parent? with
    | none => rfl
    | some parent =>
      rw [mergeOver?, ihParent parent hparent (hparents parent hparent)]
      rfl

/-- Take a specification that has been built, or that a definition compiles to with further
declarations which use only such specifications. Its entries are well formed, and so are those of
all specifications that are applied with it; their selectors are what the source texts denote. Hence
no extraction comes to a case that only an entry that is not well formed leads to: the checked
extraction gives the same container, and for no specification does it give another one. -/
theorem extractIn?_of_built {spec : Specification}
    (h : spec.IsBuilt ∨ ∃ (d : Definition) (further : List Declaration),
      (∀ other ∈ Declaration.othersAll further, other.IsBuilt) ∧
        d.compileWith further = .ok spec) :
    (spec.Everywhere fun s ↦ ∀ e ∈ s.entries,
      e.WellFormed ∧ Selector.ofText? e.selector.source = .ok e.selector) ∧
    (∀ (outer : List TransformTable) (source : Source) (n : Node),
      spec.extractIn? outer source n = some (spec.extractIn outer source n)) ∧
    ∀ (other : Specification) (outer : List TransformTable) (source : Source) (n : Node)
      (c : Container), other.extractIn? outer source n = some c →
        other.extractIn outer source n = c := by
  have hbuilt : spec.IsBuilt := by
    rcases h with hbuilt | ⟨d, further, hothers, hspec⟩
    · exact hbuilt
    · exact Definition.isBuilt_of_compileWith hothers hspec
  have hwell : spec.Everywhere AllWellFormed := hbuilt.everywhere.imp fun _ h ↦ h.wellFormed
  refine ⟨?_, extractIn?_eq_some spec hwell, fun other _ _ _ _ ↦ other.extractIn_eq_of_extractIn?⟩
  exact hwell.imp fun s hs e he ↦ ⟨hs e he, (hs e he).ofText?_source⟩

theorem extractIn?_of_built_tracks :
    let here : Selector := ⟨"", ⟨false, false, []⟩⟩
    let track : Selector := ⟨"track", ⟨false, true, [⟨.child, .name "track", []⟩]⟩⟩
    let base : Specification :=
      ⟨[⟨.exists, here, ⟨["found"]⟩, { }, none⟩], none, .search, none, .empty⟩
    let spec : Specification :=
      ⟨[⟨.attribute, here, ⟨["id"]⟩, { attributeName := some "id" }, none⟩,
        ⟨.many, track, ⟨["tracks"]⟩, { }, some base⟩], none, .search, some base, .empty⟩
    let d : Definition := ⟨.search, [⟨.attribute, "", none, [], some "id", [], none⟩], []⟩
    let n := (Document.ofTree (.document [.element "album" [("id", "7")] [
      .element "track" [] []]])).root
    let alone (e : Entry) : Specification := ⟨[e], none, .search, none, .empty⟩
    d.compileWith [.extend base, .manyOf [⟨"track", ⟨["tracks"]⟩⟩] base] = .ok spec ∧
    (spec.Everywhere fun s ↦ ∀ e ∈ s.entries,
      e.WellFormed ∧ Selector.ofText? e.selector.source = .ok e.selector) ∧
    spec.extractIn? [] .none n = some (spec.extract n) ∧
    (alone ⟨.many, here, ⟨["x"]⟩, { }, none⟩).extractIn? [] .none n = none ∧
    (alone ⟨.attribute, here, ⟨["x"]⟩, { }, none⟩).extractIn? [] .none n = none ∧
    (alone ⟨.exists, here, ⟨[]⟩, { }, none⟩).extractIn? [] .none n = none ∧
    Entry.scalarValue? .many here { } [] n = none := by
  intro here track base spec d n alone
  have htrack : Selector.ofText? "track" = .ok track :=
    Selector.ofText?_of_eq_render (by decide +kernel) (by decide +kernel)
  have hbase : base.IsBuilt := by
    have hbuild : build [.scalar .exists [⟨"", ⟨["found"]⟩⟩] { }] = .ok base := rfl
    exact .build (by simp [Declaration.othersAll, Declaration.others]) hbuild
  have hothers : ∀ other ∈ Declaration.othersAll
      [.extend base, .manyOf [⟨"track", ⟨["tracks"]⟩⟩] base], other.IsBuilt := by
    simp [Declaration.othersAll, Declaration.others, hbase]
  have hmany : Draft.declare [] { entries := spec.entries.take 1, parent := some base }
      (.manyOf [⟨"track", ⟨["tracks"]⟩⟩] base) =
        { entries := spec.entries, parent := some base } := by
    rw [Draft.declare]
    change Draft.push _ .many "track" ⟨["tracks"]⟩ { } (some base) = _
    rw [Draft.push, htrack]
    rfl
  have hspec : d.compileWith [.extend base, .manyOf [⟨"track", ⟨["tracks"]⟩⟩] base] = .ok spec := by
    have hdraft : Draft.declareAll [] { }
        (d.declarations ++ [.extend base, .manyOf [⟨"track", ⟨["tracks"]⟩⟩] base]) =
          { entries := spec.entries, parent := some base } := hmany
    refine build_eq_ok_iff.mpr ⟨?_, ?_⟩
    · rw [hdraft]
    · rw [hdraft]
      rfl
  obtain ⟨hwell, hchecked, -⟩ := extractIn?_of_built (.inr ⟨d, _, hothers, hspec⟩)
  exact ⟨hspec, hwell, hchecked [] .none n, rfl, rfl, rfl, rfl⟩

end Specification

end MarkupRecords
