import MarkupRecords.Proofs.Extraction.Lineage
import MarkupRecords.Proofs.Value.Unsourced
import Mathlib.Logic.Relation

/-!
Extracting from a file and from a text. Without hooks the two differ only in the outermost
container's key for the path, which the file gives the path as its value, and in where the
containers say that they come from (`Specification.extractFile_agrees`).

The comparison goes through a whole extraction, so it is made for two sources of which one has no
key (`Specification.unsourced_forget_extractIn`): what is extracted for the one and for the other is
the same once the key has been taken out and the containers are unsourced. This covers nested
specifications as well, which never have a key.
-/

set_option autoImplicit false
set_option relaxedAutoImplicit false

namespace MarkupRecords

namespace Source

/-! ### The key for the path -/

theorem forget_of_key_eq_none {s : Source} (hkey : s.key = .none) (c : Container) :
    s.forget c = c := by
  rw [forget, hkey]

theorem forget_record (s : Source) (c : Container) : s.forget (s.record c) = s.forget c := by
  obtain ⟨path, key⟩ := s
  cases key with
  | none => rfl
  | some key =>
    cases path with
    | none => rfl
    | some path => exact c.erase_insert key (.text path)

theorem forget_forget (s : Source) {c : Container} (hc : c.keys.Nodup) :
    s.forget (s.forget c) = s.forget c := by
  obtain ⟨path, key⟩ := s
  cases key with
  | none => rfl
  | some key =>
    have hkeys : key ∉ (c.erase key).keys := by
      rw [Container.keys_erase]
      exact hc.not_mem_erase
    exact Container.erase_of_notMem hkeys

theorem forget_merge (s : Source) (c : Container) {d : Container} (hd : d.keys.Nodup) :
    s.forget (c.merge d) = (s.forget c).merge (s.forget d) := by
  obtain ⟨path, key⟩ := s
  cases key with
  | none => rfl
  | some key => exact c.erase_merge hd key

theorem unsourced_forget (s : Source) (c : Container) :
    (s.forget c).unsourced = s.forget c.unsourced := by
  obtain ⟨path, key⟩ := s
  cases key with
  | none => rfl
  | some key => exact c.unsourced_erase key

end Source

namespace Specification

/-- No hook edits what is extracted, nor any container in it. -/
def HookFree (spec : Specification) : Prop := spec.Everywhere fun s ↦ s.hook? = none

theorem HookFree.hook {spec : Specification} (h : spec.HookFree) : spec.hook? = none :=
  (everywhere_iff.mp h).1

theorem HookFree.nested {spec nested : Specification} (h : spec.HookFree) {e : Entry}
    (he : e ∈ spec.entries) (hnested : e.nested? = some nested) : nested.HookFree :=
  (everywhere_iff.mp h).2.1 e he nested hnested

theorem HookFree.parent {spec parent : Specification} (h : spec.HookFree)
    (hparent : spec.parent? = some parent) : parent.HookFree :=
  (everywhere_iff.mp h).2.2 parent hparent

theorem HookFree.lineage {spec : Specification} (h : spec.HookFree) :
    ∀ s ∈ spec.lineage, s.HookFree :=
  Everywhere.lineage h

theorem HookFree.hooksKeepKeys {spec : Specification} (h : spec.HookFree) : spec.HooksKeepKeys := by
  intro s hs hook hhook
  rw [(h.lineage s hs).hook] at hhook
  cases hhook

/-! ### Two sources -/

/-- With the key for the path taken out, a hook-free own pass is what the unsourced values of the
entries fill in. -/
theorem unsourced_forget_ownPass {spec : Specification} (hhook : spec.hook? = none)
    (outer : List TransformTable) (source : Source) (n : Node) :
    (source.forget (spec.ownPass outer source n)).unsourced =
      source.forget (Container.empty.fill (spec.entries.map fun e ↦
        (e.key.segments, (e.value spec.mode (spec.transforms :: outer) source n).unsourced))) := by
  rw [Source.unsourced_forget, ownPass_of_hook?_eq_none hhook, Container.unsourced_withNode,
    ← Source.unsourced_forget, Source.forget_record, Source.unsourced_forget,
    Container.unsourced_fill, List.map_map]
  rfl

/-- What is extracted for a source is the same, but for the key for the path and for where the
containers say that they come from, as what is extracted for a source without a key. -/
theorem unsourced_forget_extractIn {spec : Specification} (h : spec.HookFree) :
    ∀ (outer : List TransformTable) (source : Source) {plain : Source}, plain.key = none →
      ∀ n : Node, (source.forget (spec.extractIn outer source n)).unsourced =
        (source.forget (spec.extractIn outer plain n)).unsourced := by
  induction spec using Specification.induction with
  | step spec ihNested ihParent =>
    intro outer source plain hplain n
    have hvalue : ∀ e ∈ spec.entries,
        (e.value spec.mode (spec.transforms :: outer) source n).unsourced =
          (e.value spec.mode (spec.transforms :: outer) plain n).unsourced := by
      intro e he
      rw [Entry.value, Entry.value]
      cases hnested : e.nested? with
      | none => rfl
      | some nested =>
        -- Neither source has a key below an entry of kind `many`, so there is none to take out.
        have hitem (m : Node) : (Value.map (nested.extractIn (spec.transforms :: outer)
              source.nested m)).unsourced =
            (Value.map (nested.extractIn (spec.transforms :: outer) plain.nested m)).unsourced := by
          have hkey : plain.nested.key = none := rfl
          have ih := ihNested e he nested hnested (h.nested he hnested) (spec.transforms :: outer)
            source.nested hkey m
          rw [Source.forget_of_key_eq_none rfl, Source.forget_of_key_eq_none rfl] at ih
          rw [Value.unsourced, Value.unsourced, ih]
        split
        · rw [extractEach, extractEach, Value.unsourced, Value.unsourced,
            Value.unsourcedAll_eq_map, Value.unsourcedAll_eq_map, List.map_map, List.map_map]
          exact congrArg Value.list (List.map_congr_left fun m _ ↦ hitem m)
        · rfl
    have hown : (source.forget (spec.ownPass outer source n)).unsourced =
        (source.forget (spec.ownPass outer plain n)).unsourced := by
      have hplainOwn := unsourced_forget_ownPass h.hook outer plain n
      rw [Source.forget_of_key_eq_none hplain, Source.forget_of_key_eq_none hplain] at hplainOwn
      rw [unsourced_forget_ownPass h.hook, Source.unsourced_forget, hplainOwn]
      congr 2
      exact List.map_congr_left fun e he ↦ congrArg (Prod.mk e.key.segments) (hvalue e he)
    cases hparent : spec.parent? with
    | none =>
      rw [extractIn_of_parent?_eq_none outer source n hparent,
        extractIn_of_parent?_eq_none outer plain n hparent]
      exact hown
    | some parent =>
      have hp := h.parent hparent
      have hinherited := ihParent parent hparent hp outer source hplain n
      rw [extractIn_of_parent?_eq_some outer source n hparent,
        extractIn_of_parent?_eq_some outer plain n hparent, Source.forget_of_key_eq_none hplain,
        source.forget_merge _ (nodup_keys_ownPass outer source n h.hooksKeepKeys),
        source.forget_merge _ (nodup_keys_ownPass outer plain n h.hooksKeepKeys),
        source.forget_forget (nodup_keys_extractIn outer source n hp.hooksKeepKeys),
        Container.unsourced_merge, Container.unsourced_merge, hinherited, hown]

/-! ### Keys of hook-free extractions -/

/-- The path is put in after everything that the entries fill in. -/
theorem get?_ownPass_sourceKey {spec : Specification} (hhook : spec.hook? = none) {source : Source}
    {key path : String} (hkey : source.key = some key) (hpath : source.path = some path)
    (outer : List TransformTable) (n : Node) :
    (spec.ownPass outer source n).get? key = some (.text path) := by
  have hrecord (c : Container) : source.record c = c.insert key (.text path) := by
    rw [Source.record, hkey, hpath]
  rw [ownPass_of_hook?_eq_none hhook, hrecord]
  exact (Container.get?_insert _ key (.text path) key).trans (if_pos rfl)

/-- Without a key for the path, a key is there exactly if an entry of the lineage begins with it. -/
theorem contains_extractIn_iff {spec : Specification} (h : spec.HookFree) {source : Source}
    (hkey : source.key = none) (outer : List TransformTable) (n : Node) (key : String) :
    (spec.extractIn outer source n).contains key = true ↔
      ∃ s ∈ spec.lineage, ∃ e ∈ s.entries, e.key.segments.head? = some key := by
  have hown : ∀ s ∈ spec.lineage, (key ∈ (s.ownPass outer source n).keys ↔
      ∃ e ∈ s.entries, e.key.segments.head? = some key) := by
    intro s hs
    have hkeys : (s.ownPass outer source n).keys =
        ((Container.ofSource source.path (some n)).fill
          (s.entries.map fun e ↦ e.item s.mode (s.transforms :: outer) source n)).keys := by
      rw [ownPass_of_hook?_eq_none (h.lineage s hs).hook, Source.record_of_key_eq_none hkey]
      rfl
    rw [hkeys, Container.keys_fill rfl, List.mem_eraseDups, Container.firstKeys,
      List.filterMap_map, List.mem_filterMap]
    rfl
  have hall (k : String) : decide (source.key ≠ some k) = true := by simp [hkey]
  have hmem : key ∈ (spec.extractIn outer source n).keys ↔
      ∃ s ∈ spec.lineage, key ∈ (s.ownPass outer source n).keys := by
    have hfilter := filter_keys_extractIn outer source n h.hooksKeepKeys
    rw [List.filter_eq_self.mpr fun k _ ↦ hall k,
      List.filter_eq_self.mpr fun k _ ↦ hall k] at hfilter
    rw [hfilter, List.mem_eraseDups, List.mem_flatMap]
  rw [Container.contains_iff, hmem]
  exact exists_congr fun s ↦ and_congr_right fun hs ↦ hown s hs

end Specification

/-! ### Applications below an extraction -/

/-- A specification at the point of being applied to a node. -/
structure Application where
  spec : Specification
  outer : List TransformTable
  source : Source
  node : Node

namespace Application

/-- What the application yields. -/
def result (a : Application) : Container := a.spec.extractIn a.outer a.source a.node

/-- The applications that an entry of kind `many` makes of its nested specification, one to each
match, if the entry belongs to `s`, which is the specification or one that it extends. -/
def items (a : Application) (s : Specification) (e : Entry) : List Application :=
  match e.nested? with
  | none => []
  | some nested => (e.selector.select s.mode a.node).map fun m ↦
      ⟨nested, s.transforms :: a.outer, a.source.nested, m⟩

/-- An entry of kind `many` makes the one application in the course of the other. -/
def Nests (a b : Application) : Prop :=
  ∃ s ∈ a.spec.lineage, ∃ e ∈ s.entries, e.kind = .many ∧ b ∈ a.items s e

/-- The value of an entry of kind `many` is the list of what its applications yield. -/
theorem value_eq_items (a : Application) (s : Specification) {e : Entry} (hkind : e.kind = .many) :
    e.value s.mode (s.transforms :: a.outer) a.source a.node =
      .list ((a.items s e).map fun b ↦ .map b.result) := by
  rw [Entry.value, if_pos hkind, items]
  cases e.nested? with
  | none => rfl
  | some nested =>
    rw [Specification.extractEach, List.map_map]
    rfl

theorem mem_items_iff {a b : Application} {s : Specification} {e : Entry} :
    b ∈ a.items s e ↔ e.nested? = some b.spec ∧ b.outer = s.transforms :: a.outer ∧
      b.source = a.source.nested ∧ b.node ∈ e.selector.select s.mode a.node := by
  obtain ⟨spec, outer, source, n⟩ := b
  rw [items]
  cases e.nested? with
  | none => simp
  | some nested =>
    rw [List.mem_map]
    constructor
    · rintro ⟨m, hm, heq⟩
      cases heq
      exact ⟨rfl, rfl, rfl, hm⟩
    · rintro ⟨hspec, rfl, rfl, hm⟩
      cases hspec
      exact ⟨n, hm, rfl⟩

variable {p : Specification → Prop} {a b : Application}

theorem Nests.everywhere (hab : a.Nests b) (h : a.spec.Everywhere p) : b.spec.Everywhere p := by
  obtain ⟨s, hs, e, he, -, hb⟩ := hab
  exact (Specification.everywhere_iff.mp (h.lineage s hs)).2.1 e he b.spec (mem_items_iff.mp hb).1

theorem everywhere_of_reflTransGen (hab : Relation.ReflTransGen Nests a b)
    (h : a.spec.Everywhere p) : b.spec.Everywhere p := by
  induction hab with
  | refl => exact h
  | tail _ hbc ih => exact hbc.everywhere ih

end Application

namespace Specification

/-- Reading a file is extracting from its text. Both fail with the same error. Otherwise, once the
key for the path is taken out, the containers are the same apart from where they say that they come
from. The outermost container of the file has the path under the key for it, whatever the entries
put there, and the containers in lists have no keys but those that entries of their specifications
begin with. -/
theorem extractFile_agrees {spec : Specification} (h : spec.HookFree) (config : Config)
    (path text : String) :
    (∀ fault, spec.extractFile config path (.ok text) = .error fault ↔
      spec.extractText config text = .error fault) ∧
    ∀ file, spec.extractFile config path (.ok text) = .ok file →
      let source : Source := ⟨some path, config.sourcePathKey⟩
      ∃ d plain, config.parse text = .ok d ∧ spec.extractText config text = .ok plain ∧
        (source.forget file).unsourced = (source.forget plain).unsourced ∧
        (∀ key, config.sourcePathKey = some key → file.get? key = some (.text path)) ∧
        ∀ a, Relation.ReflTransGen Application.Nests ⟨spec, [], source, d.root⟩ a →
          ∀ s ∈ a.spec.lineage, ∀ e ∈ s.entries, e.kind = .many →
            e.value s.mode (s.transforms :: a.outer) a.source a.node =
                .list ((a.items s e).map fun b ↦ .map b.result) ∧
              ∀ b ∈ a.items s e, ∀ key, b.result.contains key = true ↔
                ∃ s' ∈ b.spec.lineage, ∃ e' ∈ s'.entries, e'.key.segments.head? = some key := by
  rw [extractFile, extractText]
  cases hparse : config.parse text with
  | error fault => exact ⟨fun _ ↦ Iff.rfl, nofun⟩
  | ok d =>
    refine ⟨fun _ ↦ iff_of_false nofun nofun, ?_⟩
    rintro file ⟨⟩ source
    refine ⟨d, _, rfl, rfl, unsourced_forget_extractIn h [] source rfl d.root, ?_, ?_⟩
    · intro key hkey
      rw [get?_extractIn_sourceKey [] source d.root h.hooksKeepKeys hkey]
      exact get?_ownPass_sourceKey h.hook hkey rfl [] d.root
    · intro a ha s hs e he hkind
      refine ⟨a.value_eq_items s hkind, fun b hb key ↦ ?_⟩
      have hnests : a.Nests b := ⟨s, hs, e, he, hkind, hb⟩
      have hkey : b.source.key = none := by
        rw [(Application.mem_items_iff.mp hb).2.2.1, Source.nested]
      exact contains_extractIn_iff (hnests.everywhere (Application.everywhere_of_reflTransGen ha h))
        hkey b.outer b.node key

theorem extractFile_agrees_album :
    let here : Selector := ⟨"", ⟨false, false, []⟩⟩
    let base : Specification :=
      ⟨[⟨.nodeName, here, ⟨["xml_path"]⟩, { }, none⟩], none, .search, none, .empty⟩
    let nested : Specification :=
      ⟨[⟨.innerText, here, ⟨["title"]⟩, { }, none⟩], none, .search, none, .empty⟩
    let many : Entry := ⟨.many, ⟨"track", ⟨false, true, [⟨.child, .name "track", []⟩]⟩⟩,
      ⟨["tracks"]⟩, { }, some nested⟩
    let spec : Specification := ⟨[many], none, .search, some base, .empty⟩
    let text := "<album><track>Brooklyn</track></album>"
    spec.HookFree ∧ ∃ file plain, spec.extractFile .default "album.xml" (.ok text) = .ok file ∧
      spec.extractText .default text = .ok plain ∧
      (file.erase "xml_path").unsourced = (plain.erase "xml_path").unsourced ∧
      file.get? "xml_path" = some (.text "album.xml") ∧
      plain.get? "xml_path" = some (.text "document") := by
  intro here base nested many spec text
  have hfree : spec.HookFree := by
    simp [spec, base, nested, many, HookFree, Everywhere, Entry.NestedEverywhere, MaybeEverywhere,
      hook?]
  have hevents : Xml.events .plain text = ([.start "album" [], .start "track" [],
      .text "Brooklyn", .close, .close], none) := by decide +kernel
  have hhtml : Markup.auto.isHtml text = false := by decide +kernel
  let tree : Tree := .document [.element "album" [] [.element "track" [] [.text "Brooklyn"]]]
  have hxml : Xml.parse .plain text = .ok tree := by
    rw [Xml.parse, hevents]
    rfl
  have hparse : Config.default.parse text = .ok (.ofTree tree) := by
    change Document.parse .auto .plain text = _
    rw [Document.parse, hhtml, hxml]
    rfl
  have hfile : spec.extractFile .default "album.xml" (.ok text) =
      .ok (spec.extractIn [] ⟨some "album.xml", some "xml_path"⟩ (Document.ofTree tree).root) := by
    rw [extractFile, hparse]
    rfl
  obtain ⟨d, plain, -, hplain, hsame, hpath, -⟩ :=
    (extractFile_agrees hfree .default "album.xml" text).2 _ hfile
  refine ⟨hfree, _, plain, hfile, hplain, hsame, hpath _ rfl, ?_⟩
  rw [extractText, hparse] at hplain
  cases hplain
  rfl

end Specification

end MarkupRecords
