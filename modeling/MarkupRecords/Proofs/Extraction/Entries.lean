import MarkupRecords.Proofs.Extraction.Distinct
import MarkupRecords.Proofs.Specification.Built

/-!
How the entries of a specification share the container that they fill. Every entry brings in the
first segment of its key, and its value stays under its key unless a later entry goes under a key
that begins with it or with which it begins. Entries whose keys lie apart may be reordered
(`Specification.extractIn_lastWins`).
-/

set_option autoImplicit false
set_option relaxedAutoImplicit false

namespace MarkupRecords

theorem Source.getPath?_record {s : Source} {path : List String} (hkey : s.key ≠ path.head?)
    (c : Container) : (s.record c).getPath? path = c.getPath? path := by
  unfold record
  split
  · next key _ hsource _ =>
    cases path with
    | nil => rfl
    | cons k path =>
      have hne : k ≠ key := fun heq ↦ hkey (by rw [hsource, heq, List.head?_cons])
      exact c.getPath?_insert_of_ne hne _ path
  · rfl

namespace Specification

/-- Without a hook and a key for the path, an own pass is what the entries fill in. -/
theorem ownPass_eq_fill {spec : Specification} (hhook : spec.hook? = none) {source : Source}
    (hkey : source.key = none) (outer : List TransformTable) (n : Node) :
    spec.ownPass outer source n = (Container.ofSource source.path none).fill
      (spec.entries.map fun e ↦ e.item spec.mode (spec.transforms :: outer) source n) := by
  rw [ownPass_of_hook?_eq_none hhook, Source.record_of_key_eq_none hkey]
  exact (Container.fill_withNode (Container.ofSource source.path (some n)) none _).symm

/-- Without a hook, a parent and a key for the path, an extraction is what the entries fill in. -/
theorem extractIn_eq_fill {spec : Specification} (hhook : spec.hook? = none)
    (hparent : spec.parent? = none) {source : Source} (hkey : source.key = none)
    (outer : List TransformTable) (n : Node) :
    spec.extractIn outer source n = (Container.ofSource source.path none).fill
      (spec.entries.map fun e ↦ e.item spec.mode (spec.transforms :: outer) source n) := by
  rw [extractIn_eq, hparent, mergeOver, ownPass_eq_fill hhook hkey]

/-- The value of an entry is found under its key if the keys of all later entries lie apart, unless
the path of the file goes there. -/
theorem getPath?_ownPass {spec : Specification} (hhook : spec.hook? = none)
    {before after : List Entry} {e : Entry} (hentries : spec.entries = before ++ e :: after)
    (hpath : e.key.segments ≠ [])
    (hlater : ∀ later ∈ after, KeysApart e.key.segments later.key.segments) {source : Source}
    (hkey : source.key ≠ e.key.segments.head?) (outer : List TransformTable) (n : Node) :
    (spec.ownPass outer source n).getPath? e.key.segments =
      some (e.value spec.mode (spec.transforms :: outer) source n) := by
  rw [ownPass_of_hook?_eq_none hhook, ← Source.record_withNode, Source.getPath?_record hkey,
    ← Container.fill_withNode, hentries, List.map_append, List.map_cons]
  refine Container.getPath?_fill _ hpath _ _ fun item hitem ↦ ?_
  obtain ⟨later, hmem, rfl⟩ := List.mem_map.mp hitem
  exact hlater later hmem

theorem getPath?_extractIn_of_head?_ne {spec : Specification} (hhook : spec.hook? = none)
    (hparent : spec.parent? = none) {before after : List Entry} {e : Entry}
    (hentries : spec.entries = before ++ e :: after) (hpath : e.key.segments ≠ [])
    (hlater : ∀ later ∈ after, KeysApart e.key.segments later.key.segments) {source : Source}
    (hkey : source.key ≠ e.key.segments.head?) (outer : List TransformTable) (n : Node) :
    (spec.extractIn outer source n).getPath? e.key.segments =
      some (e.value spec.mode (spec.transforms :: outer) source n) := by
  rw [extractIn_of_parent?_eq_none outer source n hparent]
  exact getPath?_ownPass hhook hentries hpath hlater hkey outer n

/-- The value of an entry is found under its key if the keys of all later entries lie apart. -/
theorem getPath?_extractIn {spec : Specification} (hhook : spec.hook? = none)
    (hparent : spec.parent? = none) {source : Source} (hkey : source.key = none)
    {before after : List Entry} {e : Entry} (hentries : spec.entries = before ++ e :: after)
    (hpath : e.key.segments ≠ [])
    (hlater : ∀ later ∈ after, KeysApart e.key.segments later.key.segments)
    (outer : List TransformTable) (n : Node) :
    (spec.extractIn outer source n).getPath? e.key.segments =
      some (e.value spec.mode (spec.transforms :: outer) source n) := by
  have hne : source.key ≠ e.key.segments.head? := by
    rw [hkey, ne_comm, ne_eq, List.head?_eq_none_iff]
    exact hpath
  exact getPath?_extractIn_of_head?_ne hhook hparent hentries hpath hlater hne outer n

/-- A key that no entry begins with is missing, unless the path of the file goes there. -/
theorem get?_ownPass_eq_none {spec : Specification} (hhook : spec.hook? = none) {key : String}
    (hentries : ∀ e ∈ spec.entries, e.key.segments.head? ≠ some key) {source : Source}
    (hkey : source.key ≠ some key) (outer : List TransformTable) (n : Node) :
    (spec.ownPass outer source n).get? key = none := by
  have hne : source.key ≠ [key].head? := hkey
  rw [ownPass_of_hook?_eq_none hhook]
  refine (Source.getPath?_record hne _).trans (Container.get?_eq_none_iff.mpr ?_)
  rw [Container.keys_fill rfl, List.mem_eraseDups, Container.firstKeys, List.filterMap_map,
    List.mem_filterMap]
  rintro ⟨e, he, hhead⟩
  exact hentries e he hhead

/-- Nothing takes the place of the value of an entry of `s`, one of the specifications that `spec`
extends: no later entry of `s` goes where it goes, no specification that extends `s` has a key with
the same first segment, and the path of the file does not go there. -/
structure Retains (spec : Specification) (source : Source) (s : Specification) (e : Entry) :
    Prop where
  lineage : ∃ bases derived, spec.lineage = bases ++ s :: derived ∧
    ∀ d ∈ derived, ∀ e' ∈ d.entries, e'.key.segments.head? ≠ e.key.segments.head?
  entries : ∃ before after, s.entries = before ++ e :: after ∧
    ∀ later ∈ after, KeysApart e.key.segments later.key.segments
  segments : e.key.segments ≠ []
  sourceKey : source.key ≠ e.key.segments.head?

/-- The value of an entry is inherited if nothing takes its place. -/
theorem getPath?_extractIn_of_retains {spec : Specification}
    (hhooks : ∀ s ∈ spec.lineage, s.hook? = none) {source : Source} {s : Specification} {e : Entry}
    (h : spec.Retains source s e) (outer : List TransformTable) (n : Node) :
    (spec.extractIn outer source n).getPath? e.key.segments =
      some (e.value s.mode (s.transforms :: outer) source n) := by
  obtain ⟨⟨bases, derived, hlineage, hderived⟩, ⟨before, after, hentries, hlater⟩, hpath, hkey⟩ := h
  have hkeeps : spec.HooksKeepKeys := by
    intro s hs hook hhook
    rw [hhooks s hs] at hhook
    cases hhook
  have hs : s.hook? = none := hhooks s (by simp [hlineage])
  have hown := getPath?_ownPass hs hentries hpath hlater hkey outer n
  obtain ⟨key, path, hsegments⟩ := List.exists_cons_of_ne_nil hpath
  rw [hsegments, List.head?_cons] at hkey hderived
  rw [hsegments] at hown ⊢
  have hnone : ∀ d ∈ derived, (d.ownPass outer source n).get? key = none := fun d hd ↦
    get?_ownPass_eq_none (hhooks d (by simp [hlineage, hd])) (hderived d hd) hkey outer n
  have hsome : (s.ownPass outer source n).get? key ≠ none := by
    intro hmissing
    rw [Container.getPath?_congr (hmissing.trans rfl : _ = Container.empty.get? key),
      Container.getPath?_empty] at hown
    cases hown
  have hget : (spec.extractIn outer source n).get? key = (s.ownPass outer source n).get? key := by
    obtain ⟨v, hv⟩ := Option.ne_none_iff_exists'.mp hsome
    have hfirst : (derived.map fun d ↦ d.ownPass outer source n).reverse.findSome?
        (·.get? key) = none := by
      simpa using hnone
    rw [get?_extractIn outer source n hkeeps hkey, hlineage, List.map_append, List.map_cons,
      List.reverse_append, List.reverse_cons, List.append_assoc, List.findSome?_append, hfirst,
      Option.none_or, List.singleton_append, List.findSome?_cons, hv]
  rw [Container.getPath?_congr hget, hown]

/-- The keys of an extracted container are the first segments of its entries' keys, each where it
comes up first. The value of an entry is found under its key if the keys of all later entries lie
apart from it, whatever the other entries are. Entries whose keys lie apart from each other may
stand in any order: every comparison with the container comes out the same, and if no hook and no
transform makes a container that holds a key twice, the two are equal. -/
theorem extractIn_lastWins {spec : Specification} (hbuilt : spec.IsBuilt)
    (hhook : spec.hook? = none) (hparent : spec.parent? = none) {source : Source}
    (hkey : source.key = none) (outer : List TransformTable) (n : Node) :
    (spec.extractIn outer source n).keys =
        (spec.entries.filterMap fun e ↦ e.key.segments.head?).eraseDups ∧
      (∀ (before : List Entry) (e : Entry) (after : List Entry),
        spec.entries = before ++ e :: after →
          (∀ later ∈ after, KeysApart e.key.segments later.key.segments) →
            (spec.extractIn outer source n).getPath? e.key.segments =
              some (e.value spec.mode (spec.transforms :: outer) source n)) ∧
      ∀ entries : List Entry, entries.Perm spec.entries →
        (spec.entries.Pairwise fun a b ↦ KeysApart a.key.segments b.key.segments) →
          let reordered := Specification.mk entries none spec.mode none spec.transforms
          (∀ c : Container,
            (c == reordered.extractIn outer source n) = (c == spec.extractIn outer source n)) ∧
          (spec.Everywhere KeepsDistinct → (∀ t ∈ outer, t.KeepsDistinct) →
            (spec.extractIn outer source n == reordered.extractIn outer source n) = true) := by
  refine ⟨?_, fun before e after hentries hlater ↦ ?_, fun entries hperm hapart ↦ ?_⟩
  · rw [extractIn_eq_fill hhook hparent hkey, Container.keys_fill rfl, Container.firstKeys,
      List.filterMap_map]
    rfl
  · have hpath := (hbuilt.wellFormed e (by simp [hentries])).segments_ne_nil
    exact getPath?_extractIn hhook hparent hkey hentries hpath hlater outer n
  · intro reordered
    have hcompare (c : Container) :
        (c == reordered.extractIn outer source n) = (c == spec.extractIn outer source n) := by
      rw [extractIn_eq_fill hhook hparent hkey, extractIn_eq_fill rfl rfl hkey]
      refine (Container.alike_fill_of_perm rfl rfl (hperm.symm.map _) ?_ c).1.symm
      exact List.pairwise_map.mpr hapart
    refine ⟨hcompare, fun hspec houter ↦ ?_⟩
    exact (hcompare _).trans (Container.beq_self (distinct_extractIn hspec houter source n))

theorem extractIn_lastWins_album :
    let here : Selector := ⟨"", ⟨false, false, []⟩⟩
    let name : Entry := ⟨.nodeName, here, ⟨["disc", "name"]⟩, { }, none⟩
    let label : Entry := ⟨.innerText, here, ⟨["label"]⟩, { }, none⟩
    let found : Entry := ⟨.exists, here, ⟨["disc", "found"]⟩, { }, none⟩
    let spec : Specification := ⟨[name, label, found], none, .search, none, .empty⟩
    let reordered : Specification := ⟨[found, name, label], none, .search, none, .empty⟩
    let n := (Document.ofTree (.document [.element "album" [] [.text "Zoot"]])).root
    build [.scalar .nodeName [⟨"", ⟨["disc", "name"]⟩⟩] { },
      .scalar .innerText [⟨"", ⟨["label"]⟩⟩] { },
      .scalar .exists [⟨"", ⟨["disc", "found"]⟩⟩] { }] = .ok spec ∧
    (spec.extract n).keys = ["disc", "label"] ∧
    (spec.extract n).getPath? ["disc", "name"] = some (.text "document") ∧
    (spec.extract n).getPath? ["label"] = some (.text "Zoot") ∧
    (spec.extract n == reordered.extract n) = true := by
  intro here name label found spec reordered n
  have hbuild : build [.scalar .nodeName [⟨"", ⟨["disc", "name"]⟩⟩] { },
      .scalar .innerText [⟨"", ⟨["label"]⟩⟩] { },
      .scalar .exists [⟨"", ⟨["disc", "found"]⟩⟩] { }] = .ok spec := rfl
  have hbuilt : spec.IsBuilt := .build (fun other hother ↦ absurd hother (by
    simp [Declaration.othersAll, Declaration.others])) hbuild
  have hkeeps : spec.Everywhere KeepsDistinct := by
    refine everywhere_iff.mpr ⟨⟨nofun, nofun⟩, fun e he nested hnested ↦ ?_, nofun⟩
    simp only [spec, name, label, found, entries, List.mem_cons, List.not_mem_nil, or_false] at he
    rcases he with rfl | rfl | rfl <;> cases hnested
  have hkey : Source.none.key = none := rfl
  obtain ⟨hkeys, hvalue, horder⟩ := extractIn_lastWins hbuilt rfl rfl hkey [] n
  refine ⟨hbuild, hkeys.trans (by decide), ?_, ?_, ?_⟩
  · exact hvalue [] name [label, found] rfl (by simp [KeysApart, name, label, found, Entry.key])
  · exact hvalue [name] label [found] rfl (by simp [KeysApart, label, found, Entry.key])
  · refine (horder [found, name, label] ?_ ?_).2 hkeeps (by simp)
    · exact (List.perm_append_singleton found [name, label]).symm
    · simp [KeysApart, spec, name, label, found, entries, Entry.key]

end Specification

end MarkupRecords
