import MarkupRecords.Proofs.Extraction.Entries
import MarkupRecords.Proofs.Selector.Meaning
import MarkupRecords.Proofs.Selector.RoundTrip

/-!
Entries of kind `many`. What such an entry puts under its key is what its nested specification
extracts from the matches, each by itself, as if nothing were around it
(`Specification.getPath?_extract_many`). The tables around a nested specification are empty here,
and tables that agree make no difference; that the matches are read within a larger extraction
leaves no other trace.
-/

set_option autoImplicit false
set_option relaxedAutoImplicit false

namespace MarkupRecords

/-- An entry of kind `many` yields a container for each of its matches. -/
theorem Entry.value_of_many {e : Entry} (hkind : e.kind = .many) {nested : Specification}
    (hnested : e.nested? = some nested) (mode : Selector.Mode) (tables : List TransformTable)
    (source : Source) (n : Node) :
    e.value mode tables source n =
      .list ((e.selector.select mode n).map fun m ↦
        .map (nested.extractIn tables source.nested m)) := by
  rw [Entry.value, if_pos hkind, hnested, Specification.extractEach]

namespace Specification

/-- In a specification that has been built and that has neither a hook nor a parent nor transforms,
take an entry of kind `many` with which the keys of all later entries have nothing in common. It has
a nested specification, its selector finds matches in document order, and under its key is the list
of what the nested specification by itself extracts from each of them. -/
theorem getPath?_extract_many {spec : Specification} (hbuilt : spec.IsBuilt)
    (hhook : spec.hook? = none) (hparent : spec.parent? = none)
    (htransforms : spec.transforms.isEmpty = true) {before after : List Entry} {e : Entry}
    (hentries : spec.entries = before ++ e :: after) (hkind : e.kind = .many)
    (hlater : ∀ later ∈ after, KeysApart e.key.segments later.key.segments) (n : Node) :
    ∃ nested ms, e.nested? = some nested ∧
      n.findAll spec.mode e.selector.source = .ok ms ∧ Node.Ascending ms ∧
      (spec.extract n).getPath? e.key.segments =
        some (.list ((nested.extractAll ms).map .map)) := by
  have hwell := hbuilt.wellFormed e (by simp [hentries])
  obtain ⟨nested, hnested⟩ := Option.isSome_iff_exists.mp (hwell.nested_iff.mpr hkind)
  refine ⟨nested, e.selector.select spec.mode n, hnested, ?_, ?_, ?_⟩
  · rw [Node.findAll, hwell.ofText?_source]
  · exact Path.ascending_evaluate _ _ _
  · have halone (m : Node) :
        nested.extractIn [spec.transforms] Source.none.nested m = nested.extract m :=
      nested.extractIn_congr (TransformTable.agree_cons_of_isEmpty htransforms []) .none m
    rw [extract, getPath?_extractIn hhook hparent rfl hentries hwell.segments_ne_nil hlater,
      Entry.value_of_many hkind hnested]
    simp only [halone, extractAll, List.map_map]
    rfl

theorem getPath?_extract_many_tracks :
    let here : Selector := ⟨"", ⟨false, false, []⟩⟩
    let track : Path := ⟨false, true, [⟨.child, .name "track", []⟩]⟩
    let mark : Hook := (·.insert "marked" (.bool true))
    let nested : Specification :=
      ⟨[⟨.innerText, here, ⟨["title"]⟩, { }, none⟩], some mark, .search, none, .empty⟩
    let many : Entry := ⟨.many, ⟨"track", track⟩, ⟨["tracks"]⟩, { }, some nested⟩
    let found : Entry := ⟨.exists, here, ⟨["found"]⟩, { }, none⟩
    let spec : Specification := ⟨[many, found], none, .search, none, .empty⟩
    let n := (Document.ofTree (.document [.element "album" [] [
      .element "track" [] [.text "Brooklyn"], .element "track" [] [.text "Climb"]]])).root
    spec.IsBuilt ∧ ∃ ms, n.findAll .search "track" = .ok ms ∧
      ms.map Node.innerText = ["Brooklyn", "Climb"] ∧
      (spec.extract n).getPath? ["tracks"] = some (.list ((nested.extractAll ms).map .map)) := by
  intro here track mark nested many found spec n
  have htrack : Selector.ofText? "track" = .ok ⟨"track", track⟩ :=
    Selector.ofText?_of_eq_render (by decide +kernel) (by decide +kernel)
  let body : List Declaration := [.scalar .innerText [⟨"", ⟨["title"]⟩⟩] { }, .hook mark]
  have hbody : Draft.declareAll [] { } body = { entries := nested.entries, hook := some mark } :=
    rfl
  have hmany : Draft.declare [] { } (.many [⟨"track", ⟨["tracks"]⟩⟩] body) =
      { entries := [many] } := by
    rw [Draft.declare, hbody]
    change Draft.push { } .many "track" ⟨["tracks"]⟩ { } (some nested) = _
    rw [Draft.push, htrack]
    rfl
  have hbuild : build [.many [⟨"track", ⟨["tracks"]⟩⟩] body,
      .scalar .exists [⟨"", ⟨["found"]⟩⟩] { }] = .ok spec := by
    rw [build, Draft.declareAll, hmany]
    rfl
  have hbuilt : spec.IsBuilt := .build (fun other hother ↦ absurd hother (by
    simp [Declaration.othersAll, Declaration.others, body])) hbuild
  have hentries : spec.entries = [] ++ many :: [found] := rfl
  obtain ⟨inner, ms, hinner, hfind, -, hpath⟩ :=
    getPath?_extract_many hbuilt rfl rfl rfl hentries rfl
      (by simp [KeysApart, found, many, Entry.key]) n
  cases hinner
  have hms : n.findAll .search "track" = .ok ((Selector.mk "track" track).select .search n) := by
    rw [Node.findAll, htrack]
  obtain rfl : (Selector.mk "track" track).select .search n = ms :=
    Except.ok.inj (hms.symm.trans hfind)
  exact ⟨hbuilt, _, hms, by decide +kernel, hpath⟩

end Specification

end MarkupRecords
