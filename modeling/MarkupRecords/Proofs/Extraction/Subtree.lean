import MarkupRecords.Proofs.Document.Parsed
import MarkupRecords.Proofs.Extraction.Pass
import MarkupRecords.Proofs.Selector.Subtree

/-!
Extraction sees only the subtree. If no selector leads upward and no entry hands out a node, what is
extracted from a node depends on nothing but the node's tree: neither on what is around the node nor
on where it stands (`Specification.extract_eq_of_tree_eq`).

The comparison is made for twins below the two nodes (`Specification.extractIn_eq_of_twins`), since
these are what entries of kind `many` go on to. The document node needs care. Asked for an attribute
it answers with the attribute of the outermost element, which is part of its tree because nothing
but the root of a parsed document is a document node.
-/

set_option autoImplicit false
set_option relaxedAutoImplicit false

namespace MarkupRecords

open Node (Twins)

/-- There are no hooks, no entries of kind `node`, and no selectors but downward ones, in the
specification and in all those that are applied with it. -/
def Specification.LooksDownward (spec : Specification) : Prop :=
  spec.Everywhere fun s ↦
    s.hook? = none ∧ ∀ e ∈ s.entries, e.kind ≠ .node ∧ e.selector.path.isDownward = true

/-! ### Values from twins -/

section Values

variable {n n' m m' : Node}

/-- In parsed documents the outermost element belongs to the tree of any document node. -/
theorem Node.Twins.attribute?_unwrapDocument (hm : Twins n n' m m') (hn : n.document.IsParsed)
    (hn' : n'.document.IsParsed) (name : String) :
    m.unwrapDocument.attribute? name = m'.unwrapDocument.attribute? name := by
  have hkind : m.isDocument = m'.isDocument := congrArg Tree.isDocument hm.tree
  have hown : m.attribute? name = m'.attribute? name := congrArg (·.attribute? name) hm.tree
  rw [Node.unwrapDocument, Node.unwrapDocument, ← hkind]
  split
  · next hdocument =>
    have hroot : m.document.root = m :=
      (Document.IsParsed.eq_root (hm.document ▸ hn) hdocument).symm
    have hroot' : m'.document.root = m' :=
      (Document.IsParsed.eq_root (hm.document' ▸ hn') (hkind ▸ hdocument)).symm
    rw [Document.rootElement?, Document.rootElement?, hroot, hroot']
    rcases head?_of_forall₂ hm.elements with ⟨hnone, hnone'⟩ | ⟨k, k', hk, hk', htwins⟩
    · rw [hnone, hnone']
      exact hown
    · rw [hk, hk']
      exact congrArg (·.attribute? name) htwins.tree
  · exact hown

theorem Selector.twins_first? {s : Selector} (hs : s.path.isDownward = true)
    (hm : Twins n n' m m') :
    (s.first? m = none ∧ s.first? m' = none) ∨
      ∃ k k', s.first? m = some k ∧ s.first? m' = some k' ∧ Twins n n' k k' :=
  head?_of_forall₂ (Path.twins_evaluate s.path true hs hm)

/-- Whatever an entry reads that is neither a node nor a list is the same at twins. -/
theorem Entry.read_eq_of_twins {kind : Kind} (hkind : kind ≠ .node) {selector : Selector}
    (hselector : selector.path.isDownward = true) (options : Options) (hm : Twins n n' m m')
    (hn : n.document.IsParsed) (hn' : n'.document.IsParsed) :
    read kind selector options m = read kind selector options m' := by
  have hfirst := selector.twins_first? hselector hm
  have hfound : (selector.first? m).isSome = (selector.first? m').isSome := by
    rcases hfirst with ⟨hnone, hnone'⟩ | ⟨k, k', hk, hk', -⟩
    · rw [hnone, hnone']
    · rw [hk, hk', Option.isSome_some, Option.isSome_some]
  have htext : readText selector m = readText selector m' := by
    rw [readText, readText]
    rcases hfirst with ⟨hnone, hnone'⟩ | ⟨k, k', hk, hk', htwins⟩
    · rw [hnone, hnone']
    · have hinner : k.innerText = k'.innerText := congrArg Tree.innerText htwins.tree
      simp only [hk, hk', hinner]
  have hattribute (name : String) :
      readAttribute selector name m = readAttribute selector name m' := by
    rw [readAttribute, readAttribute]
    rcases hfirst with ⟨hnone, hnone'⟩ | ⟨k, k', hk, hk', htwins⟩
    · rw [hnone, hnone']
    · rw [hk, hk', Option.bind_some, Option.bind_some, htwins.attribute?_unwrapDocument hn hn']
  cases kind with
  | text | integer | boolean => exact htext
  | «exists» => exact congrArg Value.bool hfound
  | notExists => rw [read, read, ← Option.not_isSome, ← Option.not_isSome, hfound]
  | nodeName => exact congrArg (Value.text ∘ Tree.name) hm.tree
  | innerText => exact congrArg (Value.text ∘ Tree.innerText) hm.tree
  | node => exact absurd rfl hkind
  | «attribute» => exact hattribute _
  | many => rfl

end Values

namespace Specification

/-- What a specification yields by itself depends on the node only through its entries' values. -/
theorem ownPass_congr {spec : Specification} (hhook : spec.hook? = none)
    (outer : List TransformTable) (source : Source) {m m' : Node}
    (hvalue : ∀ e ∈ spec.entries, e.value spec.mode (spec.transforms :: outer) source m =
      e.value spec.mode (spec.transforms :: outer) source m') :
    spec.ownPass outer source m = spec.ownPass outer source m' := by
  rw [ownPass_of_hook?_eq_none hhook, ownPass_of_hook?_eq_none hhook, Entry.map_item_congr hvalue,
    ← source.record_withNode, ← source.record_withNode, ← Container.fill_withNode,
    ← Container.fill_withNode]
  rfl

/-- The same is extracted from twins below two nodes of parsed documents. -/
theorem extractIn_eq_of_twins {spec : Specification} (h : spec.LooksDownward) {n n' : Node}
    (hn : n.document.IsParsed) (hn' : n'.document.IsParsed) :
    ∀ (outer : List TransformTable) (source : Source) {m m' : Node}, Twins n n' m m' →
      spec.extractIn outer source m = spec.extractIn outer source m' := by
  induction spec using Specification.induction with
  | step spec ihNested ihParent =>
    intro outer source m m' hm
    obtain ⟨⟨hhook, hentries⟩, hnestedDownward, hparentDownward⟩ := everywhere_iff.mp h
    have hvalue : ∀ e ∈ spec.entries, e.value spec.mode (spec.transforms :: outer) source m =
        e.value spec.mode (spec.transforms :: outer) source m' := by
      intro e he
      obtain ⟨hkind, hselector⟩ := hentries e he
      rw [Entry.value, Entry.value]
      split
      · cases hnested : e.nested? with
        | none => rfl
        | some nested =>
          have hmatches := Path.twins_evaluate e.selector.path (spec.mode == .search) hselector hm
          have hnestedDownward := hnestedDownward e he nested hnested
          refine congrArg Value.list (map_eq_map_of_forall₂ (fun k k' hk ↦ ?_) hmatches)
          rw [ihNested e he nested hnested hnestedDownward _ _ hk]
      · rw [Entry.scalarValue, Entry.scalarValue,
          Entry.read_eq_of_twins hkind hselector e.options hm hn hn']
    rw [extractIn_eq, extractIn_eq, ownPass_congr hhook outer source hvalue]
    cases hparent : spec.parent? with
    | none => rfl
    | some parent =>
      have hinherited := ihParent parent hparent (hparentDownward parent hparent) outer source hm
      rw [mergeOver, mergeOver, hinherited]

/-- Take two nodes with the same tree, of one parsed document or of two. A specification that only
looks downward extracts equal containers from them, whatever is around the nodes. -/
theorem extract_eq_of_tree_eq {spec : Specification} (h : spec.LooksDownward) {n n' : Node}
    (hn : n.document.IsParsed) (hn' : n'.document.IsParsed) (htree : n.tree = n'.tree) :
    spec.extract n = spec.extract n' :=
  extractIn_eq_of_twins h hn hn' [] .none (.refl htree)

theorem extract_eq_of_tree_eq_album :
    let here : Selector := ⟨"", ⟨false, false, []⟩⟩
    let last : Path := ⟨false, true, [⟨.child, .name "track", [.last]⟩]⟩
    let nested : Specification :=
      ⟨[⟨.innerText, here, ⟨["title"]⟩, { }, none⟩], none, .search, none, .empty⟩
    let id : Entry := ⟨.attribute, here, ⟨["id"]⟩, { attributeName := some "id" }, none⟩
    let many : Entry := ⟨.many, ⟨"track[last()]", last⟩, ⟨["tracks"]⟩, { }, some nested⟩
    let spec : Specification := ⟨[id, many], none, .search, none, .empty⟩
    ∃ d d' n n', Document.parse .auto .plain
        "<shop><sign/><album id='7'><track>Brooklyn</track><track>Climb</track></album></shop>" =
          .ok d ∧
      Document.parse .auto .plain
        "<album id='7'><track>Brooklyn</track><track>Climb</track></album>" = .ok d' ∧
      d.root.descend? [0, 1] = some n ∧ d'.root.descend? [0] = some n' ∧
      spec.extract n = spec.extract n' ∧
      (spec.extract n).getPath? ["id"] = some (.text "7") := by
  intro here last nested id many spec
  have hspec : spec.LooksDownward := by
    simp [spec, id, many, nested, here, last, LooksDownward, Everywhere, Entry.NestedEverywhere,
      MaybeEverywhere, hook?, entries, Entry.kind, Entry.selector, Path.isDownward,
      Step.allDownward, Predicate.allDownward, Predicate.isDownward]
  let album : Tree := .element "album" [("id", "7")]
    [.element "track" [] [.text "Brooklyn"], .element "track" [] [.text "Climb"]]
  let d : Document := .ofTree (.document [.element "shop" [] [.element "sign" [] [], album]])
  let d' : Document := .ofTree (.document [album])
  have hxml : Document.parse .auto .plain
      "<shop><sign/><album id='7'><track>Brooklyn</track><track>Climb</track></album></shop>" =
        .ok d := by
    have hevents : Xml.events .plain
        "<shop><sign/><album id='7'><track>Brooklyn</track><track>Climb</track></album></shop>" =
          ([.start "shop" [], .empty "sign" [], .start "album" [("id", "7")], .start "track" [],
            .text "Brooklyn", .close, .start "track" [], .text "Climb", .close, .close, .close],
            none) := by decide +kernel
    rw [Document.parse, if_neg (by decide +kernel), Xml.parse, hevents]
    rfl
  have hxml' : Document.parse .auto .plain
      "<album id='7'><track>Brooklyn</track><track>Climb</track></album>" = .ok d' := by
    have hevents : Xml.events .plain
        "<album id='7'><track>Brooklyn</track><track>Climb</track></album>" =
          ([.start "album" [("id", "7")], .start "track" [], .text "Brooklyn", .close,
            .start "track" [], .text "Climb", .close, .close], none) := by decide +kernel
    rw [Document.parse, if_neg (by decide +kernel), Xml.parse, hevents]
    rfl
  refine ⟨d, d', ⟨d, 3, by decide⟩, ⟨d', 1, by decide⟩, hxml, hxml', rfl, rfl, ?_, rfl⟩
  exact extract_eq_of_tree_eq hspec ⟨_, _, _, d, hxml, rfl⟩ ⟨_, _, _, d', hxml', rfl⟩ rfl

end Specification

end MarkupRecords
