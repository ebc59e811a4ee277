import MarkupRecords.Proofs.Arena.Building
import MarkupRecords.Proofs.Document.Texts
import MarkupRecords.Proofs.Document.WellNested

/-!
Parsed documents as arenas in preorder. `Document.IsPreorder` says what numbers, parents and
children of a document have to do with each other, and that the document node stands above a single
element. Most of it holds of the numbering of any tree (`Node.parent?_eq_some_iff`,
`Node.isBelow_iff`, `Node.index_lt_iff`); the rest is a property of the trees that parsing makes
(`Tree.IsWhole`): of those from events (`Event.Describes.isWhole`) and of those with joined texts
(`Tree.isWhole_joinTexts`). Hence parsed documents are in preorder
(`Document.isPreorder_of_markup`), and so are the arenas that are filled node by node while a text
comes in, because these are the arenas of such documents (`Builder.finish_applyAll`,
`Builder.arena_append`, `Arena.parse_eq`).
-/

set_option autoImplicit false
set_option relaxedAutoImplicit false

namespace MarkupRecords

namespace Document

/-- The nodes of the document are numbered in preorder, and those below the document node form a
single element. -/
structure IsPreorder (d : Document) : Prop where
  /-- The document node has number 0, and nothing else is a document node. -/
  isDocument_iff : ∀ n : Node, n.document = d → (n.isDocument = true ↔ n.index = 0)
  parent?_eq_none_iff : ∀ n : Node, n.document = d → (n.parent? = none ↔ n.index = 0)
  /-- The document node has one child, an element with number 1, which stands in for it. -/
  root : ∃ e : Node, d.root.children = [e] ∧ e.index = 1 ∧ e.isElement = true ∧
    d.rootElement? = some e ∧ d.root.unwrapDocument = e
  parent_lt : ∀ n p : Node, n.document = d → n.parent? = some p →
    p.document = d ∧ p.index < n.index
  mem_children_iff : ∀ n m : Node, n.document = d → (m ∈ n.children ↔ m.parent? = some n)
  ascending_children : ∀ n : Node, n.document = d → n.children.Pairwise (·.index < ·.index)
  /-- The nodes below a node have the numbers from the one after its own up to some last one. -/
  below : ∀ n : Node, n.document = d → ∃ stop, stop ≤ d.places.size ∧
    ∀ m : Node, m.document = d → (m.IsBelow n ↔ n.index + 1 ≤ m.index ∧ m.index < stop)
  mem_descendants_iff : ∀ n m : Node, n.document = d → (m ∈ n.descendants ↔ m.IsBelow n)
  /-- The order of numbers is that of a walk through the document. -/
  index_lt_iff : ∀ m k : Node, m.document = d → k.document = d →
    (m.index < k.index ↔ m.Precedes k)
  children_text : ∀ n : Node, n.document = d → n.isText = true → n.children = []
  /-- Of two neighbours not both are texts. -/
  texts_apart : ∀ n : Node, n.document = d →
    n.children.IsChain fun a b ↦ ¬ (a.isText = true ∧ b.isText = true)

/-- No text node of the document is empty. -/
def TextsFilled (d : Document) : Prop :=
  ∀ n : Node, n.document = d → n.isText = true → n.innerText ≠ ""

end Document

/-! ### Trees of whole documents -/

namespace Tree

/-- The tree is a document node above a single element, which consists of elements and texts and has
no two texts side by side. -/
def IsWhole (t : Tree) : Prop :=
  ∃ e : Tree, t = document [e] ∧ e.isElement = true ∧ e.IsContent ∧ e.TextsApart

theorem isWhole_joinTexts (name : String) (attributes : List (String × String))
    (kids : List Tree) : (document [(element name attributes kids).joinTexts]).IsWhole := by
  refine ⟨_, rfl, ?_, isContent_joinTexts _ rfl, textsApart_joinTexts _⟩
  rw [joinTexts]
  rfl

end Tree

theorem Html.isWhole_parse (text : String) : (Html.parse text).IsWhole :=
  Tree.isWhole_joinTexts _ _ _

namespace Event

variable {es : List Event} {t : Tree}

theorem Encloses.isElement (h : Encloses es t) : t.isElement = true := by
  obtain ⟨name, attributes, body, kids, rfl, -⟩ := h.exists_nests
  rfl

theorem Describes.isWhole (h : Describes es t) : t.IsWhole := by
  obtain ⟨-, hinner, -⟩ := h
  exact ⟨_, rfl, hinner.isElement, hinner.isContent, hinner.textsApart⟩

theorem Describes.textsFilled (h : Describes es t) : t.TextsFilled := by
  obtain ⟨-, hinner, -⟩ := h
  exact Tree.forall_mem_flatten_iff.mpr ⟨nofun, List.forall_mem_singleton.mpr hinner.textsFilled⟩

end Event

/-! ### Documents of whole trees -/

namespace Tree.IsWhole

variable {d : Document}

theorem isRooted {t : Tree} (h : t.IsWhole) : t.IsRooted := by
  obtain ⟨e, rfl, -, hcontent, -⟩ := h
  exact ⟨[e], rfl, List.forall_mem_singleton.mpr hcontent⟩

theorem textsApart {t : Tree} (h : t.IsWhole) : t.TextsApart := by
  obtain ⟨e, rfl, -, -, hapart⟩ := h
  exact forall_mem_flatten_iff.mpr ⟨.singleton e, List.forall_mem_singleton.mpr hapart⟩

theorem isDocument_iff (h : d.tree.IsWhole) {n : Node} (hn : n.document = d) :
    n.isDocument = true ↔ n.index = 0 := by
  subst hn
  constructor
  · intro hdocument
    rw [Document.eq_root_of_isRooted h.isRooted hdocument]
    rfl
  · intro hindex
    obtain ⟨e, htree, -⟩ := h
    have hroot : n = n.document.root := Node.eq_of_index_eq rfl hindex
    rw [Node.isDocument, hroot, Node.tree_root, htree]
    rfl

theorem exists_children_root (h : d.tree.IsWhole) :
    ∃ e : Node, d.root.children = [e] ∧ e.index = 1 ∧ e.isElement = true := by
  obtain ⟨t, htree, helement, -⟩ := h
  have htrees : d.root.children.map Node.tree = [t] := by
    rw [Node.map_tree_children, Node.tree_root, htree]
    rfl
  have hindices : d.root.children.map Node.index = [1] := by
    rw [Node.map_index_children, Node.tree_root, htree]
    rfl
  obtain ⟨e, hchildren, rfl⟩ := List.map_eq_singleton_iff.mp htrees
  rw [hchildren] at hindices
  exact ⟨e, hchildren, List.singleton_inj.mp hindices, helement⟩

theorem rootElement?_eq (h : d.tree.IsWhole) {e : Node} (hchildren : d.root.children = [e])
    (helement : e.isElement = true) :
    d.rootElement? = some e ∧ d.root.unwrapDocument = e := by
  have hroot : d.rootElement? = some e := by
    simp [Document.rootElement?, Node.elements, hchildren, helement]
  have hdocument : d.root.isDocument = true := (h.isDocument_iff rfl).mpr rfl
  have hunwrap : d.root.unwrapDocument = d.rootElement?.getD d.root := if_pos hdocument
  rw [hunwrap, hroot]
  exact ⟨rfl, rfl⟩

theorem texts_apart (h : d.tree.IsWhole) {n : Node} (hn : n.document = d) :
    n.children.IsChain fun a b ↦ ¬ (a.isText = true ∧ b.isText = true) := by
  subst hn
  have hapart := h.textsApart n.tree (List.mem_of_getElem? n.getElem?_flatten)
  rw [← n.map_tree_children, Tree.Apart, List.isChain_map] at hapart
  exact hapart

theorem isPreorder (h : d.tree.IsWhole) : d.IsPreorder where
  isDocument_iff _ := h.isDocument_iff
  parent?_eq_none_iff _ _ := Node.parent?_eq_none_iff
  root := by
    obtain ⟨e, hchildren, hindex, helement⟩ := h.exists_children_root
    exact ⟨e, hchildren, hindex, helement, h.rootElement?_eq hchildren helement⟩
  parent_lt n p hn hp := by
    have hchild := Node.parent?_eq_some_iff.mp hp
    exact ⟨(Node.document_of_mem_parent? hp).trans hn, (Node.lt_of_mem_children hchild).1⟩
  mem_children_iff _ _ _ := Node.parent?_eq_some_iff.symm
  ascending_children n _ := n.ascending_children
  below n hn := by
    refine ⟨n.index + n.tree.size, hn ▸ n.index_add_size_le, fun m hm ↦ ?_⟩
    rw [Node.isBelow_iff, hm, hn, Nat.succ_le_iff]
    simp
  mem_descendants_iff _ _ _ := Node.mem_descendants_iff
  index_lt_iff m k hm hk := Node.index_lt_iff (hm.trans hk.symm)
  children_text n _ hn := by
    have htrees := n.map_tree_children
    cases htree : n.tree with
    | document | element => simp [Node.isText, htree, Tree.isText] at hn
    | text content => simpa [htree, Tree.children] using htrees
  texts_apart _ := h.texts_apart

end Tree.IsWhole

theorem Tree.TextsFilled.document {d : Document} (h : d.tree.TextsFilled) : d.TextsFilled := by
  rintro n rfl htext hempty
  have hfilled := h n.tree (List.mem_of_getElem? n.getElem?_flatten)
  rw [Node.isText] at htext
  rw [Node.innerText] at hempty
  cases htree : n.tree with
  | document | element => simp [htree, isText] at htext
  | text content => simp_all [innerText]

/-! ### Parsed documents -/

namespace Document

variable {t : Tree}

theorem isPreorder_of_isWhole (h : t.IsWhole) (label : Nat) :
    ((ofTree t).withLabel label).IsPreorder :=
  Tree.IsWhole.isPreorder (d := (ofTree t).withLabel label) h

theorem textsFilled_of_tree (h : t.TextsFilled) (label : Nat) :
    ((ofTree t).withLabel label).TextsFilled :=
  Tree.TextsFilled.document (d := (ofTree t).withLabel label) h

/-- A label does not show in the arena. -/
theorem arena_withLabel (d : Document) (label : Nat) : (d.withLabel label).arena = d.arena :=
  (arena_eq _).trans (arena_eq d).symm

/-- Documents from any events that make one, from any HTML tree, and from any text that can be
parsed are numbered in preorder. Those from events and from XML texts have no empty text. The arenas
of these documents are what a builder makes of the events, of the tree and of the text, adding one
node after the other. -/
theorem isPreorder_of_markup (label : Nat) :
    (∀ es, (Builder.start.applyAll es).bind Builder.finish =
      (Tree.ofEvents es).map fun t ↦ ((ofTree t).withLabel label).arena) ∧
    (∀ es t, Tree.ofEvents es = .ok t →
      ((ofTree t).withLabel label).IsPreorder ∧ ((ofTree t).withLabel label).TextsFilled) ∧
    (∀ name attributes kids, Arena.mk (Builder.start.append (.element name attributes kids)).cells =
      ((ofTree (.document [(Tree.element name attributes kids).joinTexts])).withLabel
        label).arena) ∧
    (∀ name attributes kids,
      ((ofTree (.document [(Tree.element name attributes kids).joinTexts])).withLabel
        label).IsPreorder) ∧
    (∀ markup naming text, Arena.parse markup naming text =
      (parse markup naming text).map fun d ↦ (d.withLabel label).arena) ∧
    ∀ markup naming text d, parse markup naming text = .ok d →
      (d.withLabel label).IsPreorder ∧
        (markup.isHtml text = false → (d.withLabel label).TextsFilled) := by
  simp only [arena_withLabel]
  refine ⟨fun es ↦ ?_, fun es t ht ↦ ?_, fun name attributes kids ↦ ?_,
    fun name attributes kids ↦ ?_, Arena.parse_eq, fun markup naming text d hd ↦ ?_⟩
  · simp only [arena_eq]
    exact Builder.finish_applyAll es
  · have hdescribes := Tree.ofEvents_eq_ok_iff_describes.mp ht
    exact ⟨isPreorder_of_isWhole hdescribes.isWhole label,
      textsFilled_of_tree hdescribes.textsFilled label⟩
  · rw [arena_eq]
    exact Builder.arena_append rfl
  · exact isPreorder_of_isWhole (Tree.isWhole_joinTexts name attributes kids) label
  · rw [parse] at hd
    cases hmarkup : markup.isHtml text with
    | true =>
      simp only [hmarkup, if_true, Except.ok.injEq] at hd
      subst hd
      exact ⟨isPreorder_of_isWhole (Html.isWhole_parse text) label,
        fun hxml ↦ absurd hxml.symm Bool.false_ne_true⟩
    | false =>
      simp only [hmarkup, Bool.false_eq_true, if_false] at hd
      cases ht : Xml.parse naming text with
      | error fault =>
        rw [ht] at hd
        cases hd
      | ok t =>
        rw [ht] at hd
        cases hd
        obtain ⟨es, hdescribes⟩ := Xml.exists_describes_of_parse ht
        exact ⟨isPreorder_of_isWhole hdescribes.isWhole label,
          fun _ ↦ textsFilled_of_tree hdescribes.textsFilled label⟩

theorem isPreorder_of_markup_album :
    let es : List Event := [.start "album" [], .text "Zo", .cdata "ot", .empty "disc" [], .close]
    let t : Tree := .document [.element "album" [] [.text "Zoot", .element "disc" [] []]]
    let text := "<album>Zo<![CDATA[ot]]><disc/></album>"
    Tree.ofEvents es = .ok t ∧ parse .xml .plain text = .ok (ofTree t) ∧
      (ofTree t).IsPreorder ∧ ((ofTree t).withLabel 3).TextsFilled ∧
      Arena.parse .xml .plain text = .ok ((ofTree t).withLabel 3).arena := by
  intro es t text
  have ht : Tree.ofEvents es = .ok t := rfl
  have hevents : Xml.events .plain text = (es, none) := by decide +kernel
  have hparse : parse .xml .plain text = .ok (ofTree t) := by
    change (Xml.parse .plain text).map ofTree = _
    rw [Xml.parse_of_events hevents, ht]
    rfl
  obtain ⟨-, hpreorder, -⟩ := isPreorder_of_markup 0
  obtain ⟨-, -, -, -, harena, htexts⟩ := isPreorder_of_markup 3
  refine ⟨ht, hparse, (hpreorder es t ht).1, (htexts .xml .plain text _ hparse).2 rfl, ?_⟩
  rw [harena, hparse]
  rfl

end Document

end MarkupRecords
