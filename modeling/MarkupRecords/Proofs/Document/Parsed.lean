import MarkupRecords.Markup
import MarkupRecords.Proofs.Document.Nesting
import MarkupRecords.Proofs.Document.Subtree

/-!
What holds of documents because they were parsed. The document node stands above everything else and
nowhere below (`Tree.IsRooted`): the grammar of events knows nothing but elements and texts
(`Event.Nests.forall_mem_flatten`), and joining the texts of an HTML tree leaves anything else out.
So a node of a parsed document that is the document node is the root (`Document.IsParsed.eq_root`).
-/

set_option autoImplicit false
set_option relaxedAutoImplicit false

namespace MarkupRecords

namespace Tree

/-! ### Trees without a document node -/

/-- The tree consists of elements and texts. -/
def IsContent (t : Tree) : Prop := ∀ s ∈ t.flatten, s.isDocument = false

/-- The tree is a document node with elements and texts below it. -/
def IsRooted (t : Tree) : Prop := ∃ kids, t = document kids ∧ ∀ k ∈ kids, k.IsContent

theorem mem_flattenAll_iff {s : Tree} {ts : List Tree} :
    s ∈ flattenAll ts ↔ ∃ t ∈ ts, s ∈ t.flatten := by
  induction ts with
  | nil => simp [flattenAll]
  | cons t ts ih => simp [flattenAll, ih]

theorem isContent_text (content : String) : (text content).IsContent := by
  intro s hs
  rw [List.mem_singleton.mp hs]
  rfl

theorem isContent_element {name : String} {attributes : List (String × String)}
    {kids : List Tree} (hkids : ∀ k ∈ kids, k.IsContent) :
    (element name attributes kids).IsContent := by
  intro s hs
  rcases List.mem_cons.mp hs with rfl | hbelow
  · rfl
  · obtain ⟨k, hk, hs⟩ := mem_flattenAll_iff.mp hbelow
    exact hkids k hk s hs

theorem isContent_pushText (content : String) {before : List Tree}
    (hbefore : ∀ t ∈ before, t.IsContent) : ∀ t ∈ pushText content before, t.IsContent := by
  intro t ht
  unfold pushText at ht
  split at ht
  · rcases List.mem_cons.mp ht with rfl | ht
    · exact isContent_text _
    · exact hbefore t (List.mem_cons_of_mem _ ht)
  · rcases List.mem_cons.mp ht with rfl | ht
    · exact isContent_text _
    · exact hbefore t ht

mutual

theorem isContent_joinTexts : ∀ t : Tree, t.isDocument = false → t.joinTexts.IsContent
  | document _, h => by
    cases h
  | element _ _ kids, _ => by
    rw [joinTexts]
    exact isContent_element (isContent_joinTextsAfter kids (List.forall_mem_nil _))
  | text content, _ => by
    rw [joinTexts]
    exact isContent_text content

theorem isContent_joinTextsAfter : ∀ (ts : List Tree) {before : List Tree},
    (∀ t ∈ before, t.IsContent) → ∀ t ∈ joinTextsAfter before ts, t.IsContent
  | [], before, hbefore => by
    intro t ht
    rw [joinTextsAfter] at ht
    exact hbefore t (List.mem_reverse.mp ht)
  | text content :: ts, before, hbefore => by
    rw [joinTextsAfter]
    exact isContent_joinTextsAfter ts (isContent_pushText content hbefore)
  | document _ :: ts, before, hbefore => by
    rw [joinTextsAfter]
    exact isContent_joinTextsAfter ts hbefore
  | element name attributes kids :: ts, before, hbefore => by
    rw [joinTextsAfter]
    · have hjoined := isContent_joinTexts (element name attributes kids) rfl
      exact isContent_joinTextsAfter ts (List.forall_mem_cons.mpr ⟨hjoined, hbefore⟩)
    · nofun
    · nofun

end

end Tree

/-! ### Trees from events -/

namespace Tree

theorem forall_mem_flatten_iff {p : Tree → Prop} {t : Tree} :
    (∀ s ∈ t.flatten, p s) ↔ p t ∧ ∀ k ∈ t.children, ∀ s ∈ k.flatten, p s := by
  rw [flatten_eq, List.forall_mem_cons]
  simp only [mem_flattenAll_iff]
  constructor
  · rintro ⟨ht, hbelow⟩
    exact ⟨ht, fun k hk s hs ↦ hbelow s ⟨k, hk, hs⟩⟩
  · rintro ⟨ht, hkids⟩
    exact ⟨ht, fun s ⟨k, hk, hs⟩ ↦ hkids k hk s hs⟩

theorem mem_ofRun_iff {content : String} {t : Tree} :
    t ∈ ofRun content ↔ content ≠ "" ∧ t = text content := by
  unfold ofRun
  split_ifs with hempty
  · simp [hempty]
  · simp [hempty]

end Tree

namespace Event

open MarkupRecords.Tree

variable {es : List Event} {ts : List Tree} {t : Tree}

/-- What holds of filled texts, and of elements whose content the grammar admits, holds of
everything in a tree from events. -/
theorem Nests.forall_mem_flatten {p : Tree → Prop} (h : Nests es ts)
    (htext : ∀ content, content ≠ "" → p (.text content))
    (helement : ∀ name attributes body kids, Nests body kids → p (.element name attributes kids)) :
    ∀ t ∈ ts, ∀ s ∈ t.flatten, p s := by
  have hrun (content : String) : ∀ t ∈ ofRun content, ∀ s ∈ t.flatten, p s := by
    intro t ht s hs
    obtain ⟨hfilled, rfl⟩ := mem_ofRun_iff.mp ht
    rw [List.mem_singleton.mp hs]
    exact htext content hfilled
  induction h with
  | run => exact hrun _
  | element name attributes _ hbody _ ihBefore ihBody =>
    refine List.forall_mem_append.mpr ⟨ihBefore, List.forall_mem_cons.mpr ⟨?_, hrun _⟩⟩
    exact forall_mem_flatten_iff.mpr ⟨helement name attributes _ _ hbody, ihBody⟩
  | empty name attributes _ _ ihBefore =>
    refine List.forall_mem_append.mpr ⟨ihBefore, List.forall_mem_cons.mpr ⟨?_, hrun _⟩⟩
    have hcontent : Nests [] [] := .run isRun_nil
    exact forall_mem_flatten_iff.mpr
      ⟨helement name attributes _ _ hcontent, List.forall_mem_nil _⟩

theorem Encloses.exists_nests (h : Encloses es t) :
    ∃ name attributes body kids, t = .element name attributes kids ∧ Nests body kids := by
  cases h with
  | element name attributes hbody => exact ⟨name, attributes, _, _, rfl, hbody⟩
  | empty name attributes => exact ⟨name, attributes, [], [], rfl, .run isRun_nil⟩

theorem Encloses.isContent (h : Encloses es t) : t.IsContent := by
  obtain ⟨name, attributes, body, kids, rfl, hbody⟩ := h.exists_nests
  refine isContent_element (hbody.forall_mem_flatten ?_ ?_)
  · intro content _
    rfl
  · intro name attributes body kids _
    rfl

theorem Describes.isRooted (h : Describes es t) : t.IsRooted := by
  obtain ⟨-, hinner, -⟩ := h
  exact ⟨_, rfl, List.forall_mem_singleton.mpr hinner.isContent⟩

end Event

/-! ### Parsing -/

/-- An XML text is a document if it is read without a fault and its events make the document. -/
theorem Xml.parse_eq_ok_iff {naming : Naming} {text : String} {t : Tree} :
    Xml.parse naming text = .ok t ↔
      ∃ es, Xml.events naming text = (es, none) ∧ Tree.ofEvents es = .ok t := by
  unfold Xml.parse
  obtain ⟨es, fault⟩ := Xml.events naming text
  simp only [Prod.mk.injEq, Tree.ofEvents]
  cases hnest : Nest.start.applyAll es with
  | error nesting =>
    constructor
    · intro ht
      cases ht
    · rintro ⟨_, ⟨rfl, -⟩, ht⟩
      rw [hnest] at ht
      cases ht
  | ok nest =>
    cases fault with
    | some fault =>
      constructor
      · intro ht
        cases ht
      · rintro ⟨_, ⟨-, hnone⟩, -⟩
        cases hnone
    | none =>
      have hfinish : nest.finish.mapError MarkupFault.nesting = .ok t ↔ nest.finish = .ok t := by
        cases nest.finish <;> simp [Except.mapError]
      rw [hfinish]
      constructor
      · intro ht
        refine ⟨es, ⟨rfl, rfl⟩, ?_⟩
        rw [hnest]
        exact ht
      · rintro ⟨_, ⟨rfl, -⟩, ht⟩
        rw [hnest] at ht
        exact ht

/-- An XML text that is a document is described by its events. -/
theorem Xml.exists_describes_of_parse {naming : Naming} {text : String} {t : Tree}
    (ht : Xml.parse naming text = .ok t) : ∃ es, Event.Describes es t := by
  obtain ⟨es, -, hes⟩ := Xml.parse_eq_ok_iff.mp ht
  exact ⟨es, Tree.ofEvents_eq_ok_iff_describes.mp hes⟩

theorem Html.isRooted_parse (text : String) : (Html.parse text).IsRooted := by
  refine ⟨_, rfl, List.forall_mem_singleton.mpr ?_⟩
  exact Tree.isContent_joinTexts _ rfl

namespace Document

/-- The document is what parsing a text gave, under any label. -/
def IsParsed (d : Document) : Prop :=
  ∃ (markup : Markup) (naming : Xml.Naming) (text : String) (parsed : Document),
    parse markup naming text = .ok parsed ∧ d = parsed.withLabel d.label

variable {d : Document}

theorem IsParsed.isRooted (h : d.IsParsed) : d.tree.IsRooted := by
  obtain ⟨markup, naming, text, parsed, hparse, hd⟩ := h
  rw [hd]
  unfold parse at hparse
  split at hparse
  · cases hparse
    exact Html.isRooted_parse text
  · cases hxml : Xml.parse naming text with
    | error fault =>
      rw [hxml] at hparse
      cases hparse
    | ok t =>
      rw [hxml] at hparse
      cases hparse
      obtain ⟨es, hdescribes⟩ := Xml.exists_describes_of_parse hxml
      exact hdescribes.isRooted

/-- Only the root of a document with elements and texts below it is a document node. -/
theorem eq_root_of_isRooted {n : Node} (h : n.document.tree.IsRooted) (hn : n.isDocument = true) :
    n = n.document.root := by
  obtain ⟨kids, htree, hkids⟩ := h
  have hplace := n.getElem?_flatten
  rw [htree, Tree.flatten] at hplace
  cases hindex : n.index with
  | zero => exact Node.eq_of_index_eq rfl hindex
  | succ i =>
    rw [hindex, List.getElem?_cons_succ] at hplace
    obtain ⟨k, hk, hbelow⟩ := Tree.mem_flattenAll_iff.mp (List.mem_of_getElem? hplace)
    rw [Node.isDocument, hkids k hk _ hbelow] at hn
    cases hn

theorem IsParsed.eq_root {n : Node} (h : n.document.IsParsed) (hn : n.isDocument = true) :
    n = n.document.root :=
  eq_root_of_isRooted h.isRooted hn

end Document

end MarkupRecords
