import MarkupRecords.Proofs.Document.Parsed
import Mathlib.Data.List.Chain

/-!
Texts in parsed trees. Nowhere do two texts stand side by side (`Tree.TextsApart`): what the grammar
of events admits between the tags of an element is a row of trees in which texts take turns with
elements (`Event.Nests.apart`), and joining the texts of any tree makes such rows
(`Tree.textsApart_joinTexts`). In a tree from events no text is empty (`Tree.TextsFilled`), because
an empty run leaves no node.
-/

set_option autoImplicit false
set_option relaxedAutoImplicit false

namespace MarkupRecords

namespace Tree

/-- Of two trees in a row not both are texts. -/
def Apart (ts : List Tree) : Prop :=
  ts.IsChain fun t t' ↦ ¬ (t.isText = true ∧ t'.isText = true)

/-- Nowhere in the tree do two texts stand side by side. -/
def TextsApart (t : Tree) : Prop := ∀ s ∈ t.flatten, Apart s.children

/-- No text in the tree is empty. -/
def TextsFilled (t : Tree) : Prop := ∀ s ∈ t.flatten, s ≠ text ""

/-! ### Neighbours -/

theorem apart_nil : Apart [] := .nil

theorem apart_reverse_iff {ts : List Tree} : Apart ts.reverse ↔ Apart ts := by
  rw [Apart, List.isChain_reverse]
  refine List.IsChain.iff fun t t' ↦ ?_
  rw [And.comm]

/-- What stands before a tree that is no text does not matter to what stands after it. -/
theorem apart_append_cons_iff {t : Tree} (ht : t.isText = false) {ts ts' : List Tree} :
    Apart (ts ++ t :: ts') ↔ Apart ts ∧ Apart ts' := by
  simp [Apart, List.isChain_append, List.isChain_cons, ht]

theorem apart_cons_iff {t : Tree} (ht : t.isText = false) {ts : List Tree} :
    Apart (t :: ts) ↔ Apart ts := by
  have happend : Apart ([] ++ t :: ts) ↔ Apart [] ∧ Apart ts := apart_append_cons_iff ht
  simpa [apart_nil] using happend

/-- A text goes on with the text before it, so it comes to stand after something else. -/
theorem apart_pushText (content : String) {before : List Tree} (h : Apart before) :
    Apart (pushText content before) := by
  unfold pushText
  split
  · rw [Apart, List.isChain_cons] at h ⊢
    exact h
  · next hhead =>
    refine List.isChain_cons.mpr ⟨?_, h⟩
    rintro t ht ⟨-, htext⟩
    cases t with
    | document | element => cases htext
    | text s =>
      obtain ⟨rest, rfl⟩ := List.head?_eq_some_iff.mp ht
      exact hhead s rest rfl

theorem apart_ofRun (content : String) : Apart (ofRun content) := by
  unfold ofRun
  split_ifs
  · exact .nil
  · exact .singleton _

end Tree

/-! ### Trees from events -/

namespace Event

open MarkupRecords.Tree

variable {es : List Event} {ts : List Tree} {t : Tree}

theorem Nests.apart (h : Nests es ts) : Apart ts := by
  induction h with
  | run => exact apart_ofRun _
  | element _ _ _ _ _ ihBefore => exact (apart_append_cons_iff rfl).mpr ⟨ihBefore, apart_ofRun _⟩
  | empty _ _ _ _ ihBefore => exact (apart_append_cons_iff rfl).mpr ⟨ihBefore, apart_ofRun _⟩

theorem Encloses.textsApart (h : Encloses es t) : t.TextsApart := by
  obtain ⟨name, attributes, body, kids, rfl, hbody⟩ := h.exists_nests
  refine forall_mem_flatten_iff.mpr ⟨hbody.apart, hbody.forall_mem_flatten ?_ ?_⟩
  · intro content _
    exact apart_nil
  · intro name attributes body kids h
    exact h.apart

theorem Encloses.textsFilled (h : Encloses es t) : t.TextsFilled := by
  obtain ⟨name, attributes, body, kids, rfl, hbody⟩ := h.exists_nests
  refine forall_mem_flatten_iff.mpr ⟨nofun, hbody.forall_mem_flatten ?_ ?_⟩
  · simp
  · intros
    simp

end Event

/-! ### Trees with joined texts -/

namespace Tree

theorem textsApart_text (content : String) : (text content).TextsApart := by
  intro s hs
  rw [List.mem_singleton.mp hs]
  exact apart_nil

theorem textsApart_pushText (content : String) {before : List Tree}
    (hbefore : ∀ t ∈ before, t.TextsApart) : ∀ t ∈ pushText content before, t.TextsApart := by
  unfold pushText
  split
  · exact List.forall_mem_cons.mpr ⟨textsApart_text _, (List.forall_mem_cons.mp hbefore).2⟩
  · exact List.forall_mem_cons.mpr ⟨textsApart_text _, hbefore⟩

mutual

theorem textsApart_joinTexts : ∀ t : Tree, t.joinTexts.TextsApart
  | document kids => by
    rw [joinTexts]
    exact forall_mem_flatten_iff.mpr (textsApart_joinTextsAfter kids apart_nil (by simp))
  | element _ _ kids => by
    rw [joinTexts]
    exact forall_mem_flatten_iff.mpr (textsApart_joinTextsAfter kids apart_nil (by simp))
  | text content => by
    rw [joinTexts]
    exact textsApart_text content

theorem textsApart_joinTextsAfter : ∀ (ts : List Tree) {before : List Tree}, Apart before →
    (∀ t ∈ before, t.TextsApart) →
      Apart (joinTextsAfter before ts) ∧ ∀ t ∈ joinTextsAfter before ts, t.TextsApart
  | [], before, hapart, hbefore => by
    rw [joinTextsAfter]
    exact ⟨apart_reverse_iff.mpr hapart, fun t ht ↦ hbefore t (List.mem_reverse.mp ht)⟩
  | text content :: ts, before, hapart, hbefore => by
    rw [joinTextsAfter]
    exact textsApart_joinTextsAfter ts (apart_pushText content hapart)
      (textsApart_pushText content hbefore)
  | document _ :: ts, before, hapart, hbefore => by
    rw [joinTextsAfter]
    exact textsApart_joinTextsAfter ts hapart hbefore
  | element name attributes kids :: ts, before, hapart, hbefore => by
    rw [joinTextsAfter]
    · have hjoined := textsApart_joinTexts (element name attributes kids)
      have helement : (element name attributes kids).joinTexts.isText = false := by
        rw [joinTexts]
        rfl
      exact textsApart_joinTextsAfter ts ((apart_cons_iff helement).mpr hapart)
        (List.forall_mem_cons.mpr ⟨hjoined, hbefore⟩)
    · nofun
    · nofun

end

end Tree

end MarkupRecords
