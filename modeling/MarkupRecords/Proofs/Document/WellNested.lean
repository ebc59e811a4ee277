import MarkupRecords.Markup
import MarkupRecords.Proofs.Document.Nesting
import Mathlib.Data.List.Induction
import Mathlib.Logic.ExistsUnique
import Mathlib.Tactic.MkIffOfInductiveProp

/-!
Which events make a document, by counting. A sequence is `Event.WellNested` if no beginning of it
ends more elements than it begins, all elements are ended, exactly one element begins while none is
open, and text that comes while none is open is blank.

A nest keeps these counts: as many elements are open in it as have been begun and not ended
(`Nest.Tracks.apply` for one event, `Nest.Tracks.applyAll` for all). So it takes in exactly the
events that may follow (`Nest.Tracks.exists_apply_iff`), and all of a sequence if and only if the
sequence is well nested (`Tree.exists_ofEvents_iff`). Together with the grammar of events this says
what the events of a text come to (`Tree.ofEvents_rebuilds`).
-/

set_option autoImplicit false
set_option relaxedAutoImplicit false

namespace MarkupRecords

/-! ### Counting -/

namespace Event

/-- The event begins an element that another event ends. -/
@[simp] def isStart : Event → Bool
  | start .. => true
  | _ => false

/-- How many more elements have been begun than ended. -/
def depth (es : List Event) : Int := es.countP isStart - es.countP isClose

/-- After `before` an element begins while none is open. -/
def Outermost (es before : List Event) : Prop :=
  depth before = 0 ∧ ∃ e, before ++ [e] <+: es ∧ e.isElement = true

/-- No beginning ends more elements than it begins, all elements are ended, exactly one element
begins while none is open, and text that comes while none is open is blank. -/
structure WellNested (es : List Event) : Prop where
  closes_le : ∀ before, before <+: es → before.countP isClose ≤ before.countP isStart
  closed : es.countP isStart = es.countP isClose
  outermost : ∃! before, Outermost es before
  blank : ∀ before e content, before ++ [e] <+: es → e.text? = some content → depth before = 0 →
    Text.isBlankText content = true

variable {es : List Event} {e : Event}

theorem depth_concat :
    depth (es ++ [e]) = depth es + (if e.isStart then 1 else 0) - if e.isClose then 1 else 0 := by
  simp only [depth, List.countP_append, List.countP_singleton]
  push_cast
  split_ifs <;> omega

theorem depth_nonneg_iff : 0 ≤ depth es ↔ es.countP isClose ≤ es.countP isStart := by
  rw [depth]
  omega

theorem isStart_of_isClose (h : e.isClose = true) : e.isStart = false := by
  cases e with
  | close => rfl
  | start | empty | text | cdata | ignored => cases h

theorem concat_prefix_concat_iff {before : List Event} {x : Event} :
    before ++ [x] <+: es ++ [e] ↔ before = es ∧ x = e ∨ before ++ [x] <+: es := by
  rw [List.prefix_concat_iff, List.append_singleton_inj]

theorem outermost_concat_iff {before : List Event} : Outermost (es ++ [e]) before ↔
    (before = es ∧ depth es = 0 ∧ e.isElement = true) ∨ Outermost es before := by
  simp only [Outermost, concat_prefix_concat_iff]
  constructor
  · rintro ⟨hdepth, x, ⟨rfl, rfl⟩ | hx, helement⟩
    · exact .inl ⟨rfl, hdepth, helement⟩
    · exact .inr ⟨hdepth, x, hx, helement⟩
  · rintro (⟨rfl, hdepth, helement⟩ | ⟨hdepth, x, hx, helement⟩)
    · exact ⟨hdepth, e, .inl ⟨rfl, rfl⟩, helement⟩
    · exact ⟨hdepth, x, .inr hx, helement⟩

/-- What holds of every beginning of a well nested sequence. -/
structure Admissible (es : List Event) : Prop where
  closes_le : ∀ before, before <+: es → before.countP isClose ≤ before.countP isStart
  outermost : ∀ before before', Outermost es before → Outermost es before' → before = before'
  blank : ∀ before e content, before ++ [e] <+: es → e.text? = some content → depth before = 0 →
    Text.isBlankText content = true

/-- The event may come after the others. -/
@[mk_iff]
structure MayFollow (es : List Event) (e : Event) : Prop where
  close : e.isClose = true → 0 < depth es
  element : e.isElement = true → depth es = 0 → ∀ before, ¬ Outermost es before
  blank : ∀ content, e.text? = some content → depth es = 0 → Text.isBlankText content = true

theorem admissible_nil : Admissible [] where
  closes_le := by simp
  outermost := by simp [Outermost]
  blank := by simp

theorem wellNested_iff : WellNested es ↔
    Admissible es ∧ depth es = 0 ∧ ∃ before, Outermost es before := by
  constructor
  · rintro ⟨hcloses, hclosed, hunique, hblank⟩
    refine ⟨⟨hcloses, fun _ _ ↦ hunique.unique, hblank⟩, ?_, hunique.exists⟩
    rw [depth, hclosed, Int.sub_self]
  · rintro ⟨⟨hcloses, hunique, hblank⟩, hdepth, before, hbefore⟩
    refine ⟨hcloses, ?_, ⟨before, hbefore, fun _ h ↦ hunique _ _ h hbefore⟩, hblank⟩
    rw [depth] at hdepth
    omega

theorem admissible_concat_iff : Admissible (es ++ [e]) ↔ Admissible es ∧ MayFollow es e := by
  constructor
  · intro h
    refine ⟨⟨fun before hbefore ↦ ?_, fun _ _ hi hj ↦ ?_, fun before x content hx ↦ ?_⟩,
      ⟨fun hclose ↦ ?_, fun helement hdepth before hbefore ↦ ?_, fun content htext hdepth ↦ ?_⟩⟩
    · exact h.closes_le before (hbefore.trans (List.prefix_append es [e]))
    · exact h.outermost _ _ (outermost_concat_iff.mpr (.inr hi))
        (outermost_concat_iff.mpr (.inr hj))
    · exact h.blank before x content (hx.trans (List.prefix_append es [e]))
    · have hdepth := depth_nonneg_iff.mpr (h.closes_le _ (List.prefix_refl _))
      rw [depth_concat, hclose, isStart_of_isClose hclose] at hdepth
      simp only [Bool.false_eq_true, if_false, if_true] at hdepth
      omega
    · have hlast := outermost_concat_iff.mpr (.inl ⟨rfl, hdepth, helement⟩)
      have heq := h.outermost _ _ (outermost_concat_iff.mpr (.inr hbefore)) hlast
      obtain ⟨-, x, hx, -⟩ := hbefore
      rw [heq] at hx
      exact absurd hx.length_le (by simp)
    · exact h.blank es e content (List.prefix_refl _) htext hdepth
  · rintro ⟨h, hfollow⟩
    refine ⟨fun before hbefore ↦ ?_, fun before before' hi hj ↦ ?_, fun before x content hx ↦ ?_⟩
    · rcases List.prefix_concat_iff.mp hbefore with rfl | hbefore
      · have hdepth := depth_nonneg_iff.mpr (h.closes_le es (List.prefix_refl _))
        rw [← depth_nonneg_iff, depth_concat]
        by_cases hclose : e.isClose = true
        · have hpos := hfollow.close hclose
          simp only [hclose, isStart_of_isClose hclose, Bool.false_eq_true, if_false, if_true]
          omega
        · rw [if_neg hclose]
          split_ifs <;> omega
      · exact h.closes_le before hbefore
    · rcases outermost_concat_iff.mp hi with ⟨rfl, hdepth, helement⟩ | hi'
      · rcases outermost_concat_iff.mp hj with ⟨rfl, -, -⟩ | hj
        · rfl
        · exact absurd hj (hfollow.element helement hdepth _)
      · rcases outermost_concat_iff.mp hj with ⟨rfl, hdepth, helement⟩ | hj
        · exact absurd hi' (hfollow.element helement hdepth _)
        · exact h.outermost _ _ hi' hj
    · rcases concat_prefix_concat_iff.mp hx with ⟨rfl, rfl⟩ | hx
      · exact hfollow.blank content
      · exact h.blank before x content hx

end Event

namespace Nest

/-- As many elements are open as have been begun and not ended, and something has been built or is
being built as soon as an element has begun. -/
structure Tracks (nest : Nest) (es : List Event) : Prop where
  depth : Event.depth es = nest.opened.length
  outermost : (∃ before, Event.Outermost es before) ↔ nest.roots ≠ [] ∨ nest.opened ≠ []

variable {nest next : Nest} {es : List Event} {e : Event}

theorem tracks_start : Tracks .start [] where
  depth := rfl
  outermost := by simp [Event.Outermost, start]

theorem exists_outermost_concat_iff : (∃ before, Event.Outermost (es ++ [e]) before) ↔
    (Event.depth es = 0 ∧ e.isElement = true) ∨ ∃ before, Event.Outermost es before := by
  simp [Event.outermost_concat_iff, exists_or]

/-- The nest takes in exactly the events that may follow. -/
theorem Tracks.exists_apply_iff (h : nest.Tracks es) :
    (∃ next, nest.apply e = .ok next) ↔ Event.MayFollow es e := by
  obtain ⟨roots, opened⟩ := nest
  rw [Event.mayFollow_iff]
  cases opened with
  | nil =>
    have hdepth : Event.depth es = 0 := h.depth
    have hroots : (∀ before, ¬ Event.Outermost es before) ↔ roots = [] := by
      rw [← not_exists, h.outermost]
      simp
    simp only [hdepth, hroots]
    cases e with
    | start name attributes => cases roots <;> simp [Nest.apply, openElement]
    | empty name attributes =>
      cases roots <;> simp [Nest.apply, openElement, closeElement, bind, Except.bind]
    | close => simp [Nest.apply, closeElement]
    | text content | cdata content =>
      by_cases hempty : content = ""
      · simp [Nest.apply, addText, hempty, Text.isBlankText]
      · by_cases hblank : Text.isBlankText content = true
        · simp [Nest.apply, addText, hempty, hblank]
        · simp [Nest.apply, addText, hempty, hblank]
    | ignored => simp [Nest.apply]
  | cons o outer =>
    have hdepth : 0 < Event.depth es := by
      rw [h.depth, List.length_cons]
      omega
    have hne : Event.depth es ≠ 0 := Int.ne_of_gt hdepth
    cases e with
    | start | empty => simp [Nest.apply, openElement, closeElement, hdepth, hne, bind, Except.bind]
    | close => simp [Nest.apply, closeElement, hdepth]
    | text content | cdata content =>
      by_cases hempty : content = ""
      · simp [Nest.apply, addText, hempty, hne]
      · simp [Nest.apply, addText, hempty, hne]
    | ignored => simp [Nest.apply]

/-- What one event does to the number of open elements, and to whether there is anything yet. -/
theorem counts_of_apply (hnext : nest.apply e = .ok next) :
    (next.opened.length : Int) =
        nest.opened.length + (if e.isStart then 1 else 0) - (if e.isClose then 1 else 0) ∧
      ((next.roots ≠ [] ∨ next.opened ≠ []) ↔
        e.isElement = true ∨ nest.roots ≠ [] ∨ nest.opened ≠ []) := by
  obtain ⟨roots, opened⟩ := nest
  cases e with
  | start name attributes =>
    simp only [Nest.apply, openElement] at hnext
    split_ifs at hnext
    cases hnext
    simp
  | empty name attributes =>
    cases opened with
    | nil =>
      cases roots with
      | nil =>
        cases hnext
        simp [push]
      | cons => cases hnext
    | cons o outer =>
      cases hnext
      simp [push]
  | close =>
    cases opened with
    | nil => cases hnext
    | cons o outer =>
      cases hnext
      cases outer with
      | nil => simp [push]
      | cons => simp [push]
  | text content | cdata content =>
    cases opened with
    | nil =>
      obtain ⟨-, rfl⟩ := isBlankRun_of_apply rfl rfl hnext
      simp
    | cons o outer =>
      simp only [Nest.apply, addText] at hnext
      split_ifs at hnext
      · cases hnext
        simp
      · cases hnext
        simp
  | ignored =>
    cases hnext
    simp

theorem Tracks.apply (h : nest.Tracks es) (hnext : nest.apply e = .ok next) :
    next.Tracks (es ++ [e]) := by
  obtain ⟨hlength, hanything⟩ := counts_of_apply hnext
  refine ⟨?_, ?_⟩
  · rw [Event.depth_concat, h.depth, hlength]
  · rw [exists_outermost_concat_iff, hanything, h.outermost]
    by_cases hopened : nest.opened = []
    · simp [h.depth, hopened]
    · simp [hopened]

theorem Tracks.applyAll (h : nest.Tracks es) {more : List Event}
    (hnext : nest.applyAll more = .ok next) : next.Tracks (es ++ more) := by
  induction more generalizing es nest with
  | nil =>
    cases hnext
    rwa [List.append_nil]
  | cons e more ih =>
    obtain ⟨between, he, hmore⟩ := applyAll_cons_eq_ok_iff.mp hnext
    rw [List.append_cons]
    exact ih (h.apply he) hmore

/-- The nest takes in exactly the beginnings of well nested sequences. -/
theorem exists_applyAll_iff : (∃ nest, start.applyAll es = .ok nest) ↔ Event.Admissible es := by
  induction es using List.reverseRecOn with
  | nil => exact iff_of_true ⟨start, rfl⟩ Event.admissible_nil
  | append_singleton es e ih =>
    rw [Event.admissible_concat_iff, ← ih]
    constructor
    · rintro ⟨last, hlast⟩
      obtain ⟨nest, hnest, hmore⟩ := applyAll_append_eq_ok_iff.mp hlast
      obtain ⟨next, hnext, -⟩ := applyAll_cons_eq_ok_iff.mp hmore
      have htracks : nest.Tracks es := tracks_start.applyAll hnest
      exact ⟨⟨nest, hnest⟩, htracks.exists_apply_iff.mp ⟨next, hnext⟩⟩
    · rintro ⟨⟨nest, hnest⟩, hfollow⟩
      have htracks : nest.Tracks es := tracks_start.applyAll hnest
      obtain ⟨next, hnext⟩ := htracks.exists_apply_iff.mpr hfollow
      exact ⟨next, applyAll_append_eq_ok_iff.mpr
        ⟨nest, hnest, applyAll_cons_eq_ok_iff.mpr ⟨next, hnext, rfl⟩⟩⟩

end Nest

theorem Tree.exists_ofEvents_iff {es : List Event} :
    (∃ t, ofEvents es = .ok t) ↔ Event.WellNested es := by
  rw [Event.wellNested_iff, ← Nest.exists_applyAll_iff]
  cases hnest : Nest.start.applyAll es with
  | error fault => simp [ofEvents, hnest, bind, Except.bind]
  | ok nest =>
    have htracks : nest.Tracks es := Nest.tracks_start.applyAll hnest
    obtain ⟨roots, opened⟩ := nest
    rw [htracks.depth, htracks.outermost]
    cases opened with
    | nil => cases roots <;> simp [ofEvents, hnest, Nest.finish, bind, Except.bind]
    | cons => simp [ofEvents, hnest, Nest.finish, bind, Except.bind]; omega

/-- An XML text that can be read is nested by its events. -/
theorem Xml.parse_of_events {naming : Naming} {text : String} {es : List Event}
    (hevents : events naming text = (es, none)) :
    parse naming text = (Tree.ofEvents es).mapError .nesting := by
  rw [parse, hevents, Tree.ofEvents]
  dsimp only
  cases Nest.start.applyAll es with
  | error fault => rfl
  | ok nest => rfl

namespace Tree

/-- Events make a document if and only if they are well nested, and it is the document that they
describe; all other events are a fault, and the fault of any text that a reader turns into them. An
empty element is one that ends where it begins. -/
theorem ofEvents_rebuilds (es : List Event) :
    ((∃ t, ofEvents es = .ok t) ↔ Event.WellNested es) ∧
      ((∃ fault, ofEvents es = .error fault) ↔ ¬ Event.WellNested es) ∧
      (∀ t, ofEvents es = .ok t ↔ Event.Describes es t) ∧
      (∀ before after name attributes, es = before ++ .empty name attributes :: after →
        ofEvents es = ofEvents (before ++ .start name attributes :: .close :: after)) ∧
      ∀ naming text, Xml.events naming text = (es, none) →
        Document.parse .xml naming text =
          ((ofEvents es).map Document.ofTree).mapError .nesting := by
  refine ⟨exists_ofEvents_iff, ?_, fun t ↦ ofEvents_eq_ok_iff_describes, ?_, ?_⟩
  · rw [← exists_ofEvents_iff]
    cases ofEvents es with
    | error fault => simp
    | ok t => simp
  · rintro before after name attributes rfl
    rw [ofEvents, ofEvents, Nest.applyAll_empty]
  · intro naming text hevents
    change (Xml.parse naming text).map Document.ofTree = _
    rw [Xml.parse_of_events hevents]
    cases ofEvents es with
    | error fault => rfl
    | ok t => rfl

theorem ofEvents_rebuilds_album :
    let before : List Event :=
      [.ignored, .start "album" [("id", "7")], .text "Zo", .ignored, .cdata "ot"]
    let es := before ++ .empty "disc" [] :: [.close, .text "\n"]
    let t : Tree := .document [.element "album" [("id", "7")] [.text "Zoot", .element "disc" [] []]]
    let text := "<!-- --><album id='7'>Zo<!-- --><![CDATA[ot]]><disc/></album>\n"
    Event.WellNested es ∧ Event.Describes es t ∧
      ofEvents (before ++ .start "disc" [] :: .close :: [.close, .text "\n"]) = .ok t ∧
      Xml.events .plain text = (es, none) ∧
      Document.parse .xml .plain text = .ok (.ofTree t) := by
  intro before es t text
  have ht : ofEvents es = .ok t := rfl
  have hevents : Xml.events .plain text = (es, none) := by decide +kernel
  obtain ⟨hnested, -, hdescribes, hempty, hparse⟩ := ofEvents_rebuilds es
  refine ⟨hnested.mp ⟨t, ht⟩, (hdescribes t).mp ht, ?_, hevents, ?_⟩
  · rw [← hempty before [.close, .text "\n"] "disc" [] rfl, ht]
  · rw [hparse .plain text hevents, ht]
    rfl

end Tree

end MarkupRecords
