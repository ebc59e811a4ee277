import MarkupRecords.Document.Event
import Mathlib.Tactic.SplitIfs

/-!
The grammar of events. `Event.Nests es ts` says that the events `es` between the tags of an element
leave the trees `ts`: runs of text, each of which becomes one node unless it is empty, and elements
between the runs. `Event.Encloses es t` says that `es` are the events of the single element `t`, and
`Event.Describes es t` that they describe the document `t`, with nothing but blank text around its
element.

A nest that takes in the events one by one follows the grammar. It takes in what the grammar admits
(`Event.Nests.applyAll`, `Event.Describes.ofEvents`), and what it has taken in is described by the
grammar as far as it has come (`Nest.Reads.apply` for one event, `Nest.Reads.applyAll` for all).
Hence events give a document if and only if they describe it (`Tree.ofEvents_eq_ok_iff_describes`).
-/

set_option autoImplicit false
set_option relaxedAutoImplicit false

namespace MarkupRecords

/-! ### The grammar -/

/-- What a run of text becomes: one node, or none if the text is empty. -/
def Tree.ofRun (content : String) : List Tree := if content = "" then [] else [.text content]

namespace Event

/-- The event ends an element. -/
@[simp] def isClose : Event → Bool
  | close => true
  | _ => false

/-- The event begins an element, with or without content. -/
@[simp] def isElement : Event → Bool
  | start .. | empty .. => true
  | _ => false

/-- The text that an event brings. -/
@[simp] def text? : Event → Option String
  | text content | cdata content => some content
  | _ => none

/-- No event begins or ends an element. -/
def IsRun (es : List Event) : Prop := ∀ e ∈ es, e.isElement = false ∧ e.isClose = false

/-- The texts of a run, joined. -/
def runText : List Event → String
  | [] => ""
  | e :: es => e.text?.getD "" ++ runText es

/-- A run in which all text is blank. -/
def IsBlankRun (es : List Event) : Prop :=
  IsRun es ∧ ∀ e ∈ es, ∀ content, e.text? = some content → Text.isBlankText content = true

/-- The events stand between the tags of an element and leave the trees: a run of text, and further
runs after the elements in between. -/
inductive Nests : List Event → List Tree → Prop
  | run {es : List Event} (hrun : IsRun es) : Nests es (Tree.ofRun (runText es))
  | element {before body after : List Event} {ts kids : List Tree} (name : String)
    (attributes : List (String × String)) (hbefore : Nests before ts) (hbody : Nests body kids)
    (hafter : IsRun after) :
    Nests (before ++ (.start name attributes :: (body ++ .close :: after)))
      (ts ++ .element name attributes kids :: Tree.ofRun (runText after))
  | empty {before after : List Event} {ts : List Tree} (name : String)
    (attributes : List (String × String)) (hbefore : Nests before ts) (hafter : IsRun after) :
    Nests (before ++ .empty name attributes :: after)
      (ts ++ .element name attributes [] :: Tree.ofRun (runText after))

/-- The events are those of a single element. -/
inductive Encloses : List Event → Tree → Prop
  | element {body : List Event} {kids : List Tree} (name : String)
    (attributes : List (String × String)) (hbody : Nests body kids) :
    Encloses (.start name attributes :: (body ++ [.close])) (.element name attributes kids)
  | empty (name : String) (attributes : List (String × String)) :
    Encloses [.empty name attributes] (.element name attributes [])

/-- The events describe a document: those of its element, with blank text around them. -/
inductive Describes : List Event → Tree → Prop
  | document {before inner after : List Event} {t : Tree} (hbefore : IsBlankRun before)
    (hinner : Encloses inner t) (hafter : IsBlankRun after) :
    Describes (before ++ inner ++ after) (.document [t])

theorem isRun_nil : IsRun [] := List.forall_mem_nil _

theorem isBlankRun_nil : IsBlankRun [] := ⟨isRun_nil, List.forall_mem_nil _⟩

theorem IsRun.append {es es' : List Event} (h : IsRun es) (h' : IsRun es') : IsRun (es ++ es') :=
  List.forall_mem_append.mpr ⟨h, h'⟩

theorem IsBlankRun.append {es es' : List Event} (h : IsBlankRun es) (h' : IsBlankRun es') :
    IsBlankRun (es ++ es') :=
  ⟨h.1.append h'.1, List.forall_mem_append.mpr ⟨h.2, h'.2⟩⟩

theorem runText_append (es es' : List Event) :
    runText (es ++ es') = runText es ++ runText es' := by
  induction es with
  | nil => simp [runText]
  | cons e es ih => simp [runText, ih, String.append_assoc]

end Event

/-! ### The nest takes in what the grammar admits -/

open Event (IsRun IsBlankRun runText Nests Encloses Describes)

@[simp] theorem Tree.reverse_ofRun (content : String) :
    (ofRun content).reverse = ofRun content := by
  unfold ofRun
  split_ifs
  · rfl
  · rfl

@[simp] theorem Tree.ofRun_empty : ofRun "" = [] := rfl

namespace Nest

theorem applyAll_cons_eq_ok_iff {nest last : Nest} {e : Event} {es : List Event} :
    nest.applyAll (e :: es) = .ok last ↔
      ∃ next, nest.apply e = .ok next ∧ next.applyAll es = .ok last := by
  rw [applyAll]
  cases nest.apply e with
  | error fault => simp [bind, Except.bind]
  | ok next => simp [bind, Except.bind]

theorem applyAll_append (nest : Nest) (es es' : List Event) :
    nest.applyAll (es ++ es') = (nest.applyAll es).bind (applyAll · es') := by
  induction es generalizing nest with
  | nil => rfl
  | cons e es ih =>
    rw [List.cons_append, applyAll, applyAll]
    cases nest.apply e with
    | error fault => rfl
    | ok next => exact ih next

theorem applyAll_append_eq_ok_iff {nest last : Nest} {es es' : List Event} :
    nest.applyAll (es ++ es') = .ok last ↔
      ∃ next, nest.applyAll es = .ok next ∧ next.applyAll es' = .ok last := by
  rw [applyAll_append]
  cases nest.applyAll es with
  | error fault => simp [Except.bind]
  | ok next => simp [Except.bind]

/-- An empty element is one that ends where it begins. -/
theorem applyAll_empty (nest : Nest) (before after : List Event) (name : String)
    (attributes : List (String × String)) :
    nest.applyAll (before ++ .empty name attributes :: after) =
      nest.applyAll (before ++ .start name attributes :: .close :: after) := by
  rw [applyAll_append, applyAll_append]
  cases nest.applyAll before with
  | error fault => rfl
  | ok next =>
    simp only [Except.bind, applyAll, apply]
    cases next.openElement name attributes with
    | error fault => rfl
    | ok opened => rfl

variable {roots : List Tree} {outer : List OpenElement} {name : String}
  {attributes : List (String × String)} {before : List Tree}

theorem apply_start_inside (e : OpenElement) :
    apply ⟨roots, e :: outer⟩ (.start name attributes) =
      .ok ⟨roots, ⟨name, attributes, []⟩ :: e :: outer⟩ := rfl

theorem apply_close_inside (kids : List Tree) (e : OpenElement) :
    apply ⟨roots, ⟨name, attributes, kids.reverse⟩ :: e :: outer⟩ .close =
      .ok ⟨roots, { e with children := .element name attributes kids :: e.children } :: outer⟩ := by
  simp [apply, closeElement, push, OpenElement.toTree]

theorem apply_close_last (kids : List Tree) :
    apply ⟨roots, [⟨name, attributes, kids.reverse⟩]⟩ .close =
      .ok ⟨.element name attributes kids :: roots, []⟩ := by
  simp [apply, closeElement, push, OpenElement.toTree]

theorem apply_empty_inside (e : OpenElement) :
    apply ⟨roots, e :: outer⟩ (.empty name attributes) =
      .ok ⟨roots, { e with children := .element name attributes [] :: e.children } :: outer⟩ := rfl

theorem apply_empty_start :
    apply start (.empty name attributes) = .ok ⟨[.element name attributes []], []⟩ := rfl

/-- A text goes on with the text right before it. -/
theorem addText_ofRun (hbefore : ∀ t ∈ before.head?, t.isText = false) (s content : String) :
    addText content ⟨roots, ⟨name, attributes, Tree.ofRun s ++ before⟩ :: outer⟩ =
      .ok ⟨roots, ⟨name, attributes, Tree.ofRun (s ++ content) ++ before⟩ :: outer⟩ := by
  by_cases hcontent : content = ""
  · simp [addText, hcontent]
  · have hpush : Tree.pushText content (Tree.ofRun s ++ before) =
        Tree.ofRun (s ++ content) ++ before := by
      by_cases hs : s = ""
      · subst hs
        rcases before with _ | ⟨t, before⟩
        · simp [Tree.ofRun, Tree.pushText, hcontent]
        · cases t with
          | text s => cases hbefore _ rfl
          | document | element => simp [Tree.ofRun, Tree.pushText, hcontent]
      · simp [Tree.ofRun, Tree.pushText, hs]
    simp [addText, hcontent, hpush]

theorem apply_of_run (hbefore : ∀ t ∈ before.head?, t.isText = false) {e : Event}
    (helement : e.isElement = false) (hclose : e.isClose = false) (s : String) :
    apply ⟨roots, ⟨name, attributes, Tree.ofRun s ++ before⟩ :: outer⟩ e =
      .ok ⟨roots, ⟨name, attributes, Tree.ofRun (s ++ e.text?.getD "") ++ before⟩ :: outer⟩ := by
  cases e with
  | start | empty => cases helement
  | close => cases hclose
  | text content | cdata content => exact addText_ofRun hbefore s content
  | ignored => simp [apply, Event.text?]

theorem applyAll_of_isRun (hbefore : ∀ t ∈ before.head?, t.isText = false) {es : List Event}
    (hrun : IsRun es) (s : String) :
    applyAll ⟨roots, ⟨name, attributes, Tree.ofRun s ++ before⟩ :: outer⟩ es =
      .ok ⟨roots, ⟨name, attributes, Tree.ofRun (s ++ runText es) ++ before⟩ :: outer⟩ := by
  induction es generalizing s with
  | nil => simp [applyAll, runText]
  | cons e es ih =>
    obtain ⟨⟨helement, hclose⟩, hrun⟩ := List.forall_mem_cons.mp hrun
    have hrest := ih hrun (s ++ e.text?.getD "")
    rw [String.append_assoc] at hrest
    exact applyAll_cons_eq_ok_iff.mpr ⟨_, apply_of_run hbefore helement hclose s, hrest⟩

/-- A run after an element becomes a node of its own. -/
theorem applyAll_after_element {t : Tree} (ht : t.isText = false) {es : List Event}
    (hrun : IsRun es) :
    applyAll ⟨roots, ⟨name, attributes, t :: before⟩ :: outer⟩ es =
      .ok ⟨roots, ⟨name, attributes, Tree.ofRun (runText es) ++ t :: before⟩ :: outer⟩ := by
  have hhead : ∀ t' ∈ (t :: before).head?, t'.isText = false := by simpa using ht
  simpa using applyAll_of_isRun hhead hrun ""

end Nest

/-- What the grammar admits between the tags of an element goes into the innermost open element. -/
theorem Event.Nests.applyAll {es : List Event} {ts : List Tree} (h : Nests es ts)
    (roots : List Tree) (name : String) (attributes : List (String × String))
    (outer : List OpenElement) :
    Nest.applyAll ⟨roots, ⟨name, attributes, []⟩ :: outer⟩ es =
      .ok ⟨roots, ⟨name, attributes, ts.reverse⟩ :: outer⟩ := by
  induction h generalizing name attributes outer with
  | @run es hrun =>
    have hhead : ∀ t ∈ ([] : List Tree).head?, t.isText = false := by simp
    simpa using Nest.applyAll_of_isRun hhead hrun ""
  | element n as _ _ hafter ihBefore ihBody =>
    refine Nest.applyAll_append_eq_ok_iff.mpr ⟨_, ihBefore name attributes outer, ?_⟩
    refine Nest.applyAll_cons_eq_ok_iff.mpr ⟨_, Nest.apply_start_inside _, ?_⟩
    refine Nest.applyAll_append_eq_ok_iff.mpr ⟨_, ihBody n as _, ?_⟩
    refine Nest.applyAll_cons_eq_ok_iff.mpr ⟨_, Nest.apply_close_inside _ _, ?_⟩
    simpa using Nest.applyAll_after_element rfl hafter
  | empty n as _ hafter ihBefore =>
    refine Nest.applyAll_append_eq_ok_iff.mpr ⟨_, ihBefore name attributes outer, ?_⟩
    refine Nest.applyAll_cons_eq_ok_iff.mpr ⟨_, Nest.apply_empty_inside _, ?_⟩
    simpa using Nest.applyAll_after_element rfl hafter

/-- A single element becomes the root. -/
theorem Event.Encloses.applyAll {es : List Event} {t : Tree} (h : Encloses es t) :
    Nest.start.applyAll es = .ok ⟨[t], []⟩ := by
  cases h with
  | element name attributes hbody =>
    refine Nest.applyAll_cons_eq_ok_iff.mpr ⟨_, rfl, ?_⟩
    refine Nest.applyAll_append_eq_ok_iff.mpr ⟨_, hbody.applyAll [] name attributes [], ?_⟩
    exact Nest.applyAll_cons_eq_ok_iff.mpr ⟨_, Nest.apply_close_last _, rfl⟩
  | empty name attributes => rfl

/-- Blank text outside of the element leaves nothing. -/
theorem Nest.applyAll_of_isBlankRun {es : List Event} (h : IsBlankRun es) (roots : List Tree) :
    Nest.applyAll ⟨roots, []⟩ es = .ok ⟨roots, []⟩ := by
  induction es with
  | nil => rfl
  | cons e es ih =>
    obtain ⟨hrun, hblank⟩ := h
    obtain ⟨⟨helement, hclose⟩, hrun⟩ := List.forall_mem_cons.mp hrun
    obtain ⟨he, hblank⟩ := List.forall_mem_cons.mp hblank
    refine Nest.applyAll_cons_eq_ok_iff.mpr ⟨_, ?_, ih ⟨hrun, hblank⟩⟩
    cases e with
    | start | empty => cases helement
    | close => cases hclose
    | text content | cdata content => simp [Nest.apply, Nest.addText, he content rfl]
    | ignored => rfl

theorem Event.Describes.ofEvents {es : List Event} {t : Tree} (h : Describes es t) :
    Tree.ofEvents es = .ok t := by
  obtain ⟨hbefore, hinner, hafter⟩ := h
  rename_i before inner after element
  have hall : Nest.start.applyAll (before ++ inner ++ after) = .ok ⟨[element], []⟩ := by
    rw [List.append_assoc]
    refine Nest.applyAll_append_eq_ok_iff.mpr ⟨_, Nest.applyAll_of_isBlankRun hbefore [], ?_⟩
    refine Nest.applyAll_append_eq_ok_iff.mpr ⟨_, hinner.applyAll, ?_⟩
    exact Nest.applyAll_of_isBlankRun hafter [element]
  rw [Tree.ofEvents, hall]
  rfl

/-! ### What the nest has taken in is described by the grammar -/

/-- A run at the end of a content goes on with its last text. -/
theorem Event.Nests.exists_run {es : List Event} {ts : List Tree} (h : Nests es ts) :
    ∃ s before, ts.reverse = Tree.ofRun s ++ before ∧ (∀ t ∈ before.head?, t.isText = false) ∧
      ∀ run, IsRun run → Nests (es ++ run) (before.reverse ++ Tree.ofRun (s ++ runText run)) := by
  cases h with
  | @run es hrun =>
    refine ⟨runText es, [], by simp, by simp, fun run h ↦ ?_⟩
    rw [← Event.runText_append]
    exact .run (hrun.append h)
  | @element _ body after ts kids name attributes hbefore hbody hafter =>
    refine ⟨runText after, .element name attributes kids :: ts.reverse, by simp, ?_, fun run h ↦ ?_⟩
    · simp [Tree.isText]
    · have hnests := Nests.element name attributes hbefore hbody (hafter.append h)
      simpa [Event.runText_append] using hnests
  | @empty _ after ts name attributes hbefore hafter =>
    refine ⟨runText after, .element name attributes [] :: ts.reverse, by simp, ?_, fun run h ↦ ?_⟩
    · simp [Tree.isText]
    · have hnests := Nests.empty name attributes hbefore (hafter.append h)
      simpa [Event.runText_append] using hnests

/-- While nothing is open, a nest takes in no text but blank text. -/
theorem Nest.isBlankRun_of_apply {roots : List Tree} {next : Nest} {e : Event}
    (helement : e.isElement = false) (hclose : e.isClose = false)
    (hnext : Nest.apply ⟨roots, []⟩ e = .ok next) : IsBlankRun [e] ∧ next = ⟨roots, []⟩ := by
  have hrun : IsRun [e] := List.forall_mem_singleton.mpr ⟨helement, hclose⟩
  suffices h : (∀ content, e.text? = some content → Text.isBlankText content = true) ∧
      next = ⟨roots, []⟩ from ⟨⟨hrun, List.forall_mem_singleton.mpr h.1⟩, h.2⟩
  cases e with
  | start | empty => cases helement
  | close => cases hclose
  | text content | cdata content =>
    simp only [Event.text?, Option.some.injEq, forall_eq']
    simp only [Nest.apply, Nest.addText] at hnext
    split_ifs at hnext with hempty hblank
    · exact ⟨by rw [hempty]; rfl, (Except.ok.inj hnext).symm⟩
    · exact ⟨hblank, (Except.ok.inj hnext).symm⟩
  | ignored => exact ⟨nofun, (Except.ok.inj hnext).symm⟩

/-- The nest has taken in the events: blank text so far, or the element and blank text around it, or
the beginning of an element inside what has been taken in before. -/
inductive Nest.Reads : List Event → Nest → Prop
  | blank {es : List Event} (h : IsBlankRun es) : Reads es .start
  | rooted {before inner after : List Event} {t : Tree} (hbefore : IsBlankRun before)
    (hinner : Encloses inner t) (hafter : IsBlankRun after) :
    Reads (before ++ inner ++ after) ⟨[t], []⟩
  | opened {before body : List Event} {kids : List Tree} {outer : List OpenElement} (name : String)
    (attributes : List (String × String)) (hbefore : Reads before ⟨[], outer⟩)
    (hbody : Nests body kids) :
    Reads (before ++ .start name attributes :: body) ⟨[], ⟨name, attributes, kids.reverse⟩ :: outer⟩

namespace Nest.Reads

variable {es : List Event} {nest next : Nest}

theorem start (h : Reads es nest) {name : String} {attributes : List (String × String)}
    (hnext : nest.openElement name attributes = .ok next) :
    Reads (es ++ [.start name attributes]) next := by
  have hcontent : Nests [] [] := .run Event.isRun_nil
  cases h with
  | blank hblank =>
    cases hnext
    exact .opened name attributes (.blank hblank) hcontent
  | rooted => cases hnext
  | opened n as hbefore hbody =>
    cases hnext
    exact .opened name attributes (.opened n as hbefore hbody) hcontent

theorem close (h : Reads es nest) (hnext : nest.closeElement = .ok next) :
    Reads (es ++ [.close]) next := by
  cases h with
  | blank => cases hnext
  | rooted => cases hnext
  | opened name attributes hbefore hbody =>
    cases hbefore with
    | blank hblank =>
      obtain rfl := Except.ok.inj ((Nest.apply_close_last _).symm.trans hnext)
      have hinner := Encloses.element name attributes hbody
      simpa using Reads.rooted hblank hinner Event.isBlankRun_nil
    | opened n as houter hcontent =>
      obtain rfl := Except.ok.inj ((Nest.apply_close_inside _ _).symm.trans hnext)
      have hmore := Nests.element name attributes hcontent hbody Event.isRun_nil
      simpa [runText] using Reads.opened n as houter hmore

theorem empty (h : Reads es nest) {name : String} {attributes : List (String × String)}
    (hnext : nest.apply (.empty name attributes) = .ok next) :
    Reads (es ++ [.empty name attributes]) next := by
  cases h with
  | blank hblank =>
    obtain rfl := Except.ok.inj (Nest.apply_empty_start.symm.trans hnext)
    simpa using Reads.rooted hblank (.empty name attributes) Event.isBlankRun_nil
  | rooted => cases hnext
  | opened n as hbefore hbody =>
    obtain rfl := Except.ok.inj ((Nest.apply_empty_inside _).symm.trans hnext)
    have hmore := Nests.empty name attributes hbody Event.isRun_nil
    simpa [runText] using Reads.opened n as hbefore hmore

/-- An event that neither begins nor ends an element goes on the last run. -/
theorem inline (h : Reads es nest) {e : Event} (helement : e.isElement = false)
    (hclose : e.isClose = false) (hnext : nest.apply e = .ok next) : Reads (es ++ [e]) next := by
  have hrun : IsRun [e] := List.forall_mem_singleton.mpr ⟨helement, hclose⟩
  cases h with
  | blank hblank =>
    obtain ⟨he, rfl⟩ := Nest.isBlankRun_of_apply helement hclose hnext
    exact .blank (hblank.append he)
  | rooted hbefore hinner hafter =>
    obtain ⟨he, rfl⟩ := Nest.isBlankRun_of_apply helement hclose hnext
    rw [List.append_assoc]
    exact .rooted hbefore hinner (hafter.append he)
  | opened n as hbefore hbody =>
    obtain ⟨s, before, hkids, hhead, hmore⟩ := hbody.exists_run
    rw [hkids, Nest.apply_of_run hhead helement hclose] at hnext
    cases hnext
    simpa [runText] using Reads.opened n as hbefore (hmore [e] hrun)

/-- One more event. -/
theorem apply (h : Reads es nest) {e : Event} (hnext : nest.apply e = .ok next) :
    Reads (es ++ [e]) next := by
  cases e with
  | start name attributes => exact h.start hnext
  | empty name attributes => exact h.empty hnext
  | close => exact h.close hnext
  | text | cdata | ignored => exact h.inline rfl rfl hnext

/-- All further events. -/
theorem applyAll (h : Reads es nest) {more : List Event} (hnext : nest.applyAll more = .ok next) :
    Reads (es ++ more) next := by
  induction more generalizing es nest with
  | nil =>
    cases hnext
    rwa [List.append_nil]
  | cons e more ih =>
    obtain ⟨between, he, hmore⟩ := Nest.applyAll_cons_eq_ok_iff.mp hnext
    rw [List.append_cons]
    exact ih (h.apply he) hmore

/-- A nest that is finished has taken in a document. -/
theorem describes (h : Reads es nest) {t : Tree} (ht : nest.finish = .ok t) : Describes es t := by
  cases h with
  | blank => cases ht
  | rooted hbefore hinner hafter =>
    cases ht
    exact .document hbefore hinner hafter
  | opened => cases ht

end Nest.Reads

theorem Tree.ofEvents_eq_ok_iff_describes {es : List Event} {t : Tree} :
    ofEvents es = .ok t ↔ Describes es t := by
  refine ⟨fun h ↦ ?_, Describes.ofEvents⟩
  have hstart : Nest.Reads [] .start := .blank Event.isBlankRun_nil
  cases hnest : Nest.start.applyAll es with
  | error fault =>
    rw [ofEvents, hnest] at h
    cases h
  | ok nest =>
    rw [ofEvents, hnest] at h
    exact (hstart.applyAll hnest).describes h

end MarkupRecords
