import MarkupRecords.Proofs.Selector.Scoping
import MarkupRecords.Proofs.Selector.Search

/-!
Steps after two slashes. The slashes are no step of their own: they are read into the axis of the
step that comes next. Where this step is a name, `*`, `text()` or `node()`, it goes along the
descendant axis, which is the same as taking it along its own axis at each match of what stands
before the slashes and at each node below one (`Step.chain_along_descendant`). The steps `.` and
`..` go their own way on any axis, so they are taken at the matches alone (`Selector.TakenFrom`).
`Selector.select_slashes` says so of whole texts.
-/

set_option autoImplicit false
set_option relaxedAutoImplicit false

namespace MarkupRecords

/-! ### One step along the descendant axis -/

/-- Along the descendant axis a step is taken at a node and at everything below it. -/
theorem Step.chain_along_descendant {step : Step} (haxis : step.axis = .child) (k m : Node) :
    Chain [step.along .descendant] false k m ↔
      ∃ d, (d = k ∨ d ∈ k.descendants) ∧ Chain [step] false d m := by
  obtain ⟨axis, test, predicates⟩ := step
  obtain rfl : axis = .child := haxis
  simp only [along, Chain, Bool.false_eq_true, if_false, Axis.IsGroup]
  constructor
  · rintro ⟨l, ⟨group, ⟨d, hd, hgroup⟩, hl⟩, hm⟩
    exact ⟨d, hd, l, ⟨group, hgroup, hl⟩, hm⟩
  · rintro ⟨d, hd, l, ⟨group, hgroup, hl⟩, hm⟩
    exact ⟨l, ⟨group, ⟨d, hd, hgroup⟩, hl⟩, hm⟩

namespace Selector

/-- Where a step that is written `s` is taken after two slashes, if `k` is a match of what stands
before them: there and everywhere below, but there alone if the step is `.` or `..`. -/
def TakenFrom (s : String) (k d : Node) : Prop :=
  d = k ∨ s.toList.head? ≠ some '.' ∧ d ∈ k.descendants

/-! ### Reading the step -/

section Reading

variable {cs rest : List Char}

/-- A relative path is read as its steps. -/
theorem plain_readSteps_of_relative {path : Path} (h : plain (readPath cs) = .ok (path, rest))
    (hrelative : path.absolute = false) :
    plain (readSteps .child (skipBlanks cs)) = .ok (path.steps, rest) := by
  rw [plain_readPath] at h
  split at h
  · obtain ⟨_, -, heq⟩ := map_eq_ok_iff.mp h
    cases heq
    cases hrelative
  · split_ifs at h
    · cases h
      cases hrelative
    · obtain ⟨_, -, heq⟩ := map_eq_ok_iff.mp h
      cases heq
      cases hrelative
  · obtain ⟨_, hsteps, heq⟩ := map_eq_ok_iff.mp h
    cases heq
    exact hsteps

/-- Steps that begin with a point are read alike whatever axis is asked for. -/
theorem plain_readSteps_point (axis : Axis) (hpoint : cs.head? = some '.') :
    plain (readSteps axis cs) = plain (readSteps .child cs) := by
  obtain ⟨after, rfl⟩ := List.head?_eq_some_iff.mp hpoint
  rw [plain_readSteps, plain_readSteps, plain_readStep, plain_readStep]
  by_cases hpoints : after.head? = some '.'
  · obtain ⟨after, rfl⟩ := List.head?_eq_some_iff.mp hpoints
    rw [plain_readTest_parent, plain_readTest_parent]
  · rw [plain_readTest_self axis hpoints, plain_readTest_self .child hpoints]

/-- Of steps that begin with anything else the first has the axis that is asked for. -/
theorem axis_of_readSteps {steps : List Step} (hpoint : cs.head? ≠ some '.')
    (h : plain (readSteps .child cs) = .ok (steps, rest)) :
    ∀ step ∈ steps.head?, step.axis = .child := by
  have hself := plain_readSteps_axis .child hpoint
  rw [h] at hself
  have hsteps : steps = steps.modifyHead (Step.along .child) :=
    congrArg Prod.fst (Except.ok.inj hself)
  intro step hstep
  obtain ⟨more, rfl⟩ := List.head?_eq_some_iff.mp hstep
  exact congrArg Step.axis (List.cons.inj hsteps).1

/-- A single step is read after two slashes as well, as one that is taken where such a step is. -/
theorem exists_readSteps_descendant {s : String} {step : Step}
    (h : plain (readSteps .child s.toList) = .ok ([step], [])) :
    ∃ step', plain (readSteps .descendant s.toList) = .ok ([step'], []) ∧
      ∀ k m : Node, Step.Chain [step'] false k m ↔
        ∃ d, TakenFrom s k d ∧ Step.Chain [step] false d m := by
  by_cases hpoint : s.toList.head? = some '.'
  · refine ⟨step, ?_, fun k m ↦ ?_⟩
    · rwa [plain_readSteps_point .descendant hpoint]
    · simp [TakenFrom, hpoint]
  · refine ⟨step.along .descendant, ?_, fun k m ↦ ?_⟩
    · rw [plain_readSteps_axis .descendant hpoint, h]
      rfl
    · simp only [Step.chain_along_descendant (axis_of_readSteps hpoint h step rfl), TakenFrom,
        ne_eq, hpoint, not_false_eq_true, true_and]

end Reading

/-! ### Whole texts -/

/-- A text without blanks around it that denotes steps is read as a path. -/
theorem plain_readPath_of_ofText? {p : String} {s : Selector} (hread : ofText? p = .ok s)
    (htrim : Text.trimmed p = p) (hsteps : s.path.steps ≠ []) :
    p ≠ "" ∧ plain (readPath p.toList) = .ok (s.path, []) := by
  have hne : p ≠ "" := by
    rintro rfl
    have hwhole := ((ofText?_eq_ok_iff htrim).mp hread).1
    rw [String.toList_empty, readWhole_nil] at hwhole
    exact hsteps (congrArg Path.steps (Except.ok.inj hwhole).symm)
  exact ⟨hne, ((ofText?_eq_ok_iff_readPath htrim hne).mp hread).1⟩

/-- A text without blanks around it that denotes a single step is read as this step. -/
theorem plain_readSteps_of_ofText? {t : String} {s : Selector} {step : Step}
    (hread : ofText? t = .ok s) (htrim : Text.trimmed t = t) (hrelative : s.path.absolute = false)
    (hstep : s.path.steps = [step]) : plain (readSteps .child t.toList) = .ok ([step], []) := by
  obtain ⟨-, hpath⟩ := plain_readPath_of_ofText? hread htrim (hstep ▸ List.cons_ne_nil step [])
  have hsteps := plain_readSteps_of_relative hpath hrelative
  rwa [skipBlanks_eq_self_of_trim (Text.trimmed_eq_self_iff.mp htrim), hstep] at hsteps

section Spellings

variable {s : String} {more : List Step} (hs : Text.trimmed s = s)
  (hmore : plain (readSteps .descendant s.toList) = .ok (more, []))

include hs hmore

/-- After a selector with steps and two slashes the steps are added to those of the selector. -/
theorem ofText?_append_slashes {p : String} {before : Selector} (hbefore : ofText? p = .ok before)
    (hp : Text.trimmed p = p) (hsteps : before.path.steps ≠ []) :
    ofText? (p ++ "//" ++ s) =
      .ok ⟨p ++ "//" ++ s, { before.path with steps := before.path.steps ++ more }⟩ := by
  obtain ⟨hne, hread⟩ := plain_readPath_of_ofText? hbefore hp hsteps
  have hnil : p.toList ≠ [] := fun hnil ↦ hne (String.toList_inj.mp hnil)
  refine ofText?_append hs ?_ ?_ ?_ ?_
  · rintro rfl
    exact ne_nil_of_readSteps hmore rfl
  · exact fun hempty ↦ hne (String.append_eq_empty_iff.mp hempty).1
  · rw [String.toList_append]
    exact Text.stops_append_left hnil
      (Text.trim_eq_self_iff.mp (Text.trimmed_eq_self_iff.mp hp)).1
  · rw [String.toList_append, List.append_assoc]
    change plain (readPath (p.toList ++ '/' :: '/' :: s.toList)) = _
    rw [readPath_append_slash_of_end hread hsteps, moreSteps_descendant, hmore]
    rfl

/-- After two slashes alone the steps start from the document node. -/
theorem ofText?_slashes_of_readSteps :
    ofText? ("//" ++ s) = .ok ⟨"//" ++ s, ⟨true, false, more⟩⟩ := by
  refine ofText?_append hs ?_ (by decide) (Text.stops_of_head? rfl Text.isBlank_slash) ?_
  · rintro rfl
    exact ne_nil_of_readSteps hmore rfl
  · have hslashes : skipBlanks ('/' :: '/' :: s.toList) = '/' :: '/' :: s.toList :=
      Text.dropStart_eq_self_iff.mpr (Text.stops_of_head? rfl Text.isBlank_slash)
    change plain (readPath ('/' :: '/' :: s.toList)) = _
    rw [plain_readPath_descendant hslashes, hmore]
    rfl

end Spellings

/-- Put two slashes between a selector with steps and a single step, or before the step alone. The
text is read, and selects, in document order and each node once, what the step selects in strict
mode at the nodes it is taken from. -/
theorem select_slashes {p s : String} {before single : Selector} {step : Step}
    (hbefore : ofText? p = .ok before) (hp : Text.trimmed p = p) (hsteps : before.path.steps ≠ [])
    (hsingle : ofText? s = .ok single) (hs : Text.trimmed s = s)
    (hrelative : single.path.absolute = false) (hstep : single.path.steps = [step]) :
    (∃ after, ofText? (p ++ "//" ++ s) = .ok after ∧ ∀ (mode : Mode) (n : Node),
      Node.Ascending (after.select mode n) ∧ ∀ m, m ∈ after.select mode n ↔
        ∃ k ∈ before.select mode n, ∃ d, TakenFrom s k d ∧ m ∈ single.select .strict d) ∧
    ∃ everywhere, ofText? ("//" ++ s) = .ok everywhere ∧ ∀ (mode : Mode) (n : Node),
      Node.Ascending (everywhere.select mode n) ∧ ∀ m, m ∈ everywhere.select mode n ↔
        ∃ d, TakenFrom s n.document.root d ∧ m ∈ single.select .strict d := by
  obtain ⟨step', hread', htaken⟩ :=
    exists_readSteps_descendant (plain_readSteps_of_ofText? hsingle hs hrelative hstep)
  -- the step alone, and where it is taken
  have hstrict : ∀ d m : Node, m ∈ single.select .strict d ↔ Step.Chain [step] false d m := by
    intro d m
    obtain ⟨source, absolute, bare, steps⟩ := single
    obtain rfl : absolute = false := hrelative
    obtain rfl : steps = [step] := hstep
    have hmode : (Mode.strict == Mode.search) = false := rfl
    rw [mem_select_iff, hmode, Path.Leads, Bool.and_false]
    exact Iff.rfl
  have hleads : ∀ (search : Bool) (k m : Node), (Path.mk false false [step']).Leads search k m ↔
      ∃ d, TakenFrom s k d ∧ m ∈ single.select .strict d := by
    intro search k m
    rw [Path.Leads, Bool.false_and]
    simp only [hstrict]
    exact htaken k m
  refine ⟨⟨_, ofText?_append_slashes hs hread' hbefore hp hsteps, fun mode n ↦
      ⟨Path.ascending_evaluate _ _ n, fun m ↦ ?_⟩⟩,
    ⟨_, ofText?_slashes_of_readSteps hs hread', fun mode n ↦
      ⟨Path.ascending_evaluate _ _ n, fun m ↦ ?_⟩⟩⟩
  · let taken : Path := ⟨false, false, [step']⟩
    have hown : taken.absolute = false := rfl
    have happend := Path.leads_append hsteps hown
    rw [mem_select_iff]
    simp only [taken, happend, hleads, mem_select_iff (s := before)]
  · rw [mem_select_iff, ← hleads (mode == .search)]
    exact Iff.rfl

theorem select_slashes_track :
    let p := "disc[2]"
    let s := "track[1]"
    let before : Selector := ⟨p, ⟨false, true, [⟨.child, .name "disc", [.position 2]⟩]⟩⟩
    let single : Selector := ⟨s, ⟨false, true, [⟨.child, .name "track", [.position 1]⟩]⟩⟩
    let track (title : String) : Tree := .element "track" [] [.text title]
    let root := (Document.ofTree (.document [.element "album" [] [
      .element "disc" [] [track "Climb"],
      .element "disc" [] [track "Brooklyn", .element "side" [] [track "Dive", track "Float"]]
      ]])).root
    ofText? p = .ok before ∧ Text.trimmed p = p ∧ ofText? s = .ok single ∧ Text.trimmed s = s ∧
    ∃ after, ofText? "disc[2]//track[1]" = .ok after ∧
      (after.select .search root).map Node.innerText = ["Brooklyn", "Dive"] ∧
      after.select .strict root = [] ∧
      ∀ (mode : Mode) (n m : Node), m ∈ after.select mode n ↔ ∃ k ∈ before.select mode n,
        ∃ d, (d = k ∨ d ∈ k.descendants) ∧ m ∈ single.select .strict d := by
  intro p s before single track root
  have hbefore : ofText? p = .ok before :=
    ofText?_of_eq_render (by decide +kernel) (by decide +kernel)
  have hsingle : ofText? s = .ok single :=
    ofText?_of_eq_render (by decide +kernel) (by decide +kernel)
  have hp : Text.trimmed p = p := by decide +kernel
  have hs : Text.trimmed s = s := by decide +kernel
  obtain ⟨⟨after, hafter, hselect⟩, -⟩ :=
    select_slashes hbefore hp (List.cons_ne_nil _ _) hsingle hs rfl rfl
  have hread : ofText? "disc[2]//track[1]" = .ok ⟨"disc[2]//track[1]", ⟨false, true,
      [⟨.child, .name "disc", [.position 2]⟩, ⟨.descendant, .name "track", [.position 1]⟩]⟩⟩ :=
    ofText?_of_eq_render (by decide +kernel) (by decide +kernel)
  have hsame : "disc[2]//track[1]" = p ++ "//" ++ s := by decide
  rw [hsame, hafter] at hread
  obtain rfl := Except.ok.inj hread
  refine ⟨hbefore, hp, hsingle, hs, _, hsame ▸ hafter, by decide +kernel, ?_, fun mode n m ↦ ?_⟩
  · exact List.length_eq_zero_iff.mp (by decide +kernel)
  · have htaken : ∀ k d : Node, TakenFrom s k d ↔ d = k ∨ d ∈ k.descendants := by
      simp [TakenFrom, s]
    have hm := (hselect mode n).2 m
    simp only [htaken] at hm
    exact hm

/-- After two slashes a point selects the matches of what stands before them, and not what is below
them. -/
theorem not_select_slashes_point :
    let before : Selector := ⟨"a", ⟨false, true, [⟨.child, .name "a", []⟩]⟩⟩
    let point : Selector := ⟨".", ⟨false, false, [⟨.self, .anyNode, []⟩]⟩⟩
    let root := (Document.ofTree (.document [.element "a" [] [.element "b" [] []]])).root
    ofText? "a" = .ok before ∧ ofText? "." = .ok point ∧ ∃ after, ofText? "a//." = .ok after ∧
      ¬ ∀ m, m ∈ after.select .strict root ↔ ∃ k ∈ before.select .strict root,
        ∃ d, (d = k ∨ d ∈ k.descendants) ∧ m ∈ point.select .strict d := by
  intro before point root
  have hbefore : ofText? "a" = .ok before :=
    ofText?_of_eq_render (by decide +kernel) (by decide +kernel)
  have hpoint : ofText? "." = .ok point :=
    ofText?_of_eq_render (by decide +kernel) (by decide +kernel)
  have hown := plain_readSteps_of_ofText? hpoint (by decide +kernel) rfl rfl
  rw [← plain_readSteps_point .descendant rfl] at hown
  have hafter := ofText?_append_slashes (by decide +kernel) hown hbefore (by decide +kernel)
    (List.cons_ne_nil _ _)
  refine ⟨hbefore, hpoint, _, hafter, fun hall ↦ ?_⟩
  -- the node `b` is below the match, but is not selected
  have hbelow : ((before.select .strict root).flatMap Node.descendants).map Node.index = [2] := by
    decide +kernel
  obtain ⟨b, hb, hindex⟩ := List.map_eq_singleton_iff.mp hbelow
  obtain ⟨k, hk, hkb⟩ := List.mem_flatMap.mp (hb ▸ List.mem_singleton_self b)
  have hself : b ∈ point.select .strict b := by
    rw [select, Path.evaluate, if_neg Bool.false_ne_true, Bool.false_and, Step.follow_self,
      Step.follow]
    exact List.mem_singleton_self b
  have hmem := List.mem_map_of_mem (f := Node.index) ((hall b).mpr ⟨k, hk, b, .inr hkb, hself⟩)
  rw [hindex] at hmem
  revert hmem
  decide +kernel

end Selector

end MarkupRecords
