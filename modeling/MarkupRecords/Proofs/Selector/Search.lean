import MarkupRecords.Extraction
import MarkupRecords.Proofs.Selector.RoundTrip

/-!
Searching and the descendant axis. In search mode the first step of a bare path goes along the
descendant axis. The same can be said in the text of a selector: after two slashes the first step is
read along that axis, and is otherwise what it would have been (`Selector.plain_readSteps_axis`). So
a text that begins with neither a slash nor a point finds in search mode what it finds after `.//`,
and after `//` or `/` it finds what it finds from the document node
(`Node.findAll_search_eq_descendant`).
-/

set_option autoImplicit false
set_option relaxedAutoImplicit false

namespace MarkupRecords

/-! ### The axis of the first step -/

/-- The step with another axis. -/
def Step.along (axis : Axis) (s : Step) : Step := { s with axis }

/-- Steps are followed deeply if the first of them goes along the descendant axis. -/
theorem Step.follow_deep (steps : List Step) (contexts : List Node) :
    Step.follow steps true contexts =
      Step.follow (steps.modifyHead (Step.along .descendant)) false contexts := by
  cases steps with
  | nil => rw [List.modifyHead_nil, Step.follow, Step.follow]
  | cons step rest =>
    obtain ⟨axis, test, predicates⟩ := step
    rw [List.modifyHead_cons, Step.follow, Step.along, Step.follow, if_pos rfl,
      if_neg Bool.false_ne_true]

/-- A step to the node itself leaves the others to start there. -/
theorem Step.follow_self (steps : List Step) (n : Node) :
    Step.follow (⟨.self, .anyNode, []⟩ :: steps) false [n] = Step.follow steps false [n] := by
  rw [Step.follow, if_neg Bool.false_ne_true]
  simp only [Axis.groups, Predicate.filterAll, List.flatMap_cons, List.flatMap_nil,
    List.append_nil]
  rfl

namespace Selector

variable {cs rest : List Char}

theorem namedTest_axis (axis : Axis) (name : String) (cs : List Char) :
    namedTest axis name cs =
      (namedTest .child name cs).map fun t ↦ ((axis, t.1.2), t.2) := by
  by_cases hcall : cs.head? = some '('
  · obtain ⟨inner, rfl⟩ := List.head?_eq_some_iff.mp hcall
    rw [namedTest_call, namedTest_call]
    cases plain (expect ')' inner) with
    | error e => rfl
    | ok close =>
      rw [Except.bind, Except.bind]
      split_ifs <;> rfl
  · rw [namedTest_of_head? axis name hcall, namedTest_of_head? .child name hcall]
    rfl

/-- The axis that is asked for is that of the test, if no point comes next, and has no other part in
reading it. -/
theorem plain_readTest_axis (axis : Axis) (hpoint : cs.head? ≠ some '.') :
    plain (readTest axis cs) =
      (plain (readTest .child cs)).map fun t ↦ ((axis, t.1.2), t.2) := by
  by_cases hstar : cs.head? = some '*'
  · obtain ⟨after, rfl⟩ := List.head?_eq_some_iff.mp hstar
    rw [plain_readTest_star, plain_readTest_star]
    rfl
  · rw [plain_readTest_of_head? axis hpoint hstar, plain_readTest_of_head? .child hpoint hstar]
    cases (readName? cs).map taken with
    | none => rfl
    | some name => exact namedTest_axis axis name.1 name.2

theorem plain_readStep_axis (axis : Axis) (hpoint : cs.head? ≠ some '.') :
    plain (readStep axis cs) =
      (plain (readStep .child cs)).map fun s ↦ (s.1.along axis, s.2) := by
  rw [plain_readStep, plain_readStep, plain_readTest_axis axis hpoint]
  cases plain (readTest .child cs) with
  | error e => rfl
  | ok test =>
    change (plain (readPredicates test.2)).map _ = ((plain (readPredicates test.2)).map _).map _
    cases plain (readPredicates test.2) <;> rfl

/-- The axis that is asked for is that of the first step, and has no other part in reading steps. -/
theorem plain_readSteps_axis (axis : Axis) (hpoint : cs.head? ≠ some '.') :
    plain (readSteps axis cs) =
      (plain (readSteps .child cs)).map fun s ↦ (s.1.modifyHead (Step.along axis), s.2) := by
  rw [plain_readSteps, plain_readSteps, plain_readStep_axis axis hpoint]
  cases plain (readStep .child cs) with
  | error e => rfl
  | ok step =>
    change (moreSteps step.2).map _ = ((moreSteps step.2).map _).map _
    cases moreSteps step.2 <;> rfl

/-- No step begins with a closing bracket. -/
theorem head?_ne_bracket_of_readSteps {axis : Axis} {steps : List Step}
    (h : plain (readSteps axis cs) = .ok (steps, rest)) : cs.head? ≠ some ']' := by
  intro hbracket
  obtain ⟨after, rfl⟩ := List.head?_eq_some_iff.mp hbracket
  have hname : isNameStart ']' = false := by decide +kernel
  rw [plain_readSteps, plain_readStep, plain_readTest_of_head? axis (by simp) (by simp),
    map_readName?_cons, hname] at h
  cases h

/-! ### Texts with a prefix -/

/-- What stands before a text without blanks around it leaves it so, unless it begins with one. -/
theorem trimmed_append {front p : String} (hfront : front ≠ "")
    (hblank : Text.Stops Text.isBlank front.toList) (hne : p ≠ "") (htrim : Text.trimmed p = p) :
    Text.trimmed (front ++ p) = front ++ p := by
  have hend := (Text.trim_eq_self_iff.mp (Text.trimmed_eq_self_iff.mp htrim)).2
  have hwhole : Text.trim (front.toList ++ p.toList) = front.toList ++ p.toList :=
    Text.trim_append (fun hnil ↦ hfront (String.toList_inj.mp hnil)) hblank
      (fun hnil ↦ hne (String.toList_inj.mp hnil)) hend
  rwa [Text.trimmed_eq_self_iff, String.toList_append]

section Spellings

variable {p : String} {s : Selector} (hread : ofText? p = .ok s) (htrim : Text.trimmed p = p)
  (hne : p ≠ "") (hslash : p.toList.head? ≠ some '/') (hpoint : p.toList.head? ≠ some '.')

include hread htrim hne hslash hpoint in
/-- A text that begins with neither a slash nor a point denotes a bare path. -/
theorem exists_steps_of_ofText? : ∃ steps,
    plain (readSteps .child p.toList) = .ok (steps, []) ∧ s = ⟨p, ⟨false, true, steps⟩⟩ := by
  have hskip := skipBlanks_eq_self_of_trim (Text.trimmed_eq_self_iff.mp htrim)
  obtain ⟨hpath, hsource⟩ := (ofText?_eq_ok_iff_readPath htrim hne).mp hread
  rw [plain_readPath_of_head? (by rwa [hskip]), hskip, map_eq_ok_iff] at hpath
  obtain ⟨⟨steps, rest⟩, hsteps, heq⟩ := hpath
  obtain ⟨hbare, rfl⟩ := Prod.mk.inj heq
  refine ⟨steps, hsteps, ?_⟩
  have hrelative : s.path = ⟨false, true, steps⟩ := by rw [← hbare, decide_eq_true hpoint]
  rw [← hrelative, ← hsource]

variable {steps : List Step} (hsteps : plain (readSteps .child p.toList) = .ok (steps, []))

include htrim hne in
/-- A text with something before it is read as the path that the whole begins with, if that is all.
-/
theorem ofText?_append {front : String} (hfront : front ≠ "")
    (hblank : Text.Stops Text.isBlank front.toList) {path : Path}
    (hpath : plain (readPath (front.toList ++ p.toList)) = .ok (path, [])) :
    ofText? (front ++ p) = .ok ⟨front ++ p, path⟩ := by
  have htrimmed := trimmed_append hfront hblank hne htrim
  have hwhole : front ++ p ≠ "" := fun hempty ↦ hfront (String.append_eq_empty_iff.mp hempty).1
  refine (ofText?_eq_ok_iff_readPath htrimmed hwhole).mpr ⟨?_, rfl⟩
  rwa [String.toList_append]

include htrim hne hslash hsteps

/-- After a slash the steps start from the document node. -/
theorem ofText?_slash : ofText? ("/" ++ p) = .ok ⟨"/" ++ p, ⟨true, false, steps⟩⟩ := by
  refine ofText?_append htrim hne (by decide)
    (Text.stops_of_head? rfl Text.isBlank_slash) ?_
  have hskip : skipBlanks ('/' :: p.toList) = '/' :: p.toList :=
    Text.dropStart_eq_self_iff.mpr (Text.stops_of_head? rfl Text.isBlank_slash)
  change plain (readPath ('/' :: p.toList)) = _
  rw [plain_readPath_child hskip hslash (ne_nil_of_readSteps hsteps)
    (head?_ne_bracket_of_readSteps hsteps), hsteps]
  rfl

omit hslash

include hpoint

/-- After two slashes they do so along the descendant axis. -/
theorem ofText?_slashes : ofText? ("//" ++ p) =
    .ok ⟨"//" ++ p, ⟨true, false, steps.modifyHead (Step.along .descendant)⟩⟩ := by
  refine ofText?_append htrim hne (by decide)
    (Text.stops_of_head? rfl Text.isBlank_slash) ?_
  have hskip : skipBlanks ('/' :: '/' :: p.toList) = '/' :: '/' :: p.toList :=
    Text.dropStart_eq_self_iff.mpr (Text.stops_of_head? rfl (by decide +kernel))
  change plain (readPath ('/' :: '/' :: p.toList)) = _
  rw [plain_readPath_descendant hskip, plain_readSteps_axis .descendant hpoint, hsteps]
  rfl

/-- After a point and two slashes they start from the node itself, along the descendant axis. -/
theorem ofText?_point_slashes : ofText? (".//" ++ p) =
    .ok ⟨".//" ++ p, ⟨false, false,
      ⟨.self, .anyNode, []⟩ :: steps.modifyHead (Step.along .descendant)⟩⟩ := by
  refine ofText?_append htrim hne (by decide)
    (Text.stops_of_head? (c := '.') rfl (by decide +kernel)) ?_
  have hskip : skipBlanks ('.' :: '/' :: '/' :: p.toList) = '.' :: '/' :: '/' :: p.toList :=
    Text.dropStart_eq_self_iff.mpr (Text.stops_of_head? rfl (by decide +kernel))
  have hself : plain (readStep .child ('.' :: '/' :: '/' :: p.toList)) =
      .ok (⟨.self, .anyNode, []⟩, '/' :: '/' :: p.toList) := by
    have hnone : plain (readPredicates ('/' :: '/' :: p.toList)) =
        .ok ([], '/' :: '/' :: p.toList) :=
      plain_readPredicates_of_head? (by simp)
    rw [plain_readStep, plain_readTest_self .child (by simp)]
    exact map_eq_ok_iff.mpr ⟨_, hnone, rfl⟩
  have hbelow : moreSteps ('/' :: '/' :: p.toList) =
      .ok (steps.modifyHead (Step.along .descendant), []) := by
    rw [moreSteps_descendant, plain_readSteps_axis .descendant hpoint, hsteps]
    rfl
  change plain (readPath ('.' :: '/' :: '/' :: p.toList)) = _
  rw [plain_readPath_of_head? (by simp [hskip]), hskip]
  exact map_eq_ok_iff.mpr ⟨_, readSteps_eq_ok_iff.mpr ⟨_, _, _, hself, hbelow, rfl⟩, rfl⟩

end Spellings

end Selector

/-- Take a selector that is read and has no blanks around it, and that begins with neither a slash
nor a point. What it finds from a node in search mode is what the text after `.//` finds, in either
mode. After `//` and after `/` it finds, again in either mode, what the selector finds from the
document node, in search mode and in strict mode. All these texts are read. -/
theorem Node.findAll_search_eq_descendant {p : String} {s : Selector}
    (hread : Selector.ofText? p = .ok s) (htrim : Text.trimmed p = p) (hne : p ≠ "")
    (hslash : p.toList.head? ≠ some '/') (hpoint : p.toList.head? ≠ some '.') (n : Node) :
    let root := n.document.root
    ∃ below everywhere top : List Node,
      n.findAll .search p = .ok below ∧ (∀ mode, n.findAll mode (".//" ++ p) = .ok below) ∧
      root.findAll .search p = .ok everywhere ∧
      (∀ mode, n.findAll mode ("//" ++ p) = .ok everywhere) ∧
      root.findAll .strict p = .ok top ∧ ∀ mode, n.findAll mode ("/" ++ p) = .ok top := by
  intro root
  obtain ⟨steps, hsteps, rfl⟩ :=
    Selector.exists_steps_of_ofText? hread htrim hne hslash hpoint
  have hstrict : (Selector.Mode.strict == .search) = false := rfl
  refine ⟨Step.follow steps true [n], Step.follow steps true [root], Step.follow steps false [root],
    ?_, fun mode ↦ ?_, ?_, fun mode ↦ ?_, ?_, fun mode ↦ ?_⟩
  · rw [findAll, hread]
    simp [Selector.select, Path.evaluate]
  · rw [findAll, Selector.ofText?_point_slashes htrim hne hpoint hsteps]
    simp [Selector.select, Path.evaluate, Step.follow_self, Step.follow_deep]
  · rw [findAll, hread]
    simp [Selector.select, Path.evaluate]
  · rw [findAll, Selector.ofText?_slashes htrim hne hpoint hsteps]
    simp [Selector.select, Path.evaluate, Step.follow_deep, root]
  · rw [findAll, hread]
    simp [Selector.select, Path.evaluate, hstrict]
  · rw [findAll, Selector.ofText?_slash htrim hne hslash hsteps]
    simp [Selector.select, Path.evaluate, root]

theorem Node.findAll_search_eq_descendant_title :
    let p := "track[@n='2']/title"
    let path : Path := ⟨false, true, [⟨.child, .name "track",
      [.condition (.compare (.attribute "n") false (.text "2"))]⟩, ⟨.child, .name "title", []⟩]⟩
    let track (number title : String) : Tree :=
      .element "track" [("n", number)] [.element "title" [] [.text title]]
    let root := (Document.ofTree (.document [.element "album" [] [
      .element "disc" [] [track "1" "Climb", track "2" "Brooklyn"]]])).root
    Selector.ofText? p = .ok ⟨p, path⟩ ∧ Text.trimmed p = p ∧ p ≠ "" ∧
    p.toList.head? ≠ some '/' ∧ p.toList.head? ≠ some '.' ∧
    root.findAll .strict p = .ok [] ∧ ∃ found : List Node,
      found.map Node.innerText = ["Brooklyn"] ∧ root.findAll .search p = .ok found ∧
      (∀ mode, root.findAll mode (".//" ++ p) = .ok found) ∧
      (∀ mode, root.findAll mode ("//" ++ p) = .ok found) ∧
      ∀ mode, root.findAll mode ("/" ++ p) = .ok [] := by
  intro p path track root
  have hread : Selector.ofText? p = .ok ⟨p, path⟩ :=
    Selector.ofText?_of_eq_render (by decide +kernel) (by decide +kernel)
  have htrim : Text.trimmed p = p := by decide +kernel
  obtain ⟨below, everywhere, top, hbelow, hpoint, heverywhere, hslashes, htop, hslash⟩ :=
    findAll_search_eq_descendant hread htrim (by decide) (by decide) (by decide) root
  have hfind (mode : Selector.Mode) :
      root.findAll mode p = .ok ((Selector.mk p path).select mode root) := by
    rw [findAll, hread]
  have hsame : everywhere = below := Except.ok.inj (heverywhere.symm.trans hbelow)
  have hfound : (Selector.mk p path).select .search root = below :=
    Except.ok.inj ((hfind .search).symm.trans hbelow)
  have hnone : top = [] := by
    rw [← Except.ok.inj ((hfind .strict).symm.trans htop)]
    exact List.length_eq_zero_iff.mp (by decide +kernel)
  subst hsame hnone
  refine ⟨hread, htrim, by decide, by decide, by decide, htop, everywhere, ?_, hbelow, hpoint,
    hslashes, hslash⟩
  rw [← hfound]
  decide +kernel

end MarkupRecords
