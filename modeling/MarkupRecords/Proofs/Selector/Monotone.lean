import Mathlib.Data.List.Sort
import MarkupRecords.Proofs.Selector.Descent

/-!
More contexts, more matches. Which nodes steps lead to from a node does not depend on the other
nodes that they are followed from, since positions are counted in the groups of one node; so
following steps from more nodes of a document finds no fewer (`Step.follow_subset`). In search mode
the first step of a bare path looks in more groups than in strict mode, and the group of the
children is one of them: what a selector matches in strict mode it matches in search mode as well,
in the same order (`Selector.select_strict_sublist_search`).
-/

set_option autoImplicit false
set_option relaxedAutoImplicit false

namespace MarkupRecords

/-- In document order there is one way to be contained in a list. -/
theorem Node.Ascending.sublist_of_subset {ns ms : List Node} (hns : Ascending ns)
    (hms : Ascending ms) (h : ns ⊆ ms) : ns.Sublist ms := by
  have hantisymm : Std.Antisymm fun n m : Node ↦ n.index < m.index :=
    ⟨fun _ _ hlt hgt ↦ absurd hgt (Nat.lt_asymm hlt)⟩
  exact List.sublist_of_subperm_of_pairwise (List.subperm_of_subset hns.nodup h) hns hms

/-! ### Following steps -/

/-- Steps lead from more nodes of a document to no fewer. -/
theorem Step.follow_subset (steps : List Step) (deep : Bool) {d : Document}
    {contexts contexts' : List Node} (hin : Node.AllIn d contexts') (h : contexts ⊆ contexts') :
    Step.follow steps deep contexts ⊆ Step.follow steps deep contexts' := by
  have hin' : Node.AllIn d contexts := fun n hn ↦ hin n (h hn)
  intro m hm
  obtain ⟨n, hn, hchain⟩ := (Step.mem_follow steps deep hin' m).mp hm
  exact (Step.mem_follow steps deep hin m).mpr ⟨n, h hn, hchain⟩

/-- The children of a node are one of the groups along the descendant axis. -/
theorem Step.Chain.deep {steps : List Step} (hchild : ∀ step ∈ steps.head?, step.axis = .child)
    {n m : Node} (h : Chain steps false n m) : Chain steps true n m := by
  cases steps with
  | nil => rwa [Chain] at h ⊢
  | cons step rest =>
    obtain ⟨axis, test, predicates⟩ := step
    obtain rfl : axis = .child := hchild _ rfl
    rw [Chain] at h ⊢
    obtain ⟨k, ⟨group, hgroup, hk⟩, hrest⟩ := h
    exact ⟨k, ⟨group, ⟨n, .inl rfl, hgroup⟩, hk⟩, hrest⟩

/-- A path that is bare goes to the children first. -/
def Path.StepsDown (path : Path) : Prop :=
  path.bare = true → ∀ step ∈ path.steps.head?, step.axis = .child

theorem Path.evaluate_sublist {path : Path} (hdown : path.StepsDown) (n : Node) :
    (path.evaluate false n).Sublist (path.evaluate true n) := by
  refine (path.ascending_evaluate false n).sublist_of_subset (path.ascending_evaluate true n) ?_
  intro m hm
  rw [Path.mem_evaluate] at hm ⊢
  obtain ⟨absolute, bare, steps⟩ := path
  rw [Path.Leads, Bool.and_false] at hm
  rw [Path.Leads, Bool.and_true]
  cases bare with
  | false => exact hm
  | true => exact hm.deep (hdown rfl)

theorem Path.evaluate_of_not_bare {path : Path} (hbare : path.bare = false)
    (search search' : Bool) (n : Node) : path.evaluate search n = path.evaluate search' n := by
  obtain ⟨absolute, bare, steps⟩ := path
  subst hbare
  rw [Path.evaluate, Path.evaluate, Bool.false_and, Bool.false_and]

namespace Selector

theorem stepsDown_of_readPath {cs rest : List Char} {path : Path}
    (h : plain (readPath cs) = .ok (path, rest)) : path.StepsDown := by
  intro hbare
  by_cases hslash : (skipBlanks cs).head? = some '/'
  · rw [(absolute_of_readPath h hslash).2] at hbare
    cases hbare
  · rw [plain_readPath_of_head? hslash] at h
    obtain ⟨⟨steps, _⟩, hsteps, heq⟩ := map_eq_ok_iff.mp h
    cases heq
    exact axis_of_readSteps (of_decide_eq_true hbare) hsteps

theorem stepsDown_of_ofText? {source : String} {s : Selector} (h : ofText? source = .ok s) :
    s.path.StepsDown := by
  by_cases hnil : Text.trim source.toList = []
  · have hempty : ofText? source = .ok ⟨source, ⟨false, false, []⟩⟩ := by
      rw [ofText?, hnil]
      rfl
    cases h.symm.trans hempty
    intro hbare
    cases hbare
  · exact stepsDown_of_readPath (readPath_of_ofText? h hnil)

/-- What a selector matches in strict mode is a sublist of what it matches in search mode, and the
same if it is not bare. So the first match of all is not after the first strict one. The reason
holds of any steps: from more nodes of a document they lead to no fewer, and in the same order if
the nodes are in document order. -/
theorem select_strict_sublist_search {source : String} {s : Selector}
    (hread : ofText? source = .ok s) (n : Node) :
    (s.select .strict n).Sublist (s.select .search n) ∧
      (s.path.bare = false → s.select .strict n = s.select .search n) ∧
      (∀ m, (s.select .strict n).head? = some m →
        ∃ k, s.first? n = some k ∧ k.index ≤ m.index) ∧
      ∀ (steps : List Step) (deep : Bool) (d : Document) (contexts contexts' : List Node),
        Node.AllIn d contexts' → contexts ⊆ contexts' →
        Step.follow steps deep contexts ⊆ Step.follow steps deep contexts' ∧
        (Node.Ascending contexts → Node.Ascending contexts' →
          (Step.follow steps deep contexts).Sublist (Step.follow steps deep contexts')) := by
  have hsublist : (s.select .strict n).Sublist (s.select .search n) :=
    Path.evaluate_sublist (stepsDown_of_ofText? hread) n
  refine ⟨hsublist, fun hbare ↦ Path.evaluate_of_not_bare hbare _ _ n, fun m hm ↦ ?_, ?_⟩
  · have hmem : m ∈ s.select .search n := hsublist.subset (List.mem_of_mem_head? hm)
    have hsome : ((s.path.evaluate true n).head?).isSome = true :=
      List.isSome_head?.mpr (List.ne_nil_of_mem hmem)
    obtain ⟨k, hk⟩ := Option.isSome_iff_exists.mp hsome
    exact ⟨k, hk, (first?_eq_some_iff.mp hk).2 m hmem⟩
  · intro steps deep d contexts contexts' hin hsubset
    have hfollow := Step.follow_subset steps deep hin hsubset
    refine ⟨hfollow, fun hcontexts hcontexts' ↦ ?_⟩
    exact (Step.ascending_follow steps deep hcontexts).sublist_of_subset
      (Step.ascending_follow steps deep hcontexts') hfollow

theorem select_strict_sublist_search_track :
    let p := "part/track[last()]"
    let steps : List Step := [⟨.child, .name "part", []⟩, ⟨.child, .name "track", [.last]⟩]
    let s : Selector := ⟨p, ⟨false, true, steps⟩⟩
    let point : Selector := ⟨"./part", ⟨false, false,
      [⟨.self, .anyNode, []⟩, ⟨.child, .name "part", []⟩]⟩⟩
    let track (title : String) : Tree := .element "track" [] [.text title]
    let root := (Document.ofTree (.document [.element "part" [] [track "Climb",
      .element "part" [] [track "Brooklyn", track "Dive"], track "Float"]])).root
    ofText? p = .ok s ∧ ofText? "./part" = .ok point ∧
      (s.select .strict root).map Node.innerText = ["Float"] ∧
      (s.select .search root).map Node.innerText = ["Dive", "Float"] ∧
      (s.select .strict root).Sublist (s.select .search root) ∧
      point.select .strict root = point.select .search root ∧
      (∃ m k, (s.select .strict root).head? = some m ∧ s.first? root = some k ∧
        k.index ≤ m.index) ∧
      Step.follow steps false (root.descendants.filter Node.isElement) ⊆
        Step.follow steps false root.descendants := by
  intro p steps s point track root
  have hread : ofText? p = .ok s := ofText?_of_eq_render (by decide +kernel) (by decide +kernel)
  have hpoint : ofText? "./part" = .ok point :=
    ofText?_of_eq_render (by decide +kernel) (by decide +kernel)
  have hstrict : (s.select .strict root).map Node.innerText = ["Float"] := by decide +kernel
  obtain ⟨hsublist, -, hfirst, hfollow⟩ := select_strict_sublist_search hread root
  obtain ⟨-, hsame, -⟩ := select_strict_sublist_search hpoint root
  obtain ⟨m, hm, -⟩ := List.map_eq_singleton_iff.mp hstrict
  have hhead : (s.select .strict root).head? = some m := by
    rw [hm]
    rfl
  obtain ⟨k, hk, hle⟩ := hfirst m hhead
  exact ⟨hread, hpoint, hstrict, by decide +kernel, hsublist, hsame rfl, ⟨m, k, hhead, hk, hle⟩,
    (hfollow steps false root.document _ _ root.allIn_descendants (List.filter_subset_self _)).1⟩

end Selector

end MarkupRecords
