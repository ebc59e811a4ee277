import MarkupRecords.Proofs.Selector.Monotone

/-!
Conditions joined by `and` and `or`. Filtering by `left and right` is filtering twice, in either
order (`Predicate.filterAll_and`, `Predicate.filterAll_swap`): both ways leave the same nodes in the
same places, so predicates that count positions later on see the same group. Filtering by
`left or right` keeps what either filter keeps, and as long as no position is counted later on, it
stays that way (`Predicate.mem_filterAll_or`).

`Step.selected` is what a step with such predicates selects at one node. From there the laws go
through the steps that come before and after it (`Step.follow_congr`, `Step.mem_follow_or`) to whole
paths (`Path.evaluate_connectives`).
-/

set_option autoImplicit false
set_option relaxedAutoImplicit false

namespace MarkupRecords

/-! ### Filtering a group -/

namespace Predicate

/-- The predicate asks for a place among the nodes of a group. -/
def isPositional : Predicate → Bool
  | position _ | last => true
  | condition _ => false

theorem filterAll_append (first second : List Predicate) (group : List Node) :
    filterAll (first ++ second) group = filterAll second (filterAll first group) := by
  induction first generalizing group with
  | nil => rw [List.nil_append, filterAll]
  | cons predicate rest ih => rw [List.cons_append, filterAll, filterAll, ih]

/-- A condition does not look at places. -/
theorem filterAll_condition (e : Expr) (rest : List Predicate) (group : List Node) :
    filterAll (condition e :: rest) group = filterAll rest (group.filter e.holds) := by
  have hkept : ((group.zipIdx 1).filter fun m ↦ (condition e).keeps group.length m.2 m.1) =
      (group.zipIdx 1).filter (e.holds ∘ Prod.fst) := by
    simp only [keeps]
    rfl
  rw [filterAll, hkept, ← List.filter_map, List.zipIdx_map_fst]

theorem filterAll_and (left right : Expr) (rest : List Predicate) (group : List Node) :
    filterAll (condition (.and left right) :: rest) group =
      filterAll (condition left :: condition right :: rest) group := by
  rw [filterAll_condition, filterAll_condition, filterAll_condition, List.filter_filter]
  refine congrArg _ (List.filter_congr fun n _ ↦ ?_)
  rw [Expr.holds, Bool.and_comm]

theorem filterAll_swap (left right : Expr) (rest : List Predicate) (group : List Node) :
    filterAll (condition left :: condition right :: rest) group =
      filterAll (condition right :: condition left :: rest) group := by
  rw [filterAll_condition, filterAll_condition, filterAll_condition, filterAll_condition,
    List.filter_comm]

/-- Predicates that do not look at places keep a node or not whatever else is in its group. -/
theorem exists_filterAll_eq_filter {predicates : List Predicate}
    (h : ∀ predicate ∈ predicates, predicate.isPositional = false) :
    ∃ keep : Node → Bool, ∀ group, filterAll predicates group = group.filter keep := by
  induction predicates with
  | nil =>
    refine ⟨fun _ ↦ true, fun group ↦ ?_⟩
    rw [filterAll, List.filter_true]
  | cons predicate rest ih =>
    obtain ⟨hpredicate, hrest⟩ := List.forall_mem_cons.mp h
    obtain ⟨keep, hkeep⟩ := ih hrest
    cases predicate with
    | position | last => cases hpredicate
    | condition e =>
      refine ⟨fun n ↦ keep n && e.holds n, fun group ↦ ?_⟩
      rw [filterAll_condition, hkeep, List.filter_filter]

theorem mem_filterAll_or {rest : List Predicate}
    (hrest : ∀ predicate ∈ rest, predicate.isPositional = false) (left right : Expr)
    (group : List Node) (m : Node) :
    m ∈ filterAll (condition (.or left right) :: rest) group ↔
      m ∈ filterAll (condition left :: rest) group ∨
        m ∈ filterAll (condition right :: rest) group := by
  obtain ⟨keep, hkeep⟩ := exists_filterAll_eq_filter hrest
  simp only [filterAll_condition, hkeep, List.mem_filter, Expr.holds, Bool.or_eq_true]
  tauto

end Predicate

/-! ### One step at one node -/

namespace Step

/-- The nodes that a step selects at a node along an axis, group by group. -/
def selected (step : Step) (axis : Axis) (n : Node) : List Node :=
  (axis.groups n).flatMap fun group ↦
    Predicate.filterAll step.predicates (group.filter step.test.accepts)

theorem allIn_selected (step : Step) (axis : Axis) (n : Node) :
    Node.AllIn n.document (step.selected axis n) := by
  intro m hm
  obtain ⟨group, hgroup, hm⟩ := List.mem_flatMap.mp hm
  have hmem := List.mem_of_mem_filter ((Predicate.filterAll_sublist _ _).subset hm)
  exact Axis.allIn_of_mem_groups hgroup m hmem

theorem allIn_flatMap_selected (step : Step) (axis : Axis) {d : Document} {contexts : List Node}
    (hcontexts : Node.AllIn d contexts) :
    Node.AllIn d (contexts.flatMap (step.selected axis)) := by
  intro m hm
  obtain ⟨n, hn, hm⟩ := List.mem_flatMap.mp hm
  exact (step.allIn_selected axis n m hm).trans (hcontexts n hn)

/-- Steps are followed by selecting with the first of them at each context. -/
theorem follow_cons (step : Step) (rest : List Step) (deep : Bool) (contexts : List Node) :
    follow (step :: rest) deep contexts = follow rest false (Node.inOrder
      (contexts.flatMap (step.selected (if deep then .descendant else step.axis)))) := by
  obtain ⟨axis, test, predicates⟩ := step
  rw [follow]
  rfl

/-! ### Among other steps -/

variable {step step' step'' : Step}

/-- Steps that select the same at each node can take each other's place. -/
theorem follow_congr (h : ∀ axis n, step.selected axis n = step'.selected axis n)
    (haxis : step.axis = step'.axis) (before after : List Step) (deep : Bool)
    (contexts : List Node) :
    follow (before ++ step :: after) deep contexts =
      follow (before ++ step' :: after) deep contexts := by
  induction before generalizing deep contexts with
  | nil =>
    have hselected : ∀ axis, step.selected axis = step'.selected axis := fun axis ↦ funext (h axis)
    rw [List.nil_append, List.nil_append, follow_cons, follow_cons, haxis, hselected]
  | cons first before ih =>
    rw [List.cons_append, List.cons_append, follow_cons, follow_cons, ih]

/-- Following steps finds what can be reached from one of the contexts. -/
theorem mem_follow_inOrder_flatMap {d : Document} {contexts : List Node}
    (hcontexts : Node.AllIn d contexts) (step : Step) (axis : Axis) (after : List Step) (m : Node) :
    m ∈ follow after false (Node.inOrder (contexts.flatMap (step.selected axis))) ↔
      ∃ n ∈ contexts, ∃ k ∈ step.selected axis n, Chain after false k m := by
  have hselected := step.allIn_flatMap_selected axis hcontexts
  rw [mem_follow after false (Node.allIn_inOrder hselected)]
  simp only [Node.mem_inOrder hselected, List.mem_flatMap]
  constructor
  · rintro ⟨k, ⟨n, hn, hk⟩, hchain⟩
    exact ⟨n, hn, k, hk, hchain⟩
  · rintro ⟨n, hn, k, hk, hchain⟩
    exact ⟨k, ⟨n, hn, hk⟩, hchain⟩

/-- If one step selects what either of two others does, then steps with it lead to where the steps
with either of the others lead. -/
theorem mem_follow_or
    (h : ∀ axis n k, k ∈ step.selected axis n ↔
      k ∈ step'.selected axis n ∨ k ∈ step''.selected axis n)
    (haxis : step'.axis = step.axis) (haxis' : step''.axis = step.axis)
    (before after : List Step) (deep : Bool) {d : Document} {contexts : List Node}
    (hcontexts : Node.AllIn d contexts) (m : Node) :
    m ∈ follow (before ++ step :: after) deep contexts ↔
      m ∈ follow (before ++ step' :: after) deep contexts ∨
        m ∈ follow (before ++ step'' :: after) deep contexts := by
  induction before generalizing deep contexts with
  | nil =>
    simp only [List.nil_append, follow_cons, haxis, haxis', mem_follow_inOrder_flatMap hcontexts, h]
    constructor
    · rintro ⟨n, hn, k, hk | hk, hchain⟩
      · exact .inl ⟨n, hn, k, hk, hchain⟩
      · exact .inr ⟨n, hn, k, hk, hchain⟩
    · rintro (⟨n, hn, k, hk, hchain⟩ | ⟨n, hn, k, hk, hchain⟩)
      · exact ⟨n, hn, k, .inl hk, hchain⟩
      · exact ⟨n, hn, k, .inr hk, hchain⟩
  | cons first before ih =>
    simp only [List.cons_append, follow_cons]
    exact ih false (Node.allIn_inOrder (first.allIn_flatMap_selected _ hcontexts))

end Step

/-! ### Unions in document order -/

/-- Two lists in document order are the same if they have the same nodes. -/
theorem Node.Ascending.eq_of_mem_iff {ns ms : List Node} (hns : Ascending ns) (hms : Ascending ms)
    (h : ∀ n, n ∈ ns ↔ n ∈ ms) : ns = ms :=
  (hns.sublist_of_subset hms fun n hn ↦ (h n).mp hn).antisymm
    (hms.sublist_of_subset hns fun n hn ↦ (h n).mpr hn)

theorem Node.inOrder_eq_of_mem_iff {d : Document} {ns ms : List Node} (hns : AllIn d ns)
    (hms : AllIn d ms) (h : ∀ n, n ∈ ns ↔ n ∈ ms) : inOrder ns = inOrder ms := by
  refine (ascending_inOrder ns).eq_of_mem_iff (ascending_inOrder ms) fun n ↦ ?_
  rw [mem_inOrder hns, mem_inOrder hms, h]

theorem Node.allIn_append {d : Document} {ns ms : List Node} (hns : AllIn d ns)
    (hms : AllIn d ms) : AllIn d (ns ++ ms) := fun n hn ↦
  (List.mem_append.mp hn).elim (hns n) (hms n)

theorem Step.allIn_follow (steps : List Step) (deep : Bool) {d : Document} {contexts : List Node}
    (hcontexts : Node.AllIn d contexts) : Node.AllIn d (follow steps deep contexts) := by
  induction steps generalizing deep contexts with
  | nil =>
    rw [follow]
    exact hcontexts
  | cons step rest ih =>
    rw [follow_cons]
    exact ih false (Node.allIn_inOrder (step.allIn_flatMap_selected _ hcontexts))

/-- A path is followed from its context or from the document node. -/
theorem Path.allIn_start (absolute : Bool) (n : Node) :
    Node.AllIn n.document [if absolute then n.document.root else n] := by
  intro m hm
  rw [List.mem_singleton.mp hm]
  split
  · rfl
  · rfl

theorem Path.allIn_evaluate (path : Path) (search : Bool) (n : Node) :
    Node.AllIn n.document (path.evaluate search n) := by
  obtain ⟨absolute, bare, steps⟩ := path
  rw [evaluate]
  exact Step.allIn_follow steps _ (allIn_start absolute n)

section Among

variable {step step' step'' : Step}

theorem Path.evaluate_congr (h : ∀ axis n, step.selected axis n = step'.selected axis n)
    (haxis : step.axis = step'.axis) (outer : Path) (before after : List Step) (search : Bool)
    (n : Node) :
    evaluate { outer with steps := before ++ step :: after } search n =
      evaluate { outer with steps := before ++ step' :: after } search n := by
  rw [evaluate, evaluate, Step.follow_congr h haxis]

/-- If one step selects what either of two others does, then so does a path with it among its
steps. -/
theorem Path.evaluate_eq_inOrder
    (h : ∀ axis n k, k ∈ step.selected axis n ↔
      k ∈ step'.selected axis n ∨ k ∈ step''.selected axis n)
    (haxis : step'.axis = step.axis) (haxis' : step''.axis = step.axis) (outer : Path)
    (before after : List Step) (search : Bool) (n : Node) :
    evaluate { outer with steps := before ++ step :: after } search n =
      Node.inOrder (evaluate { outer with steps := before ++ step' :: after } search n ++
        evaluate { outer with steps := before ++ step'' :: after } search n) := by
  have hall := Node.allIn_append
    (allIn_evaluate { outer with steps := before ++ step' :: after } search n)
    (allIn_evaluate { outer with steps := before ++ step'' :: after } search n)
  refine (ascending_evaluate _ search n).eq_of_mem_iff (Node.ascending_inOrder _) fun m ↦ ?_
  rw [Node.mem_inOrder hall, List.mem_append, evaluate, evaluate, evaluate]
  exact Step.mem_follow_or h haxis haxis' before after _ (allIn_start outer.absolute n) m

end Among

/-! ### Connectives -/

section Connectives

variable (test : NodeTest) (xs ys : List Predicate)

/-- Predicates that filter every group alike may stand for each other among others. -/
theorem Step.selected_congr {middle middle' : List Predicate}
    (h : ∀ group, Predicate.filterAll (middle ++ ys) group =
      Predicate.filterAll (middle' ++ ys) group) (own axis : Axis) (n : Node) :
    selected ⟨own, test, xs ++ (middle ++ ys)⟩ axis n =
      selected ⟨own, test, xs ++ (middle' ++ ys)⟩ axis n := by
  refine List.flatMap_congr fun group _ ↦ ?_
  dsimp only
  rw [Predicate.filterAll_append xs, Predicate.filterAll_append xs, h]

theorem Step.mem_selected_or (hys : ∀ y ∈ ys, y.isPositional = false) (left right : Expr)
    (own axis : Axis) (n m : Node) :
    m ∈ selected ⟨own, test, xs ++ (.condition (.or left right) :: ys)⟩ axis n ↔
      m ∈ selected ⟨own, test, xs ++ (.condition left :: ys)⟩ axis n ∨
        m ∈ selected ⟨own, test, xs ++ (.condition right :: ys)⟩ axis n := by
  simp only [selected, List.mem_flatMap, Predicate.filterAll_append,
    Predicate.mem_filterAll_or hys]
  constructor
  · rintro ⟨group, hgroup, hm | hm⟩
    · exact .inl ⟨group, hgroup, hm⟩
    · exact .inr ⟨group, hgroup, hm⟩
  · rintro (⟨group, hgroup, hm⟩ | ⟨group, hgroup, hm⟩)
    · exact ⟨group, hgroup, .inl hm⟩
    · exact ⟨group, hgroup, .inr hm⟩

end Connectives

/-- In a step with any predicates around it, `left and right` may be split into two predicates and
these may be swapped, and if no predicate after it counts positions, `left or right` selects the
union of what its sides select, in document order. This holds of the step at each node and along
each axis, and of each path that has the step among its own. -/
theorem Path.evaluate_connectives (test : NodeTest) (xs ys : List Predicate) (left right : Expr) :
    let step (own : Axis) (middle : List Predicate) : Step := ⟨own, test, xs ++ (middle ++ ys)⟩
    let path (outer : Path) (before after : List Step) (own : Axis) (middle : List Predicate) :
      Path := { outer with steps := before ++ step own middle :: after }
    let both : List Predicate := [.condition (.and left right)]
    let either : List Predicate := [.condition (.or left right)]
    let one (e : Expr) : List Predicate := [.condition e]
    (∀ (own axis : Axis) (n : Node),
      (step own both).selected axis n = (step own (one left ++ one right)).selected axis n ∧
      (step own both).selected axis n = (step own (one right ++ one left)).selected axis n) ∧
    (∀ (outer : Path) (before after : List Step) (own : Axis) (search : Bool) (n : Node),
      (path outer before after own both).evaluate search n =
        (path outer before after own (one left ++ one right)).evaluate search n ∧
      (path outer before after own both).evaluate search n =
        (path outer before after own (one right ++ one left)).evaluate search n) ∧
    ((∀ y ∈ ys, y.isPositional = false) →
      (∀ (own axis : Axis) (n : Node), Node.inOrder ((step own either).selected axis n) =
        Node.inOrder ((step own (one left)).selected axis n ++
          (step own (one right)).selected axis n)) ∧
      ∀ (outer : Path) (before after : List Step) (own : Axis) (search : Bool) (n : Node),
        (path outer before after own either).evaluate search n =
          Node.inOrder ((path outer before after own (one left)).evaluate search n ++
            (path outer before after own (one right)).evaluate search n)) := by
  intro step path both either one
  have hsplit (own axis : Axis) (n : Node) : (step own both).selected axis n =
      (step own (one left ++ one right)).selected axis n :=
    Step.selected_congr test xs ys (Predicate.filterAll_and left right ys) own axis n
  have hswap (own axis : Axis) (n : Node) : (step own (one left ++ one right)).selected axis n =
      (step own (one right ++ one left)).selected axis n :=
    Step.selected_congr test xs ys (Predicate.filterAll_swap left right ys) own axis n
  refine ⟨fun own axis n ↦ ⟨hsplit own axis n, (hsplit own axis n).trans (hswap own axis n)⟩,
    fun outer before after own search n ↦ ?_, fun hys ↦ ⟨fun own axis n ↦ ?_,
    fun outer before after own search n ↦ ?_⟩⟩
  · have hfirst := evaluate_congr (hsplit own) rfl outer before after search n
    exact ⟨hfirst, hfirst.trans (evaluate_congr (hswap own) rfl outer before after search n)⟩
  · refine Node.inOrder_eq_of_mem_iff (Step.allIn_selected _ axis n)
      (Node.allIn_append (Step.allIn_selected _ axis n) (Step.allIn_selected _ axis n)) fun m ↦ ?_
    rw [List.mem_append]
    exact Step.mem_selected_or test xs ys hys left right own axis n m
  · exact evaluate_eq_inOrder (Step.mem_selected_or test xs ys hys left right own) rfl rfl outer
      before after search n

theorem Path.evaluate_connectives_track :
    let code : Expr := .exists (.attribute "code")
    let title : Expr := .exists (.path ⟨false, false, [⟨.child, .name "title", []⟩]⟩)
    let track (attributes : List (String × String)) (kids : List Tree) : Tree :=
      .element "track" attributes kids
    let root := (Document.ofTree (.document [.element "album" []
      [track [("code", "1")] [.element "title" [] []], track [] [.element "title" [] []],
        track [] [], track [("code", "2")] []]])).root
    let path (predicates : List Predicate) : Path :=
      ⟨false, true, [⟨.child, .name "track", predicates⟩, ⟨.self, .anyNode, []⟩]⟩
    let either : Predicate := .condition (.or code title)
    (∀ y ∈ [Predicate.condition code], y.isPositional = false) ∧
      ((path [either, .condition code]).evaluate true root).map Node.index = [2, 7] ∧
      (path [either, .condition code]).evaluate true root =
        Node.inOrder ((path [.condition code, .condition code]).evaluate true root ++
          (path [.condition title, .condition code]).evaluate true root) ∧
      ((path [either, .condition (.and code title), .last]).evaluate true root).map Node.index =
        [2] ∧
      (path [either, .condition (.and code title), .last]).evaluate true root =
        (path [either, .condition title, .condition code, .last]).evaluate true root := by
  intro code title track root path either
  have hys : ∀ y ∈ [Predicate.condition code], y.isPositional = false :=
    List.forall_mem_singleton.mpr rfl
  obtain ⟨-, hboth, -⟩ := evaluate_connectives (.name "track") [either] [.last] code title
  obtain ⟨-, -, heither⟩ := evaluate_connectives (.name "track") [] [.condition code] code title
  let point : Step := ⟨.self, .anyNode, []⟩
  exact ⟨hys, by decide +kernel, (heither hys).2 ⟨false, true, []⟩ [] [point] .child true root,
    by decide +kernel, (hboth ⟨false, true, []⟩ [] [point] .child true root).2⟩

end MarkupRecords
