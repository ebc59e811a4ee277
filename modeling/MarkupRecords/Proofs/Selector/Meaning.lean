import MarkupRecords.Proofs.Document.Order
import Mathlib.Data.Set.Card

/-!
What a path means, as a relation between nodes. `Path.Leads` holds of two nodes if a chain of nodes
goes from the one to the other, each node of the chain being selected by one step at the node before
it. A step selects within groups of candidates (`Axis.IsGroup`), which are sets of nodes, and its
predicates shrink a group one after the other (`Predicate.survivors`); a position is the rank of a
node in such a set (`Node.rank`), and a condition on a path speaks of the relation again.

`Path.evaluate` finds in document order exactly the nodes that a path leads to. The step from lists
to sets is `Predicate.mem_filterAll`: in a list in document order the positions are the ranks.
-/

set_option autoImplicit false
set_option relaxedAutoImplicit false

namespace MarkupRecords

/-! ### The relation -/

/-- A set of nodes is one group of candidates of a step from a node: the children of the node, the
children of the node or of a single node below it, the node alone, or its parent. -/
def Axis.IsGroup (axis : Axis) (n : Node) (group : Set Node) : Prop :=
  match axis with
  | .child => group = {m | m ∈ n.children}
  | .descendant => ∃ k, (k = n ∨ k ∈ n.descendants) ∧ group = {m | m ∈ k.children}
  | .self => group = {n}
  | .parent => group = {m | n.parent? = some m}

/-- The position of a node among nodes of its document, counted from 1 in document order. -/
noncomputable def Node.rank (group : Set Node) (m : Node) : Nat :=
  {k ∈ group | k.index ≤ m.index}.ncard

mutual

/-- A chain of nodes goes from `n` to `m`, or from the document node to `m`, along the steps of a
path. If `search` is set, the first step of a bare path goes along the descendant axis. -/
def Path.Leads (path : Path) (search : Bool) (n m : Node) : Prop :=
  match path with
  | ⟨absolute, bare, steps⟩ =>
    Step.Chain steps (bare && search) (if absolute then n.document.root else n) m

/-- A chain of nodes goes from `n` to `m`, one node for each step. If `deep` is set, the first step
goes along the descendant axis instead of its own. -/
def Step.Chain (steps : List Step) (deep : Bool) (n m : Node) : Prop :=
  match steps with
  | [] => m = n
  | ⟨axis, test, predicates⟩ :: rest =>
    ∃ k, (∃ group, (if deep then Axis.descendant else axis).IsGroup n group ∧
      k ∈ Predicate.survivors predicates {c ∈ group | test.accepts c}) ∧
      Step.Chain rest false k m

/-- The nodes of a group that survive predicates, from left to right. -/
def Predicate.survivors (predicates : List Predicate) (group : Set Node) : Set Node :=
  match predicates with
  | [] => group
  | predicate :: rest =>
    Predicate.survivors rest {m ∈ group | predicate.Admits group m}

/-- A node of a group survives a predicate. -/
def Predicate.Admits (predicate : Predicate) (group : Set Node) (m : Node) : Prop :=
  match predicate with
  | .position k => Node.rank group m = k
  | .last => Node.rank group m = group.ncard
  | .condition e => e.Holds m

/-- A node has a property. -/
def Expr.Holds (e : Expr) (n : Node) : Prop :=
  match e with
  | .or left right => left.Holds n ∨ right.Holds n
  | .and left right => left.Holds n ∧ right.Holds n
  | .exists operand => ∃ value, operand.Yields n value
  | .compare operand negated literal =>
    ∃ value, operand.Yields n value ∧ literal.equals value ≠ negated

/-- An operand has a value at a node. -/
def Operand.Yields (operand : Operand) (n : Node) (value : String) : Prop :=
  match operand with
  | .attribute name => n.attribute? name = some value
  | .text => ∃ m ∈ n.children, m.isText ∧ m.innerText = value
  | .context => n.innerText = value
  | .path path => ∃ m, path.Leads false n m ∧ m.innerText = value

end

/-! ### Positions in lists and ranks in sets -/

namespace Node

/-- A list without repetitions has as many nodes as the set of its nodes. -/
theorem ncard_setOf_mem {ns : List Node} (hns : ns.Nodup) :
    {m : Node | m ∈ ns}.ncard = ns.length := by
  classical
  have hset : {m : Node | m ∈ ns} = ↑ns.toFinset := by
    ext m
    simp
  rw [hset, Set.ncard_coe_finset, List.toFinset_card_of_nodup hns]

/-- In a list in document order, the nodes up to a node are those that stand before it, and it. -/
theorem rank_of_getElem {ns : List Node} (hns : Ascending ns) {i : Nat} (hi : i < ns.length) :
    rank {m | m ∈ ns} ns[i] = i + 1 := by
  have hprefix : {k ∈ {m | m ∈ ns} | k.index ≤ ns[i].index} = {m | m ∈ ns.take (i + 1)} := by
    ext k
    constructor
    · rintro ⟨hk, hle⟩
      obtain ⟨j, hj, rfl⟩ := List.mem_iff_getElem.mp hk
      have hji : j ≤ i := by
        by_contra hlt
        have := List.pairwise_iff_getElem.mp hns i j hi hj (not_le.mp hlt)
        omega
      exact List.mem_take_iff_getElem.mpr ⟨j, by omega, rfl⟩
    · intro hk
      obtain ⟨j, hj, rfl⟩ := List.mem_take_iff_getElem.mp hk
      refine ⟨List.getElem_mem _, ?_⟩
      rcases Nat.lt_or_eq_of_le (show j ≤ i by omega) with hlt | rfl
      · exact (List.pairwise_iff_getElem.mp hns j i (by omega) hi hlt).le
      · exact le_rfl
  have hnodup : (ns.take (i + 1)).Nodup := (hns.sublist (List.take_sublist _ ns)).nodup
  rw [rank, hprefix, ncard_setOf_mem hnodup, List.length_take]
  omega

/-- Asking for the place in a list in document order is asking for the rank. -/
theorem mem_filter_zipIdx {ns : List Node} (hns : Ascending ns) (p : Nat → Node → Bool) (m : Node) :
    m ∈ ((ns.zipIdx 1).filter fun k ↦ p k.2 k.1).map Prod.fst ↔
      m ∈ ns ∧ p (rank {k | k ∈ ns} m) m = true := by
  constructor
  · intro hm
    obtain ⟨⟨k, place⟩, hk, rfl⟩ := List.mem_map.mp hm
    obtain ⟨hzip, hp⟩ := List.mem_filter.mp hk
    obtain ⟨i, hi, heq⟩ := List.mem_iff_getElem.mp hzip
    rw [List.length_zipIdx] at hi
    rw [List.getElem_zipIdx] at heq
    obtain ⟨rfl, rfl⟩ := Prod.mk.inj heq
    refine ⟨List.getElem_mem hi, ?_⟩
    rw [rank_of_getElem hns hi, Nat.add_comm]
    exact hp
  · rintro ⟨hm, hp⟩
    obtain ⟨i, hi, rfl⟩ := List.mem_iff_getElem.mp hm
    rw [rank_of_getElem hns hi, Nat.add_comm] at hp
    refine List.mem_map.mpr ⟨(ns[i], 1 + i), List.mem_filter.mpr ⟨?_, hp⟩, rfl⟩
    refine List.mem_iff_getElem.mpr ⟨i, ?_, ?_⟩
    · rwa [List.length_zipIdx]
    · rw [List.getElem_zipIdx]

theorem filter_zipIdx_sublist (ns : List Node) (p : Nat → Node → Bool) :
    (((ns.zipIdx 1).filter fun k ↦ p k.2 k.1).map Prod.fst).Sublist ns := by
  have hsublist := (List.filter_sublist (l := ns.zipIdx 1) (p := fun k ↦ p k.2 k.1)).map Prod.fst
  rwa [List.zipIdx_map_fst] at hsublist

end Node

/-! ### Groups of candidates -/

namespace Axis

theorem allIn_of_mem_groups {axis : Axis} {n : Node} {group : List Node}
    (hgroup : group ∈ axis.groups n) : Node.AllIn n.document group := by
  cases axis with
  | child =>
    rw [List.mem_singleton.mp hgroup]
    exact n.allIn_children
  | descendant =>
    rcases List.mem_cons.mp hgroup with rfl | hbelow
    · exact n.allIn_children
    · obtain ⟨k, hk, rfl⟩ := List.mem_map.mp hbelow
      rw [← n.allIn_descendants k hk]
      exact k.allIn_children
  | self =>
    rw [List.mem_singleton.mp hgroup]
    intro m hm
    rw [List.mem_singleton.mp hm]
  | parent =>
    rw [List.mem_singleton.mp hgroup]
    intro m hm
    exact Node.document_of_mem_parent? (Option.mem_toList.mp hm)

theorem ascending_of_mem_groups {axis : Axis} {n : Node} {group : List Node}
    (hgroup : group ∈ axis.groups n) : Node.Ascending group := by
  cases axis with
  | child =>
    rw [List.mem_singleton.mp hgroup]
    exact n.ascending_children
  | descendant =>
    rcases List.mem_cons.mp hgroup with rfl | hbelow
    · exact n.ascending_children
    · obtain ⟨k, -, rfl⟩ := List.mem_map.mp hbelow
      exact k.ascending_children
  | self =>
    rw [List.mem_singleton.mp hgroup]
    exact List.pairwise_singleton _ n
  | parent =>
    rw [List.mem_singleton.mp hgroup]
    cases n.parent? with
    | none => exact List.Pairwise.nil
    | some m => exact List.pairwise_singleton _ m

/-- The lists of candidates are the groups of candidates. -/
theorem isGroup_iff {axis : Axis} {n : Node} {group : Set Node} :
    axis.IsGroup n group ↔ ∃ list ∈ axis.groups n, group = {m | m ∈ list} := by
  cases axis with
  | child => simp [IsGroup, groups]
  | descendant => simp [IsGroup, groups]
  | self => simp [IsGroup, groups]
  | parent => simp [IsGroup, groups]

end Axis

/-! ### Evaluation follows the relation -/

theorem Predicate.filterAll_sublist (predicates : List Predicate) (group : List Node) :
    (Predicate.filterAll predicates group).Sublist group := by
  induction predicates generalizing group with
  | nil =>
    rw [Predicate.filterAll]
  | cons predicate rest ih =>
    rw [Predicate.filterAll]
    exact (ih _).trans (Node.filter_zipIdx_sublist group _)

mutual

/-- A path is evaluated to the nodes that it leads to. -/
theorem Path.mem_evaluate : ∀ (path : Path) (search : Bool) (n m : Node),
    m ∈ path.evaluate search n ↔ path.Leads search n m
  | ⟨absolute, bare, steps⟩, search, n, m => by
    rw [Path.evaluate, Path.Leads, Step.mem_follow steps (bare && search) (d := n.document)]
    · simp
    · intro k hk
      rw [List.mem_singleton.mp hk]
      split <;> rfl

/-- Steps are followed to the ends of chains. -/
theorem Step.mem_follow : ∀ (steps : List Step) (deep : Bool) {d : Document} {contexts : List Node},
    Node.AllIn d contexts → ∀ m : Node,
      (m ∈ Step.follow steps deep contexts ↔ ∃ n ∈ contexts, Step.Chain steps deep n m)
  | [], deep, d, contexts, _, m => by
    simp [Step.follow, Step.Chain]
  | ⟨axis, test, predicates⟩ :: rest, deep, d, contexts, hcontexts, m => by
    have hsurvivors : ∀ {group : List Node}, Node.Ascending group → ∀ k : Node,
        (k ∈ Predicate.filterAll predicates (group.filter test.accepts) ↔
          k ∈ Predicate.survivors predicates {c ∈ {c | c ∈ group} | test.accepts c}) := by
      intro group hgroup k
      have hset : {c | c ∈ group.filter test.accepts} =
          {c ∈ {c : Node | c ∈ group} | test.accepts c} := by
        ext c
        exact List.mem_filter
      rw [← hset]
      exact Predicate.mem_filterAll predicates (hgroup.sublist List.filter_sublist) k
    have hreached : Node.AllIn d (contexts.flatMap fun context ↦
        ((if deep then Axis.descendant else axis).groups context).flatMap fun group ↦
          Predicate.filterAll predicates (group.filter test.accepts)) := by
      intro k hk
      obtain ⟨n, hn, hk⟩ := List.mem_flatMap.mp hk
      obtain ⟨group, hgroup, hk⟩ := List.mem_flatMap.mp hk
      have hmem := List.mem_of_mem_filter ((Predicate.filterAll_sublist predicates _).subset hk)
      exact (Axis.allIn_of_mem_groups hgroup k hmem).trans (hcontexts n hn)
    rw [Step.follow, Step.mem_follow rest false (Node.allIn_inOrder hreached)]
    constructor
    · rintro ⟨k, hk, hchain⟩
      obtain ⟨n, hn, hk⟩ := List.mem_flatMap.mp ((Node.mem_inOrder hreached).mp hk)
      obtain ⟨group, hgroup, hk⟩ := List.mem_flatMap.mp hk
      have hascending := Axis.ascending_of_mem_groups hgroup
      refine ⟨n, hn, ?_⟩
      rw [Step.Chain]
      exact ⟨k, ⟨_, Axis.isGroup_iff.mpr ⟨group, hgroup, rfl⟩, (hsurvivors hascending k).mp hk⟩,
        hchain⟩
    · rintro ⟨n, hn, hchain⟩
      rw [Step.Chain] at hchain
      obtain ⟨k, ⟨_, hisGroup, hk⟩, hchain⟩ := hchain
      obtain ⟨group, hgroup, rfl⟩ := Axis.isGroup_iff.mp hisGroup
      have hascending := Axis.ascending_of_mem_groups hgroup
      refine ⟨k, (Node.mem_inOrder hreached).mpr (List.mem_flatMap.mpr ⟨n, hn, ?_⟩), hchain⟩
      exact List.mem_flatMap.mpr ⟨group, hgroup, (hsurvivors hascending k).mpr hk⟩

/-- A group in document order is filtered to the survivors. -/
theorem Predicate.mem_filterAll : ∀ (predicates : List Predicate) {group : List Node},
    Node.Ascending group → ∀ m : Node,
      (m ∈ Predicate.filterAll predicates group ↔
        m ∈ Predicate.survivors predicates {k | k ∈ group})
  | [], group, _, m => by
    rw [Predicate.filterAll, Predicate.survivors]
    exact Iff.rfl
  | predicate :: rest, group, hgroup, m => by
    have hkept := hgroup.sublist
      (Node.filter_zipIdx_sublist group fun place k ↦ predicate.keeps group.length place k)
    have hset : {k | k ∈ ((group.zipIdx 1).filter fun k ↦
        predicate.keeps group.length k.2 k.1).map Prod.fst} =
        {k ∈ {k | k ∈ group} | predicate.Admits {k | k ∈ group} k} := by
      ext k
      refine (Node.mem_filter_zipIdx hgroup _ k).trans (and_congr_right fun _ ↦ ?_)
      exact Predicate.keeps_iff predicate hgroup.nodup k
    rw [Predicate.filterAll, Predicate.mem_filterAll rest hkept, hset, Predicate.survivors]

/-- A node is kept at its rank in a group if it survives there. -/
theorem Predicate.keeps_iff : ∀ (predicate : Predicate) {group : List Node}, group.Nodup →
    ∀ m : Node, (predicate.keeps group.length (Node.rank {k | k ∈ group} m) m = true ↔
      predicate.Admits {k | k ∈ group} m)
  | .position k, group, _, m => by
    rw [Predicate.keeps, Predicate.Admits, beq_iff_eq]
  | .last, group, hgroup, m => by
    rw [Predicate.keeps, Predicate.Admits, beq_iff_eq, Node.ncard_setOf_mem hgroup]
  | .condition e, group, _, m => by
    rw [Predicate.keeps, Predicate.Admits, Expr.holds_iff e m]

theorem Expr.holds_iff : ∀ (e : Expr) (n : Node), e.holds n = true ↔ e.Holds n
  | .or left right, n => by
    rw [Expr.holds, Expr.Holds, Bool.or_eq_true, Expr.holds_iff left n, Expr.holds_iff right n]
  | .and left right, n => by
    rw [Expr.holds, Expr.Holds, Bool.and_eq_true, Expr.holds_iff left n, Expr.holds_iff right n]
  | .exists operand, n => by
    have hvalues := Operand.mem_values operand n
    simp only [Expr.holds, Expr.Holds, Bool.not_eq_true', List.isEmpty_eq_false_iff_exists_mem,
      hvalues]
  | .compare operand negated literal, n => by
    have hvalues := Operand.mem_values operand n
    simp only [Expr.holds, Expr.Holds, List.any_eq_true, hvalues, bne_iff_ne]

theorem Operand.mem_values : ∀ (operand : Operand) (n : Node) (value : String),
    value ∈ operand.values n ↔ operand.Yields n value
  | .attribute name, n, value => by
    rw [Operand.values, Operand.Yields]
    exact Option.mem_toList
  | .text, n, value => by
    simp [Operand.values, Operand.Yields, and_assoc]
  | .context, n, value => by
    rw [Operand.values, Operand.Yields, List.mem_singleton, eq_comm]
  | .path path, n, value => by
    have hpath := Path.mem_evaluate path false n
    simp only [Operand.values, Operand.Yields, List.mem_map, hpath]

end

/-- Following steps from nodes in document order ends in document order. -/
theorem Step.ascending_follow (steps : List Step) (deep : Bool) {contexts : List Node}
    (hcontexts : Node.Ascending contexts) : Node.Ascending (Step.follow steps deep contexts) := by
  induction steps generalizing deep contexts with
  | nil =>
    rw [Step.follow]
    exact hcontexts
  | cons step rest ih =>
    obtain ⟨axis, test, predicates⟩ := step
    rw [Step.follow]
    exact ih false (Node.ascending_inOrder _)

theorem Path.ascending_evaluate (path : Path) (search : Bool) (n : Node) :
    Node.Ascending (path.evaluate search n) := by
  obtain ⟨absolute, bare, steps⟩ := path
  rw [Path.evaluate]
  exact Step.ascending_follow _ _ (List.pairwise_singleton _ _)

/-- A path is evaluated to the nodes at the ends of its chains, in document order and each once. -/
theorem Path.evaluate_ascending_and_mem_iff (path : Path) (search : Bool) (n : Node) :
    Node.Ascending (path.evaluate search n) ∧
      ∀ m : Node, m ∈ path.evaluate search n ↔ path.Leads search n m :=
  ⟨path.ascending_evaluate search n, path.mem_evaluate search n⟩

end MarkupRecords
