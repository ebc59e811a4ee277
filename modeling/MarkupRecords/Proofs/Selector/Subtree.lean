import MarkupRecords.Proofs.Document.Subtree

/-!
Selectors that look downward. A path without a step to the parent, and not starting at the document
node, sees of the document only what is below the context node. `Path.isDownward` asks this of a
path and of all paths in its predicates. Evaluated from twins, such a path leads to twins, one by
one and in the same order (`Path.twins_evaluate`); so do its steps, and its predicates keep both or
neither of two twins at the same position.
-/

set_option autoImplicit false
set_option relaxedAutoImplicit false

namespace MarkupRecords

open Node (Twins)

/-! ### Downward paths -/

mutual

/-- The path does not start at the document node and has no step to the parent, and so for the paths
in its predicates. -/
def Path.isDownward : Path → Bool
  | ⟨absolute, _, steps⟩ => !absolute && Step.allDownward steps

/-- None of the steps goes to the parent, and all paths in their predicates are downward. -/
def Step.allDownward : List Step → Bool
  | [] => true
  | ⟨axis, _, predicates⟩ :: rest =>
    axis != .parent && Predicate.allDownward predicates && Step.allDownward rest

/-- All paths in the predicates are downward. -/
def Predicate.allDownward : List Predicate → Bool
  | [] => true
  | predicate :: rest => predicate.isDownward && Predicate.allDownward rest

/-- All paths in the predicate are downward. -/
def Predicate.isDownward : Predicate → Bool
  | .condition e => e.isDownward
  | _ => true

/-- All paths in the expression are downward. -/
def Expr.isDownward : Expr → Bool
  | .or left right => left.isDownward && right.isDownward
  | .and left right => left.isDownward && right.isDownward
  | .exists operand => operand.isDownward
  | .compare operand _ _ => operand.isDownward

/-- A path in the operand is downward. -/
def Operand.isDownward : Operand → Bool
  | .path path => path.isDownward
  | _ => true

end

/-! ### Steps from twins -/

variable {n n' : Node}

theorem NodeTest.accepts_eq_of_twins (test : NodeTest) {m m' : Node} (hm : Twins n n' m m') :
    test.accepts m = test.accepts m' := by
  simp only [accepts, Node.isElement, Node.isText, Node.name, hm.tree]

theorem Axis.twins_groups {axis : Axis} (haxis : axis ≠ .parent) {m m' : Node}
    (hm : Twins n n' m m') :
    List.Forall₂ (List.Forall₂ (Twins n n')) (axis.groups m) (axis.groups m') := by
  cases axis with
  | child => exact .cons hm.children .nil
  | descendant =>
    refine .cons hm.children (List.rel_map ?_ hm.descendants)
    exact fun _ _ hk ↦ hk.children
  | self => exact .cons (.cons hm .nil) .nil
  | parent => exact absurd rfl haxis

mutual

/-- From twins a downward path leads to twins. -/
theorem Path.twins_evaluate : ∀ (path : Path) (search : Bool), path.isDownward = true →
    ∀ {m m' : Node}, Twins n n' m m' →
      List.Forall₂ (Twins n n') (path.evaluate search m) (path.evaluate search m')
  | ⟨absolute, bare, steps⟩, search, hpath, m, m', hm => by
    rw [Path.isDownward, Bool.and_eq_true, Bool.not_eq_true'] at hpath
    obtain ⟨rfl, hsteps⟩ := hpath
    exact Step.twins_follow steps (bare && search) hsteps (.cons hm .nil)

theorem Step.twins_follow : ∀ (steps : List Step) (deep : Bool), Step.allDownward steps = true →
    ∀ {contexts contexts' : List Node}, List.Forall₂ (Twins n n') contexts contexts' →
      List.Forall₂ (Twins n n') (Step.follow steps deep contexts) (Step.follow steps deep contexts')
  | [], _, _, _, _, h => h
  | ⟨axis, test, predicates⟩ :: rest, deep, hsteps, contexts, contexts', h => by
    rw [Step.allDownward, Bool.and_eq_true, Bool.and_eq_true] at hsteps
    obtain ⟨⟨haxis, hpredicates⟩, hrest⟩ := hsteps
    have haxis' : (if deep then Axis.descendant else axis) ≠ .parent := by
      split
      · nofun
      · exact bne_iff_ne.mp haxis
    rw [Step.follow, Step.follow]
    refine Step.twins_follow rest false hrest (Twins.inOrder (List.rel_flatMap h ?_))
    intro m m' hm
    refine List.rel_flatMap (Axis.twins_groups haxis' hm) ?_
    intro group group' hgroup
    refine Predicate.twins_filterAll predicates hpredicates (forall₂_filter ?_ hgroup)
    exact fun _ _ hk ↦ test.accepts_eq_of_twins hk

theorem Predicate.twins_filterAll : ∀ (predicates : List Predicate),
    Predicate.allDownward predicates = true →
    ∀ {group group' : List Node}, List.Forall₂ (Twins n n') group group' →
      List.Forall₂ (Twins n n') (Predicate.filterAll predicates group)
        (Predicate.filterAll predicates group')
  | [], _, _, _, h => h
  | predicate :: rest, hpredicates, group, group', h => by
    rw [Predicate.allDownward, Bool.and_eq_true] at hpredicates
    rw [Predicate.filterAll, Predicate.filterAll, h.length_eq]
    refine Predicate.twins_filterAll rest hpredicates.2 (List.rel_map (fun _ _ hk ↦ hk.1)
      (forall₂_filter ?_ (forall₂_zipIdx h 1)))
    rintro ⟨k, position⟩ ⟨k', _⟩ ⟨hk, rfl⟩
    exact Predicate.keeps_eq_of_twins predicate hpredicates.1 group'.length position hk

theorem Predicate.keeps_eq_of_twins : ∀ (predicate : Predicate), predicate.isDownward = true →
    ∀ (size position : Nat) {m m' : Node}, Twins n n' m m' →
      predicate.keeps size position m = predicate.keeps size position m'
  | .position _, _, _, _, _, _, _ => rfl
  | .last, _, _, _, _, _, _ => rfl
  | .condition e, he, _, _, _, _, hm => Expr.holds_eq_of_twins e he hm

theorem Expr.holds_eq_of_twins : ∀ (e : Expr), e.isDownward = true →
    ∀ {m m' : Node}, Twins n n' m m' → e.holds m = e.holds m'
  | .or left right, he, _, _, hm => by
    rw [Expr.isDownward, Bool.and_eq_true] at he
    rw [Expr.holds, Expr.holds, Expr.holds_eq_of_twins left he.1 hm,
      Expr.holds_eq_of_twins right he.2 hm]
  | .and left right, he, _, _, hm => by
    rw [Expr.isDownward, Bool.and_eq_true] at he
    rw [Expr.holds, Expr.holds, Expr.holds_eq_of_twins left he.1 hm,
      Expr.holds_eq_of_twins right he.2 hm]
  | .exists operand, he, _, _, hm => by
    rw [Expr.holds, Expr.holds, Operand.values_eq_of_twins operand he hm]
  | .compare operand _ _, he, _, _, hm => by
    rw [Expr.holds, Expr.holds, Operand.values_eq_of_twins operand he hm]

theorem Operand.values_eq_of_twins : ∀ (operand : Operand), operand.isDownward = true →
    ∀ {m m' : Node}, Twins n n' m m' → operand.values m = operand.values m'
  | .attribute name, _, m, m', hm => by
    rw [Operand.values, Operand.values, Node.attribute?, Node.attribute?, hm.tree]
  | .text, _, m, m', hm => by
    rw [Operand.values, Operand.values]
    refine Twins.map_innerText (forall₂_filter ?_ hm.children)
    exact fun _ _ hk ↦ congrArg Tree.isText hk.tree
  | .context, _, m, m', hm => by
    rw [Operand.values, Operand.values, Node.innerText, Node.innerText, hm.tree]
  | .path path, hpath, m, m', hm => by
    rw [Operand.values, Operand.values]
    exact Twins.map_innerText (Path.twins_evaluate path false hpath hm)

end

end MarkupRecords
