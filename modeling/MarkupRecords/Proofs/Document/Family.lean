import MarkupRecords.Proofs.Document.Subtree
import Mathlib.Logic.Relation

/-!
Parents, children and what is below a node. A document computes parents and children from its tree
apart from each other, and they belong together: a node is the parent of exactly its children
(`Node.parent?_eq_some_iff`). A node is followed by all nodes below it and by no other in between
(`Node.isBelow_iff`), so document order is the order of a walk that visits a node before what is
below it and its children from first to last (`Node.index_lt_iff`).
-/

set_option autoImplicit false
set_option relaxedAutoImplicit false

namespace MarkupRecords

/-! ### Parents in a tree -/

namespace Tree

theorem parents_eq (t : Tree) (parent : Option Nat) (start : Nat) :
    t.parents parent start = parent :: parentsAll start (start + 1) t.children := by
  cases t <;> rfl

theorem add_mem_starts_iff {k start i : Nat} {ts : List Tree} :
    k + i ∈ starts (k + start) ts ↔ i ∈ starts start ts := by
  rw [starts_add, List.mem_map]
  constructor
  · rintro ⟨j, hj, heq⟩
    rwa [Nat.add_left_cancel heq] at hj
  · intro hi
    exact ⟨i, hi, rfl⟩

/-- In a list of nodes in document order, which begins at place `start`, the parent of the node `k`
places after the first is the node at `parent`. -/
def HasParent (nodes : List Tree) (start k : Nat) (parent : Option Nat) : Prop :=
  ∃ j s, nodes[j]? = some s ∧ k ∈ starts (j + 1) s.children ∧ parent = some (start + j)

theorem hasParent_cons_zero {t : Tree} {nodes : List Tree} {start : Nat} {parent : Option Nat} :
    ¬ HasParent (t :: nodes) start 0 parent := by
  rintro ⟨j, s, -, hzero, -⟩
  exact absurd (le_of_mem_starts hzero) (Nat.not_succ_le_zero j)

theorem hasParent_cons_succ_iff {t : Tree} {nodes : List Tree} {start k : Nat}
    {parent : Option Nat} : HasParent (t :: nodes) start (k + 1) parent ↔
      (k ∈ starts 0 t.children ∧ parent = some start) ∨ HasParent nodes (start + 1) k parent := by
  have hstep (j : Nat) (ts : List Tree) : k + 1 ∈ starts (j + 1) ts ↔ k ∈ starts j ts := by
    rw [Nat.add_comm k, Nat.add_comm j, add_mem_starts_iff]
  constructor
  · rintro ⟨j, s, hs, hk, hparent⟩
    cases j with
    | zero =>
      cases hs
      exact .inl ⟨(hstep 0 _).mp hk, hparent⟩
    | succ j => exact .inr ⟨j, s, hs, (hstep _ _).mp hk, by rw [hparent]; congr 1; omega⟩
  · rintro (⟨hk, hparent⟩ | ⟨j, s, hs, hk, hparent⟩)
    · exact ⟨0, t, rfl, (hstep 0 _).mpr hk, hparent⟩
    · exact ⟨j + 1, s, hs, (hstep _ _).mpr hk, by rw [hparent]; congr 1; omega⟩

/-- The children of a node stand within its tree. -/
theorem lt_of_mem_starts_of_flatten {t s : Tree} {j k : Nat} (hs : t.flatten[j]? = some s)
    (hk : k ∈ starts (j + 1) s.children) : k < t.size := by
  have hprefix := (flatten_prefix_drop t hs).length_le
  have hlt := lt_of_mem_starts hk
  have hj := (List.getElem?_eq_some_iff.mp hs).1
  rw [List.length_drop, length_flatten, length_flatten, size_eq s] at hprefix
  rw [length_flatten] at hj
  omega

theorem hasParent_append_iff {t : Tree} {nodes : List Tree} {start k : Nat}
    {parent : Option Nat} : HasParent (t.flatten ++ nodes) start k parent ↔
      HasParent t.flatten start k parent ∨
        ∃ i, k = t.size + i ∧ HasParent nodes (start + t.size) i parent := by
  constructor
  · rintro ⟨j, s, hs, hk, hparent⟩
    by_cases hj : j < t.size
    · rw [List.getElem?_append_left (by rwa [length_flatten])] at hs
      exact .inl ⟨j, s, hs, hk, hparent⟩
    · obtain ⟨j, rfl⟩ := Nat.exists_eq_add_of_le (Nat.not_lt.mp hj)
      rw [List.getElem?_append_right (by rw [length_flatten]; omega), length_flatten,
        Nat.add_sub_cancel_left] at hs
      obtain ⟨i, rfl⟩ := Nat.exists_eq_add_of_le (Nat.le_trans (Nat.le_add_right _ _)
        (Nat.le_trans (Nat.le_succ _) (le_of_mem_starts hk)))
      rw [Nat.add_assoc, add_mem_starts_iff] at hk
      exact .inr ⟨i, rfl, j, s, hs, hk, by rw [hparent, Nat.add_assoc]⟩
  · rintro (⟨j, s, hs, hk, hparent⟩ | ⟨i, rfl, j, s, hs, hk, hparent⟩)
    · refine ⟨j, s, ?_, hk, hparent⟩
      rw [List.getElem?_append_left (List.getElem?_eq_some_iff.mp hs).1]
      exact hs
    · refine ⟨t.size + j, s, ?_, ?_, by rw [hparent, Nat.add_assoc]⟩
      · rw [List.getElem?_append_right (by rw [length_flatten]; omega), length_flatten,
          Nat.add_sub_cancel_left]
        exact hs
      · rwa [Nat.add_assoc, add_mem_starts_iff]

theorem getElem?_parents_of_children {t : Tree}
    (h : ∀ {parent start k : Nat} {q : Option Nat},
      (parentsAll parent start t.children)[k]? = some q ↔
        (k ∈ starts 0 t.children ∧ q = some parent) ∨ HasParent (flattenAll t.children) start k q)
    {parent : Option Nat} {start k : Nat} {q : Option Nat} :
    (t.parents parent start)[k]? = some q ↔
      (k = 0 ∧ q = parent) ∨ HasParent t.flatten start k q := by
  rw [parents_eq, flatten_eq]
  cases k with
  | zero =>
    rw [or_iff_left hasParent_cons_zero]
    simp [eq_comm]
  | succ k =>
    rw [List.getElem?_cons_succ, h, hasParent_cons_succ_iff]
    simp

mutual

/-- The first node of a tree has the parent of the tree, and every other has the node among whose
children it stands. -/
theorem getElem?_parents_iff : ∀ (t : Tree) {parent : Option Nat} {start k : Nat}
    {q : Option Nat}, (t.parents parent start)[k]? = some q ↔
      (k = 0 ∧ q = parent) ∨ HasParent t.flatten start k q
  | document kids, _, _, _, _ => getElem?_parents_of_children (getElem?_parentsAll_iff kids)
  | element _ _ kids, _, _, _, _ => getElem?_parents_of_children (getElem?_parentsAll_iff kids)
  | text _, _, _, _, _ => getElem?_parents_of_children (by
    simp [parentsAll, children, starts, HasParent, flattenAll])

theorem getElem?_parentsAll_iff : ∀ (ts : List Tree) {parent start k : Nat} {q : Option Nat},
    (parentsAll parent start ts)[k]? = some q ↔
      (k ∈ starts 0 ts ∧ q = some parent) ∨ HasParent (flattenAll ts) start k q
  | [], _, _, _, _ => by simp [parentsAll, starts, HasParent, flattenAll]
  | t :: ts, parent, start, k, q => by
    have hpos := t.size_pos
    rw [parentsAll, flattenAll, hasParent_append_iff, starts, List.mem_cons, Nat.zero_add]
    by_cases hk : k < t.size
    · rw [List.getElem?_append_left (by rwa [length_parents]), getElem?_parents_iff t]
      have hstarts : k ∉ starts t.size ts := fun h ↦ Nat.not_lt.mpr (le_of_mem_starts h) hk
      have hlater : ¬ ∃ i, k = t.size + i ∧ HasParent (flattenAll ts) (start + t.size) i q := by
        rintro ⟨i, rfl, -⟩
        omega
      simp only [hstarts, hlater, or_false]
    · obtain ⟨i, rfl⟩ := Nat.exists_eq_add_of_le (Nat.not_lt.mp hk)
      rw [List.getElem?_append_right (by rw [length_parents]; omega), length_parents,
        Nat.add_sub_cancel_left, getElem?_parentsAll_iff ts]
      have hstarts : t.size + i ∈ starts (t.size + 0) ts ↔ i ∈ starts 0 ts := add_mem_starts_iff
      rw [Nat.add_zero] at hstarts
      have hfirst : ¬ HasParent t.flatten start (t.size + i) q := by
        rintro ⟨j, s, hs, hmem, -⟩
        have := lt_of_mem_starts_of_flatten hs hmem
        omega
      have hne : t.size + i ≠ 0 := by omega
      simp only [hstarts, hfirst, hne, false_or, Nat.add_left_cancel_iff, exists_eq_left']

end

theorem filterMap_getElem?_flattenAll (ts : List Tree) :
    (starts 0 ts).filterMap ((flattenAll ts)[·]?) = ts := by
  induction ts with
  | nil => rfl
  | cons t ts ih =>
    have hlater : ∀ i, (flattenAll (t :: ts))[t.size + i]? = (flattenAll ts)[i]? := by
      intro i
      rw [flattenAll, List.getElem?_append_right (by rw [length_flatten]; omega), length_flatten,
        Nat.add_sub_cancel_left]
    have hfirst : (flattenAll (t :: ts))[0]? = some t := by
      rw [flattenAll, flatten_eq]
      rfl
    have hstarts : starts (t.size + 0) ts = (starts 0 ts).map (t.size + ·) := starts_add _ _ _
    rw [starts, List.filterMap_cons_some hfirst, Nat.zero_add, ← Nat.add_zero t.size, hstarts,
      List.filterMap_map]
    congr 1
    exact (List.filterMap_congr fun i _ ↦ hlater i).trans ih

/-- The places of a tree hold the parents of its nodes. -/
theorem map_parent_places (t : Tree) : t.places.map Place.parent = t.parents none 0 := by
  have hlength : (t.parents none 0).length = t.flatten.length := by
    rw [length_flatten, length_parents]
  have hzip : (t.flatten.zip (t.parents none 0)).map Prod.snd = t.parents none 0 :=
    List.map_snd_zip (Nat.le_of_eq hlength)
  rw [List.zip, List.map_zipWith] at hzip
  rw [places, List.map_zipWith]
  exact hzip

end Tree

/-! ### Children -/

namespace Node

theorem index_add_size_le (n : Node) : n.index + n.tree.size ≤ n.document.places.size := by
  have hpos := n.tree.size_pos
  obtain ⟨m, hm, -⟩ := n.exists_node?_add (k := n.tree.size - 1) (by omega)
  obtain ⟨hdocument, hindex⟩ := Document.node?_eq_some_iff.mp hm
  have hinside := m.inside
  rw [hdocument, hindex] at hinside
  omega

theorem map_tree_filterMap_node? (n : Node) {places : List Nat}
    (hplaces : ∀ k ∈ places, k < n.tree.size) :
    ((places.map (n.index + ·)).filterMap n.document.node?).map tree =
      places.filterMap (n.tree.flatten[·]?) := by
  induction places with
  | nil => rfl
  | cons k places ih =>
    obtain ⟨hk, hplaces⟩ := List.forall_mem_cons.mp hplaces
    obtain ⟨m, hm, htree⟩ := n.exists_node?_add hk
    rw [List.map_cons, List.filterMap_cons_some hm, List.filterMap_cons_some htree, List.map_cons,
      ih hplaces]

theorem map_index_filterMap_node? (d : Document) {places : List Nat}
    (hplaces : ∀ i ∈ places, i < d.places.size) :
    (places.filterMap d.node?).map index = places := by
  induction places with
  | nil => rfl
  | cons i places ih =>
    obtain ⟨hi, hplaces⟩ := List.forall_mem_cons.mp hplaces
    have hnode : d.node? i = some ⟨d, i, hi⟩ := Document.node?_eq_some_iff.mpr ⟨rfl, rfl⟩
    rw [List.filterMap_cons_some hnode, List.map_cons, ih hplaces]

/-- The trees of a node's children are the trees directly below its own. -/
theorem map_tree_children (n : Node) : n.children.map tree = n.tree.children := by
  have hplaces : ∀ k ∈ Tree.starts 1 n.tree.children, k < n.tree.size := by
    intro k hk
    rw [Tree.size_eq, Nat.add_comm]
    exact Tree.lt_of_mem_starts hk
  have hstarts :
      Tree.starts (1 + 0) n.tree.children = (Tree.starts 0 n.tree.children).map (1 + ·) :=
    Tree.starts_add _ _ _
  rw [children, Tree.starts_add, map_tree_filterMap_node? n hplaces, Tree.flatten_eq n.tree]
  rw [Nat.add_zero] at hstarts
  rw [hstarts, List.filterMap_map]
  refine Eq.trans (List.filterMap_congr fun i _ ↦ ?_)
    (Tree.filterMap_getElem?_flattenAll n.tree.children)
  rw [Function.comp_apply, Nat.add_comm, List.getElem?_cons_succ]

/-- The numbers of a node's children. -/
theorem map_index_children (n : Node) :
    n.children.map index = Tree.starts (n.index + 1) n.tree.children := by
  refine map_index_filterMap_node? n.document fun i hi ↦ ?_
  have hlt := Tree.lt_of_mem_starts hi
  have hle := n.index_add_size_le
  rw [Tree.size_eq] at hle
  omega

theorem mem_children_iff {n m : Node} : m ∈ n.children ↔
    m.document = n.document ∧ m.index ∈ Tree.starts (n.index + 1) n.tree.children := by
  rw [children, List.mem_filterMap]
  constructor
  · rintro ⟨i, hi, hm⟩
    obtain ⟨hdocument, rfl⟩ := Document.node?_eq_some_iff.mp hm
    exact ⟨hdocument, hi⟩
  · rintro ⟨hdocument, hi⟩
    exact ⟨_, hi, Document.node?_eq_some_iff.mpr ⟨hdocument, rfl⟩⟩

/-! ### Parents -/

theorem getElem?_parents (n : Node) :
    (n.document.tree.parents none 0)[n.index]? = some n.place.parent := by
  obtain ⟨⟨label, t, places, rfl⟩, i, hi⟩ := n
  rw [← Tree.map_parent_places]
  simp only [place, List.getElem?_map, Option.map_eq_some_iff]
  exact ⟨_, List.getElem?_eq_getElem (by simpa using hi), by simp⟩

theorem hasParent_iff {n m : Node} (hdocument : m.document = n.document) :
    Tree.HasParent m.document.tree.flatten 0 m.index (some n.index) ↔ m ∈ n.children := by
  rw [mem_children_iff]
  constructor
  · rintro ⟨j, s, hs, hm, hj⟩
    rw [Nat.zero_add, Option.some.injEq] at hj
    rw [← hj, hdocument, n.getElem?_flatten] at hs
    rw [← hj, ← Option.some.inj hs] at hm
    exact ⟨hdocument, hm⟩
  · rintro ⟨-, hm⟩
    refine ⟨n.index, n.tree, ?_, hm, by rw [Nat.zero_add]⟩
    rw [hdocument]
    exact n.getElem?_flatten

/-- A node is the parent of its children, and of no other node. -/
theorem parent?_eq_some_iff {n m : Node} : m.parent? = some n ↔ m ∈ n.children := by
  have hparent (q : Option Nat) : m.place.parent = q ↔
      (m.index = 0 ∧ q = none) ∨ Tree.HasParent m.document.tree.flatten 0 m.index q := by
    rw [← Tree.getElem?_parents_iff, getElem?_parents, Option.some.injEq]
  constructor
  · intro hm
    obtain ⟨i, hi, hn⟩ := Option.bind_eq_some_iff.mp hm
    obtain ⟨hdocument, rfl⟩ := Document.node?_eq_some_iff.mp hn
    rw [hparent] at hi
    rcases hi with ⟨-, hnone⟩ | hi
    · cases hnone
    · exact (hasParent_iff hdocument.symm).mp hi
  · intro hm
    have hdocument := n.allIn_children m hm
    have hi := (hparent _).mpr (.inr ((hasParent_iff hdocument).mpr hm))
    exact Option.bind_eq_some_iff.mpr ⟨n.index, hi, Document.node?_eq_some_iff.mpr
      ⟨hdocument.symm, rfl⟩⟩

/-- The first node has no parent, and every other has one. -/
theorem parent?_eq_none_iff {n : Node} : n.parent? = none ↔ n.index = 0 := by
  have hparent := n.getElem?_parents
  rw [Tree.getElem?_parents_iff] at hparent
  rcases hparent with ⟨hindex, hnone⟩ | ⟨j, s, hs, hn, hj⟩
  · rw [parent?, hnone]
    exact iff_of_true rfl hindex
  · have hinside : j < n.document.places.size := by
      rw [Document.size_places]
      exact (List.getElem?_eq_some_iff.mp hs).1
    have hlt := Tree.le_of_mem_starts hn
    rw [Nat.zero_add] at hj
    rw [parent?, hj, Option.bind_some, Document.node?, dif_pos hinside]
    exact iff_of_false nofun (by omega)

/-! ### What is below a node -/

/-- The node `m` is below `n`: parents lead from `m` to `n`. -/
def IsBelow (m n : Node) : Prop := Relation.TransGen (fun k p ↦ k.parent? = some p) m n

variable {n m : Node}

theorem lt_of_mem_children (h : m ∈ n.children) :
    n.index < m.index ∧ m.index < n.index + n.tree.size := by
  obtain ⟨-, hstarts⟩ := mem_children_iff.mp h
  have hle := Tree.le_of_mem_starts hstarts
  have hlt := Tree.lt_of_mem_starts hstarts
  rw [Tree.size_eq]
  omega

/-- What stands in the tree of a node ends in it. -/
theorem add_size_le (hdocument : m.document = n.document) (hle : n.index ≤ m.index)
    (hlt : m.index < n.index + n.tree.size) : m.index + m.tree.size ≤ n.index + n.tree.size := by
  obtain ⟨k, hk⟩ := Nat.exists_eq_add_of_le hle
  rw [hk] at hlt
  obtain ⟨m', hm', htree⟩ := n.exists_node?_add (Nat.lt_of_add_lt_add_left hlt)
  have heq : m' = m := by
    obtain ⟨hdocument', hindex⟩ := Document.node?_eq_some_iff.mp hm'
    exact eq_of_index_eq (hdocument'.trans hdocument.symm) (hindex.trans hk.symm)
  have hprefix := (Tree.flatten_prefix_drop n.tree htree).length_le
  rw [List.length_drop, Tree.length_flatten, Tree.length_flatten, heq] at hprefix
  omega

/-- Nodes that follow one another without gaps cover all places from the first to the last. -/
theorem exists_covers {ns : List Node} {start i : Nat}
    (hindex : ns.map index = Tree.starts start (ns.map tree)) (hle : start ≤ i)
    (hlt : i < start + Tree.sizeAll (ns.map tree)) :
    ∃ c ∈ ns, c.index ≤ i ∧ i < c.index + c.tree.size := by
  induction ns generalizing start with
  | nil =>
    simp only [List.map_nil, Tree.sizeAll] at hlt
    omega
  | cons c ns ih =>
    simp only [List.map_cons, Tree.starts, Tree.sizeAll, List.cons.injEq] at hindex hlt
    obtain ⟨hc, hindex⟩ := hindex
    by_cases hi : i < start + c.tree.size
    · exact ⟨c, List.mem_cons_self, by omega, by omega⟩
    · obtain ⟨d, hd, hcovers⟩ := ih hindex (by omega) (by omega)
      exact ⟨d, List.mem_cons_of_mem c hd, hcovers⟩

/-- Every place in the tree of a node, apart from its own, belongs to one of its children. -/
theorem exists_child_covers {i : Nat} (hlt : n.index < i) (hi : i < n.index + n.tree.size) :
    ∃ c ∈ n.children, c.index ≤ i ∧ i < c.index + c.tree.size := by
  refine exists_covers ?_ (Nat.succ_le_of_lt hlt) ?_
  · rw [map_tree_children, map_index_children]
  · rw [map_tree_children]
    rw [Tree.size_eq] at hi
    omega

/-- The nodes below a node are those that follow it within its tree. -/
theorem isBelow_iff : m.IsBelow n ↔
    m.document = n.document ∧ n.index < m.index ∧ m.index < n.index + n.tree.size := by
  constructor
  · intro h
    induction h with
    | single hparent =>
      have hchild := parent?_eq_some_iff.mp hparent
      exact ⟨allIn_children _ _ hchild, lt_of_mem_children hchild⟩
    | @tail p q _ hparent ih =>
      have hchild := parent?_eq_some_iff.mp hparent
      have hdocument := allIn_children _ _ hchild
      obtain ⟨hlt, hin⟩ := lt_of_mem_children hchild
      have hend := add_size_le hdocument (Nat.le_of_lt hlt) hin
      exact ⟨ih.1.trans hdocument, by omega, by omega⟩
  · rintro ⟨hdocument, hlt, hin⟩
    -- down from `n`, always to the child whose tree has the place of `m`
    induction hsize : n.tree.size using Nat.strongRecOn generalizing n with
    | _ size ih =>
      obtain ⟨c, hc, hle, hcovers⟩ := exists_child_covers hlt hin
      have hcdocument := allIn_children _ _ hc
      have hparent : c.parent? = some n := parent?_eq_some_iff.mpr hc
      rcases Nat.eq_or_lt_of_le hle with heq | hbelow
      · obtain rfl : c = m := eq_of_index_eq (hcdocument.trans hdocument.symm) heq
        exact .single hparent
      · obtain ⟨hclt, hcin⟩ := lt_of_mem_children hc
        have hend := add_size_le hcdocument (Nat.le_of_lt hclt) hcin
        exact (ih c.tree.size (by omega) (hdocument.trans hcdocument.symm) hbelow hcovers rfl).tail
          hparent

/-- The node is at `n` or below it. -/
def IsWithin (m n : Node) : Prop := m = n ∨ m.IsBelow n

theorem isWithin_iff : m.IsWithin n ↔
    m.document = n.document ∧ n.index ≤ m.index ∧ m.index < n.index + n.tree.size := by
  have hpos := n.tree.size_pos
  rw [IsWithin, isBelow_iff]
  constructor
  · rintro (rfl | ⟨hdocument, hlt, hin⟩)
    · exact ⟨rfl, Nat.le_refl _, by omega⟩
    · exact ⟨hdocument, Nat.le_of_lt hlt, hin⟩
  · rintro ⟨hdocument, hle, hin⟩
    rcases Nat.eq_or_lt_of_le hle with heq | hlt
    · exact .inl (eq_of_index_eq hdocument heq.symm)
    · exact .inr ⟨hdocument, hlt, hin⟩

theorem tree_root (d : Document) : d.root.tree = d.tree := by
  have hplace := d.root.getElem?_flatten
  rw [Tree.flatten_eq] at hplace
  exact (Option.some.inj hplace).symm

theorem isWithin_root (m : Node) : m.IsWithin m.document.root := by
  refine isWithin_iff.mpr ⟨rfl, Nat.zero_le _, ?_⟩
  have hinside := m.inside
  rw [Document.size_places, Tree.length_flatten] at hinside
  rw [tree_root]
  change m.index < 0 + m.document.tree.size
  omega

/-- The descendants of a node are the nodes below it. -/
theorem mem_descendants_iff : m ∈ n.descendants ↔ m.IsBelow n := by
  have hpos := n.tree.size_pos
  rw [isBelow_iff, descendants, List.mem_filterMap]
  constructor
  · rintro ⟨i, hi, hm⟩
    obtain ⟨hdocument, rfl⟩ := Document.node?_eq_some_iff.mp hm
    obtain ⟨hle, hlt⟩ := List.mem_range'_1.mp hi
    exact ⟨hdocument, by omega, by omega⟩
  · rintro ⟨hdocument, hlt, hin⟩
    refine ⟨m.index, List.mem_range'_1.mpr ⟨hlt, by omega⟩, ?_⟩
    exact Document.node?_eq_some_iff.mpr ⟨hdocument, rfl⟩

/-- What is in the trees of two children of a node lies apart. -/
theorem add_size_le_of_siblings {a b : Node} (ha : a ∈ n.children) (hb : b ∈ n.children)
    (hlt : a.index < b.index) : a.index + a.tree.size ≤ b.index := by
  by_contra hin
  have hdocument : b.document = a.document :=
    (allIn_children _ _ hb).trans (allIn_children _ _ ha).symm
  have hbelow : b.IsBelow a := isBelow_iff.mpr ⟨hdocument, hlt, by omega⟩
  obtain ⟨p, hp, hpa⟩ := Relation.TransGen.head'_iff.mp hbelow
  -- the parent of `b` is `n`, which comes before `a`
  obtain rfl : n = p := Option.some.inj ((parent?_eq_some_iff.mpr hb).symm.trans hp)
  have hna := (lt_of_mem_children ha).1
  rcases Relation.reflTransGen_iff_eq_or_transGen.mp hpa with rfl | hpa
  · exact Nat.lt_irrefl _ hna
  · have := (isBelow_iff.mp hpa).2.1
    omega

theorem Ascending.pair_sublist {ns : List Node} (hns : Ascending ns) {a b : Node} (ha : a ∈ ns)
    (hb : b ∈ ns) (hlt : a.index < b.index) : [a, b].Sublist ns := by
  obtain ⟨before, after, rfl⟩ := List.append_of_mem ha
  obtain ⟨-, hafter, hbefore⟩ := List.pairwise_append.mp hns
  have hmem : b ∈ after := by
    rcases List.mem_append.mp hb with hb | hb
    · have := hbefore b hb a List.mem_cons_self
      omega
    · rcases List.mem_cons.mp hb with rfl | hb
      · exact absurd hlt (Nat.lt_irrefl _)
      · exact hb
  exact ((List.singleton_sublist.mpr hmem).cons_cons a).trans (List.sublist_append_right _ _)

theorem Ascending.lt_of_pair_sublist {ns : List Node} (hns : Ascending ns) {a b : Node}
    (h : [a, b].Sublist ns) : a.index < b.index :=
  List.rel_of_pairwise_cons (hns.sublist h) List.mem_cons_self

/-- A walk that visits each node before what is below it, and the children of a node from first to
last, comes to `m` before `k`. -/
def Precedes (m k : Node) : Prop :=
  k.IsBelow m ∨ ∃ n a b : Node, [a, b].Sublist n.children ∧ m.IsWithin a ∧ k.IsWithin b

theorem precedes_of_index_lt {k : Node} (hm : m.IsWithin n) (hk : k.IsWithin n)
    (hlt : m.index < k.index) : m.Precedes k := by
  -- down from `n` to the child that both are within, as long as there is one
  induction hsize : n.tree.size using Nat.strongRecOn generalizing n with
  | _ size ih =>
    rcases hm with rfl | hm
    · rcases hk with rfl | hk
      · exact absurd hlt (Nat.lt_irrefl _)
      · exact .inl hk
    · obtain ⟨hmdocument, hnm, hmin⟩ := isBelow_iff.mp hm
      obtain ⟨hkdocument, -, hkin⟩ := isWithin_iff.mp hk
      obtain ⟨a, ha, ham, hma⟩ := exists_child_covers hnm hmin
      obtain ⟨b, hb, hbk, hkb⟩ := exists_child_covers (Nat.lt_trans hnm hlt) hkin
      have hadocument := allIn_children _ _ ha
      have hbdocument := allIn_children _ _ hb
      have hmwithin := isWithin_iff.mpr ⟨hmdocument.trans hadocument.symm, ham, hma⟩
      have hkwithin := isWithin_iff.mpr ⟨hkdocument.trans hbdocument.symm, hbk, hkb⟩
      rcases Nat.lt_trichotomy a.index b.index with hab | hab | hba
      · exact .inr ⟨n, a, b, n.ascending_children.pair_sublist ha hb hab, hmwithin, hkwithin⟩
      · obtain rfl : a = b := eq_of_index_eq (hadocument.trans hbdocument.symm) hab
        obtain ⟨hna, hain⟩ := lt_of_mem_children ha
        have hend := add_size_le hadocument (Nat.le_of_lt hna) hain
        exact ih a.tree.size (by omega) hmwithin hkwithin rfl
      · have hend := add_size_le_of_siblings hb ha hba
        omega

/-- The order of numbers is that of a walk through the document. -/
theorem index_lt_iff {k : Node} (hdocument : m.document = k.document) :
    m.index < k.index ↔ m.Precedes k := by
  constructor
  · refine precedes_of_index_lt m.isWithin_root ?_
    rw [hdocument]
    exact k.isWithin_root
  · rintro (hbelow | ⟨n, a, b, hab, hm, hk⟩)
    · exact (isBelow_iff.mp hbelow).2.1
    · have hend := add_size_le_of_siblings (hab.subset (by simp)) (hab.subset (by simp))
        (n.ascending_children.lt_of_pair_sublist hab)
      have hma := (isWithin_iff.mp hm).2.2
      have hbk := (isWithin_iff.mp hk).2.1
      omega

end Node

end MarkupRecords
