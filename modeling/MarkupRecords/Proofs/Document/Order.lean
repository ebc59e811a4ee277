import MarkupRecords.Selector.Matching
import Mathlib.Tactic.SplitIfs

/-!
Document order on the nodes of one document. A node is determined by its document and its number
(`Node.eq_of_index_eq`), the steps to the children, to the descendants and to the parent stay in the
document, and children are listed by increasing numbers (`Node.ascending_children`). `Node.inOrder`
brings any nodes of one document into this order and keeps each of them once
(`Node.ascending_inOrder`, `Node.mem_inOrder`).
-/

set_option autoImplicit false
set_option relaxedAutoImplicit false

namespace MarkupRecords

/-! ### Places of consecutive trees -/

namespace Tree

theorem size_pos (t : Tree) : 0 < t.size := by
  cases t <;> simp [size]

/-- No tree of a sequence begins before the place at which the sequence begins. -/
theorem le_of_mem_starts {start i : Nat} {ts : List Tree} (hi : i ∈ starts start ts) :
    start ≤ i := by
  induction ts generalizing start with
  | nil => simp [starts] at hi
  | cons t ts ih =>
    rcases List.mem_cons.mp hi with rfl | hi
    · exact Nat.le_refl i
    · exact Nat.le_trans (Nat.le_add_right start t.size) (ih hi)

theorem pairwise_lt_starts (start : Nat) (ts : List Tree) :
    (starts start ts).Pairwise (· < ·) := by
  induction ts generalizing start with
  | nil => exact List.Pairwise.nil
  | cons t ts ih =>
    refine List.pairwise_cons.mpr ⟨fun i hi ↦ ?_, ih (start + t.size)⟩
    have hle : start + t.size ≤ i := le_of_mem_starts hi
    have hpos := t.size_pos
    omega

end Tree

/-! ### Nodes of one document -/

theorem Document.node?_eq_some_iff {d : Document} {i : Nat} {n : Node} :
    d.node? i = some n ↔ n.document = d ∧ n.index = i := by
  unfold Document.node?
  split
  · constructor
    · rintro ⟨⟩
      exact ⟨rfl, rfl⟩
    · rintro ⟨rfl, rfl⟩
      rfl
  · rename_i houtside
    simp only [reduceCtorEq, false_iff]
    rintro ⟨rfl, rfl⟩
    exact houtside n.inside

namespace Node

/-- A node is determined by its document and its number. -/
theorem eq_of_index_eq {n m : Node} (hdocument : n.document = m.document)
    (hindex : n.index = m.index) : n = m := by
  cases n
  cases m
  cases hdocument
  cases hindex
  rfl

/-- The nodes of a list stand in document order, each of them once. -/
def Ascending (ns : List Node) : Prop := ns.Pairwise fun n m ↦ n.index < m.index

/-- All nodes of a list belong to a document. -/
def AllIn (d : Document) (ns : List Node) : Prop := ∀ n ∈ ns, n.document = d

theorem Ascending.sublist {ns ms : List Node} (hns : Ascending ns) (h : ms.Sublist ns) :
    Ascending ms :=
  List.Pairwise.sublist h hns

theorem Ascending.nodup {ns : List Node} (hns : Ascending ns) : ns.Nodup :=
  List.Pairwise.imp (fun hlt heq ↦ Nat.ne_of_lt hlt (congrArg index heq)) hns

/-- The first node of a list in document order comes before all others of the list. -/
theorem Ascending.head?_eq_some_iff {ns : List Node} (hns : Ascending ns) {m : Node} :
    ns.head? = some m ↔ m ∈ ns ∧ ∀ k ∈ ns, m.index ≤ k.index := by
  constructor
  · intro hhead
    obtain ⟨rest, rfl⟩ := List.head?_eq_some_iff.mp hhead
    refine ⟨List.mem_cons_self, fun k hk ↦ ?_⟩
    rcases List.mem_cons.mp hk with rfl | hk
    · exact Nat.le_refl _
    · exact Nat.le_of_lt ((List.pairwise_cons.mp hns).1 k hk)
  · rintro ⟨hm, hfirst⟩
    obtain ⟨a, rest, rfl⟩ := List.exists_cons_of_ne_nil (List.ne_nil_of_mem hm)
    rcases List.mem_cons.mp hm with rfl | hm
    · rfl
    · have hlt := (List.pairwise_cons.mp hns).1 m hm
      exact absurd (hfirst a List.mem_cons_self) (Nat.not_le.mpr hlt)

/-- The nodes with increasing numbers are in document order. -/
theorem ascending_filterMap_node? (d : Document) {is : List Nat} (his : is.Pairwise (· < ·)) :
    Ascending (is.filterMap d.node?) := by
  refine List.Pairwise.filterMap d.node? (fun i j hlt n hn m hm ↦ ?_) his
  rw [(Document.node?_eq_some_iff.mp hn).2, (Document.node?_eq_some_iff.mp hm).2]
  exact hlt

theorem allIn_filterMap_node? (d : Document) (is : List Nat) : AllIn d (is.filterMap d.node?) := by
  intro n hn
  obtain ⟨i, -, hi⟩ := List.mem_filterMap.mp hn
  exact (Document.node?_eq_some_iff.mp hi).1

theorem ascending_children (n : Node) : Ascending n.children :=
  ascending_filterMap_node? n.document (Tree.pairwise_lt_starts _ _)

theorem allIn_children (n : Node) : AllIn n.document n.children :=
  allIn_filterMap_node? n.document _

theorem allIn_descendants (n : Node) : AllIn n.document n.descendants :=
  allIn_filterMap_node? n.document _

theorem document_of_mem_parent? {n m : Node} (hm : n.parent? = some m) :
    m.document = n.document := by
  obtain ⟨i, -, hi⟩ := Option.bind_eq_some_iff.mp hm
  exact (Document.node?_eq_some_iff.mp hi).1

/-! ### Bringing nodes into document order -/

theorem eq_or_mem_of_mem_insertInOrder {n m : Node} {ns : List Node}
    (hm : m ∈ n.insertInOrder ns) : m = n ∨ m ∈ ns := by
  induction ns with
  | nil => exact Or.inl (List.mem_singleton.mp hm)
  | cons k ks ih =>
    unfold insertInOrder at hm
    split_ifs at hm with hlt heq
    · exact List.mem_cons.mp hm
    · exact Or.inr hm
    · rcases List.mem_cons.mp hm with rfl | hm
      · exact Or.inr List.mem_cons_self
      · exact (ih hm).imp_right (List.mem_cons_of_mem k)

theorem mem_insertInOrder {n m : Node} {ns : List Node} (hns : AllIn n.document ns) :
    m ∈ n.insertInOrder ns ↔ m = n ∨ m ∈ ns := by
  induction ns with
  | nil => simp [insertInOrder]
  | cons k ks ih =>
    have hks : AllIn n.document ks := fun l hl ↦ hns l (List.mem_cons_of_mem k hl)
    unfold insertInOrder
    split_ifs with hlt heq
    · exact List.mem_cons
    · have hnk : n = k := eq_of_index_eq (hns k List.mem_cons_self).symm heq
      rw [← hnk, List.mem_cons, or_self_left]
    · rw [List.mem_cons, ih hks, List.mem_cons]
      exact or_left_comm

theorem ascending_insertInOrder {n : Node} {ns : List Node} (hns : Ascending ns) :
    Ascending (n.insertInOrder ns) := by
  induction ns with
  | nil => exact List.pairwise_singleton _ n
  | cons k ks ih =>
    obtain ⟨hk, hks⟩ := List.pairwise_cons.mp hns
    unfold insertInOrder
    split_ifs with hlt heq
    · refine List.pairwise_cons.mpr ⟨fun m hm ↦ ?_, hns⟩
      rcases List.mem_cons.mp hm with rfl | hm
      · exact hlt
      · exact Nat.lt_trans hlt (hk m hm)
    · exact hns
    · refine List.pairwise_cons.mpr ⟨fun m hm ↦ ?_, ih hks⟩
      rcases eq_or_mem_of_mem_insertInOrder hm with rfl | hm
      · omega
      · exact hk m hm

theorem ascending_inOrder (ns : List Node) : Ascending (inOrder ns) := by
  induction ns with
  | nil => exact List.Pairwise.nil
  | cons n ns ih => exact ascending_insertInOrder ih

/-- Putting nodes of one document in order neither adds nor loses one. -/
theorem mem_inOrder {d : Document} {ns : List Node} (hns : AllIn d ns) {m : Node} :
    m ∈ inOrder ns ↔ m ∈ ns := by
  induction ns generalizing m with
  | nil => exact Iff.rfl
  | cons n ns ih =>
    have hrest : AllIn d ns := fun k hk ↦ hns k (List.mem_cons_of_mem n hk)
    have hn : n.document = d := hns n List.mem_cons_self
    have hordered : AllIn n.document (inOrder ns) := fun k hk ↦
      (hrest k ((ih hrest).mp hk)).trans hn.symm
    change m ∈ n.insertInOrder (inOrder ns) ↔ m ∈ n :: ns
    rw [mem_insertInOrder hordered, ih hrest, List.mem_cons]

theorem allIn_inOrder {d : Document} {ns : List Node} (hns : AllIn d ns) : AllIn d (inOrder ns) :=
  fun m hm ↦ hns m ((mem_inOrder hns).mp hm)

end Node

end MarkupRecords
