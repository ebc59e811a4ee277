import MarkupRecords.Proofs.Arena.Building

/-!
Three ways through a document agree. A walk through the arena with a list of waiting nodes comes to
the nodes below a node in document order, and to each of them once: at any time, the waiting nodes
and what is below them are the nodes that follow in the document, up to the end of the node's tree
(`Walk.Covers`). Each step keeps this (`Walk.Covers.next`), so after as many steps as there are
nodes below, none waits any more (`Arena.walk_eq`). Going up by parents leads to a node from exactly
these nodes (`Arena.leadsUp_iff`), and going down by children collects their texts in the same order
(`Arena.collects_iff`, `Node.innerText_eq_join`). `Arena.traversals_agree` puts this together, for
the arenas that texts make.
-/

set_option autoImplicit false
set_option relaxedAutoImplicit false

namespace MarkupRecords

open Node

/-! ### Walking with a list of waiting nodes -/

namespace Walk

/-- After `k` steps of the walk to what is below the node `n`, the walk has been to the `k` nodes
that follow `n`. The nodes `ms` wait, and the trees there are what follows up to the end of the tree
of `n`. -/
structure Covers (n : Node) (k : Nat) (ms : List Node) (w : Walk) : Prop where
  allIn : AllIn n.document ms
  visited : w.visited = List.range' (n.index + 1) k
  pending : w.pending = (ms.map index).reverse
  starts : ms.map index = Tree.starts (n.index + 1 + k) (ms.map tree)
  size : n.tree.size = k + 1 + Tree.sizeAll (ms.map tree)

namespace Covers

variable {n m : Node} {k : Nat} {ms : List Node} {w : Walk}

theorem start (n : Node) : Covers n 0 n.children ⟨[], n.cell.children.reverse⟩ where
  allIn := n.allIn_children
  visited := rfl
  pending := rfl
  starts := by rw [map_tree_children, map_index_children, Nat.add_zero]
  size := by rw [map_tree_children, Tree.size_eq, Nat.zero_add, Nat.add_comm]

/-- A step goes to the first of the waiting nodes. Its children come to stand before the others. -/
theorem next (h : Covers n k (m :: ms) w) :
    ∃ w', w.next? n.document.arena = some w' ∧ Covers n (k + 1) (m.children ++ ms) w' := by
  obtain ⟨hm, hms⟩ := List.forall_mem_cons.mp h.allIn
  have hstarts := h.starts
  simp only [List.map_cons, Tree.starts, List.cons.injEq] at hstarts
  obtain ⟨hindex, hrest⟩ := hstarts
  have hcell : n.document.arena.cells[m.index]? = some m.cell := hm ▸ Document.getElem?_arena m
  have hpending : w.pending = (ms.map index).reverse ++ [m.index] := by
    rw [h.pending, List.map_cons, List.reverse_cons]
  have hsize := h.size
  refine ⟨⟨w.visited ++ [m.index], (ms.map index).reverse ++ m.cell.children.reverse⟩, ?_, ?_⟩
  · simp only [next?, hpending, List.getLast?_concat, List.dropLast_concat, hcell, bind, pure,
      Option.bind_some]
  · refine ⟨?_, ?_, ?_, ?_, ?_⟩
    · exact List.forall_mem_append.mpr ⟨hm ▸ m.allIn_children, hms⟩
    · rw [h.visited, hindex, List.range'_concat, Nat.one_mul]
    · rw [List.map_append, List.reverse_append]
      rfl
    · rw [List.map_append, List.map_append, Tree.starts_append, map_index_children,
        map_tree_children, hrest, hindex, Tree.size_eq m.tree]
      congr 2
      omega
    · rw [List.map_cons, Tree.sizeAll, Tree.size_eq m.tree] at hsize
      rw [List.map_append, Tree.sizeAll_append, map_tree_children, hsize]
      omega

/-- The walk ends after as many steps as there are nodes at and below the waiting ones. -/
theorem run {steps : Nat} (h : Covers n k ms w) (hsteps : steps = Tree.sizeAll (ms.map tree)) :
    ∃ w', Walk.run n.document.arena steps w = some w' ∧ Covers n (k + steps) [] w' := by
  -- a step takes one node away and puts those below it in its place, so one less is left to visit
  induction steps generalizing k ms w with
  | zero =>
    cases ms with
    | nil => exact ⟨w, rfl, h⟩
    | cons m ms =>
      have hpos := m.tree.size_pos
      rw [List.map_cons, Tree.sizeAll] at hsteps
      omega
  | succ steps ih =>
    cases ms with
    | nil => cases hsteps
    | cons m ms =>
      obtain ⟨w', hnext, h'⟩ := h.next
      have hsteps' : steps = Tree.sizeAll ((m.children ++ ms).map tree) := by
        rw [List.map_cons, Tree.sizeAll, Tree.size_eq] at hsteps
        rw [List.map_append, Tree.sizeAll_append, map_tree_children]
        omega
      obtain ⟨last, hrun, hlast⟩ := ih h' hsteps'
      refine ⟨last, ?_, ?_⟩
      · simp only [Walk.run, hnext, bind, Option.bind_some, hrun]
      · rwa [Nat.add_right_comm, Nat.add_assoc] at hlast

end Covers

end Walk

/-! ### The nodes below a node -/

theorem filterMap_getElem?_range' {α : Type} (before after : List α) :
    (List.range' before.length after.length).filterMap ((before ++ after)[·]?) = after := by
  induction after generalizing before with
  | nil => rfl
  | cons a after ih =>
    have hrest := ih (before ++ [a])
    rw [List.length_append, List.length_singleton, List.append_assoc,
      List.singleton_append] at hrest
    rw [List.length_cons, List.range'_succ,
      List.filterMap_cons_some (getElem?_append_cons rfl a after), hrest]

namespace Node

theorem map_index_descendants (n : Node) :
    n.descendants.map index = List.range' (n.index + 1) (n.tree.size - 1) := by
  refine map_index_filterMap_node? n.document fun i hi ↦ ?_
  have hlast := (List.mem_range'_1.mp hi).2
  have hle := n.index_add_size_le
  have hpos := n.tree.size_pos
  omega

theorem map_tree_descendants (n : Node) :
    n.descendants.map tree = Tree.flattenAll n.tree.children := by
  have hplaces : ∀ k ∈ List.range' 1 (n.tree.size - 1), k < n.tree.size := by
    intro k hk
    have hlast := (List.mem_range'_1.mp hk).2
    have hpos := n.tree.size_pos
    omega
  have hlength : n.tree.size - 1 = (Tree.flattenAll n.tree.children).length := by
    rw [Tree.length_flattenAll, Tree.size_eq, Nat.add_sub_cancel]
  rw [descendants, ← List.map_add_range', map_tree_filterMap_node? n hplaces, hlength,
    Tree.flatten_eq]
  exact filterMap_getElem?_range' [n.tree] _

theorem mem_map_index_descendants_iff {n : Node} {i : Nat} :
    i ∈ n.descendants.map index ↔ ∃ m : Node, m.IsBelow n ∧ m.index = i := by
  simp only [List.mem_map, mem_descendants_iff]

end Node

namespace Arena

/-- The walk to what is below a node ends when it has been to all nodes below, in document order. -/
theorem walk_eq (n : Node) : n.document.arena.walk n.index (n.tree.size - 1) =
    some ⟨n.descendants.map index, []⟩ := by
  have hsteps : n.tree.size - 1 = Tree.sizeAll (n.children.map tree) := by
    rw [map_tree_children, Tree.size_eq, Nat.add_sub_cancel]
  obtain ⟨w, hrun, hend⟩ := (Walk.Covers.start n).run hsteps
  have hw : w = ⟨n.descendants.map index, []⟩ := by
    obtain ⟨visited, pending⟩ := w
    rw [map_index_descendants]
    have hvisited := hend.visited
    rw [Nat.zero_add] at hvisited
    exact congrArg₂ Walk.mk hvisited hend.pending
  simp only [walk, Document.getElem?_arena, bind, Option.bind_some, hrun, hw]

example : (Document.ofTree (.document
    [.element "a" [] [.element "b" [] [.text "x"], .text "y"]])).arena.walk 1 3 =
      some ⟨[2, 3, 4], []⟩ := by decide

theorem parent?_eq (n : Node) : n.document.arena.parent? n.index = n.parent?.map index := by
  rw [parent?, Document.getElem?_arena]
  rfl

/-- The number `i` leads up to the number `j` by parents. -/
def LeadsUp (arena : Arena) (i j : Nat) : Prop :=
  Relation.TransGen (fun k p ↦ arena.parent? k = some p) i j

theorem leadsUp_of_isBelow {m n : Node} (h : m.IsBelow n) :
    m.document.arena.LeadsUp m.index n.index := by
  have hstep {k p : Node} (hk : k.document = m.document) (hp : k.parent? = some p) :
      m.document.arena.parent? k.index = some p.index := by
    rw [← hk, parent?_eq, hp, Option.map_some]
  induction h with
  | single hp => exact .single (hstep rfl hp)
  | tail hbelow hp ih => exact .tail ih (hstep (isBelow_iff.mp hbelow).1.symm hp)

theorem exists_parent?_of_parent? {d : Document} {i j : Nat} (h : d.arena.parent? i = some j) :
    ∃ m p : Node, m.document = d ∧ m.index = i ∧ m.parent? = some p ∧ p.index = j := by
  obtain ⟨cell, hcell, -⟩ := Option.bind_eq_some_iff.mp h
  have hi := (List.getElem?_eq_some_iff.mp hcell).1
  rw [Document.length_arena] at hi
  let m : Node := ⟨d, i, hi⟩
  have hm : m.parent?.map index = some j := (parent?_eq m).symm.trans h
  obtain ⟨p, hp, hj⟩ := Option.map_eq_some_iff.mp hm
  exact ⟨m, p, rfl, rfl, hp, hj⟩

/-- Parents lead up to a node from the nodes below it, and from nowhere else. -/
theorem leadsUp_iff (n : Node) (i : Nat) :
    n.document.arena.LeadsUp i n.index ↔ i ∈ n.descendants.map index := by
  rw [mem_map_index_descendants_iff]
  constructor
  · intro h
    induction h using Relation.TransGen.head_induction_on with
    | single hparent =>
      obtain ⟨m, p, hm, rfl, hp, hpn⟩ := exists_parent?_of_parent? hparent
      have hdocument := (document_of_mem_parent? hp).trans hm
      rw [eq_of_index_eq hdocument hpn] at hp
      exact ⟨m, .single hp, rfl⟩
    | head hparent _ ih =>
      obtain ⟨k, hk, rfl⟩ := ih
      obtain ⟨m, p, hm, rfl, hp, hpk⟩ := exists_parent?_of_parent? hparent
      have hdocument := (document_of_mem_parent? hp).trans hm
      rw [eq_of_index_eq (hdocument.trans (isBelow_iff.mp hk).1.symm) hpk] at hp
      exact ⟨m, .head hp hk, rfl⟩
  · rintro ⟨m, hm, rfl⟩
    rw [← (isBelow_iff.mp hm).1]
    exact leadsUp_of_isBelow hm

end Arena

/-! ### The texts in a tree -/

namespace Tree

theorem innerText_eq (t : Tree) :
    t.innerText = t.kind.content?.getD "" ++ innerTextAll t.children := by
  cases t with
  | document kids => exact String.empty_append.symm
  | element name attributes kids => exact String.empty_append.symm
  | text content => exact String.append_empty.symm

mutual

/-- The text of a tree is made of the texts at and below its topmost node, in document order. -/
theorem innerText_eq_join : ∀ t : Tree,
    t.innerText = String.join (t.flatten.filterMap fun s ↦ s.kind.content?)
  | document kids => innerTextAll_eq_join kids
  | element _ _ kids => innerTextAll_eq_join kids
  | text content => by
    simp [innerText, flatten, kind, NodeKind.content?]

theorem innerTextAll_eq_join : ∀ ts : List Tree,
    innerTextAll ts = String.join ((flattenAll ts).filterMap fun s ↦ s.kind.content?)
  | [] => rfl
  | t :: ts => by
    rw [innerTextAll, flattenAll, List.filterMap_append, String.join_append, innerText_eq_join t,
      innerTextAll_eq_join ts]

end

end Tree

namespace Node

theorem innerText_eq_join (n : Node) :
    n.innerText = String.join ((n :: n.descendants).filterMap content?) := by
  have htrees : (n :: n.descendants).map tree = n.tree.flatten := by
    rw [List.map_cons, map_tree_descendants, Tree.flatten_eq]
  have hcontents : (n :: n.descendants).filterMap content? =
      ((n :: n.descendants).map tree).filterMap fun s ↦ s.kind.content? := by
    rw [List.filterMap_map]
    rfl
  rw [innerText, Tree.innerText_eq_join, hcontents, htrees]

end Node

namespace Arena

theorem Collects.unique {arena : Arena} {is : List Nat} {out after after' : String}
    (h : Collects arena is out after) (h' : Collects arena is out after') : after = after' := by
  induction h generalizing after' with
  | done out =>
    cases h'
    rfl
  | node hcell _ _ ihBelow ihAfter =>
    cases h' with
    | node hcell' hbelow' hafter' =>
      cases hcell.symm.trans hcell'
      cases ihBelow hbelow'
      exact ihAfter hafter'

/-- At nodes of a document and below them the texts in their trees are collected. -/
theorem collects_map_index {d : Document} {ms : List Node} (hms : AllIn d ms) (out : String) :
    Collects d.arena (ms.map index) out (out ++ Tree.innerTextAll (ms.map tree)) := by
  -- both the children of the first node and the nodes after it have fewer nodes at and below them
  induction hsize : Tree.sizeAll (ms.map tree) using Nat.strongRecOn generalizing ms out with
  | _ size ih =>
    cases ms with
    | nil =>
      rw [List.map_nil, List.map_nil, Tree.innerTextAll, String.append_empty]
      exact .done out
    | cons m ms =>
      obtain ⟨hm, hrest⟩ := List.forall_mem_cons.mp hms
      have hpos := m.tree.size_pos
      have hchildren := m.map_tree_children
      rw [List.map_cons, Tree.sizeAll] at hsize
      have hcell : d.arena.cells[m.index]? = some m.cell := hm ▸ Document.getElem?_arena m
      have hbelow := ih _ (by rw [hchildren, ← hsize, Tree.size_eq]; omega)
        (hm ▸ m.allIn_children) (out ++ m.tree.kind.content?.getD "") rfl
      have hafter := ih _ (by omega) hrest (out ++ m.tree.innerText) rfl
      rw [hchildren, String.append_assoc, ← Tree.innerText_eq] at hbelow
      rw [String.append_assoc] at hafter
      exact .node hcell hbelow hafter

/-- Going down from a node, its text is collected and nothing else. -/
theorem collects_iff (n : Node) (out : String) :
    Collects n.document.arena [n.index] "" out ↔ out = n.innerText := by
  have hcollects := collects_map_index (List.forall_mem_singleton.mpr rfl : AllIn n.document [n]) ""
  simp only [List.map_cons, List.map_nil, Tree.innerTextAll, String.empty_append,
    String.append_empty] at hcollects
  constructor
  · intro h
    exact h.unique hcollects
  · rintro rfl
    exact hcollects

/-- The arena of a text is that of its document. In the arena of a document, the walk to what is
below a node ends after as many steps as there are nodes below. It has been to the numbers that
follow the node's own without a gap, each once, and these are the numbers from which parents lead up
to the node. Going down from the node by children collects the contents of the texts at and below
it, in the order of the walk. -/
theorem traversals_agree :
    (∀ markup naming text, parse markup naming text =
      (Document.parse markup naming text).map Document.arena) ∧
    ∀ n : Node,
      n.document.arena.walk n.index (n.tree.size - 1) = some ⟨n.descendants.map index, []⟩ ∧
      n.descendants.map index = List.range' (n.index + 1) (n.tree.size - 1) ∧
      (∀ i, n.document.arena.LeadsUp i n.index ↔ i ∈ n.descendants.map index) ∧
      (∀ out, Collects n.document.arena [n.index] "" out ↔ out = n.innerText) ∧
      n.innerText = String.join ((n :: n.descendants).filterMap content?) :=
  ⟨parse_eq, fun n ↦ ⟨walk_eq n, n.map_index_descendants, leadsUp_iff n, collects_iff n,
    n.innerText_eq_join⟩⟩

end Arena

end MarkupRecords
