import MarkupRecords.Proofs.Document.Order
import Mathlib.Data.List.Forall2

/-!
The part of a document below a node. In document order a tree is directly followed by everything
below it, so as long as one stays inside a node's tree, this tree alone determines what stands some
places after the node (`Node.exists_node?_add`).

Nodes with the same tree therefore look the same from above. `Node.Twins` pairs the nodes below the
one with those below the other: both have the same tree and stand equally many places after the two.
The children of twins are twins one by one (`Node.Twins.children`), and so are the nodes below them
(`Node.Twins.descendants`). Since twins stand in the same order, they stay twins when they are put
in document order (`Node.Twins.inOrder`).
-/

set_option autoImplicit false
set_option relaxedAutoImplicit false

namespace MarkupRecords

/-! ### Lists that correspond -/

section Lists

variable {α β : Type} {R : α → β → Prop} {as : List α} {bs : List β}

theorem forall₂_filter {p : α → Bool} {q : β → Bool} (hpq : ∀ a b, R a b → p a = q b)
    (h : List.Forall₂ R as bs) : List.Forall₂ R (as.filter p) (bs.filter q) :=
  List.rel_filter (fun a b hab ↦ iff_of_eq (congrArg (· = true) (hpq a b hab))) h

theorem forall₂_zipIdx (h : List.Forall₂ R as bs) (start : Nat) :
    List.Forall₂ (fun a b ↦ R a.1 b.1 ∧ a.2 = b.2) (as.zipIdx start) (bs.zipIdx start) := by
  induction h generalizing start with
  | nil => exact .nil
  | cons hab _ ih =>
    rw [List.zipIdx_cons, List.zipIdx_cons]
    exact .cons ⟨hab, rfl⟩ (ih (start + 1))

theorem head?_of_forall₂ (h : List.Forall₂ R as bs) :
    (as.head? = none ∧ bs.head? = none) ∨
      ∃ a b, as.head? = some a ∧ bs.head? = some b ∧ R a b := by
  cases h with
  | nil => exact .inl ⟨rfl, rfl⟩
  | cons hab _ => exact .inr ⟨_, _, rfl, rfl, hab⟩

theorem map_eq_map_of_forall₂ {γ : Type} {f : α → γ} {g : β → γ} (hfg : ∀ a b, R a b → f a = g b)
    (h : List.Forall₂ R as bs) : as.map f = bs.map g := by
  induction h with
  | nil => rfl
  | cons hab _ ih => rw [List.map_cons, List.map_cons, hfg _ _ hab, ih]

end Lists

/-! ### Trees in document order -/

namespace Tree

theorem size_eq (t : Tree) : t.size = sizeAll t.children + 1 := by
  cases t <;> rfl

theorem flatten_eq (t : Tree) : t.flatten = t :: flattenAll t.children := by
  cases t <;> rfl

mutual

theorem length_parents : ∀ (t : Tree) (parent : Option Nat) (start : Nat),
    (t.parents parent start).length = t.size
  | document kids, parent, start => by
    rw [parents, List.length_cons, length_parentsAll kids, size]
  | element _ _ kids, parent, start => by
    rw [parents, List.length_cons, length_parentsAll kids, size]
  | text _, _, _ => rfl

theorem length_parentsAll : ∀ (ts : List Tree) (parent start : Nat),
    (parentsAll parent start ts).length = sizeAll ts
  | [], _, _ => rfl
  | t :: ts, parent, start => by
    rw [parentsAll, List.length_append, length_parents t, length_parentsAll ts, sizeAll]

end

/-- The places of a tree hold the tree and everything below it. -/
theorem map_subtree_places (t : Tree) : t.places.map Place.subtree = t.flatten := by
  have hlength : t.flatten.length = (t.parents none 0).length := by
    rw [length_flatten, length_parents]
  have hzip : (t.flatten.zip (t.parents none 0)).map Prod.fst = t.flatten :=
    List.map_fst_zip (Nat.le_of_eq hlength)
  rw [List.zip, List.map_zipWith] at hzip
  rw [places, List.map_zipWith]
  exact hzip

mutual

/-- What stands somewhere in a tree is directly followed by everything below it. -/
theorem flatten_prefix_drop : ∀ (t : Tree) {s : Tree} {i : Nat}, t.flatten[i]? = some s →
    s.flatten <+: t.flatten.drop i
  | document kids, s, i, h => by
    cases i with
    | zero =>
      obtain rfl : document kids = s := Option.some.inj h
      exact List.prefix_refl _
    | succ i => exact flattenAll_prefix_drop kids h
  | element _ _ kids, s, i, h => by
    cases i with
    | zero =>
      obtain rfl : element _ _ kids = s := Option.some.inj h
      exact List.prefix_refl _
    | succ i => exact flattenAll_prefix_drop kids h
  | text _, s, i, h => by
    cases i with
    | zero =>
      obtain rfl : text _ = s := Option.some.inj h
      exact List.prefix_refl _
    | succ i => cases h

theorem flattenAll_prefix_drop : ∀ (ts : List Tree) {s : Tree} {i : Nat},
    (flattenAll ts)[i]? = some s → s.flatten <+: (flattenAll ts).drop i
  | [], s, i, h => by
    cases h
  | t :: ts, s, i, h => by
    rw [flattenAll] at h ⊢
    by_cases hi : i < t.flatten.length
    · rw [List.getElem?_append_left hi] at h
      rw [List.drop_append_of_le_length (Nat.le_of_lt hi)]
      exact (flatten_prefix_drop t h).trans (List.prefix_append _ _)
    · have hle : t.flatten.length ≤ i := Nat.not_lt.mp hi
      rw [List.getElem?_append_right hle] at h
      rw [List.drop_append, List.drop_eq_nil_of_le hle, List.nil_append]
      exact flattenAll_prefix_drop ts h

end

theorem lt_of_mem_starts {start i : Nat} {ts : List Tree} (hi : i ∈ starts start ts) :
    i < start + sizeAll ts := by
  induction ts generalizing start with
  | nil => cases hi
  | cons t ts ih =>
    have hpos := t.size_pos
    rw [sizeAll]
    rcases List.mem_cons.mp hi with rfl | hi
    · omega
    · have := ih hi
      omega

theorem sizeAll_append (ts us : List Tree) : sizeAll (ts ++ us) = sizeAll ts + sizeAll us := by
  induction ts with
  | nil => rw [List.nil_append, sizeAll, Nat.zero_add]
  | cons t ts ih => rw [List.cons_append, sizeAll, sizeAll, ih, Nat.add_assoc]

theorem starts_append (start : Nat) (ts us : List Tree) :
    starts start (ts ++ us) = starts start ts ++ starts (start + sizeAll ts) us := by
  induction ts generalizing start with
  | nil => rfl
  | cons t ts ih =>
    rw [List.cons_append, starts, starts, sizeAll, ih, List.cons_append, Nat.add_assoc]

theorem starts_add (k start : Nat) (ts : List Tree) :
    starts (k + start) ts = (starts start ts).map (k + ·) := by
  induction ts generalizing start with
  | nil => rfl
  | cons t ts ih => rw [starts, starts, List.map_cons, ← ih, Nat.add_assoc]

end Tree

/-! ### Places below a node -/

theorem Document.size_places (d : Document) : d.places.size = d.tree.flatten.length := by
  rw [← Tree.map_subtree_places, List.length_map, d.places_eq, List.size_toArray]

namespace Node

theorem getElem?_flatten (n : Node) : n.document.tree.flatten[n.index]? = some n.tree := by
  obtain ⟨⟨label, t, places, rfl⟩, i, hi⟩ := n
  rw [← Tree.map_subtree_places]
  simp only [tree, place, List.getElem?_map, Option.map_eq_some_iff]
  exact ⟨_, List.getElem?_eq_getElem (by simpa using hi), by simp⟩

/-- As far after a node as its tree reaches, there is the node that the tree has there. -/
theorem exists_node?_add (n : Node) {k : Nat} (hk : k < n.tree.size) :
    ∃ m, n.document.node? (n.index + k) = some m ∧ n.tree.flatten[k]? = some m.tree := by
  have hlt : k < n.tree.flatten.length := by rwa [Tree.length_flatten]
  have hbelow : n.document.tree.flatten[n.index + k]? = n.tree.flatten[k]? := by
    obtain ⟨rest, hrest⟩ := Tree.flatten_prefix_drop _ n.getElem?_flatten
    rw [← List.getElem?_drop, ← hrest, List.getElem?_append_left hlt]
  have hinside : n.index + k < n.document.places.size := by
    rw [Document.size_places]
    exact (List.getElem?_eq_some_iff.mp (hbelow.trans (List.getElem?_eq_getElem hlt))).1
  let m : Node := ⟨n.document, n.index + k, hinside⟩
  exact ⟨m, Document.node?_eq_some_iff.mpr ⟨rfl, rfl⟩, hbelow.symm.trans m.getElem?_flatten⟩

/-! ### Twins -/

/-- `m` stands as far after `n` as `m'` after `n'`, and both have the same tree. -/
structure Twins (n n' m m' : Node) : Prop where
  document : m.document = n.document
  document' : m'.document = n'.document
  tree : m.tree = m'.tree
  index : m.index + n'.index = m'.index + n.index

namespace Twins

variable {n n' m m' k k' : Node}

theorem refl (h : n.tree = n'.tree) : Twins n n' n n' := ⟨rfl, rfl, h, Nat.add_comm _ _⟩

theorem trans (hm : Twins n n' m m') (hk : Twins m m' k k') : Twins n n' k k' where
  document := hk.document.trans hm.document
  document' := hk.document'.trans hm.document'
  tree := hk.tree
  index := by
    have hkm := hk.index
    have hmn := hm.index
    omega

theorem index_lt_iff (hm : Twins n n' m m') (hk : Twins n n' k k') :
    m.index < k.index ↔ m'.index < k'.index := by
  have hmn := hm.index
  have hkn := hk.index
  omega

theorem index_eq_iff (hm : Twins n n' m m') (hk : Twins n n' k k') :
    m.index = k.index ↔ m'.index = k'.index := by
  have hmn := hm.index
  have hkn := hk.index
  omega

/-- The nodes at the same places after two nodes with the same tree are twins. -/
theorem filterMap_node? (h : n.tree = n'.tree) {places : List Nat}
    (hplaces : ∀ k ∈ places, k < n.tree.size) :
    List.Forall₂ (Twins n n') ((places.map (n.index + ·)).filterMap n.document.node?)
      ((places.map (n'.index + ·)).filterMap n'.document.node?) := by
  induction places with
  | nil => exact .nil
  | cons k places ih =>
    obtain ⟨hk, hplaces⟩ := List.forall_mem_cons.mp hplaces
    obtain ⟨m, hm, htree⟩ := n.exists_node?_add hk
    obtain ⟨m', hm', htree'⟩ := n'.exists_node?_add (h ▸ hk)
    rw [List.map_cons, List.map_cons, List.filterMap_cons_some hm, List.filterMap_cons_some hm']
    refine .cons ?_ (ih hplaces)
    obtain ⟨hdocument, hindex⟩ := Document.node?_eq_some_iff.mp hm
    obtain ⟨hdocument', hindex'⟩ := Document.node?_eq_some_iff.mp hm'
    rw [h, htree'] at htree
    exact ⟨hdocument, hdocument', (Option.some.inj htree).symm, by omega⟩

theorem children (hm : Twins n n' m m') :
    List.Forall₂ (Twins n n') m.children m'.children := by
  have hplaces : ∀ k ∈ Tree.starts 1 m.tree.children, k < m.tree.size := by
    intro k hk
    rw [Tree.size_eq, Nat.add_comm]
    exact Tree.lt_of_mem_starts hk
  have hbelow := filterMap_node? hm.tree hplaces
  rw [← Tree.starts_add, ← Tree.starts_add] at hbelow
  rw [Node.children, Node.children, ← hm.tree]
  exact hbelow.imp fun _ _ ↦ hm.trans

theorem elements (hm : Twins n n' m m') : List.Forall₂ (Twins n n') m.elements m'.elements :=
  forall₂_filter (fun _ _ hk ↦ congrArg Tree.isElement hk.tree) hm.children

theorem descendants (hm : Twins n n' m m') :
    List.Forall₂ (Twins n n') m.descendants m'.descendants := by
  have hplaces : ∀ k ∈ List.range' 1 (m.tree.size - 1), k < m.tree.size := by
    intro k hk
    have := List.mem_range'_1.mp hk
    omega
  have hbelow := filterMap_node? hm.tree hplaces
  rw [List.map_add_range', List.map_add_range'] at hbelow
  rw [Node.descendants, Node.descendants, ← hm.tree]
  exact hbelow.imp fun _ _ ↦ hm.trans

theorem insertInOrder (hm : Twins n n' m m') {ms ms' : List Node}
    (hms : List.Forall₂ (Twins n n') ms ms') :
    List.Forall₂ (Twins n n') (m.insertInOrder ms) (m'.insertInOrder ms') := by
  induction hms with
  | nil => exact .cons hm .nil
  | cons hk hks ih =>
    simp only [Node.insertInOrder, hm.index_lt_iff hk, hm.index_eq_iff hk]
    split_ifs
    · exact .cons hm (.cons hk hks)
    · exact .cons hk hks
    · exact .cons hk ih

theorem inOrder {ms ms' : List Node} (hms : List.Forall₂ (Twins n n') ms ms') :
    List.Forall₂ (Twins n n') (Node.inOrder ms) (Node.inOrder ms') := by
  induction hms with
  | nil => exact .nil
  | cons hk _ ih => exact hk.insertInOrder ih

theorem map_innerText {ms ms' : List Node} (hms : List.Forall₂ (Twins n n') ms ms') :
    ms.map innerText = ms'.map innerText :=
  map_eq_map_of_forall₂ (fun _ _ hk ↦ congrArg Tree.innerText hk.tree) hms

end Twins

end Node

end MarkupRecords
