import MarkupRecords.Arena.Basic
import MarkupRecords.Proofs.Document.Family

/-!
How the nodes of a tree stand in an arena. The cells of a tree follow one another in document order
(`Tree.cells`): first that of its topmost node, whose children begin where the trees below begin,
then those of these trees. `Document.arena_eq` says that the nodes of a document, each with the
numbers of its parent and its children, make the same cells.
-/

set_option autoImplicit false
set_option relaxedAutoImplicit false

namespace MarkupRecords

/-! ### The cells of a tree -/

namespace Tree

mutual

/-- The cells of a tree that begins at `start` below `parent`. -/
def cells (parent : Option Nat) (start : Nat) : Tree → List Cell
  | document kids => ⟨.document, parent, starts (start + 1) kids⟩ :: cellsAll start (start + 1) kids
  | element name attributes kids =>
    ⟨.element name attributes, parent, starts (start + 1) kids⟩ :: cellsAll start (start + 1) kids
  | text content => [⟨.text content, parent, []⟩]

/-- The cells of consecutive trees below the node at `parent`. -/
def cellsAll (parent start : Nat) : List Tree → List Cell
  | [] => []
  | t :: ts => cells (some parent) start t ++ cellsAll parent (start + t.size) ts

end

theorem cells_eq (t : Tree) (parent : Option Nat) (start : Nat) : t.cells parent start =
    ⟨t.kind, parent, starts (start + 1) t.children⟩ :: cellsAll start (start + 1) t.children := by
  cases t <;> rfl

mutual

theorem length_cells : ∀ (t : Tree) (parent : Option Nat) (start : Nat),
    (t.cells parent start).length = t.size
  | document kids, parent, start => by rw [cells, List.length_cons, length_cellsAll kids, size]
  | element _ _ kids, parent, start => by
    rw [cells, List.length_cons, length_cellsAll kids, size]
  | text _, _, _ => rfl

theorem length_cellsAll : ∀ (ts : List Tree) (parent start : Nat),
    (cellsAll parent start ts).length = sizeAll ts
  | [], _, _ => rfl
  | t :: ts, parent, start => by
    rw [cellsAll, List.length_append, length_cells t, length_cellsAll ts, sizeAll]

end

theorem cellsAll_append (parent start : Nat) (ts us : List Tree) :
    cellsAll parent start (ts ++ us) =
      cellsAll parent start ts ++ cellsAll parent (start + sizeAll ts) us := by
  induction ts generalizing start with
  | nil => rfl
  | cons t ts ih =>
    rw [List.cons_append, cellsAll, cellsAll, sizeAll, ih, List.append_assoc, Nat.add_assoc]

end Tree

/-- The arena of a tree, the topmost node being number 0. -/
def Tree.arena (t : Tree) : Arena := ⟨t.cells none 0⟩

/-! ### The cells of a document -/

namespace Tree

/-- The cell `k` places after `start`, from the tree and the parent there. -/
def cellAt (start k : Nat) (place : Tree × Option Nat) : Cell :=
  ⟨place.1.kind, place.2, starts (start + k + 1) place.1.children⟩

theorem cells_eq_mapIdx_of_children {t : Tree} {start : Nat}
    (h : cellsAll start (start + 1) t.children =
      ((flattenAll t.children).zip (parentsAll start (start + 1) t.children)).mapIdx
        (cellAt (start + 1))) (parent : Option Nat) :
    t.cells parent start = (t.flatten.zip (t.parents parent start)).mapIdx (cellAt start) := by
  rw [cells_eq, flatten_eq, parents_eq, List.zip_cons_cons, List.mapIdx_cons, h]
  congr 2
  funext k place
  have hstart : start + 1 + k = start + (k + 1) := by omega
  rw [cellAt, cellAt, hstart]

mutual

theorem cells_eq_mapIdx : ∀ (t : Tree) (parent : Option Nat) (start : Nat),
    t.cells parent start = (t.flatten.zip (t.parents parent start)).mapIdx (cellAt start)
  | document kids, parent, start =>
    cells_eq_mapIdx_of_children (cellsAll_eq_mapIdx kids start (start + 1)) parent
  | element _ _ kids, parent, start =>
    cells_eq_mapIdx_of_children (cellsAll_eq_mapIdx kids start (start + 1)) parent
  | text _, _, _ => rfl

theorem cellsAll_eq_mapIdx : ∀ (ts : List Tree) (parent start : Nat),
    cellsAll parent start ts =
      ((flattenAll ts).zip (parentsAll parent start ts)).mapIdx (cellAt start)
  | [], _, _ => rfl
  | t :: ts, parent, start => by
    have hlength : t.flatten.length = (t.parents (some parent) start).length := by
      rw [length_flatten, length_parents]
    have hzip : (t.flatten.zip (t.parents (some parent) start)).length = t.size := by
      rw [List.length_zip, ← hlength, Nat.min_self, length_flatten]
    rw [cellsAll, flattenAll, parentsAll, List.zip_append hlength, List.mapIdx_append,
      cells_eq_mapIdx t, cellsAll_eq_mapIdx ts, hzip]
    congr 2
    funext k place
    rw [cellAt, cellAt, Nat.add_comm k, Nat.add_assoc start]

end

end Tree

namespace Node

theorem map_index_parent? (n : Node) : n.parent?.map index = n.place.parent := by
  have hparent := (Tree.getElem?_parents_iff n.document.tree).mp n.getElem?_parents
  cases hm : n.parent? with
  | none =>
    rcases hparent with ⟨-, hnone⟩ | hparent
    · rw [hnone]
      rfl
    · rw [parent?_eq_none_iff.mp hm, Tree.flatten_eq] at hparent
      exact absurd hparent Tree.hasParent_cons_zero
  | some m =>
    obtain ⟨i, hi, hnode⟩ := Option.bind_eq_some_iff.mp hm
    rw [hi, Option.map_some, (Document.node?_eq_some_iff.mp hnode).2]

end Node

namespace Document

theorem map_index_filterMap_range (d : Document) :
    ((List.range d.places.size).filterMap d.node?).map Node.index = List.range d.places.size :=
  Node.map_index_filterMap_node? d fun _ hi ↦ List.mem_range.mp hi

/-- The cell of a node stands at its number. -/
theorem getElem?_arena (n : Node) : n.document.arena.cells[n.index]? = some n.cell := by
  have hat := congrArg (·[n.index]?) n.document.map_index_filterMap_range
  simp only [List.getElem?_map, List.getElem?_range n.inside, Option.map_eq_some_iff] at hat
  obtain ⟨m, hm, hmn⟩ := hat
  have hdocument := Node.allIn_filterMap_node? _ _ m (List.mem_of_getElem? hm)
  rw [arena, List.getElem?_map, hm, Node.eq_of_index_eq hdocument hmn]
  rfl

theorem length_arena (d : Document) : d.arena.cells.length = d.places.size := by
  have hlength := congrArg List.length d.map_index_filterMap_range
  rw [List.length_map, List.length_range] at hlength
  rw [arena, List.length_map, hlength]

/-- The arena of a document has the cells of its tree. -/
theorem arena_eq (d : Document) : d.arena = d.tree.arena := by
  have hlength : d.arena.cells.length = (d.tree.cells none 0).length := by
    rw [length_arena, size_places, Tree.length_flatten, Tree.length_cells]
  have hcells : d.arena.cells = d.tree.cells none 0 := by
    refine List.ext_getElem? fun i ↦ ?_
    by_cases hi : i < d.places.size
    · let n : Node := ⟨d, i, hi⟩
      have hcell : d.arena.cells[i]? = some n.cell := getElem?_arena n
      have hplace : (d.tree.flatten.zip (d.tree.parents none 0))[i]? =
          some (n.tree, n.place.parent) :=
        List.getElem?_zip_eq_some.mpr ⟨n.getElem?_flatten, n.getElem?_parents⟩
      rw [hcell, Tree.cells_eq_mapIdx, List.getElem?_mapIdx, hplace, Node.cell,
        Node.map_index_parent?, Node.map_index_children, Option.map_some, Tree.cellAt, Nat.zero_add]
    · have hout := Nat.not_lt.mp hi
      rw [← length_arena] at hout
      rw [List.getElem?_eq_none hout, List.getElem?_eq_none (hlength ▸ hout)]
  exact congrArg Arena.mk hcells

end Document

end MarkupRecords
