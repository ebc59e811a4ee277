import MarkupRecords.Proofs.Document.Family
import MarkupRecords.Proofs.Document.Nesting

/-!
Other names and attributes in the same document. `Tree.relabel` changes the names of elements and
their attributes and nothing else: the nodes of a relabelled document have the same numbers,
parents, children, kinds and texts (`Node.corresponds_of_relabel`). Building a tree does not look at
names, so relabelled events make the relabelled tree, each in step with the original
(`Nest.apply_relabel`, `Tree.ofEvents_relabel`).
-/

set_option autoImplicit false
set_option relaxedAutoImplicit false

namespace MarkupRecords

/-- What becomes of the name and of the attributes of an element. -/
structure Relabelling where
  name : String → String
  attributes : List (String × String) → List (String × String)

/-! ### Trees -/

namespace Tree

mutual

/-- The tree with other names and attributes. -/
def relabel (r : Relabelling) : Tree → Tree
  | document kids => document (relabelAll r kids)
  | element n as kids => element (r.name n) (r.attributes as) (relabelAll r kids)
  | text s => text s

/-- `relabel` on each tree. -/
def relabelAll (r : Relabelling) : List Tree → List Tree
  | [] => []
  | t :: ts => relabel r t :: relabelAll r ts

end

variable (r : Relabelling)

theorem relabelAll_eq_map (ts : List Tree) : relabelAll r ts = ts.map (relabel r) := by
  induction ts with
  | nil => rfl
  | cons t ts ih => rw [relabelAll, ih, List.map_cons]

theorem children_relabel (t : Tree) : (t.relabel r).children = t.children.map (relabel r) := by
  cases t with
  | text s => rfl
  | document kids => exact relabelAll_eq_map r kids
  | element n as kids => exact relabelAll_eq_map r kids

theorem isDocument_relabel (t : Tree) : (t.relabel r).isDocument = t.isDocument := by
  cases t <;> rfl

theorem isElement_relabel (t : Tree) : (t.relabel r).isElement = t.isElement := by
  cases t <;> rfl

theorem isText_relabel (t : Tree) : (t.relabel r).isText = t.isText := by
  cases t <;> rfl

theorem name_relabel {t : Tree} (h : t.isElement = true) :
    (t.relabel r).name = r.name t.name := by
  cases t with
  | element n as kids => rfl
  | document kids => cases h
  | text s => cases h

theorem attributes_relabel {t : Tree} (h : t.isElement = true) :
    (t.relabel r).attributes = r.attributes t.attributes := by
  cases t with
  | element n as kids => rfl
  | document kids => cases h
  | text s => cases h

mutual

theorem flatten_relabel : ∀ t : Tree, (t.relabel r).flatten = t.flatten.map (relabel r)
  | document kids => by
    rw [relabel, flatten, flatten, flattenAll_relabelAll kids, List.map_cons, relabel]
  | element _ _ kids => by
    rw [relabel, flatten, flatten, flattenAll_relabelAll kids, List.map_cons, relabel]
  | text _ => rfl

theorem flattenAll_relabelAll : ∀ ts : List Tree,
    flattenAll (relabelAll r ts) = (flattenAll ts).map (relabel r)
  | [] => rfl
  | t :: ts => by
    rw [relabelAll, flattenAll, flattenAll, flatten_relabel t, flattenAll_relabelAll ts,
      List.map_append]

end

theorem size_relabel (t : Tree) : (t.relabel r).size = t.size := by
  rw [← length_flatten, flatten_relabel, List.length_map, length_flatten]

mutual

theorem innerText_relabel : ∀ t : Tree, (t.relabel r).innerText = t.innerText
  | document kids => by rw [relabel, innerText, innerText, innerTextAll_relabelAll kids]
  | element _ _ kids => by rw [relabel, innerText, innerText, innerTextAll_relabelAll kids]
  | text _ => rfl

theorem innerTextAll_relabelAll : ∀ ts : List Tree,
    innerTextAll (relabelAll r ts) = innerTextAll ts
  | [] => rfl
  | t :: ts => by
    rw [relabelAll, innerTextAll, innerTextAll, innerText_relabel t, innerTextAll_relabelAll ts]

end

mutual

theorem parents_relabel : ∀ (t : Tree) (parent : Option Nat) (start : Nat),
    (t.relabel r).parents parent start = t.parents parent start
  | document kids, _, _ => by rw [relabel, parents, parents, parentsAll_relabelAll kids]
  | element _ _ kids, _, _ => by rw [relabel, parents, parents, parentsAll_relabelAll kids]
  | text _, _, _ => rfl

theorem parentsAll_relabelAll : ∀ (ts : List Tree) (parent start : Nat),
    parentsAll parent start (relabelAll r ts) = parentsAll parent start ts
  | [], _, _ => rfl
  | t :: ts, _, _ => by
    rw [relabelAll, parentsAll, parentsAll, parents_relabel t, size_relabel,
      parentsAll_relabelAll ts]

end

theorem starts_relabel (ts : List Tree) (start : Nat) :
    starts start (ts.map (relabel r)) = starts start ts := by
  induction ts generalizing start with
  | nil => rfl
  | cons t ts ih => rw [List.map_cons, starts, starts, size_relabel, ih]

end Tree

/-! ### Documents -/

namespace Document

theorem map_index_node? (d : Document) (i : Nat) :
    (d.node? i).map Node.index = if i < d.places.size then some i else none := by
  rw [node?]
  split_ifs <;> rfl

theorem size_places_of_relabel {d d' : Document} {r : Relabelling}
    (htree : d'.tree = d.tree.relabel r) : d'.places.size = d.places.size := by
  rw [size_places, size_places, htree, Tree.flatten_relabel, List.length_map]

end Document

namespace Node

/-- The nodes stand at the same place of their documents and have the same kind and text. -/
structure Corresponds (n n' : Node) : Prop where
  parent : n'.parent?.map index = n.parent?.map index
  children : n'.children.map index = n.children.map index
  isDocument : n'.isDocument = n.isDocument
  isElement : n'.isElement = n.isElement
  isText : n'.isText = n.isText
  innerText : n'.innerText = n.innerText

variable {r : Relabelling} {n n' : Node}

theorem tree_of_relabel (htree : n'.document.tree = n.document.tree.relabel r)
    (hindex : n.index = n'.index) : n'.tree = n.tree.relabel r := by
  have hplace := n'.getElem?_flatten
  rw [htree, Tree.flatten_relabel, List.getElem?_map, ← hindex, n.getElem?_flatten] at hplace
  exact (Option.some.inj hplace).symm

theorem corresponds_of_relabel (htree : n'.document.tree = n.document.tree.relabel r)
    (hindex : n.index = n'.index) : n.Corresponds n' := by
  have hsubtree := tree_of_relabel htree hindex
  have hparent : n'.place.parent = n.place.parent := by
    have hplace := n'.getElem?_parents
    rw [htree, Tree.parents_relabel, ← hindex, n.getElem?_parents] at hplace
    exact (Option.some.inj hplace).symm
  refine ⟨?_, ?_, ?_, ?_, ?_, ?_⟩
  · rw [parent?, parent?, hparent]
    cases n.place.parent with
    | none => rfl
    | some i =>
      rw [Option.bind_some, Option.bind_some, Document.map_index_node?, Document.map_index_node?,
        Document.size_places_of_relabel htree]
  · rw [map_index_children, map_index_children, hsubtree, Tree.children_relabel,
      Tree.starts_relabel, hindex]
  · rw [isDocument, isDocument, hsubtree, Tree.isDocument_relabel]
  · rw [isElement, isElement, hsubtree, Tree.isElement_relabel]
  · rw [isText, isText, hsubtree, Tree.isText_relabel]
  · rw [innerText, innerText, hsubtree, Tree.innerText_relabel]

end Node

/-! ### Building -/

/-- The event with another name and other attributes. -/
def Event.relabel (r : Relabelling) : Event → Event
  | start name attributes => start (r.name name) (r.attributes attributes)
  | empty name attributes => empty (r.name name) (r.attributes attributes)
  | close => close
  | text content => text content
  | cdata content => cdata content
  | ignored => ignored

/-- The open element with another name and other attributes, and relabelled children. -/
def OpenElement.relabel (r : Relabelling) (e : OpenElement) : OpenElement :=
  ⟨r.name e.name, r.attributes e.attributes, e.children.map (Tree.relabel r)⟩

namespace Nest

/-- The tree under construction with other names and attributes. -/
def relabel (r : Relabelling) (nest : Nest) : Nest :=
  ⟨nest.roots.map (Tree.relabel r), nest.opened.map (OpenElement.relabel r)⟩

variable (r : Relabelling)

theorem toTree_relabel (e : OpenElement) : (e.relabel r).toTree = e.toTree.relabel r := by
  rw [OpenElement.toTree, OpenElement.toTree, Tree.relabel, Tree.relabelAll_eq_map,
    List.map_reverse]
  rfl

theorem pushText_relabel (content : String) (trees : List Tree) :
    Tree.pushText content (trees.map (Tree.relabel r)) =
      (Tree.pushText content trees).map (Tree.relabel r) := by
  cases trees with
  | nil => rfl
  | cons t trees => cases t <;> rfl

theorem push_relabel (t : Tree) (nest : Nest) :
    push (t.relabel r) (nest.relabel r) = (push t nest).relabel r := by
  obtain ⟨roots, opened⟩ := nest
  cases opened <;> rfl

variable {r}

theorem openElement_relabel {nest next : Nest} {name : String}
    {attributes : List (String × String)} (h : nest.openElement name attributes = .ok next) :
    (nest.relabel r).openElement (r.name name) (r.attributes attributes) =
      .ok (next.relabel r) := by
  unfold openElement at h ⊢
  split_ifs at h with hroot
  cases h
  have hroot' : ¬ ((nest.relabel r).opened.isEmpty && !(nest.relabel r).roots.isEmpty) = true := by
    simpa [relabel] using hroot
  rw [if_neg hroot']
  rfl

theorem closeElement_relabel {nest next : Nest} (h : nest.closeElement = .ok next) :
    (nest.relabel r).closeElement = .ok (next.relabel r) := by
  obtain ⟨roots, opened⟩ := nest
  cases opened with
  | nil => cases h
  | cons e outer =>
    cases h
    rw [← push_relabel, ← toTree_relabel]
    rfl

theorem addText_relabel {content : String} {nest next : Nest}
    (h : nest.addText content = .ok next) :
    (nest.relabel r).addText content = .ok (next.relabel r) := by
  obtain ⟨roots, opened⟩ := nest
  unfold addText at h ⊢
  by_cases hempty : content = ""
  · rw [if_pos hempty] at h ⊢
    cases h
    rfl
  · rw [if_neg hempty] at h ⊢
    cases opened with
    | nil =>
      dsimp only at h
      split_ifs at h with hblank
      cases h
      exact if_pos hblank
    | cons e outer =>
      cases h
      simp [relabel, OpenElement.relabel, pushText_relabel]

/-- The step: an event with other names and attributes has the same effect. -/
theorem apply_relabel {nest next : Nest} {e : Event} (h : nest.apply e = .ok next) :
    (nest.relabel r).apply (e.relabel r) = .ok (next.relabel r) := by
  cases e with
  | start name attributes => exact openElement_relabel h
  | empty name attributes =>
    rw [apply] at h
    cases hopen : nest.openElement name attributes with
    | error fault =>
      rw [hopen] at h
      cases h
    | ok inside =>
      rw [hopen] at h
      rw [Event.relabel, apply, openElement_relabel hopen]
      exact closeElement_relabel h
  | close => exact closeElement_relabel h
  | text content => exact addText_relabel h
  | cdata content => exact addText_relabel h
  | ignored =>
    cases h
    rfl

/-- The run: all events with other names and attributes have the same effect. -/
theorem applyAll_relabel {nest next : Nest} {es : List Event} (h : nest.applyAll es = .ok next) :
    (nest.relabel r).applyAll (es.map (Event.relabel r)) = .ok (next.relabel r) := by
  induction es generalizing nest with
  | nil =>
    cases h
    rfl
  | cons e es ih =>
    obtain ⟨after, hstep, hrest⟩ := applyAll_cons_eq_ok_iff.mp h
    exact applyAll_cons_eq_ok_iff.mpr ⟨_, apply_relabel hstep, ih hrest⟩

theorem finish_relabel {nest : Nest} {t : Tree} (h : nest.finish = .ok t) :
    (nest.relabel r).finish = .ok (t.relabel r) := by
  obtain ⟨roots, opened⟩ := nest
  cases opened with
  | cons e outer => cases h
  | nil =>
    cases roots with
    | nil => cases h
    | cons root roots =>
      cases h
      rw [Tree.relabel, Tree.relabelAll_eq_map, List.map_reverse]
      rfl

end Nest

/-- Relabelled events make the relabelled tree. -/
theorem Tree.ofEvents_relabel {r : Relabelling} {es : List Event} {t : Tree}
    (h : ofEvents es = .ok t) : ofEvents (es.map (Event.relabel r)) = .ok (t.relabel r) := by
  rw [ofEvents] at h ⊢
  cases hnest : Nest.start.applyAll es with
  | error fault =>
    rw [hnest] at h
    cases h
  | ok nest =>
    rw [hnest] at h
    have hrun : Nest.start.applyAll (es.map (Event.relabel r)) = .ok (nest.relabel r) :=
      Nest.applyAll_relabel hnest
    rw [hrun]
    exact Nest.finish_relabel h

end MarkupRecords
