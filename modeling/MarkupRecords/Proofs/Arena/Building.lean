import MarkupRecords.Arena.Building
import MarkupRecords.Proofs.Arena.Layout

/-!
The arena of a text is that of its document. A builder and a nest take in events side by side: as
long as both know the same open nodes with the same trees below them (`Builder.Holds`), the cells of
the builder are those of these nodes, in the order of their numbers. A new node gets the next number
and is entered at the innermost open node (`Builder.Holds.pushElement`, `Builder.Holds.pushText`),
and to close a node changes no cell (`Builder.Holds.pop`). So each event is refused by both or keeps
them together (`Nest.Agrees.apply`), and in the end the builder has the arena of the document
(`Builder.Holds.finish`). A tree that comes in as a whole leaves the cells of the tree with its
texts joined (`Builder.Holds.append`). Hence `Arena.parse_eq`.
-/

set_option autoImplicit false
set_option relaxedAutoImplicit false

namespace MarkupRecords

section Lists

variable {α : Type} {before : List α} {i : Nat}

theorem getElem?_append_cons (hi : before.length = i) (a : α) (after : List α) :
    (before ++ a :: after)[i]? = some a := by
  subst hi
  simp

theorem modify_append_cons (hi : before.length = i) (f : α → α) (a : α) (after : List α) :
    (before ++ a :: after).modify i f = before ++ f a :: after := by
  subst hi
  rw [List.modify_eq_take_cons_drop (by simp)]
  simp

end Lists

/-! ### The cells of open nodes -/

/-- A node whose end has not come yet, with the trees below it so far, the latest first. -/
structure OpenNode where
  kind : NodeKind
  children : List Tree

namespace OpenNode

open MarkupRecords.Tree

/-- A tree as a node whose end has not come. -/
def ofTree (t : Tree) : OpenNode := ⟨t.kind, t.children.reverse⟩

/-- Puts a tree below a node, after the others. -/
def push (t : Tree) (n : OpenNode) : OpenNode := { n with children := t :: n.children }

/-- How many nodes there are at and below open nodes, which stand one inside the other. -/
def count : List OpenNode → Nat
  | [] => 0
  | n :: outer => count outer + 1 + sizeAll n.children.reverse

/-- The numbers of open nodes, the innermost first. -/
def numbers : List OpenNode → List Nat
  | [] => []
  | _ :: outer => count outer :: numbers outer

/-- The cells at and below open nodes, the innermost first, with the nodes at `inside` as the last
children of the innermost one. -/
def cells (inside : List Nat) : List OpenNode → List Cell
  | [] => []
  | n :: outer =>
    cells [count outer] outer ++
      ⟨n.kind, (numbers outer).head?, starts (count outer + 1) n.children.reverse ++ inside⟩ ::
        cellsAll (count outer) (count outer + 1) n.children.reverse

variable {n : OpenNode} {outer : List OpenNode}

theorem length_cells (inside : List Nat) (ns : List OpenNode) :
    (cells inside ns).length = count ns := by
  induction ns generalizing inside with
  | nil => rfl
  | cons n outer ih =>
    rw [cells, List.length_append, ih, List.length_cons, length_cellsAll, count]
    omega

theorem length_numbers (ns : List OpenNode) : (numbers ns).length = ns.length := by
  induction ns with
  | nil => rfl
  | cons n outer ih => rw [numbers, List.length_cons, ih, List.length_cons]

theorem getElem?_cells (inside : List Nat) : (cells inside (n :: outer))[count outer]? =
    some ⟨n.kind, (numbers outer).head?, starts (count outer + 1) n.children.reverse ++ inside⟩ :=
  getElem?_append_cons (length_cells _ outer) _ _

/-- A tree below an open node has its cells after all others. -/
theorem cells_push (t : Tree) : cells [] (n.push t :: outer) =
    cells [count (n :: outer)] (n :: outer) ++
      t.cells (some (count outer)) (count (n :: outer)) := by
  simp only [cells, push, count, List.reverse_cons, starts_append, cellsAll_append, starts,
    cellsAll, List.append_nil, List.append_assoc, List.cons_append]

/-- To close a node changes no cell. -/
theorem cells_ofTree (t : Tree) :
    cells [] (ofTree t :: n :: outer) = cells [] (n.push t :: outer) := by
  rw [cells_push, cells_eq, cells, ofTree]
  simp only [List.reverse_reverse, numbers, List.head?_cons, List.append_nil]

end OpenNode

namespace Builder

/-- The builder has these nodes open, the innermost first, and the cells at and below them. -/
structure Holds (b : Builder) (ns : List OpenNode) : Prop where
  cells : b.cells = OpenNode.cells [] ns
  opened : b.opened = OpenNode.numbers ns

namespace Holds

open OpenNode MarkupRecords.Tree

variable {b : Builder} {n : OpenNode} {ns outer : List OpenNode}

theorem length_opened (h : b.Holds ns) : b.opened.length = ns.length := by
  rw [h.opened, length_numbers]

theorem length_cells (h : b.Holds ns) : b.cells.length = count ns := by
  rw [h.cells, OpenNode.length_cells]

theorem current (h : b.Holds (n :: outer)) : b.current = count outer := by
  rw [Builder.current, h.opened, numbers]
  rfl

theorem getElem?_current (h : b.Holds (n :: outer)) : b.cells[b.current]? =
    some ⟨n.kind, (numbers outer).head?, starts (count outer + 1) n.children.reverse⟩ := by
  rw [h.current, h.cells, getElem?_cells, List.append_nil]

/-- A new node has the next number, and is entered at the innermost open node. -/
theorem cells_pushNode (h : b.Holds (n :: outer)) (kind : NodeKind) :
    (b.pushNode kind).cells = OpenNode.cells [] (⟨kind, []⟩ :: n :: outer) := by
  rw [pushNode, h.current, h.length_cells, h.cells]
  simp only [OpenNode.cells, List.append_nil, List.append_assoc, List.cons_append]
  rw [modify_append_cons (OpenNode.length_cells _ outer)]
  rfl

theorem pushElement (h : b.Holds (n :: outer)) (name : String)
    (attributes : List (String × String)) :
    (b.pushElement name attributes).Holds (⟨.element name attributes, []⟩ :: n :: outer) where
  cells := h.cells_pushNode _
  opened := by
    rw [Builder.pushElement, h.length_cells, h.opened]
    rfl

theorem pop {t : Tree} (h : b.Holds (ofTree t :: n :: outer)) :
    b.pop.Holds (n.push t :: outer) where
  cells := h.cells.trans (cells_ofTree t)
  opened := by
    rw [Builder.pop, h.opened]
    rfl

theorem lastText?_of_nil {kind : NodeKind} (h : b.Holds (⟨kind, []⟩ :: outer)) :
    b.lastText? = none := by
  rw [lastText?, h.getElem?_current]
  rfl

theorem lastText?_of_push {t : Tree} (h : b.Holds (n.push t :: outer)) :
    b.lastText? = t.kind.content?.map fun content ↦ (count (n :: outer), content) := by
  have hlast : b.cells[count (n :: outer)]? = some
      ⟨t.kind, some (count outer), starts (count (n :: outer) + 1) t.children⟩ := by
    rw [h.cells, cells_push, cells_eq, getElem?_append_cons (OpenNode.length_cells _ _)]
  have hchildren : (starts (count outer + 1) (n.push t).children.reverse).getLast? =
      some (count (n :: outer)) := by
    rw [push, List.reverse_cons, starts_append]
    exact List.getLast?_concat
  simp only [lastText?, h.getElem?_current, hchildren, hlast, bind, Option.bind_some]
  cases t.kind.content? <;> rfl

/-- A text goes on with the text before it, or is a new node. -/
theorem pushText (h : b.Holds (n :: outer)) (content : String) :
    (b.pushText content).Holds
      ({ n with children := Tree.pushText content n.children } :: outer) := by
  have hnew (hlast : b.lastText? = none) :
      (b.pushText content).Holds (n.push (.text content) :: outer) := by
    rw [Builder.pushText, hlast]
    exact ⟨(h.cells_pushNode _).trans (cells_ofTree (.text content)), h.opened⟩
  obtain ⟨kind, children⟩ := n
  cases children with
  | nil => exact hnew h.lastText?_of_nil
  | cons t rest =>
    -- `m` is the node as it was before its last tree came in
    let m : OpenNode := ⟨kind, rest⟩
    have hm : b.Holds (m.push t :: outer) := h
    cases t with
    | document | element => exact hnew hm.lastText?_of_push
    | text before =>
      rw [Builder.pushText, hm.lastText?_of_push]
      refine ⟨?_, hm.opened⟩
      change b.cells.modify (count (m :: outer)) _ = OpenNode.cells [] (m.push _ :: outer)
      rw [hm.cells, cells_push, cells_push]
      exact modify_append_cons (OpenNode.length_cells _ _) _ _ _

end Holds

end Builder

/-! ### Events -/

namespace Nest

/-- The open elements as open nodes, inside of the document node. -/
def nodes (nest : Nest) : List OpenNode :=
  nest.opened.map (fun e ↦ ⟨.element e.name e.attributes, e.children⟩) ++ [⟨.document, nest.roots⟩]

/-- A nest and a builder fail with the same fault, or know the same open nodes. -/
inductive Agrees : Except NestFault Nest → Except NestFault Builder → Prop where
  | error (fault : NestFault) : Agrees (.error fault) (.error fault)
  | ok {nest : Nest} {b : Builder} (h : b.Holds nest.nodes) : Agrees (.ok nest) (.ok b)

variable {nest : Nest} {b : Builder}

theorem Agrees.bind {x : Except NestFault Nest} {y : Except NestFault Builder}
    {f : Nest → Except NestFault Nest} {g : Builder → Except NestFault Builder} (h : Agrees x y)
    (hfg : ∀ nest b, b.Holds nest.nodes → Agrees (f nest) (g b)) : Agrees (x >>= f) (y >>= g) := by
  cases h with
  | error fault => exact .error fault
  | ok h => exact hfg _ _ h

theorem holds_start : Builder.start.Holds Nest.start.nodes := ⟨rfl, rfl⟩

theorem length_opened (h : b.Holds nest.nodes) : b.opened.length = nest.opened.length + 1 := by
  rw [h.length_opened, nodes, List.length_append, List.length_map]
  rfl

theorem hasRoot_eq {roots : List Tree} (h : b.Holds (Nest.mk roots []).nodes) :
    b.hasRoot = !roots.isEmpty := by
  have hcell := h.getElem?_current
  rw [h.current] at hcell
  change b.cells[0]? = _ at hcell
  rw [Builder.hasRoot, hcell]
  cases hroots : roots.reverse with
  | nil => simp_all [Tree.starts]
  | cons t ts =>
    have hne : roots ≠ [] := by
      rintro rfl
      cases hroots
    simp [Tree.starts, hne]

namespace Agrees

theorem openElement (h : b.Holds nest.nodes) (name : String)
    (attributes : List (String × String)) :
    Agrees (nest.openElement name attributes) (b.openElement name attributes) := by
  obtain ⟨roots, opened⟩ := nest
  have hcount := length_opened h
  rw [Nest.openElement, Builder.openElement, hcount]
  cases opened with
  | nil =>
    rw [hasRoot_eq h]
    cases roots with
    | nil => exact .ok (h.pushElement name attributes)
    | cons => exact .error _
  | cons => exact .ok (h.pushElement name attributes)

theorem closeElement (h : b.Holds nest.nodes) :
    Agrees nest.closeElement b.closeElement := by
  obtain ⟨roots, opened⟩ := nest
  have hcount := length_opened h
  rw [Nest.closeElement, Builder.closeElement, hcount]
  cases opened with
  | nil => exact .error _
  | cons e outer =>
    have hopen : b.Holds (.ofTree e.toTree :: (Nest.mk roots outer).nodes) := by
      rw [OpenElement.toTree, OpenNode.ofTree, Tree.children, List.reverse_reverse]
      exact h
    rw [if_neg (by simp)]
    cases outer with
    | nil => exact .ok hopen.pop
    | cons => exact .ok hopen.pop

theorem addText (h : b.Holds nest.nodes) (content : String) :
    Agrees (nest.addText content) (b.addText content) := by
  obtain ⟨roots, opened⟩ := nest
  have hcount := length_opened h
  rw [Nest.addText, Builder.addText, hcount]
  by_cases hempty : content = ""
  · rw [if_pos hempty, if_pos hempty]
    exact .ok h
  rw [if_neg hempty, if_neg hempty]
  cases opened with
  | nil =>
    simp only [List.length_nil, Nat.zero_add, if_true]
    split_ifs
    · exact .ok h
    · exact .error _
  | cons e outer =>
    have hinside : (e :: outer).length + 1 ≠ 1 := by simp
    simp only [if_neg hinside]
    exact .ok (h.pushText content)

theorem apply (h : b.Holds nest.nodes) (e : Event) : Agrees (nest.apply e) (b.apply e) := by
  cases e with
  | start name attributes => exact openElement h name attributes
  | empty name attributes =>
    exact (openElement h name attributes).bind fun _ _ hopen ↦ closeElement hopen
  | close => exact closeElement h
  | text content => exact addText h content
  | cdata content => exact addText h content
  | ignored => exact .ok h

theorem applyAll (h : b.Holds nest.nodes) (es : List Event) :
    Agrees (nest.applyAll es) (b.applyAll es) := by
  induction es generalizing nest b with
  | nil => exact .ok h
  | cons e es ih => exact (apply h e).bind fun _ _ hnext ↦ ih hnext

end Agrees

end Nest

theorem Builder.Holds.finish {nest : Nest} {b : Builder} (h : b.Holds nest.nodes) :
    b.finish = nest.finish.map Tree.arena := by
  obtain ⟨roots, opened⟩ := nest
  have hcount := Nest.length_opened h
  rw [Nest.finish, Builder.finish, hcount]
  cases opened with
  | nil =>
    rw [if_neg (by simp), Nest.hasRoot_eq h]
    cases roots with
    | nil => rfl
    | cons t ts =>
      have hcells : b.cells = (Tree.document (t :: ts).reverse).cells none 0 := by
        rw [h.cells, Tree.cells]
        simp [Nest.nodes, OpenNode.cells, OpenNode.count, OpenNode.numbers]
      rw [hcells]
      rfl
  | cons e outer =>
    let n : OpenNode := ⟨.element e.name e.attributes, e.children⟩
    have hopen : b.Holds (n :: (Nest.mk roots outer).nodes) := h
    rw [if_pos (by simp), hopen.getElem?_current]
    rfl

/-! ### Trees -/

namespace Builder.Holds

open OpenNode MarkupRecords.Tree

mutual

/-- An element comes in with the texts in it joined. -/
theorem append : ∀ (t : Tree) {b : Builder} {n : OpenNode} {outer : List OpenNode},
    t.isElement = true → b.Holds (n :: outer) →
      (b.append t).Holds (n.push t.joinTexts :: outer)
  | document _, _, _, _, helement, _ => by
    cases helement
  | element name attributes kids, b, n, outer, _, h => by
    have hkids := appendAll kids (h.pushElement name attributes)
    rw [Builder.append, joinTexts]
    exact hkids.pop
  | text _, _, _, _, helement, _ => by
    cases helement

theorem appendAll : ∀ (ts : List Tree) {b : Builder} {n : OpenNode} {outer : List OpenNode},
    b.Holds (n :: outer) →
      (b.appendAll ts).Holds
        ({ n with children := (joinTextsAfter n.children ts).reverse } :: outer)
  | [], b, n, outer, h => by
    rw [joinTextsAfter, List.reverse_reverse]
    exact h
  | text content :: ts, b, n, outer, h => by
    rw [joinTextsAfter]
    exact appendAll ts (h.pushText content)
  | document _ :: ts, b, n, outer, h => by
    rw [joinTextsAfter]
    exact appendAll ts h
  | element name attributes kids :: ts, b, n, outer, h => by
    rw [joinTextsAfter]
    · exact appendAll ts (append (element name attributes kids) rfl h)
    · nofun
    · nofun

end

end Builder.Holds

/-! ### Whole documents -/

namespace Builder

/-- From events the builder makes the arena of the tree that they describe. It refuses other events
for the same reason. -/
theorem finish_applyAll (es : List Event) :
    (start.applyAll es).bind finish = (Tree.ofEvents es).map Tree.arena := by
  have hagrees := Nest.Agrees.applyAll Nest.holds_start es
  rw [Tree.ofEvents]
  generalize Nest.start.applyAll es = x, start.applyAll es = y at hagrees ⊢
  cases hagrees with
  | error fault => rfl
  | ok h => exact h.finish

/-- From an element the builder makes the arena of the document with the texts in it joined. -/
theorem arena_append {t : Tree} (ht : t.isElement = true) :
    Arena.mk (start.append t).cells = (Tree.document [t.joinTexts]).arena := by
  have hstart : start.Holds [⟨.document, []⟩] := ⟨rfl, rfl⟩
  have h := hstart.append t ht
  rw [Tree.arena, h.cells, Tree.cells]
  simp [OpenNode.cells, OpenNode.count, OpenNode.numbers, OpenNode.push]

end Builder

/-! ### Texts -/

namespace Arena

theorem ofXml_eq (naming : Xml.Naming) (text : String) :
    ofXml naming text = (Xml.parse naming text).map Tree.arena := by
  rw [ofXml, Xml.parse]
  obtain ⟨es, fault⟩ := Xml.events naming text
  have hagrees := Nest.Agrees.applyAll Nest.holds_start es
  dsimp only
  generalize Nest.start.applyAll es = x, Builder.start.applyAll es = y at hagrees
  cases hagrees with
  | error nesting => rfl
  | @ok nest b h =>
    cases fault with
    | some fault => rfl
    | none =>
      simp only [h.finish]
      cases nest.finish <;> rfl

theorem ofHtml_eq (text : String) : ofHtml text = (Html.parse text).arena :=
  Builder.arena_append rfl

/-- The arena of a text is that of the document the text describes, and a text without a document
has no arena for the same reason. -/
theorem parse_eq (markup : Markup) (naming : Xml.Naming) (text : String) :
    parse markup naming text = (Document.parse markup naming text).map Document.arena := by
  rw [parse, Document.parse]
  split_ifs
  · rw [ofHtml_eq, Except.map, Document.arena_eq]
    rfl
  · rw [ofXml_eq]
    cases Xml.parse naming text with
    | error fault => rfl
    | ok t =>
      have hcells := (Document.ofTree t).arena_eq
      exact congrArg Except.ok hcells.symm

end Arena

end MarkupRecords
