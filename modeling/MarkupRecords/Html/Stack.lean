import MarkupRecords.Document.Event
import MarkupRecords.Html.Vocabulary

/-!
The open elements of an HTML document. A `Stack` holds the outermost element and above it a `Frame`
for each element that is open, with the children it has so far. `Stack.pop` closes the innermost
element and puts it where it belongs. An element that ended before what is inside it is a frame that
no longer counts as open; `Stack.settle` closes it as soon as nothing above it is open.
-/

set_option autoImplicit false
set_option relaxedAutoImplicit false

namespace MarkupRecords.Html

/-- Where an element or a text goes. -/
inductive Home where
  /-- Into the innermost open element. -/
  | inside
  /-- Before the innermost open table. -/
  | beforeTable
  /-- Into the head, which is closed. -/
  | head
deriving DecidableEq, Repr

/-- An open element above the outermost one. `id` tells it from others with the same name. -/
structure Frame extends OpenElement where
  id : Nat
  home : Home
  /-- Whether the element counts as open. -/
  counted : Bool

/-- The open elements, the innermost first, above the outermost element `html`. -/
structure Stack where
  frames : List Frame
  html : OpenElement

namespace Stack

/-- Nothing but the outermost element is open. -/
def start : Stack := ⟨[], ⟨"html", [], []⟩⟩

/-- The elements that count as open. -/
def counted (s : Stack) : List Frame := s.frames.filter (·.counted)

/-- The name of the innermost open element. -/
def current (s : Stack) : String := (s.counted.head?.map (·.name)).getD "html"

/-- Changes the children of the innermost open element. -/
def modifyChildren (f : List Tree → List Tree) (s : Stack) : Stack :=
  match s.frames with
  | [] => { s with html := { s.html with children := f s.html.children } }
  | e :: outer => { s with frames := { e with children := f e.children } :: outer }

/-- Changes the children of the element in which the innermost table stands. -/
def modifyAroundTable (f : List Tree → List Tree) (s : Stack) : Stack :=
  let inner := s.frames.takeWhile (·.name ≠ "table")
  match s.frames.dropWhile (·.name ≠ "table") with
  | [] => { s with html := { s.html with children := f s.html.children } }
  | table :: outer =>
    let around := modifyChildren f { s with frames := outer }
    { around with frames := inner ++ table :: around.frames }

/-- Changes the children of the head. -/
def modifyHead (f : List Tree → List Tree) (s : Stack) : Stack :=
  let change : Tree → Tree
    | .element "head" attributes children =>
      .element "head" attributes (f children.reverse).reverse
    | t => t
  { s with html := { s.html with children := s.html.children.map change } }

/-- Changes the children, the latest first, of the element in which something goes. -/
def modify (home : Home) (f : List Tree → List Tree) (s : Stack) : Stack :=
  match home with
  | .inside => s.modifyChildren f
  | .beforeTable => s.modifyAroundTable f
  | .head => s.modifyHead f

/-- Closes the innermost frame. -/
def close (s : Stack) : Stack :=
  match s.frames with
  | [] => s
  | e :: outer => modify e.home (e.toTree :: ·) { s with frames := outer }

/-- Closes frames from the innermost one outward. -/
def closeMany : Nat → Stack → Stack
  | 0, s => s
  | n + 1, s => closeMany n s.close

/-- Closes the innermost frames that do not count as open. -/
def settle (s : Stack) : Stack := s.closeMany (s.frames.takeWhile (!·.counted)).length

/-- Closes the innermost open element. -/
def pop (s : Stack) : Stack := s.close.settle

/-- Closes the innermost open elements as long as they satisfy `p`. -/
def popWhile (p : Frame → Bool) (s : Stack) : Stack :=
  s.closeMany (s.frames.takeWhile fun e ↦ !e.counted || p e).length

/-- Closes elements up to and including the first that satisfies `p`. -/
def popThrough (p : Frame → Bool) (s : Stack) : Stack := (s.popWhile (!p ·)).pop

/-- Whether an open element satisfies `p` and none of those named in `bounds` is open inside it. -/
def reaches (bounds : List String) (p : Frame → Bool) (s : Stack) : Bool :=
  (s.counted.find? fun e ↦ p e || bounds.contains e.name).any p

/-- The element `id` no longer counts as open, and closes when nothing inside it is open. -/
def release (id : Nat) (s : Stack) : Stack :=
  settle
    { s with frames := s.frames.map fun e ↦
        if e.id = id then { e with counted := false } else e }

/-- Opens an element. -/
def push (e : Frame) (s : Stack) : Stack := { s with frames := e :: s.frames }

/-- The outermost element, with everything closed. -/
def finish (s : Stack) : Tree := (s.closeMany s.frames.length).html.toTree

end Stack

end MarkupRecords.Html
