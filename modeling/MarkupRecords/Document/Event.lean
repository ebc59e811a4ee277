import MarkupRecords.Document.Tree
import MarkupRecords.Text.Blank
import MarkupRecords.Text.Quoted

/-!
Building a tree from the events of a markup text. A reader delivers an `Event` for each piece of the
text; a `Nest` holds the elements that are open and what they contain so far. `Nest.apply` adds one
event, `Tree.ofEvents` adds all of them and then asks for a single element that is closed. Texts
that no element separates become one text node, and blank text outside the element is dropped.
-/

set_option autoImplicit false
set_option relaxedAutoImplicit false

namespace MarkupRecords

/-- One piece of a markup text. -/
inductive Event where
  | start (name : String) (attributes : List (String × String))
  /-- An element without content. -/
  | empty (name : String) (attributes : List (String × String))
  /-- The end of the innermost open element. -/
  | close
  | text (content : String)
  /-- Text that was written without references. -/
  | cdata (content : String)
  /-- A piece that leaves nothing in the tree, such as a comment. -/
  | ignored
deriving DecidableEq, Repr

/-- Why events make no document. -/
inductive NestFault where
  | secondRoot (name : String)
  | strayClose
  | strayText (content : String)
  | unclosed (name : String)
  | noRoot
deriving DecidableEq, Repr

/-- A fault of nesting in words. -/
def NestFault.message : NestFault → String
  | secondRoot name => "unexpected second root element <" ++ name ++ ">"
  | strayClose => "closing tag without matching open tag"
  | strayText content => "text outside of the root element: " ++ Text.quoted content
  | unclosed name => "unclosed element <" ++ name ++ ">"
  | noRoot => "document has no root element"

/-- An element whose end has not come yet, with its children so far, the latest first. -/
structure OpenElement where
  name : String
  attributes : List (String × String)
  children : List Tree

/-- An element that ends with the children it has so far. -/
def OpenElement.toTree (e : OpenElement) : Tree :=
  .element e.name e.attributes e.children.reverse

/-- A tree under construction: the children of the document node, the latest first, and the open
elements, the innermost first. -/
structure Nest where
  roots : List Tree
  opened : List OpenElement

/-- Adds a text after other trees, the latest first. A text right before it goes on in the same
node. -/
def Tree.pushText (content : String) : List Tree → List Tree
  | .text before :: trees => .text (before ++ content) :: trees
  | trees => .text content :: trees

namespace Tree

mutual

/-- The tree with texts that stand side by side made one. -/
def joinTexts : Tree → Tree
  | document kids => document (joinTextsAfter [] kids)
  | element n as kids => element n as (joinTextsAfter [] kids)
  | text s => text s

/-- The trees `before`, the latest first, and others after them, with texts that stand side by side
made one. Only elements and texts can stand inside a tree; anything else is left out. -/
def joinTextsAfter (before : List Tree) : List Tree → List Tree
  | [] => before.reverse
  | text s :: ts => joinTextsAfter (pushText s before) ts
  | document _ :: ts => joinTextsAfter before ts
  | t :: ts => joinTextsAfter (joinTexts t :: before) ts

end

end Tree

namespace Nest

/-- Nothing is open and nothing has been built. -/
def start : Nest := ⟨[], []⟩

/-- Adds a finished element to the innermost open one. -/
def push (t : Tree) (nest : Nest) : Nest :=
  match nest.opened with
  | [] => { nest with roots := t :: nest.roots }
  | e :: outer => { nest with opened := { e with children := t :: e.children } :: outer }

/-- Opens an element. -/
def openElement (name : String) (attributes : List (String × String)) (nest : Nest) :
    Except NestFault Nest :=
  if nest.opened.isEmpty && !nest.roots.isEmpty then .error (.secondRoot name)
  else .ok { nest with opened := ⟨name, attributes, []⟩ :: nest.opened }

/-- Closes the innermost open element. -/
def closeElement (nest : Nest) : Except NestFault Nest :=
  match nest.opened with
  | [] => .error .strayClose
  | e :: outer => .ok (push e.toTree { nest with opened := outer })

/-- Adds a text. -/
def addText (content : String) (nest : Nest) : Except NestFault Nest :=
  if content = "" then .ok nest
  else
    match nest.opened with
    | [] =>
      if Text.isBlankText content then .ok nest
      else .error (.strayText (Text.trimmed content))
    | e :: outer =>
      .ok { nest with opened := { e with children := Tree.pushText content e.children } :: outer }

/-- Adds one event. -/
def apply (nest : Nest) : Event → Except NestFault Nest
  | .start name attributes => nest.openElement name attributes
  | .empty name attributes => do (← nest.openElement name attributes).closeElement
  | .close => nest.closeElement
  | .text content => nest.addText content
  | .cdata content => nest.addText content
  | .ignored => .ok nest

/-- Adds events from left to right. -/
def applyAll : Nest → List Event → Except NestFault Nest
  | nest, [] => .ok nest
  | nest, e :: es => do applyAll (← nest.apply e) es

/-- The document, if everything is closed and there is an element. -/
def finish (nest : Nest) : Except NestFault Tree :=
  match nest.opened with
  | e :: _ => .error (.unclosed e.name)
  | [] => if nest.roots.isEmpty then .error .noRoot else .ok (.document nest.roots.reverse)

end Nest

/-- The document that events describe. -/
def Tree.ofEvents (events : List Event) : Except NestFault Tree := do
  (← Nest.start.applyAll events).finish

end MarkupRecords
