import MarkupRecords.Arena.Basic
import MarkupRecords.Markup

/-!
Filling an arena while the nodes of a text come in. A `Builder` knows which nodes are open, and adds
one node at a time below the innermost of them; a text goes on with a text that stands right before.
`Builder.apply` adds an event of an XML text, and `Builder.append` a tree of an HTML text.
`Arena.parse` is the arena of a text.
-/

set_option autoImplicit false
set_option relaxedAutoImplicit false

namespace MarkupRecords

/-- An arena under construction, with the numbers of the nodes that are open, the innermost first.
The document node stays open. -/
structure Builder where
  cells : List Cell
  opened : List Nat
deriving DecidableEq, Repr

namespace Builder

/-- There is nothing but the document node. -/
def start : Builder := ⟨[⟨.document, none, []⟩], [0]⟩

/-- The number of the innermost open node. -/
def current (b : Builder) : Nat := b.opened.head?.getD 0

/-- Something stands below the document node. -/
def hasRoot (b : Builder) : Bool := b.cells[0]?.any fun cell ↦ !cell.children.isEmpty

/-- Adds a node below the innermost open one, after its other children. -/
def pushNode (kind : NodeKind) (b : Builder) : Builder :=
  let cell : Cell := ⟨kind, some b.current, []⟩
  { b with cells := (b.cells ++ [cell]).modify b.current (Cell.addChild b.cells.length) }

/-- Adds an element, which is open from then on. -/
def pushElement (name : String) (attributes : List (String × String)) (b : Builder) : Builder :=
  { b.pushNode (.element name attributes) with opened := b.cells.length :: b.opened }

/-- The text that is the last child of the innermost open node: its number and its content. -/
def lastText? (b : Builder) : Option (Nat × String) := do
  let last ← (← b.cells[b.current]?).children.getLast?
  let content ← (← b.cells[last]?).kind.content?
  return (last, content)

/-- Adds a text. A text right before it goes on in the same node. -/
def pushText (content : String) (b : Builder) : Builder :=
  match b.lastText? with
  | some (last, before) =>
    { b with cells := b.cells.modify last (Cell.withKind (.text (before ++ content))) }
  | none => b.pushNode (.text content)

/-- The innermost open node is open no longer. -/
def pop (b : Builder) : Builder := { b with opened := b.opened.tail }

/-! ### Events -/

/-- Opens an element. -/
def openElement (name : String) (attributes : List (String × String)) (b : Builder) :
    Except NestFault Builder :=
  if b.opened.length = 1 && b.hasRoot then .error (.secondRoot name)
  else .ok (b.pushElement name attributes)

/-- Closes the innermost open element. -/
def closeElement (b : Builder) : Except NestFault Builder :=
  if b.opened.length ≤ 1 then .error .strayClose else .ok b.pop

/-- Adds a text of which something may stand outside of all elements. -/
def addText (content : String) (b : Builder) : Except NestFault Builder :=
  if content = "" then .ok b
  else if b.opened.length = 1 then
    if Text.isBlankText content then .ok b else .error (.strayText (Text.trimmed content))
  else .ok (b.pushText content)

/-- Adds one event. -/
def apply (b : Builder) : Event → Except NestFault Builder
  | .start name attributes => b.openElement name attributes
  | .empty name attributes => do (← b.openElement name attributes).closeElement
  | .close => b.closeElement
  | .text content => b.addText content
  | .cdata content => b.addText content
  | .ignored => .ok b

/-- Adds events from left to right. -/
def applyAll : Builder → List Event → Except NestFault Builder
  | b, [] => .ok b
  | b, e :: es => do applyAll (← b.apply e) es

/-- The arena, if everything is closed and there is an element. -/
def finish (b : Builder) : Except NestFault Arena :=
  if 1 < b.opened.length then
    match (b.cells[b.current]?).map Cell.kind with
    | some (.element name _) => .error (.unclosed name)
    | _ => .error (.unclosed "?")
  else if b.hasRoot then .ok ⟨b.cells⟩
  else .error .noRoot

/-! ### Trees -/

mutual

/-- Adds an element with what is in it, or a text. Anything else is left out. -/
def append (b : Builder) : Tree → Builder
  | .element name attributes kids => ((b.pushElement name attributes).appendAll kids).pop
  | .text content => b.pushText content
  | .document _ => b

/-- `append` for one tree after the other. -/
def appendAll (b : Builder) : List Tree → Builder
  | [] => b
  | t :: ts => (b.append t).appendAll ts

end

end Builder

namespace Arena

/-- The arena of an XML text. -/
def ofXml (naming : Xml.Naming) (text : String) : Except MarkupFault Arena :=
  let (events, fault) := Xml.events naming text
  match Builder.start.applyAll events with
  | .error nesting => .error (.nesting nesting)
  | .ok b =>
    match fault with
    | some fault => .error (.xml fault)
    | none => b.finish.mapError .nesting

/-- The arena of an HTML text. -/
def ofHtml (text : String) : Arena :=
  let c := Html.Construction.start.read (Html.normalize text.toList)
  ⟨(Builder.start.append c.stack.finish).cells⟩

/-- The arena of a text. -/
def parse (markup : Markup) (naming : Xml.Naming) (text : String) : Except MarkupFault Arena :=
  if markup.isHtml text then .ok (ofHtml text) else ofXml naming text

end Arena

end MarkupRecords
