import MarkupRecords.Html.Stack
import MarkupRecords.Html.Token

/-!
An HTML document under construction. A `Construction` is the stack of open elements together with
what the rules for tags have to remember: the part of the document it is in (`Mode`), and the
formatting that goes on when the element it was written in has ended (`Formatting`). The functions
here are the steps that the rules are made of, such as opening an element, ending a paragraph, and
`adopt`, which ends formatting that overlaps with a block.
-/

set_option autoImplicit false
set_option relaxedAutoImplicit false

namespace MarkupRecords.Html

/-- The part of a document that is being read. -/
inductive Mode where
  | beforeDoctype
  | beforeHtml
  | beforeHead
  | inHead
  | afterHead
  | inBody
  | inTable
  | inCaption
  | inColumns
  | inRowGroup
  | inRow
  | inCell
  | inSelect
  | inSelectInTable
  | afterBody
  | afterHtml
  | inFrameset
  | afterFrameset
  | afterFramesetHtml
deriving DecidableEq, Repr

/-- Formatting that is in force, or the start of an element that keeps outer formatting out. -/
inductive Formatting where
  | marker
  | element (id : Nat) (name : String) (attributes : List (String × String))
deriving DecidableEq, Repr

namespace Formatting

/-- The entry is a marker. -/
def isMarker : Formatting → Bool
  | marker => true
  | element .. => false

/-- The entry is about the element `id`. -/
def isFor (id : Nat) : Formatting → Bool
  | marker => false
  | element id' _ _ => id' = id

/-- The entry is about an element with a name. -/
def isNamed (name : String) : Formatting → Bool
  | marker => false
  | element _ name' _ => name' = name

/-- The entry for an open element. -/
def ofFrame (e : Frame) : Formatting := .element e.id e.name e.attributes

end Formatting

/-- A document under construction. -/
structure Construction where
  stack : Stack
  mode : Mode
  /-- The formatting in force, the latest first. -/
  formatting : List Formatting
  /-- A number larger than those of all elements. -/
  fresh : Nat
  /-- The form that has not ended. -/
  form : Option Nat
  /-- Whether a frameset may still take the place of the body. -/
  framesAllowed : Bool
  /-- Whether the document is of a dated type. -/
  dated : Bool
  /-- Whether what goes directly into a table is put before it. -/
  fostering : Bool
  /-- Texts directly in a table whose place is not known yet, the latest first. -/
  pending : List String
  /-- Whether a line feed that comes next is left out. -/
  skipsLineFeed : Bool
  /-- What the following text is read as. -/
  content : Content

/-- The outcome of a rule. -/
inductive Step where
  /-- The token has been dealt with. -/
  | done (c : Construction)
  /-- The token is left to the rules of the mode. -/
  | again (c : Construction)

/-- The construction after a step, whether or not the token has been dealt with. -/
def Step.construction : Step → Construction
  | done c => c
  | again c => c

/-- Changes the construction after a step. -/
def Step.map (f : Construction → Construction) : Step → Step
  | done c => done (f c)
  | again c => again (f c)

namespace Construction

/-- The construction before anything has been read. -/
def start : Construction where
  stack := .start
  mode := .beforeDoctype
  formatting := []
  fresh := 1
  form := none
  framesAllowed := true
  dated := false
  fostering := false
  pending := []
  skipsLineFeed := false
  content := .markup

/-- Changes the stack. -/
def onStack (f : Stack → Stack) (c : Construction) : Construction := { c with stack := f c.stack }

/-- Goes on in another mode. -/
def enter (mode : Mode) (c : Construction) : Construction := { c with mode }

/-- A frameset can no longer take the place of the body. -/
def forbidFrames (c : Construction) : Construction := { c with framesAllowed := false }

/-- A line feed that comes next is not left out. -/
def keepLineFeed (c : Construction) : Construction := { c with skipsLineFeed := false }

/-- The name of the innermost open element. -/
def current (c : Construction) : String := c.stack.current

/-- Whether an element with one of the names is open, and inside it none of those in `bounds`. -/
def hasOpen (bounds names : List String) (c : Construction) : Bool :=
  c.stack.reaches bounds (names.contains ·.name)

/-- Where a child of the element `name` goes: not into a table, if its contents go before it. -/
def homeIn (name : String) (c : Construction) : Home :=
  if c.fostering && tableParts.contains name then .beforeTable else .inside

/-! ### Text and elements -/

/-- Adds a text. -/
def addText (content : String) (c : Construction) : Construction :=
  c.onStack (·.modify (c.homeIn c.current) (.text content :: ·))

/-- Opens an element that goes to `home`. -/
def insertAt (home : Home) (name : String) (attributes : List (String × String))
    (c : Construction) : Construction :=
  { c with
    stack := c.stack.push ⟨⟨name, attributes, []⟩, c.fresh, home, true⟩
    fresh := c.fresh + 1
    content := contentOf name }

/-- Opens an element. -/
def insert (name : String) (attributes : List (String × String)) (c : Construction) :
    Construction :=
  c.insertAt (c.homeIn c.current) name attributes

/-- Closes the innermost open element. -/
def pop (c : Construction) : Construction := c.onStack (·.pop)

/-- Adds an element without content. -/
def insertVoid (name : String) (attributes : List (String × String)) (c : Construction) :
    Construction :=
  (c.insert name attributes).pop

/-- Closes elements up to and including the first with one of the names. -/
def popThrough (names : List String) (c : Construction) : Construction :=
  c.onStack (·.popThrough (names.contains ·.name))

/-- Closes elements up to the first with one of the names. -/
def popTo (names : List String) (c : Construction) : Construction :=
  c.onStack (·.popWhile (!names.contains ·.name))

/-- Closes the elements whose end is implied, except those with the name. -/
def closeImplied (exception : String) (c : Construction) : Construction :=
  c.onStack (·.popWhile fun e ↦ e.name ≠ exception && impliedEnds.contains e.name)

/-- Ends an element and what is open inside it. -/
def closeThrough (name : String) (c : Construction) : Construction :=
  (c.closeImplied name).popThrough [name]

/-- Ends the open paragraph, if there is one. -/
def closeParagraph (c : Construction) : Construction :=
  if c.hasOpen paragraphBounds ["p"] then c.closeThrough "p" else c

/-- Adds the attributes that the outermost element does not have yet. -/
def addHtmlAttributes (attributes : List (String × String)) (c : Construction) : Construction :=
  c.onStack fun s ↦
    { s with html := { s.html with attributes := addAttributes attributes s.html.attributes } }

/-! ### Formatting -/

/-- Keeps the formatting so far out of what follows. -/
def mark (c : Construction) : Construction := { c with formatting := .marker :: c.formatting }

/-- Forgets the formatting back to the latest marker. -/
def clearToMarker (c : Construction) : Construction :=
  { c with formatting := (c.formatting.dropWhile (!·.isMarker)).drop 1 }

/-- The formatting since the latest marker. -/
def recent (c : Construction) : List Formatting := c.formatting.takeWhile (!·.isMarker)

/-- Forgets the formatting by an element. -/
def forget (id : Nat) (c : Construction) : Construction :=
  { c with formatting := c.formatting.filter (!·.isFor id) }

/-- Opens an element of formatting. Of equal ones only the latest three stay in force. -/
def insertFormatting (name : String) (attributes : List (String × String)) (c : Construction) :
    Construction :=
  let equal := c.recent.filterMap fun
    | .element id name' attributes' =>
      if name' = name ∧ attributes' = attributes then some id else none
    | .marker => none
  let c := if equal.length < 3 then c else equal.getLast?.elim c c.forget
  let c' := c.insert name attributes
  { c' with formatting := .element c.fresh name attributes :: c'.formatting }

/-- Opens the elements of formatting that are in force and not open, the earliest first. -/
def reopen (c : Construction) : List Formatting → Construction
  | [] => c
  | .marker :: _ => c
  | .element id name attributes :: earlier =>
    if c.stack.counted.any (·.id = id) then c
    else
      let c := c.reopen earlier
      let replace := fun (f : Formatting) ↦
        if f.isFor id then .element c.fresh name attributes else f
      let formatting := c.formatting.map replace
      { c.insert name attributes with formatting }

/-- Lets the formatting in force go on. -/
def reconstruct (c : Construction) : Construction := c.reopen c.formatting

/-- Ends an element that has no rule of its own, unless a special element is open inside it. -/
def closePlain (name : String) (c : Construction) : Construction :=
  match c.stack.counted.find? fun e ↦ e.name = name || special.contains e.name with
  | none => c
  | some e => if e.name = name then c.closeThrough name else c

/-! ### Formatting that overlaps with blocks -/

/-- The open elements around the end of formatting inside a block: the frames above the block, the
block, the frames between the block and the element of formatting, that element, and the frames
outside it; each list has the innermost first. -/
structure Overlap where
  above : List Frame
  block : Frame
  between : List Frame
  formatting : Frame
  outer : List Frame

/-- The overlap of the open element `id` with the outermost block inside it. -/
def overlap? (id : Nat) (s : Stack) : Option Overlap :=
  match s.frames.dropWhile (·.id ≠ id) with
  | [] => none
  | formatting :: outer =>
    let inner := (s.frames.takeWhile (·.id ≠ id)).reverse
    let plain := fun (e : Frame) ↦ !(e.counted && special.contains e.name)
    match inner.dropWhile plain with
    | [] => none
    | block :: above =>
      some ⟨above.reverse, block, (inner.takeWhile plain).reverse, formatting, outer⟩

/-- Copies of frames without children, with the numbers from `fresh` on. The outermost one, which
comes last, goes to `home`. -/
def copies (fresh : Nat) (home : Home) : List Frame → List Frame
  | [] => []
  | e :: es =>
    { e with id := fresh, children := [], home := if es.isEmpty then home else .inside } ::
      copies (fresh + 1) home es

/-- Ends formatting inside a block. The element of formatting and what is between it and the block
are closed with what they have. The block goes on outside, in copies of the formatting between, of
which only the three next to it are kept; and a copy of the ended element takes over what is in the
block so far. -/
def divide (o : Overlap) (c : Construction) : Construction :=
  let between := o.between.filter (·.counted)
  let kept := (between.take 3).filter fun e ↦ c.formatting.any (·.isFor e.id)
  let dropped := o.formatting.id :: (between.drop 3).map (·.id)
  let closed := Stack.settle <| Stack.closeMany (o.between.length + 1)
    { c.stack with frames := o.between ++ o.formatting :: o.outer }
  let home : Home := if tableParts.contains closed.current then .beforeTable else .inside
  let renewed := copies (c.fresh + 1) home kept
  let block := { o.block with children := [], home := if kept.isEmpty then home else .inside }
  let inside := { o.formatting with id := c.fresh, children := o.block.children, home := .inside }
  let renew := fun (f : Formatting) ↦
    ((kept.zip renewed).find? fun (e, _) ↦ f.isFor e.id).elim f fun (_, e) ↦ .ofFrame e
  let place := (kept.head?.getD o.formatting).id
  { c with
    stack := { closed with frames := o.above ++ inside :: block :: renewed ++ closed.frames }
    formatting := c.formatting.flatMap fun f ↦
      (if f.isFor place then [.ofFrame inside] else []) ++
        if dropped.any f.isFor then [] else [renew f]
    fresh := c.fresh + 1 + kept.length }

/-- Ends the latest formatting with a name, in up to `rounds` blocks. -/
def adoptIn (name : String) : (rounds : Nat) → Construction → Construction
  | 0, c => c
  | rounds + 1, c =>
    match c.recent.find? (·.isNamed name) with
    | some (.element id _ _) =>
      if !c.stack.counted.any (·.id = id) then c.forget id
      else if !c.stack.reaches scopeBounds (·.id = id) then c
      else
        match overlap? id c.stack with
        | none => (c.onStack (·.popThrough (·.id = id))).forget id
        | some o => adoptIn name rounds (c.divide o)
    | _ => c.closePlain name

/-- Ends formatting with a name. -/
def adopt (name : String) (c : Construction) : Construction :=
  if c.stack.counted.head?.any fun e ↦ e.name = name && !c.formatting.any (·.isFor e.id) then c.pop
  else c.adoptIn name 8

end Construction

end MarkupRecords.Html
