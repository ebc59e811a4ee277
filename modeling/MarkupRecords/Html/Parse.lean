import MarkupRecords.Html.Rule

/-!
From HTML text to trees. `Html.parse` makes a document of any text: `Construction.read` takes one
token after the other off the text, and the text of elements such as `script` as a whole. There is
always one outermost element, and texts that stand side by side are made one.
-/

set_option autoImplicit false
set_option relaxedAutoImplicit false

namespace MarkupRecords.Html

open Text (Taken)

/-- A text with a line feed at the end of each line. -/
def normalizeLines : List Char → List Char
  | [] => []
  | '\r' :: '\n' :: cs => '\n' :: normalizeLines cs
  | '\r' :: cs => '\n' :: normalizeLines cs
  | c :: cs => c :: normalizeLines cs

/-- A text without a byte order mark at its start, and with a line feed at the end of each line. -/
def normalize (cs : List Char) : List Char :=
  match cs with
  | '\uFEFF' :: cs => normalizeLines cs
  | cs => normalizeLines cs

namespace Construction

/-- Adds the content of the innermost open element, which is text only, and closes it. -/
def addContent (cs : List Char) (c : Construction) : Construction :=
  let cs := cs.map visible
  let skips := c.current = "textarea" && !beginsFlawed cs
  let text := if c.content = .escapable then expand false cs else cs
  let text := if skips && text.head? == some '\n' then text.drop 1 else text
  let c := { c with content := .markup }
  (if text.isEmpty then c else c.addText (.ofList text)).pop

/-- Reads the content that the latest start tag announces, unless it is markup. -/
def readContent (c : Construction) (cs : List Char) : Taken Construction (cs.length + 1) :=
  match c.content with
  | .markup => .untouched c cs
  | .plain =>
    .exhausted ((plainTokens (cs.map visible)).foldl (fun c token ↦ c.take token) c) cs
  | content =>
    let content := splitContent c.current (if content = .script then .outside else .never) cs
    (content.andThen skipTag).map fun _ ↦ c.addContent content.value

/-- Reads the token at the start of the text `first :: cs`, and the content it announces. -/
def readPiece (c : Construction) (first : Char) (cs : List Char) :
    Taken Construction (cs.length + 1) :=
  let token := readToken first cs
  let c := if c.skipsLineFeed && beginsFlawed (first :: cs) then c.keepLineFeed else c
  let c := token.value.elim c fun token ↦ c.take token
  token.andThen c.readContent

/-- Reads a text from its start to its end. -/
def read (c : Construction) (cs : List Char) : Construction :=
  match cs with
  | [] => c.take .ending
  | first :: cs =>
    let piece := c.readPiece first cs
    read piece.value piece.rest
termination_by cs.length
decreasing_by exact (c.readPiece first cs).shorter

end Construction

/-- The document that a text describes. -/
def parse (text : String) : Tree :=
  let c := Construction.start.read (normalize text.toList)
  .document [c.stack.finish.joinTexts]

end MarkupRecords.Html
