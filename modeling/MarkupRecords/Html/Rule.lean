import MarkupRecords.Html.Rule.Table

/-!
The rules for tokens of HTML, for all parts of a document. `Construction.step` chooses by the mode,
and `Construction.take` deals with a token altogether: it places what waits for the token and then
follows the rules from mode to mode until one of them has dealt with the token.
-/

set_option autoImplicit false
set_option relaxedAutoImplicit false

namespace MarkupRecords.Html

namespace Construction

/-- Between the end of the body, or of the outermost element after it, and the end of the text. -/
def afterBody (token : Token) (c : Construction) : Step :=
  match token with
  | .blank _ => c.inBody token
  | .comment | .doctype _ | .ending => .done c
  | .start "html" attributes => .done (c.addHtmlAttributes attributes)
  | .finish "html" =>
    if c.mode = .afterBody then .done (c.enter .afterHtml) else .again (c.enter .inBody)
  | _ => .again (c.enter .inBody)

/-- In a frameset. -/
def inFrameset (token : Token) (c : Construction) : Step :=
  .done <|
    match token with
    | .blank content => c.addText content
    | .start "html" attributes => c.addHtmlAttributes attributes
    | .start "frameset" attributes => c.insert "frameset" attributes
    | .start "frame" attributes => c.insertVoid "frame" attributes
    | .start "noframes" attributes => c.insert "noframes" attributes
    | .finish "frameset" =>
      let c := c.pop
      if c.current = "frameset" then c else c.enter .afterFrameset
    | _ => c

/-- Between the end of the outermost frameset, or of the outermost element after it, and the end of
the text. -/
def afterFrameset (token : Token) (c : Construction) : Step :=
  .done <|
    match token with
    | .blank content =>
      (if c.mode = .afterFrameset then c else c.reconstruct).addText content
    | .start "html" attributes => c.addHtmlAttributes attributes
    | .start "noframes" attributes => c.insert "noframes" attributes
    | .finish "html" => c.enter .afterFramesetHtml
    | _ => c

/-- Deals with a token by the rules of the mode. -/
def step (token : Token) (c : Construction) : Step :=
  match c.mode with
  | .beforeDoctype => c.beforeDoctype token
  | .beforeHtml => c.beforeHtml token
  | .beforeHead => c.beforeHead token
  | .inHead => c.inHead token
  | .afterHead => c.afterHead token
  | .inBody => c.inBody token
  | .inTable => c.inTable token
  | .inCaption => c.inCaption token
  | .inColumns => c.inColumns token
  | .inRowGroup => c.inRowGroup token
  | .inRow => c.inRow token
  | .inCell => c.inCell token
  | .inSelect => c.inSelect token
  | .inSelectInTable => c.inSelectInTable token
  | .afterBody | .afterHtml => c.afterBody token
  | .inFrameset => c.inFrameset token
  | .afterFrameset | .afterFramesetHtml => c.afterFrameset token

/-- Deals with a token by the rules of one mode after the other, of at most `rounds` modes. -/
def steps (token : Token) : (rounds : Nat) → Construction → Construction
  | 0, c => c
  | rounds + 1, c =>
    match c.step token with
    | .done c => c
    | .again c => steps token rounds c

/-- Finds the place of texts that wait for it, unless the token may be more text or is a document
type, which means nothing there. -/
def settlePending (token : Token) (c : Construction) : Construction :=
  match token with
  | .blank _ | .text _ | .null | .doctype _ => c
  | _ => c.placePending

/-- Deals with a token. Each mode that leaves the token to another one closes an element or is one
of the few that follow each other without doing so; this bounds the rounds. -/
def take (token : Token) (c : Construction) : Construction :=
  let c' := c.keepLineFeed
  match if c.skipsLineFeed then token.withoutLineFeed? else some token with
  | none => c'
  | some token =>
    let c' := c'.settlePending token
    c'.steps token (c'.stack.frames.length + 16)

end Construction

end MarkupRecords.Html
