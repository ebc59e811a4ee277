import MarkupRecords.Html.Construction

/-!
The rules for what comes before the body of an HTML document: the document type, the outermost
element and the head. What does not belong there makes the document go on to the next part, so that
head and body come to be also when no tag opens them.
-/

set_option autoImplicit false
set_option relaxedAutoImplicit false

namespace MarkupRecords.Html

namespace Construction

/-- An element that belongs into the head goes to `home`. -/
def insertMetadata (home : Home) (name : String) (attributes : List (String × String))
    (c : Construction) : Construction :=
  let c := c.insertAt home name attributes
  if metadataVoids.contains name then c.pop else c

/-- Before the document type. -/
def beforeDoctype (token : Token) (c : Construction) : Step :=
  match token with
  | .blank _ | .comment => .done c
  | .doctype declaration => .done ({ c with dated := declaration.isDated }.enter .beforeHtml)
  | _ => .again ({ c with dated := true }.enter .beforeHtml)

/-- Before the outermost element. -/
def beforeHtml (token : Token) (c : Construction) : Step :=
  match token with
  | .blank _ | .comment | .doctype _ => .done c
  | .start "html" attributes => .done ((c.addHtmlAttributes attributes).enter .beforeHead)
  | .finish name =>
    if ["head", "body", "html", "br"].contains name then .again (c.enter .beforeHead) else .done c
  | _ => .again (c.enter .beforeHead)

/-- Between the start of the outermost element and the head. -/
def beforeHead (token : Token) (c : Construction) : Step :=
  match token with
  | .blank _ | .comment | .doctype _ => .done c
  | .start "html" attributes => .done (c.addHtmlAttributes attributes)
  | .start "head" attributes => .done ((c.insert "head" attributes).enter .inHead)
  | .finish name =>
    if ["head", "body", "html", "br"].contains name then
      .again ((c.insert "head" []).enter .inHead)
    else .done c
  | _ => .again ((c.insert "head" []).enter .inHead)

/-- In the head. -/
def inHead (token : Token) (c : Construction) : Step :=
  let leave := .again (c.pop.enter .afterHead)
  match token with
  | .blank content => .done (c.addText content)
  | .comment | .doctype _ => .done c
  | .start name attributes =>
    if name = "html" then .done (c.addHtmlAttributes attributes)
    else if name = "noscript" || headContents.contains name then
      .done (c.insertMetadata .inside name attributes)
    else if name = "head" then .done c
    else leave
  | .finish name =>
    if name = "head" then .done (c.pop.enter .afterHead)
    else if ["body", "html", "br"].contains name then leave
    else .done c
  | _ => leave

/-- Between the head and the body. -/
def afterHead (token : Token) (c : Construction) : Step :=
  let begin := .again ((c.insert "body" []).enter .inBody)
  match token with
  | .blank content => .done (c.addText content)
  | .comment | .doctype _ => .done c
  | .start name attributes =>
    if name = "html" then .done (c.addHtmlAttributes attributes)
    else if name = "body" then .done ((c.insert "body" attributes).forbidFrames.enter .inBody)
    else if name = "frameset" then .done ((c.insert "frameset" attributes).enter .inFrameset)
    else if headContents.contains name then .done (c.insertMetadata .head name attributes)
    else if name = "head" then .done c
    else begin
  | .finish name => if ["body", "html", "br"].contains name then begin else .done c
  | _ => begin

end Construction

end MarkupRecords.Html
