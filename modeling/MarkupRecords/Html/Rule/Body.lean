import MarkupRecords.Html.Rule.Head

/-!
The rules for the body of an HTML document. `startInBody` and `finishInBody` are the rules for tags;
`inBody` adds those for text. The rules for tables fall back on these.
-/

set_option autoImplicit false
set_option relaxedAutoImplicit false

namespace MarkupRecords.Html

namespace Construction

/-- A list item, or a term or description, ends the open one of its kind. The search goes outward
past elements that are not special, and past `address`, `div` and `p`. -/
def closeItem (names : List String) (c : Construction) : Construction :=
  let crossed := ["address", "div", "p"]
  let stops := fun (e : Frame) ↦
    names.contains e.name || special.contains e.name && !crossed.contains e.name
  match c.stack.counted.find? stops with
  | some e => if names.contains e.name then c.closeThrough e.name else c
  | none => c

/-- Adds to the body the attributes that it does not have yet. -/
def addBodyAttributes (attributes : List (String × String)) (c : Construction) : Construction :=
  match c.stack.counted.getLast? with
  | some body =>
    if body.name = "body" then
      forbidFrames <| c.onStack fun s ↦
        { s with frames := s.frames.map fun e ↦
            if e.id = body.id then { e with attributes := addAttributes attributes e.attributes }
            else e }
    else c
  | none => c

/-- Puts a frameset in the place of the body. -/
def replaceBody (attributes : List (String × String)) (c : Construction) : Construction :=
  if c.framesAllowed && (c.stack.counted.getLast?).any (·.name = "body") then
    (({ c with stack := { c.stack with frames := [] } }).insert "frameset" attributes).enter
      .inFrameset
  else c

/-- The mode for a list of choices. -/
def selectMode (c : Construction) : Mode :=
  if [.inTable, .inCaption, .inRowGroup, .inRow, .inCell].contains c.mode then .inSelectInTable
  else .inSelect

/-- A start tag of formatting. A link ends the link before it. -/
def startFormatting (name : String) (attributes : List (String × String)) (c : Construction) :
    Construction :=
  let c :=
    if name = "a" then
      match c.recent.find? (·.isNamed "a") with
      | some (.element id _ _) => ((c.adopt "a").forget id).onStack (·.release id)
      | _ => c
    else if name = "nobr" then
      let c := c.reconstruct
      if c.hasOpen scopeBounds ["nobr"] then c.adopt "nobr" else c
    else c
  c.reconstruct.insertFormatting name attributes

/-- A start tag that begins a block of its own kind. -/
def startBlock? (name : String) (attributes : List (String × String)) (c : Construction) :
    Option Construction :=
  if blocks.contains name then some (c.closeParagraph.insert name attributes)
  else if headings.contains name then
    let c := c.closeParagraph
    let c := if headings.contains c.current then c.pop else c
    some (c.insert name attributes)
  else
    match name with
    | "pre" | "listing" =>
      some { (c.closeParagraph.insert name attributes).forbidFrames with skipsLineFeed := true }
    | "form" =>
      if c.form.isSome then some c
      else
        let c := c.closeParagraph
        some { c.insert name attributes with form := some c.fresh }
    | "li" => some ((c.forbidFrames.closeItem ["li"]).closeParagraph.insert name attributes)
    | "dd" | "dt" =>
      some ((c.forbidFrames.closeItem ["dd", "dt"]).closeParagraph.insert name attributes)
    | "plaintext" => some (c.closeParagraph.insert name attributes)
    | "hr" => some (c.closeParagraph.insertVoid name attributes).forbidFrames
    | "xmp" => some (c.closeParagraph.reconstruct.forbidFrames.insert name attributes)
    | "table" =>
      let c := if c.dated then c else c.closeParagraph
      some ((c.insert name attributes).forbidFrames.enter .inTable)
    | _ => none

/-- A start tag in the body. -/
def startInBody (name : String) (attributes : List (String × String)) (c : Construction) :
    Construction :=
  if headContents.contains name then c.insertMetadata (c.homeIn c.current) name attributes
  else if formattingNames.contains name then c.startFormatting name attributes
  else if embeddings.contains name then
    (c.reconstruct.insert name attributes).mark.forbidFrames
  else if inlineVoids.contains name then
    let c := c.reconstruct.insertVoid name attributes
    let hidden := (attributes.lookup "type").any (lowercase ·.toList == "hidden")
    if name = "input" && hidden then c else c.forbidFrames
  else if sourceVoids.contains name then c.insertVoid name attributes
  else if ["frame", "head"].contains name || tableContents.contains name then c
  else
    match c.startBlock? name attributes with
    | some c => c
    | none =>
      match name with
      | "html" => c.addHtmlAttributes attributes
      | "body" => c.addBodyAttributes attributes
      | "frameset" => c.replaceBody attributes
      | "button" =>
        let c := if c.hasOpen scopeBounds ["button"] then c.closeThrough "button" else c
        (c.reconstruct.insert name attributes).forbidFrames
      | "image" => (c.reconstruct.insertVoid "img" attributes).forbidFrames
      | "textarea" | "iframe" => (c.insert name attributes).forbidFrames
      | "noembed" | "noscript" => c.insert name attributes
      | "select" => (c.reconstruct.insert name attributes).forbidFrames.enter c.selectMode
      | "optgroup" | "option" =>
        let c := if c.current = "option" then c.pop else c
        c.reconstruct.insert name attributes
      | "rb" | "rtc" =>
        let c := if c.hasOpen scopeBounds ["ruby"] then c.closeImplied "" else c
        c.insert name attributes
      | "rp" | "rt" =>
        let c := if c.hasOpen scopeBounds ["ruby"] then c.closeImplied "rtc" else c
        c.insert name attributes
      | _ => c.reconstruct.insert name attributes

/-- The end tag of a form, which leaves open what is not closed inside. -/
def finishForm (c : Construction) : Construction :=
  match c.form with
  | none => c
  | some id =>
    let c := { c with form := none }
    if c.stack.reaches scopeBounds (·.id = id) then
      (c.closeImplied "").onStack (·.release id)
    else c

/-- An end tag in the body. -/
def finishInBody (name : String) (c : Construction) : Step :=
  if enclosing.contains name then
    .done (if c.hasOpen scopeBounds [name] then c.closeThrough name else c)
  else if formattingNames.contains name then .done (c.adopt name)
  else if headings.contains name then
    .done <|
      if c.hasOpen scopeBounds headings then (c.closeImplied "").popThrough headings else c
  else if embeddings.contains name then
    .done <| if c.hasOpen scopeBounds [name] then (c.closeThrough name).clearToMarker else c
  else
    match name with
    | "body" => .done (if c.hasOpen scopeBounds ["body"] then c.enter .afterBody else c)
    | "html" =>
      if c.hasOpen scopeBounds ["body"] then .again (c.enter .afterBody) else .done c
    | "form" => .done c.finishForm
    | "p" =>
      let c := if c.hasOpen paragraphBounds ["p"] then c else c.insert "p" []
      .done (c.closeThrough "p")
    | "li" => .done (if c.hasOpen listBounds ["li"] then c.closeThrough "li" else c)
    | "dd" | "dt" => .done (if c.hasOpen scopeBounds [name] then c.closeThrough name else c)
    | "br" => .done (c.startInBody "br" [])
    | _ => .done (c.closePlain name)

/-- In the body. -/
def inBody (token : Token) (c : Construction) : Step :=
  match token with
  | .blank content => .done (c.reconstruct.addText content)
  | .text content => .done (c.reconstruct.addText content).forbidFrames
  | .start name attributes => .done (c.startInBody name attributes)
  | .finish name => c.finishInBody name
  | .null | .comment | .doctype _ | .ending => .done c

end Construction

end MarkupRecords.Html
