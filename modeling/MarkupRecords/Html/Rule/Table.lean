import MarkupRecords.Html.Rule.Select

/-!
The rules for tables in HTML. Captions, groups of rows, rows and cells open what is missing around
them and end what cannot go on. Whatever else is written directly into a table is put before it, by
the rules of the body.
-/

set_option autoImplicit false
set_option relaxedAutoImplicit false

namespace MarkupRecords.Html

namespace Construction

/-- Deals with a token by the rules of the body, and puts before the table what would go directly
into it. -/
def foster (token : Token) (c : Construction) : Step :=
  ({ c with fostering := true }.inBody token).map fun c ↦ { c with fostering := false }

/-- Finds the place of texts directly in a table: spaces stay there, unless there is something else
among the texts. -/
def placePending (c : Construction) : Construction :=
  let contents := c.pending.reverse
  let c := { c with pending := [] }
  if contents.all (·.toList.all isSpace) then contents.foldl (fun c content ↦ c.addText content) c
  else
    contents.foldl (fun c content ↦ (c.foster (characters content.toList)).construction) c

/-- Directly in a table. -/
def inTable (token : Token) (c : Construction) : Step :=
  let clear := c.popTo ["table"]
  match token with
  | .blank content | .text content =>
    if tableParts.contains c.current then .done { c with pending := content :: c.pending }
    else c.foster token
  | .null | .comment | .doctype _ => .done c
  | .start name attributes =>
    match name with
    | "caption" => .done ((clear.mark.insert name attributes).enter .inCaption)
    | "colgroup" => .done ((clear.insert name attributes).enter .inColumns)
    | "col" => .again ((clear.insert "colgroup" []).enter .inColumns)
    | "tbody" | "tfoot" | "thead" => .done ((clear.insert name attributes).enter .inRowGroup)
    | "td" | "th" | "tr" => .again ((clear.insert "tbody" []).enter .inRowGroup)
    | "table" =>
      if c.hasOpen tableBounds ["table"] then .again (c.popThrough ["table"]).resetMode
      else .done c
    | "style" | "script" => .done (c.insert name attributes)
    | "input" =>
      if (attributes.lookup "type").any (lowercase ·.toList == "hidden") then
        .done (c.insertVoid name attributes)
      else c.foster token
    | "form" =>
      if c.form.isSome then .done c
      else .done { c.insertVoid name attributes with form := some c.fresh }
    | _ => c.foster token
  | .finish name =>
    if name = "table" then
      .done <|
        if c.hasOpen tableBounds ["table"] then (c.popThrough ["table"]).resetMode else c
    else if ["body", "html"].contains name || tableContents.contains name then .done c
    else c.foster token
  | .ending => .done c

/-- Ends the caption. -/
def closeCaption (c : Construction) : Construction :=
  (c.closeThrough "caption").clearToMarker.enter .inTable

/-- In a caption. -/
def inCaption (token : Token) (c : Construction) : Step :=
  let isOpen := c.hasOpen tableBounds ["caption"]
  match token with
  | .start name _ =>
    if tableContents.contains name then if isOpen then .again c.closeCaption else .done c
    else c.inBody token
  | .finish name =>
    if name = "caption" then .done (if isOpen then c.closeCaption else c)
    else if name = "table" then if isOpen then .again c.closeCaption else .done c
    else if ["body", "html"].contains name || tableContents.contains name then .done c
    else c.inBody token
  | _ => c.inBody token

/-- In a group of columns. -/
def inColumns (token : Token) (c : Construction) : Step :=
  let leave := if c.current = "colgroup" then .again (c.pop.enter .inTable) else .done c
  match token with
  | .blank content => .done (c.addText content)
  | .comment | .doctype _ | .ending => .done c
  | .start name attributes =>
    match name with
    | "html" => .done (c.addHtmlAttributes attributes)
    | "col" => .done (c.insertVoid name attributes)
    | _ => leave
  | .finish name =>
    match name with
    | "colgroup" => .done (if c.current = "colgroup" then c.pop.enter .inTable else c)
    | "col" => .done c
    | _ => leave
  | .text _ | .null => leave

/-- In a group of rows. -/
def inRowGroup (token : Token) (c : Construction) : Step :=
  let clear := c.popTo rowGroups
  let leave :=
    if c.hasOpen tableBounds rowGroups then .again (clear.pop.enter .inTable) else .done c
  match token with
  | .start name attributes =>
    if name = "tr" then .done ((clear.insert name attributes).enter .inRow)
    else if cells.contains name then .again ((clear.insert "tr" []).enter .inRow)
    else if tableContents.contains name then leave
    else c.inTable token
  | .finish name =>
    if rowGroups.contains name then
      .done (if c.hasOpen tableBounds [name] then clear.pop.enter .inTable else c)
    else if name = "table" then leave
    else if ["body", "html"].contains name || tableContents.contains name then .done c
    else c.inTable token
  | _ => c.inTable token

/-- In a row. -/
def inRow (token : Token) (c : Construction) : Step :=
  let clear := c.popTo ["tr"]
  let isOpen := c.hasOpen tableBounds ["tr"]
  let leave := if isOpen then .again (clear.pop.enter .inRowGroup) else .done c
  match token with
  | .start name attributes =>
    if cells.contains name then .done ((clear.insert name attributes).mark.enter .inCell)
    else if tableContents.contains name then leave
    else c.inTable token
  | .finish name =>
    if name = "tr" then .done (if isOpen then clear.pop.enter .inRowGroup else c)
    else if name = "table" then leave
    else if rowGroups.contains name then
      if c.hasOpen tableBounds [name] then leave else .done c
    else if ["body", "html"].contains name || tableContents.contains name then .done c
    else c.inTable token
  | _ => c.inTable token

/-- Ends the cell. -/
def closeCell (c : Construction) : Construction :=
  ((c.closeImplied "").popThrough cells).clearToMarker.enter .inRow

/-- In a cell. -/
def inCell (token : Token) (c : Construction) : Step :=
  match token with
  | .start name _ =>
    if tableContents.contains name then
      if c.hasOpen tableBounds cells then .again c.closeCell else .done c
    else c.inBody token
  | .finish name =>
    if cells.contains name then
      .done <|
        if c.hasOpen tableBounds [name] then
          ((c.closeImplied "").popThrough [name]).clearToMarker.enter .inRow
        else c
    else if ["body", "caption", "col", "colgroup", "html"].contains name then .done c
    else if tableParts.contains name then
      if c.hasOpen tableBounds [name] then .again c.closeCell else .done c
    else c.inBody token
  | _ => c.inBody token

end Construction

end MarkupRecords.Html
