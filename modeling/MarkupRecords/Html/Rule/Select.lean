import MarkupRecords.Html.Rule.Body

/-!
The rules for lists of choices in HTML. `resetMode` finds the mode for what is open when a list or a
table ends.
-/

set_option autoImplicit false
set_option relaxedAutoImplicit false

namespace MarkupRecords.Html

namespace Construction

/-- The mode for the innermost of the open elements that has one. -/
def modeOf : List String → Mode
  | [] => .inBody
  | name :: outer =>
    match name with
    | "select" => if outer.contains "table" then .inSelectInTable else .inSelect
    | "td" | "th" => .inCell
    | "tr" => .inRow
    | "tbody" | "tfoot" | "thead" => .inRowGroup
    | "caption" => .inCaption
    | "colgroup" => .inColumns
    | "table" => .inTable
    | "body" => .inBody
    | "frameset" => .inFrameset
    | _ => modeOf outer

/-- Enters the mode for what is open. -/
def resetMode (c : Construction) : Construction := c.enter (modeOf (c.stack.counted.map (·.name)))

/-- Ends the open list of choices. -/
def closeSelect (c : Construction) : Construction := (c.popThrough ["select"]).resetMode

/-- Whether a list of choices is open; nothing but groups of choices can be open inside it. -/
def inSelectScope (c : Construction) : Bool :=
  let inside := ["optgroup", "option"]
  (c.stack.counted.find? (!inside.contains ·.name)).any (·.name = "select")

/-- Ends the innermost choice, and with `groups` the group as well. -/
def closeChoice (groups : Bool) (c : Construction) : Construction :=
  let c := if c.current = "option" then c.pop else c
  if groups && c.current = "optgroup" then c.pop else c

/-- In a list of choices. -/
def inSelect (token : Token) (c : Construction) : Step :=
  match token with
  | .blank content | .text content => .done (c.addText content)
  | .null | .comment | .doctype _ | .ending => .done c
  | .start name attributes =>
    match name with
    | "html" => .done (c.addHtmlAttributes attributes)
    | "option" => .done ((c.closeChoice false).insert name attributes)
    | "optgroup" => .done ((c.closeChoice true).insert name attributes)
    | "hr" => .done ((c.closeChoice true).insertVoid name attributes)
    | "select" => .done (if c.inSelectScope then c.closeSelect else c)
    | "input" | "keygen" | "textarea" =>
      if c.inSelectScope then .again c.closeSelect else .done c
    | "script" => .done (c.insert name attributes)
    | _ => .done c
  | .finish name =>
    match name with
    | "optgroup" =>
      let groupFollows := ((c.stack.counted.drop 1).head?).any (·.name = "optgroup")
      let c := if c.current = "option" && groupFollows then c.pop else c
      .done (if c.current = "optgroup" then c.pop else c)
    | "option" => .done (if c.current = "option" then c.pop else c)
    | "select" => .done (if c.inSelectScope then c.closeSelect else c)
    | _ => .done c

/-- In a list of choices inside a table. -/
def inSelectInTable (token : Token) (c : Construction) : Step :=
  let ends := ["caption", "table", "tbody", "tfoot", "thead", "tr", "td", "th"]
  match token with
  | .start name _ => if ends.contains name then .again c.closeSelect else c.inSelect token
  | .finish name =>
    if ends.contains name then
      if c.hasOpen tableBounds [name] then .again c.closeSelect else .done c
    else c.inSelect token
  | _ => c.inSelect token

end Construction

end MarkupRecords.Html
