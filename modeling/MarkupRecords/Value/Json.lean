import MarkupRecords.Json.Basic
import MarkupRecords.Value.Basic

/-!
Values as JSON. Dates and nodes become strings, maps become objects. `Value.toJson` orders the
members of each object by their names, so that equal containers have the same JSON;
`Value.jsonText` writes the compact text, with each object in the container's own order.
-/

set_option autoImplicit false
set_option relaxedAutoImplicit false

namespace MarkupRecords

mutual

/-- A value as JSON. -/
def Value.toJson : Value → Json
  | .nil => .null
  | .bool b => .bool b
  | .integer n => .number (Integer.text n)
  | .text s => .text s
  | .date d => .text d.text
  | .node n => .text n.innerText
  | .list items => .array (Value.toJsonAll items)
  | .map c => c.toJson

/-- `Value.toJson` on each item. -/
def Value.toJsonAll : List Value → List Json
  | [] => []
  | v :: vs => v.toJson :: Value.toJsonAll vs

/-- A container as a JSON object. -/
def Container.toJson : Container → Json
  | ⟨entries, _, _⟩ => .object (Json.sortMembers (Container.toMembers entries))

/-- `Value.toJson` on the value of each entry. -/
def Container.toMembers : List (String × Value) → List (String × Json)
  | [] => []
  | (k, v) :: rest => (k, v.toJson) :: Container.toMembers rest

end

mutual

/-- A value as compact JSON text. -/
def Value.jsonText : Value → String
  | .nil => "null"
  | .bool b => Flag.text b
  | .integer n => Integer.text n
  | .text s => Json.quote s
  | .date d => Json.quote d.text
  | .node n => Json.quote n.innerText
  | .list items => "[" ++ ",".intercalate (Value.jsonTexts items) ++ "]"
  | .map c => c.jsonText

/-- The JSON texts of items. -/
def Value.jsonTexts : List Value → List String
  | [] => []
  | v :: vs => v.jsonText :: Value.jsonTexts vs

/-- A container as compact JSON text. -/
def Container.jsonText : Container → String
  | ⟨entries, _, _⟩ => "\x7b" ++ ",".intercalate (Container.memberTexts entries) ++ "\x7d"

/-- The JSON texts of entries. -/
def Container.memberTexts : List (String × Value) → List String
  | [] => []
  | (k, v) :: rest => (Json.quote k ++ ":" ++ v.jsonText) :: Container.memberTexts rest

end

end MarkupRecords
