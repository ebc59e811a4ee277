import MarkupRecords.Text.Quoted
import MarkupRecords.Value.Basic

/-!
Values as they are shown while looking for mistakes: each with the name of its kind, and maps with
their entries between braces.
-/

set_option autoImplicit false
set_option relaxedAutoImplicit false

namespace MarkupRecords

mutual

/-- A value with the name of its kind. -/
def Value.display : Value → String
  | .nil => "Nil"
  | .bool b => "Bool(" ++ Flag.text b ++ ")"
  | .integer n => "Integer(" ++ Integer.text n ++ ")"
  | .text s => "Text(" ++ Text.quoted s ++ ")"
  | .date d => "Date(" ++ d.text ++ ")"
  | .node n => "Node(" ++ n.text ++ ")"
  | .list items => "List([" ++ ", ".intercalate (Value.displayAll items) ++ "])"
  | .map c => "Map(" ++ c.display ++ ")"

/-- `Value.display` on each item. -/
def Value.displayAll : List Value → List String
  | [] => []
  | v :: vs => v.display :: Value.displayAll vs

/-- The entries of a container between braces. -/
def Container.display : Container → String
  | ⟨entries, _, _⟩ => "\x7b" ++ ", ".intercalate (Container.displayEntries entries) ++ "\x7d"

/-- Each entry with its key in quotes. -/
def Container.displayEntries : List (String × Value) → List String
  | [] => []
  | (k, v) :: rest => (Text.quoted k ++ ": " ++ v.display) :: Container.displayEntries rest

end

end MarkupRecords
