import MarkupRecords.Scalar.Date.Reading
import MarkupRecords.Scalar.Duration
import MarkupRecords.Specification.Kind
import MarkupRecords.Text.Casing
import MarkupRecords.Value.Basic

/-!
What can be done to a value by name. `Value.operation?` gives the operations that a value has
because of its kind, `Value.builtin?` the transforms that are known everywhere and start from the
value's text. `Value.coerce` is the reading that a kind of entry asks for.
-/

set_option autoImplicit false
set_option relaxedAutoImplicit false

namespace MarkupRecords

/-- The integer that a text starts with, or nil. -/
def Value.readInteger (s : String) : Value := ((Integer.ofText? s).map Value.integer).getD .nil

/-- The truth value that a text names, or nil. -/
def Value.readBool (s : String) : Value := ((Flag.ofText? s).map Value.bool).getD .nil

/-- The date that a text denotes, or nil. -/
def Value.readDate (s : String) : Value := ((Date.ofText? s).map Value.date).getD .nil

/-- The duration in seconds that a text denotes, or nil. -/
def Value.readDuration (s : String) : Value := ((Duration.ofText? s).map Value.integer).getD .nil

namespace Text

/-- The operations on texts. -/
def operation? (name s : String) : Option Value :=
  match name with
  | "upcase" => some (.text (upcase s))
  | "downcase" => some (.text (downcase s))
  | "strip" => some (.text (trimmed s))
  | "capitalize" => some (.text (capitalize s))
  | "reverse" => some (.text (.ofList s.toList.reverse))
  | "length" => some (.integer (Integer.ofCount s.length))
  | "to_s" => some (.text s)
  | "to_i" => some (.readInteger s)
  | _ => none

end Text

/-- The operations on nodes. -/
def Node.operation? (name : String) (n : Node) : Option Value :=
  match name with
  | "inner_text" | "text" | "to_s" => some (.text n.innerText)
  | "name" => some (.text n.name)
  | _ => none

/-- The operations on integers. The distance of the least integer from zero wraps around to itself,
since it does not fit. -/
def Integer.operation? (name : String) (n : Int64) : Option Value :=
  match name with
  | "to_s" => some (.text (Integer.text n))
  | "to_i" => some (.integer n)
  | "abs" => some (.integer n.abs)
  | _ => none

namespace Value

/-- The operation of that name that the value's kind has, applied to the value. -/
def operation? (name : String) : Value → Option Value
  | nil => none
  | text s => Text.operation? name s
  | node n => n.operation? name
  | integer n => Integer.operation? name n
  | bool b => if name = "to_s" then some (text (Flag.text b)) else none
  | date d => if name = "to_s" then some (text d.text) else none
  | list items =>
    match name with
    | "length" => some (integer (Integer.ofCount items.length))
    | "first" => some (items.head?.getD nil)
    | "last" => some (items.getLast?.getD nil)
    | _ => none
  | map c => if name = "length" then some (integer (Integer.ofCount c.length)) else none

/-- A transform that is known everywhere, by its name. -/
def builtinReader? (name : String) : Option (String → Value) :=
  match name with
  | "parse_date" => some readDate
  | "parse_duration" => some readDuration
  | "string_to_boolean" => some readBool
  | _ => none

/-- The transform of that name that is known everywhere, applied to the text of the value. A value
without a text becomes nil. -/
def builtin? (name : String) (v : Value) : Option Value :=
  (builtinReader? name).map fun read ↦ (v.toText?.map read).getD nil

/-- Reads a text as an entry of the kind asks for. Other values, and texts for other kinds, stay as
they are. -/
def coerce (kind : Kind) (v : Value) : Value :=
  match kind, v with
  | .integer, text s => readInteger s
  | .boolean, text s => readBool s
  | _, v => v

end Value

end MarkupRecords
