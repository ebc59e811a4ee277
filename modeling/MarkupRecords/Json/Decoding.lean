import MarkupRecords.Json.Basic

/-!
Taking JSON values apart. A record is an object with certain fields, or an array of their values in
the order of the fields; `fields?` finds the values. A field that nobody knows is left aside, but a
known one may not come twice. Objects and arrays are counted: `depthLimit` of them may be nested
where they are read, and each function takes the number of those that are still allowed.
-/

set_option autoImplicit false
set_option relaxedAutoImplicit false

namespace MarkupRecords.Json

/-- How many objects and arrays may be nested in what is read. -/
def depthLimit : Nat := 127

/-- The content of a string. -/
def asText? : Json → Option String
  | text s => some s
  | _ => none

/-- A truth value. -/
def asBool? : Json → Option Bool
  | bool b => some b
  | _ => none

/-- The items of an array of strings. -/
def asTexts? : Json → Option (List String)
  | array items => items.mapM asText?
  | _ => none

/-- Nothing if the value is null, and otherwise what it decodes to. -/
def nullOr {α : Type} (decode : Json → Option α) : Json → Option (Option α)
  | null => some none
  | v => (decode v).map some

/-- The name in a string, or in an object whose only member has that name and is null; the latter
nests one level deeper. -/
def asName? (depth : Nat) : Json → Option String
  | text s => some s
  | object [(name, null)] => if depth = 0 then none else some name
  | _ => none

/-- The values of the known fields of a record, in the order of `names`. -/
def fields? (names : List String) : Json → Option (List (Option Json))
  | array items =>
    if items.length ≤ names.length then
      some (items.map some ++ List.replicate (names.length - items.length) none)
    else none
  | object members =>
    if names.all fun name ↦ (members.filter (·.1 == name)).length ≤ 1 then
      some (names.map fun name ↦ members.lookup name)
    else none
  | _ => none

/-- Decodes a field, or takes a default if it is missing. -/
def orDefault {α : Type} (default : α) (decode : Json → Option α) : Option Json → Option α
  | none => some default
  | some v => decode v

end MarkupRecords.Json
