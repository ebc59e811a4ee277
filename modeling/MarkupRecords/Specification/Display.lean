import MarkupRecords.Specification.Basic

/-!
Specifications as they are shown while looking for mistakes, on one line. Of a hook only its
presence is shown, of transforms their names, and of a nested specification its entries.
-/

set_option autoImplicit false
set_option relaxedAutoImplicit false

namespace MarkupRecords

/-- Fields with their values between braces, after the name of what has them. -/
def displayFields (name : String) (fields : List (String × String)) : String :=
  name ++ " \x7b " ++ ", ".intercalate (fields.map fun f ↦ f.1 ++ ": " ++ f.2) ++ " \x7d"

/-- Items in brackets. -/
def displayList (items : List String) : String := "[" ++ ", ".intercalate items ++ "]"

/-- A value that may be missing. -/
def displayOption (value : Option String) : String :=
  match value with
  | some v => "Some(" ++ v ++ ")"
  | none => "None"

/-- The name of a mode. -/
def Selector.Mode.name : Selector.Mode → String
  | .search => "Search"
  | .strict => "Strict"

/-- A path of keys. -/
def OutputKey.display (k : OutputKey) : String :=
  "OutputKey(" ++ displayList (k.segments.map Text.quoted) ++ ")"

/-- The options of an entry. -/
def Options.display (o : Options) : String :=
  displayFields "Options" [("after_map", displayList (o.afterMap.map Text.quoted)),
    ("attribute_name", displayOption (o.attributeName.map Text.quoted))]

mutual

/-- An entry on one line. -/
def Entry.display : Entry → String
  | ⟨kind, selector, key, options, nested⟩ =>
    displayFields "Entry" ([("kind", kind.name), ("selector", Text.quoted selector.source),
      ("key", key.display), ("options", options.display)] ++ Specification.displayNested nested)

/-- Each entry on one line. -/
def Entry.displayAll : List Entry → List String
  | [] => []
  | e :: es => e.display :: Entry.displayAll es

/-- The field that shows the entries of a nested specification. -/
def Specification.displayNested : Option Specification → List (String × String)
  | none => []
  | some ⟨entries, _, _, _, _⟩ => [("nested", displayList (Entry.displayAll entries))]

/-- A specification on one line. -/
def Specification.display : Specification → String
  | ⟨entries, hook, mode, parent, transforms⟩ =>
    displayFields "Specification" [("entries", displayList (Entry.displayAll entries)),
      ("mode", mode.name), ("hook", Flag.text hook.isSome),
      ("parent", displayOption (Specification.displayParent parent)),
      ("transforms", transforms.display)]

/-- The parent on one line, if there is one. -/
def Specification.displayParent : Option Specification → Option String
  | none => none
  | some parent => some parent.display

end

end MarkupRecords
