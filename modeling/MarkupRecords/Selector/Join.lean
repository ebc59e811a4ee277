import MarkupRecords.Text.Blank

/-!
Joining the texts of selectors with single slashes. Parts that are empty or hold slashes only are
left out, and slashes at the ends of a part are dropped, apart from those before the first part.
-/

set_option autoImplicit false
set_option relaxedAutoImplicit false

namespace MarkupRecords.Selector

/-- Whether a character is the slash. -/
def isSlash (c : Char) : Bool := c = '/'

/-- What follows the parts joined so far once a further part is joined to them. -/
def joinPart (joined part : List Char) : List Char :=
  if joined = [] then Text.dropEnd isSlash part
  else
    let inner := Text.dropEnd isSlash (Text.dropStart isSlash part)
    if inner = [] then joined else joined ++ '/' :: inner

/-- The parts joined from left to right. -/
def join (parts : List String) : String :=
  .ofList ((parts.map String.toList).foldl joinPart [])

end MarkupRecords.Selector
