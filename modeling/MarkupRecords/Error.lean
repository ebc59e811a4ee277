import MarkupRecords.Markup
import MarkupRecords.Specification.Defect

/-!
What can go wrong as a whole. A gap in the data is no error; an `Error` arises from malformed
markup, an unreadable file, a selector or a specification that makes no sense, or malformed JSON.
`Error.message` words it.
-/

set_option autoImplicit false
set_option relaxedAutoImplicit false

namespace MarkupRecords

/-- Why a file gives no text. -/
inductive ReadFault where
  | missing
  | directory
  /-- The file's bytes are no text in UTF-8. -/
  | notText
deriving DecidableEq, Repr

/-- A fault of reading in words. -/
def ReadFault.message : ReadFault → String
  | missing => "No such file or directory (os error 2)"
  | directory => "Is a directory (os error 21)"
  | notText => "stream did not contain valid UTF-8"

/-- Why there is no result. -/
inductive Error where
  | markup (fault : MarkupFault)
  | unreadable (path : String) (fault : ReadFault)
  /-- The selector, without the blanks around it, is not understood. -/
  | selector (source : String) (fault : Selector.Fault)
  | specification (defects : List Defect)
  /-- A definition or settings are not in the form they should have. -/
  | definition
deriving DecidableEq, Repr

/-- An error in words. -/
def Error.message : Error → String
  | markup fault => "Parse error: " ++ fault.message
  | unreadable path fault => "I/O error reading " ++ path ++ ": " ++ fault.message
  | selector source fault => Selector.faultMessage source fault
  | specification defects =>
    "Invalid specification: " ++ "; ".intercalate (defects.map Defect.message)
  | definition => "Definition error"

end MarkupRecords
