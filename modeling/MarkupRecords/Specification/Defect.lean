import MarkupRecords.Selector.Fault
import MarkupRecords.Specification.Basic

/-!
What can be wrong with the declarations of a specification. A `Defect` inside the block of an entry
of kind `many` is wrapped once for each such block around it; `Defect.message` words it.
-/

set_option autoImplicit false
set_option relaxedAutoImplicit false

namespace MarkupRecords

/-- The words for a selector that is not understood. -/
def Selector.faultMessage (source : String) (fault : Selector.Fault) : String :=
  "Invalid selector " ++ Text.quoted source ++ ": " ++ fault.message

/-- What is wrong with a declaration. -/
inductive Defect where
  | noTargets (kind : Kind)
  /-- A key is empty, or has an empty segment. -/
  | emptyKey (kind : Kind) (selector : String)
  | noAttributeName (key : OutputKey)
  /-- An entry of kind `many` is declared without a nested specification. -/
  | noNested
  | blankScope
  | blankCollection (key : OutputKey)
  /-- The selector, without the blanks around it, is not understood. -/
  | badSelector (source : String) (fault : Selector.Fault)
  /-- There is a defect in the block of an entry of kind `many`. -/
  | inMany (defect : Defect)
deriving DecidableEq, Repr

/-- A defect in words. -/
def Defect.message : Defect → String
  | noTargets kind => kind.name ++ " entry declared without targets"
  | emptyKey kind selector =>
    kind.name ++ " entry for selector " ++ Text.quoted selector ++ " has an empty output key"
  | noAttributeName key => "attribute entry " ++ key.text ++ " has no attribute name"
  | noNested => "many entries need a nested specification; use many()"
  | blankScope => "within() needs a non-empty selector"
  | blankCollection key => "many entry " ++ key.text ++ " needs a selector"
  | badSelector source fault => Selector.faultMessage source fault
  | inMany defect => "in many block: " ++ defect.message

end MarkupRecords
