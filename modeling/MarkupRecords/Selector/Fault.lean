import MarkupRecords.Text.Quoted

/-!
What can be wrong with the text of a selector. A `Fault` is a complaint and the place, counted in
characters from the start of the trimmed text, at which reading got stuck; `Fault.message` words it.
-/

set_option autoImplicit false
set_option relaxedAutoImplicit false

namespace MarkupRecords.Selector

/-- What reading did not find, or found and cannot accept. -/
inductive Complaint where
  | noStep
  /-- A certain token should come next. -/
  | missing (token : String)
  | unknownFunction (name : String)
  /-- A position is no whole number from 1 to the largest that fits in 64 bits. -/
  | badPosition
  | noAttributeName
  | openString
  | badNumber
  | noLiteral
  /-- The selector is over, the text is not. -/
  | trailing
deriving DecidableEq, Repr

/-- A complaint in words. -/
def Complaint.message : Complaint → String
  | noStep => "expected a step"
  | missing token => "expected " ++ Text.quoted token
  | unknownFunction name => "unsupported function " ++ name ++ "()"
  | badPosition => "positions start at 1"
  | noAttributeName => "expected an attribute name"
  | openString => "unterminated string literal"
  | badNumber => "invalid number literal"
  | noLiteral => "expected a literal"
  | trailing => "unexpected trailing input"

/-- A complaint and where it arose. -/
structure Fault where
  complaint : Complaint
  offset : Nat
deriving DecidableEq, Repr

/-- A fault in words. -/
def Fault.message (f : Fault) : String :=
  f.complaint.message ++ " at offset " ++ toString f.offset

end MarkupRecords.Selector
