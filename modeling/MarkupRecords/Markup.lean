import MarkupRecords.Document.Basic
import MarkupRecords.Html.Parse
import MarkupRecords.Xml.Reading

/-!
From text to documents. `Markup` says whether a text is XML or HTML, or that its beginning decides.
`Xml.parse` nests the events of an XML text, where a fault of nesting wins over a fault of reading
that comes later in the text; HTML makes a document of any text. `Document.parse` chooses.
-/

set_option autoImplicit false
set_option relaxedAutoImplicit false

namespace MarkupRecords

/-- The flavour of a markup text. -/
inductive Markup where
  /-- HTML if the text begins as HTML documents do, and XML if not. -/
  | auto
  | xml
  | html
deriving DecidableEq, Repr

/-- Why a text is no document. -/
inductive MarkupFault where
  | xml (fault : Xml.Fault)
  | nesting (fault : NestFault)
deriving DecidableEq, Repr

/-- A fault of markup in words. -/
def MarkupFault.message : MarkupFault → String
  | xml fault => fault.message
  | nesting fault => fault.message

/-- Whether a text begins with the document type or the outermost tag of HTML, in upper or lower
case. -/
def beginsAsHtml (text : String) : Bool :=
  let head := ((Text.trimStart text.toList).take 14).map Char.toLower
  "<!doctype html".toList.isPrefixOf head || "<html".toList.isPrefixOf head

/-- The flavour of a text: XML or HTML. -/
def Markup.isHtml (markup : Markup) (text : String) : Bool :=
  match markup with
  | .auto => beginsAsHtml text
  | .xml => false
  | .html => true

/-- The tree of an XML text. -/
def Xml.parse (naming : Naming) (text : String) : Except MarkupFault Tree :=
  let (events, fault) := Xml.events naming text
  match Nest.start.applyAll events with
  | .error nesting => .error (.nesting nesting)
  | .ok nest =>
    match fault with
    | some fault => .error (.xml fault)
    | none => nest.finish.mapError .nesting

/-- The document of a text. -/
def Document.parse (markup : Markup) (naming : Xml.Naming) (text : String) :
    Except MarkupFault Document :=
  if markup.isHtml text then .ok (.ofTree (Html.parse text))
  else (Xml.parse naming text).map .ofTree

end MarkupRecords
