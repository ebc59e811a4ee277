/-!
Document types of HTML. `Doctype.read` reads the content of a document type declaration: the name
and the public and the system identifier. `Doctype.isDated` tells the declarations of old versions
from the others; a document without declaration counts as dated too. In a dated document a table
may stand inside a paragraph, and in others it ends the paragraph.
-/

set_option autoImplicit false
set_option relaxedAutoImplicit false

namespace MarkupRecords.Html

/-- Whether a character is a space of HTML. -/
def isSpace (c : Char) : Bool :=
  c = ' ' || c = '\t' || c = '\n' || c = '\x0C' || c = '\r'

/-- A text with its ASCII letters in lower case. -/
def lowercase (cs : List Char) : String := .ofList (cs.map Char.toLower)

/-- A document type declaration. Names and identifiers are in lower case. -/
structure Doctype where
  name : String
  publicId : Option String
  systemId : Option String
  /-- Something else follows the name, or an identifier is missing. -/
  flawed : Bool
deriving DecidableEq, Repr

/-- The text in quotes that comes next after spaces, in lower case, and what follows it. -/
def readIdentifier (cs : List Char) : Option (String × List Char) :=
  match cs.dropWhile isSpace with
  | [] => none
  | q :: rest =>
    if q = '"' ∨ q = '\'' then
      match rest.dropWhile (· ≠ q) with
      | [] => none
      | _ :: rest' => some (lowercase (rest.takeWhile (· ≠ q)), rest')
    else none

namespace Doctype

/-- The declaration with the content `cs`, which begins after the keyword. -/
def read (cs : List Char) : Doctype :=
  let cs := cs.dropWhile isSpace
  let name := lowercase (cs.takeWhile (!isSpace ·))
  let rest := (cs.dropWhile (!isSpace ·)).dropWhile isSpace
  let flawed : Doctype := ⟨name, none, none, true⟩
  if rest.isEmpty then ⟨name, none, none, false⟩
  else
    match lowercase (rest.take 6), readIdentifier (rest.drop 6) with
    | "public", some (publicId, rest) =>
      if (rest.dropWhile isSpace).isEmpty then ⟨name, some publicId, none, false⟩
      else
        match readIdentifier rest with
        | some (systemId, _) => ⟨name, some publicId, some systemId, false⟩
        | none => flawed
    | "system", some (systemId, _) => ⟨name, none, some systemId, false⟩
    | _, _ => flawed

/-- The dated versions of HTML by the owners of their descriptions, as public identifiers name
them. -/
def datedVersions : List (String × List String) := [
  ("advasoft ltd", ["dtd html 3.0 aswedit + extensions"]),
  ("as", ["dtd html 3.0 aswedit + extensions"]),
  ("ietf", [
    "dtd html", "dtd html 2.0", "dtd html 2.0 level 1", "dtd html 2.0 level 2",
    "dtd html 2.0 strict", "dtd html 2.0 strict level 1", "dtd html 2.0 strict level 2",
    "dtd html 2.1e", "dtd html 3", "dtd html 3.0", "dtd html 3.2", "dtd html 3.2 final",
    "dtd html level 0", "dtd html level 1", "dtd html level 2", "dtd html level 3",
    "dtd html strict", "dtd html strict level 0", "dtd html strict level 1",
    "dtd html strict level 2", "dtd html strict level 3"]),
  ("metrius", ["dtd metrius presentational"]),
  ("microsoft", [
    "dtd internet explorer 2.0 html", "dtd internet explorer 2.0 html strict",
    "dtd internet explorer 2.0 tables", "dtd internet explorer 3.0 html",
    "dtd internet explorer 3.0 html strict", "dtd internet explorer 3.0 tables"]),
  ("netscape comm. corp.", ["dtd html", "dtd strict html"]),
  ("o'reilly and associates", [
    "dtd html 2.0", "dtd html extended 1.0", "dtd html extended relaxed 1.0"]),
  ("softquad", ["dtd hotmetal pro 4.0::19971010::extensions to html 4.0"]),
  ("softquad software", ["dtd hotmetal pro 6.0::19990601::extensions to html 4.0"]),
  ("spyglass", ["dtd html 2.0 extended"]),
  ("sq", ["dtd html 2.0 hotmetal + extensions"]),
  ("sun microsystems corp.", ["dtd hotjava html", "dtd hotjava strict html"]),
  ("w3c", [
    "dtd html 3 1995-03-24", "dtd html 3.2", "dtd html 3.2 draft", "dtd html 3.2 final",
    "dtd html 3.2s draft", "dtd html 4.0 frameset", "dtd html 4.0 transitional",
    "dtd html experimental 19960712", "dtd html experimental 970421", "dtd w3 html"]),
  ("w3o", ["dtd w3 html 3.0"]),
  ("webtechs", ["dtd mozilla html", "dtd mozilla html 2.0"])]

/-- The versions that are dated unless a system identifier is given. -/
def looseVersions : List (String × List String) :=
  [("w3c", ["dtd html 4.01 frameset", "dtd html 4.01 transitional"])]

/-- Public identifiers that are dated as they stand. -/
def datedPublicIds : List String :=
  ["-//w3o//dtd w3 html strict 3.0//en//", "-/w3c/dtd html 4.0 transitional/en", "html"]

/-- The one dated system identifier, by what stands between its slashes. -/
def datedSystemId : List String :=
  ["http:", "", "www.ibm.com", "data", "dtd", "v11", "ibmxhtml1-transitional.dtd"]

/-- Whether a public identifier names one of the versions: it gives an owner, a description, and a
language or something else after them, with two slashes before each. -/
def namesOneOf (versions : List (String × List String)) (publicId : String) : Bool :=
  match publicId.splitOn "//" with
  | "-" :: owner :: description :: _ :: _ =>
    (versions.lookup owner).any (·.contains description)
  | _ => false

/-- Whether a declaration is that of an old version of HTML, or of no version at all. -/
def isDated (d : Doctype) : Bool :=
  d.flawed || d.name != "html" ||
    d.systemId.any (·.splitOn "/" == datedSystemId) ||
    d.publicId.any fun publicId ↦
      datedPublicIds.contains publicId || namesOneOf datedVersions publicId ||
        namesOneOf looseVersions publicId && d.systemId.isNone

end Doctype

end MarkupRecords.Html
