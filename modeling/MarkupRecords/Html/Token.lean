import MarkupRecords.Html.Doctype
import MarkupRecords.Html.Reference
import MarkupRecords.Text.Taken

/-!
Reading HTML as tokens. `readToken` takes a `Token` off the front of a text: a tag, a comment, a
document type, or a run of characters that are all spaces or all something else. What is no tag is
text, so that there is no fault. A tag that the text leaves unfinished is dropped.
`splitContent` finds the end of elements whose content is text only.
-/

set_option autoImplicit false
set_option relaxedAutoImplicit false

namespace MarkupRecords.Html

open Text (Taken length_lt_succ)

/-- A piece of an HTML text. -/
inductive Token where
  | doctype (declaration : Doctype)
  /-- A start tag; the attributes are ordered by their names, which differ. -/
  | start (name : String) (attributes : List (String × String))
  | finish (name : String)
  | comment
  /-- Spaces. -/
  | blank (content : String)
  /-- Characters other than spaces. -/
  | text (content : String)
  /-- The character zero. -/
  | null
  /-- The end of the text. -/
  | ending
deriving DecidableEq, Repr

/-- A token without the line feed at its start; none if nothing else is in it. -/
def Token.withoutLineFeed? : Token → Option Token
  | .blank content =>
    match content.toList with
    | ['\n'] => none
    | '\n' :: rest => some (.blank (.ofList rest))
    | _ => some (.blank content)
  | token => some token

/-- The character zero cannot stand in names and values. -/
def visible (c : Char) : Char := if c = '\x00' then replacement else c

/-! ### Tags -/

/-- Adds an attribute to others that are ordered by their names, unless one of them has its name. -/
def addAttribute (new : String × String) : List (String × String) → List (String × String)
  | [] => [new]
  | a :: as =>
    if new.1 = a.1 then a :: as
    else if new.1 < a.1 then new :: a :: as
    else a :: addAttribute new as

/-- Adds the attributes whose names are not there yet. -/
def addAttributes (more attributes : List (String × String)) : List (String × String) :=
  more.foldl (fun as a ↦ addAttribute a as) attributes

/-- Whether a character can go on the name of an attribute. -/
def inAttributeName (c : Char) : Bool := !isSpace c && c ≠ '/' && c ≠ '>' && c ≠ '='

/-- A text in quotes or up to a space or the end of the tag. -/
def readBareValue (cs : List Char) : Taken String (cs.length + 1) :=
  match cs with
  | [] => .untouched "" []
  | c :: rest =>
    if c = '"' ∨ c = '\'' then
      (Taken.ofDropPast (.ofList (expand true ((rest.takeWhile (· ≠ c)).map visible))) c rest).later
    else
      let inside := fun d ↦ !isSpace d && d ≠ '>'
      .ofDropWhile (.ofList (expand true (((c :: rest).takeWhile inside).map visible))) inside
        (c :: rest)

/-- The value of an attribute after its name; empty if no equals sign comes next. -/
def readValue (cs : List Char) : Taken String (cs.length + 1) :=
  match cs with
  | '=' :: rest => ((Taken.ofDropWhile () isSpace rest).andThen readBareValue).later
  | rest => .untouched "" rest

/-- The attribute whose name begins with `c` and goes on in `cs`. -/
def readAttribute (c : Char) (cs : List Char) : Taken (String × String) (cs.length + 1) :=
  let name := lowercase ((c :: cs.takeWhile inAttributeName).map visible)
  (((Taken.ofDropWhile () inAttributeName cs).andThen (.ofDropWhile () isSpace)).andThen
    readValue).map (name, ·)

/-- The attributes up to the end of a tag, in the order of the text; none if the tag has no end. -/
def readAttributes (cs : List Char) : Option (Taken (List (String × String)) (cs.length + 1)) :=
  match cs with
  | [] => none
  | c :: cs =>
    if c = '>' then some (Taken.untouched [] cs).later
    else if isSpace c || c = '/' then (readAttributes cs).map (·.later)
    else
      let first := readAttribute c cs
      (readAttributes first.rest).map fun more ↦
        ((more.map (first.value :: ·)).widen first.shorter).later
termination_by cs.length
decreasing_by
  · exact length_lt_succ cs
  · exact (readAttribute c cs).shorter

/-- A tag whose name begins the text; nothing if it has no end. -/
def readTag (make : String → List (String × String) → Token) (cs : List Char) :
    Taken (Option Token) (cs.length + 1) :=
  let inName := fun c ↦ !isSpace c && c ≠ '/' && c ≠ '>'
  let name := lowercase ((cs.takeWhile inName).map visible)
  (Taken.ofDropWhile () inName cs).andThen fun rest ↦
    match readAttributes rest with
    | none => .exhausted none rest
    | some found => found.map fun attributes ↦ some (make name (addAttributes attributes []))

/-! ### Comments and document types -/

/-- Goes to the end of a comment, whose content begins the text. -/
def skipComment : (cs : List Char) → Taken Unit (cs.length + 1)
  | [] => .untouched () []
  | c :: cs =>
    if ['-', '-', '>'].isPrefixOf (c :: cs) then .ofDrop () 3 (c :: cs)
    else if ['-', '-', '!', '>'].isPrefixOf (c :: cs) then .ofDrop () 4 (c :: cs)
    else (skipComment cs).later

/-- A piece that goes to the next `>`; its content makes the token. -/
def readBracketed (make : List Char → Token) (cs : List Char) :
    Taken (Option Token) (cs.length + 1) :=
  .ofDropPast (some (make (cs.takeWhile (· ≠ '>')))) '>' cs

/-- A comment, a document type or something else that begins with `<!`. -/
def readDeclaration (cs : List Char) : Taken (Option Token) (cs.length + 1) :=
  if ['-', '-', '>'].isPrefixOf cs then .ofDrop (some .comment) 3 cs
  else if ['-', '-', '-', '>'].isPrefixOf cs then .ofDrop (some .comment) 4 cs
  else if ['-', '-'].isPrefixOf cs then
    ((Taken.ofDrop () 2 cs).andThen skipComment).map fun _ ↦ some .comment
  else if lowercase (cs.take 7) = "doctype" then
    (Taken.ofDrop () 7 cs).andThen (readBracketed (.doctype <| .read ·))
  else readBracketed (fun _ ↦ .comment) cs

/-- What a `<` before `cs` begins. -/
def readMarkup (cs : List Char) : Taken (Option Token) (cs.length + 1) :=
  match cs with
  | '!' :: rest => (readDeclaration rest).later
  | '?' :: rest => (readBracketed (fun _ ↦ .comment) rest).later
  | '/' :: rest =>
    Taken.later <|
      match rest with
      | [] => .untouched (some (.text "</")) []
      | c :: rest =>
        if c = '>' then (Taken.untouched none rest).later
        else if c.isAlpha then readTag (fun name _ ↦ .finish name) (c :: rest)
        else readBracketed (fun _ ↦ .comment) (c :: rest)
  | cs => if cs.head?.any Char.isAlpha then readTag .start cs else .untouched (some (.text "<")) cs

/-- Whether a text begins with an end tag that has no name, or with a reference that no semicolon
ends. They are read in spite of that, but a line feed that begins a text is kept after them. -/
def beginsFlawed (cs : List Char) : Bool := ['<', '/', '>'].isPrefixOf cs || beginsUnclosed cs

/-! ### Tokens -/

/-- A token of characters that are all spaces or all something else. -/
def characters (cs : List Char) : Token :=
  if cs.all isSpace then .blank (.ofList cs) else .text (.ofList cs)

/-- The token at the start of the text `c :: cs`; none if a piece leaves nothing. -/
def readToken (c : Char) (cs : List Char) : Taken (Option Token) (cs.length + 1) :=
  if c = '<' then readMarkup cs
  else if c = '\x00' then .untouched (some .null) cs
  else
    match if c = '&' then reference? false cs else none with
    | some (found, length) => .ofDrop (some (characters found)) length cs
    | none =>
      let more := fun d ↦ isSpace d == isSpace c && d ≠ '<' && d ≠ '&' && d ≠ '\x00'
      .ofDropWhile (some (characters (c :: cs.takeWhile more))) more cs

/-- The tokens of a text without markup. -/
def plainTokens (cs : List Char) : List Token :=
  (cs.splitBy fun c d ↦ isSpace c == isSpace d).map characters

/-! ### Elements with text only -/

/-- How the text of a script hides end tags: inside what looks like a comment, the tags of a nested
script belong together. -/
inductive Hiding where
  /-- The text is no script, and hides nothing. -/
  | never
  | outside
  | comment
  | nested
deriving DecidableEq, Repr

/-- The number of characters of `opening` and a name, if they begin a text and no other name goes on
there. -/
def nameEnd? (opening name : String) (cs : List Char) : Option Nat :=
  let length := opening.length + name.length
  if lowercase (cs.take length) = opening ++ name ∧
      (cs[length]?).any fun c ↦ isSpace c || c = '/' || c = '>'
  then some length else none

/-- The state behind the first character of a text, in the content of the element `name`. -/
def Hiding.next (name : String) (cs : List Char) : Hiding → Hiding
  | .never => .never
  | .outside => if ['<', '!', '-', '-'].isPrefixOf cs then .comment else .outside
  | .comment =>
    if ['-', '-', '>'].isPrefixOf cs then .outside
    else if (nameEnd? "<" name cs).isSome then .nested
    else .comment
  | .nested =>
    if ['-', '-', '>'].isPrefixOf cs then .outside
    else if (nameEnd? "</" name cs).isSome then .comment
    else .nested

/-- The number of characters up to the end of the name in the end tag that begins a text, unless the
tag is hidden. -/
def Hiding.end? (name : String) (cs : List Char) : Hiding → Option Nat
  | .nested => none
  | _ => nameEnd? "</" name cs

/-- The text before the end tag of an element; the rest follows the name there. Without such a tag
it is the whole text. -/
def splitContent (name : String) :
    Hiding → (cs : List Char) → Taken (List Char) (cs.length + 1)
  | _, [] => .untouched [] []
  | state, c :: cs =>
    match state.end? name (c :: cs) with
    | some length => .ofDrop [] length (c :: cs)
    | none => ((splitContent name (state.next name (c :: cs)) cs).map (c :: ·)).later

/-- Goes to the end of a tag whose name has been read. -/
def skipTag (cs : List Char) : Taken Unit (cs.length + 1) :=
  match readAttributes cs with
  | none => .exhausted () cs
  | some found => found.map fun _ ↦ ()

end MarkupRecords.Html
