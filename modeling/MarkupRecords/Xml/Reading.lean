import MarkupRecords.Document.Event
import MarkupRecords.Xml.Attribute

/-!
Reading XML as events. `readEvents` goes through the text piece by piece: text up to the next `<`,
or a tag, comment, section, instruction or declaration from there on. It compares each closing tag
with the tag it closes, but does not ask what is open at the end. It gives the events up to the end
of the text or the first `Fault`; `Xml.parse` makes a tree of them.
-/

set_option autoImplicit false
set_option relaxedAutoImplicit false

namespace MarkupRecords.Xml

/-- Why reading stops before the end of the text. -/
inductive Fault where
  /-- After `<!` comes nothing that is known. -/
  | strayBang
  | openInstruction
  | openComment
  | openDoctype
  | openCdata
  | openTag
  | namelessDoctype
  | unmatchedClose (name : String)
  | mismatchedClose (expected found : String)
  | reference (fault : ReferenceFault)
  | attribute (fault : AttributeFault)
deriving DecidableEq, Repr

/-- A fault in words. -/
def Fault.message : Fault → String
  | strayBang => "XML parse error: syntax error: unknown or missed symbol in markup"
  | openInstruction =>
    "XML parse error: syntax error: processing instruction or xml declaration not closed: " ++
      "`?>` not found before end of input"
  | openComment =>
    "XML parse error: syntax error: comment not closed: `-->` not found before end of input"
  | openDoctype =>
    "XML parse error: syntax error: DOCTYPE not closed: `>` not found before end of input"
  | openCdata =>
    "XML parse error: syntax error: CDATA not closed: `]]>` not found before end of input"
  | openTag =>
    "XML parse error: syntax error: tag not closed: `>` not found before end of input"
  | namelessDoctype =>
    "XML parse error: ill-formed document: `<!DOCTYPE>` declaration does not contain a name of " ++
      "a document type"
  | unmatchedClose name =>
    "XML parse error: ill-formed document: close tag `</" ++ name ++
      ">` does not match any open tag"
  | mismatchedClose expected found =>
    "XML parse error: ill-formed document: expected `</" ++ expected ++ ">`, but `</" ++ found ++
      ">` was found"
  | .reference fault => "XML parse error: " ++ fault.message
  | .attribute fault => "XML attribute error: " ++ fault.message

/-- A fault in a tag as a fault of the text. -/
def TagFault.toFault : TagFault → Fault
  | .attribute fault => .attribute fault
  | .reference fault => .reference fault

/-! ### Pieces -/

/-- The content of a tag and what follows its `>`. A `>` between quotes does not end the tag;
`quote` is the quote that is open. -/
def splitTag (quote : Option Char) : List Char → Option (List Char × List Char)
  | [] => none
  | c :: cs =>
    match quote with
    | some q => (splitTag (if c = q then none else some q) cs).map fun (a, b) ↦ (c :: a, b)
    | none =>
      if c = '>' then some ([], cs)
      else
        (splitTag (if c = '"' ∨ c = '\'' then some c else none) cs).map fun (a, b) ↦ (c :: a, b)

/-- The text before the first `mark`, and what follows the mark. -/
def splitAtMark (mark : List Char) : List Char → Option (List Char × List Char)
  | [] => none
  | c :: cs =>
    if mark.isPrefixOf (c :: cs) then some ([], (c :: cs).drop mark.length)
    else (splitAtMark mark cs).map fun (a, b) ↦ (c :: a, b)

/-- The content of a declaration and what follows the `>` that ends it. Each `<` asks for a `>` of
its own; `depth` of them are open. -/
def splitDeclaration (depth : Nat) : List Char → Option (List Char × List Char)
  | [] => none
  | c :: cs =>
    if c = '>' ∧ depth = 0 then some ([], cs)
    else
      let depth := if c = '>' then depth - 1 else if c = '<' then depth + 1 else depth
      (splitDeclaration depth cs).map fun (a, b) ↦ (c :: a, b)

/-- What follows a comment; `cs` is what follows its `<!-`. -/
def readComment (cs : List Char) : Except Fault (List Char) :=
  match cs with
  | '-' :: cs =>
    match splitAtMark ['-', '-', '>'] cs with
    | some (_, rest) => .ok rest
    | none => .error .openComment
  | _ => .error .openComment

/-- The content of a section of plain text and what follows it; `cs` is what follows its `<![`. -/
def readCdata (cs : List Char) : Except Fault (List Char × List Char) :=
  match cs with
  | 'C' :: 'D' :: 'A' :: 'T' :: 'A' :: '[' :: cs =>
    match splitAtMark [']', ']', '>'] cs with
    | some piece => .ok piece
    | none => .error .openCdata
  | _ => .error .openCdata

/-- What follows a document type declaration; `cs` is what follows its `<!`. -/
def readDoctype (cs : List Char) : Except Fault (List Char) :=
  match splitDeclaration 0 cs with
  | none => .error .openDoctype
  | some (content, rest) =>
    if (content.take 7).map Char.toLower ≠ "doctype".toList then .error .openDoctype
    else if (content.drop 7).all isSpace then .error .namelessDoctype
    else .ok rest

/-- What follows an instruction; `cs` is what follows its `<?`. -/
def readInstruction (cs : List Char) : Except Fault (List Char) :=
  match cs with
  | '>' :: _ => .error .openInstruction
  | cs =>
    match splitAtMark ['?', '>'] cs with
    | some (_, rest) => .ok rest
    | none => .error .openInstruction

/-- The name in the content of a closing tag. Spaces after it do not count, unless there is nothing
else. -/
def closingName (cs : List Char) : String :=
  if cs.all isSpace then .ofList cs else .ofList (Text.dropEnd isSpace cs)

/-- The names that are open after a closing tag. -/
def closeName (opened : List String) (name : String) : Except Fault (List String) :=
  match opened with
  | [] => .error (.unmatchedClose name)
  | expected :: outer =>
    if name = expected then .ok outer else .error (.mismatchedClose expected name)

/-- The event of an opening tag or of an element without content, with the names that are open after
it. -/
def readOpening (naming : Naming) (opened : List String) (content : List Char) :
    Except Fault (Event × List String) :=
  if content.getLast? = some '/' then
    match readTag naming content.dropLast with
    | .ok (name, attributes) => .ok (.empty name attributes, opened)
    | .error fault => .error fault.toFault
  else
    match readTag naming content with
    | .ok (name, attributes) =>
      .ok (.start name attributes, .ofList (content.takeWhile fun c ↦ !isSpace c) :: opened)
    | .error fault => .error fault.toFault

/-- One piece of markup: its event, the names that are open after it, and the rest of the text. `cs`
is what follows the `<`. -/
def readMarkup (naming : Naming) (opened : List String) (cs : List Char) :
    Except Fault (Event × List String × List Char) :=
  match cs with
  | '!' :: '-' :: cs => do return (.ignored, opened, ← readComment cs)
  | '!' :: '[' :: cs => do
    let (content, rest) ← readCdata cs
    return (.cdata (.ofList content), opened, rest)
  | '!' :: 'D' :: cs => do return (.ignored, opened, ← readDoctype ('D' :: cs))
  | '!' :: 'd' :: cs => do return (.ignored, opened, ← readDoctype ('d' :: cs))
  | '!' :: _ => .error .strayBang
  | '?' :: cs => do return (.ignored, opened, ← readInstruction cs)
  | cs =>
    match splitTag none cs with
    | none => .error .openTag
    | some ('/' :: content, rest) => do
      return (.close, ← closeName opened (closingName content), rest)
    | some (content, rest) => do
      let (event, opened) ← readOpening naming opened content
      return (event, opened, rest)

/-! ### Each piece uses up characters -/

theorem splitTag_length {quote : Option Char} {cs content rest : List Char}
    (h : splitTag quote cs = some (content, rest)) : rest.length < cs.length := by
  induction cs generalizing quote content with
  | nil => simp [splitTag] at h
  | cons c cs ih =>
    unfold splitTag at h
    split at h
    · obtain ⟨p, hp, heq⟩ := Option.map_eq_some_iff.1 h
      cases heq
      exact Nat.lt_succ_of_lt (ih hp)
    · split at h
      · cases h
        exact Nat.lt_succ_self _
      · obtain ⟨p, hp, heq⟩ := Option.map_eq_some_iff.1 h
        cases heq
        exact Nat.lt_succ_of_lt (ih hp)

theorem splitAtMark_length {mark cs content rest : List Char}
    (h : splitAtMark mark cs = some (content, rest)) : rest.length ≤ cs.length := by
  induction cs generalizing content with
  | nil => simp [splitAtMark] at h
  | cons c cs ih =>
    rw [splitAtMark] at h
    split at h
    · cases h
      simp only [List.length_drop]
      omega
    · obtain ⟨p, hp, heq⟩ := Option.map_eq_some_iff.1 h
      cases heq
      exact Nat.le_succ_of_le (ih hp)

theorem splitDeclaration_length {depth : Nat} {cs content rest : List Char}
    (h : splitDeclaration depth cs = some (content, rest)) : rest.length < cs.length := by
  induction cs generalizing depth content with
  | nil => simp [splitDeclaration] at h
  | cons c cs ih =>
    rw [splitDeclaration] at h
    split at h
    · cases h
      exact Nat.lt_succ_self _
    · obtain ⟨p, hp, heq⟩ := Option.map_eq_some_iff.1 h
      cases heq
      exact Nat.lt_succ_of_lt (ih hp)

theorem readComment_length {cs rest : List Char} (h : readComment cs = .ok rest) :
    rest.length ≤ cs.length := by
  unfold readComment at h
  split at h
  · split at h
    · rename_i heq
      cases h
      exact Nat.le_succ_of_le (splitAtMark_length heq)
    · cases h
  · cases h

theorem readCdata_length {cs content rest : List Char} (h : readCdata cs = .ok (content, rest)) :
    rest.length ≤ cs.length := by
  unfold readCdata at h
  split at h
  · split at h
    · rename_i heq
      cases h
      have := splitAtMark_length heq
      simp only [List.length_cons]
      omega
    · cases h
  · cases h

theorem readDoctype_length {cs rest : List Char} (h : readDoctype cs = .ok rest) :
    rest.length ≤ cs.length := by
  unfold readDoctype at h
  split at h
  · cases h
  · rename_i heq
    have := splitDeclaration_length heq
    split at h
    · cases h
    · split at h
      · cases h
      · cases h
        omega

theorem readInstruction_length {cs rest : List Char} (h : readInstruction cs = .ok rest) :
    rest.length ≤ cs.length := by
  unfold readInstruction at h
  split at h
  · cases h
  · split at h
    · rename_i heq
      cases h
      exact splitAtMark_length heq
    · cases h

theorem readMarkup_length {naming : Naming} {opened opened' : List String} {event : Event}
    {cs rest : List Char} (h : readMarkup naming opened cs = .ok (event, opened', rest)) :
    rest.length ≤ cs.length := by
  unfold readMarkup at h
  split at h
  · cases h' : readComment _ with
    | error => rw [h'] at h; cases h
    | ok r =>
      rw [h'] at h
      cases h
      have := readComment_length h'
      simp only [List.length_cons]
      omega
  · cases h' : readCdata _ with
    | error => rw [h'] at h; cases h
    | ok r =>
      rw [h'] at h
      cases h
      have := readCdata_length h'
      simp only [List.length_cons]
      omega
  · cases h' : readDoctype _ with
    | error => rw [h'] at h; cases h
    | ok r =>
      rw [h'] at h
      cases h
      have := readDoctype_length h'
      simp only [List.length_cons] at this ⊢
      omega
  · cases h' : readDoctype _ with
    | error => rw [h'] at h; cases h
    | ok r =>
      rw [h'] at h
      cases h
      have := readDoctype_length h'
      simp only [List.length_cons] at this ⊢
      omega
  · cases h
  · cases h' : readInstruction _ with
    | error => rw [h'] at h; cases h
    | ok r =>
      rw [h'] at h
      cases h
      have := readInstruction_length h'
      simp only [List.length_cons]
      omega
  · split at h
    · cases h
    · rename_i heq
      have := splitTag_length heq
      cases h' : closeName _ _ with
      | error => rw [h'] at h; cases h
      | ok r =>
        rw [h'] at h
        cases h
        omega
    · rename_i heq
      have := splitTag_length heq
      cases h' : readOpening _ _ _ with
      | error => rw [h'] at h; cases h
      | ok r =>
        rw [h'] at h
        cases h
        omega

/-! ### Whole texts -/

/-- Whether a character goes on a text outside of tags. -/
def isTextChar (c : Char) : Bool := c != '<'

/-- The events of a text up to its end or the first fault. `opened` are the names, as they are
written, of the tags that are open, the innermost first. -/
def readEvents (naming : Naming) (opened : List String) (cs : List Char) :
    List Event × Option Fault :=
  match cs with
  | [] => ([], none)
  | '<' :: rest =>
    match h : readMarkup naming opened rest with
    | .error fault => ([], some fault)
    | .ok (event, opened, after) =>
      have := readMarkup_length h
      let (events, fault) := readEvents naming opened after
      (event :: events, fault)
  | c :: cs =>
    match expand (.ofList (c :: cs.takeWhile isTextChar)) with
    | .error fault => ([], some (.reference fault))
    | .ok content =>
      have : (cs.dropWhile isTextChar).length ≤ cs.length := (List.dropWhile_sublist _).length_le
      let (events, fault) := readEvents naming opened (cs.dropWhile isTextChar)
      (.text content :: events, fault)
termination_by cs.length

/-- The events of a text, which may begin with a byte order mark. -/
def events (naming : Naming) (text : String) : List Event × Option Fault :=
  match text.toList with
  | '\ufeff' :: cs => readEvents naming [] cs
  | cs => readEvents naming [] cs

end MarkupRecords.Xml
