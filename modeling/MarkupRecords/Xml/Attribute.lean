import MarkupRecords.Xml.Reference

/-!
Names and attributes in the tags of XML. A qualified name has its prefix before the first colon;
under `Naming.plain` prefixes are dropped, and with them the attributes that declare them.
`readAttributes` reads the attributes of a tag from left to right and stops at the first fault.
-/

set_option autoImplicit false
set_option relaxedAutoImplicit false

namespace MarkupRecords.Xml

/-- Whether a character separates the parts of a tag. -/
def isSpace (c : Char) : Bool := c = ' ' || c = '\t' || c = '\r' || c = '\n'

/-- How names are taken over. -/
inductive Naming where
  /-- As they are written. -/
  | qualified
  /-- Without prefixes, and without the attributes that declare prefixes. -/
  | plain
deriving DecidableEq, Repr

/-- The part of a name after its first colon; the whole name if there is none. -/
def localPart (cs : List Char) : List Char :=
  match cs.dropWhile (· ≠ ':') with
  | [] => cs
  | _ :: rest => rest

/-- Whether an attribute declares a namespace: its name or its prefix is `xmlns`. -/
def declaresNamespace (cs : List Char) : Bool :=
  cs.takeWhile (· ≠ ':') == ['x', 'm', 'l', 'n', 's']

/-- A name as it is taken over. -/
def Naming.rename (naming : Naming) (cs : List Char) : String :=
  match naming with
  | .qualified => .ofList cs
  | .plain => .ofList (localPart cs)

/-- Whether an attribute is left out. -/
def Naming.drops (naming : Naming) (cs : List Char) : Bool :=
  match naming with
  | .qualified => false
  | .plain => declaresNamespace cs

/-- What is wrong with the writing of an attribute. Offsets count bytes in the tag. -/
inductive AttributeFault where
  /-- No equals sign follows the name. -/
  | noEquals (offset : Nat)
  | noValue (offset : Nat)
  | unquoted (offset : Nat)
  | openQuote (offset : Nat) (quote : Char)
  | duplicate (offset earlier : Nat)
deriving DecidableEq, Repr

/-- A fault of an attribute in words. -/
def AttributeFault.message : AttributeFault → String
  | noEquals p =>
    "position " ++ toString p ++ ": attribute key must be directly followed by `=` or space"
  | noValue p => "position " ++ toString p ++ ": `=` must be followed by an attribute value"
  | unquoted p => "position " ++ toString p ++ ": attribute value must be enclosed in `\"` or `'`"
  | openQuote p q =>
    "position " ++ toString p ++ ": missing closing quote `" ++ .singleton q ++
      "` in attribute value"
  | duplicate p earlier =>
    "position " ++ toString p ++ ": duplicated attribute, previous declaration at position " ++
      toString earlier

/-- What is wrong with a tag: the writing of an attribute, or a reference in a value. -/
inductive TagFault where
  | attribute (fault : AttributeFault)
  | reference (fault : ReferenceFault)
deriving DecidableEq, Repr

/-- What follows the equals sign after the name of an attribute, in a tag of `total` bytes; `cs` is
what follows the name. -/
def afterEquals (total : Nat) (cs : List Char) : Except AttributeFault (List Char) :=
  match cs.dropWhile isSpace with
  | '=' :: rest => .ok rest
  | rest => .error (.noEquals (total - byteLength rest))

/-- The value in quotes that comes next after spaces, and what follows it. -/
def readValue (total : Nat) (cs : List Char) : Except AttributeFault (List Char × List Char) :=
  match cs.dropWhile isSpace with
  | [] => .error (.noValue total)
  | q :: rest =>
    if q = '"' ∨ q = '\'' then
      match rest.dropWhile (· ≠ q) with
      | [] => .error (.openQuote total q)
      | _ :: rest' => .ok (rest.takeWhile (· ≠ q), rest')
    else .error (.unquoted (total - byteLength (q :: rest)))

theorem afterEquals_length {total : Nat} {cs rest : List Char}
    (h : afterEquals total cs = .ok rest) : rest.length < cs.length := by
  unfold afterEquals at h
  have hle := (List.dropWhile_sublist (l := cs) isSpace).length_le
  split at h
  · rename_i heq
    cases h
    rw [heq] at hle
    exact hle
  · cases h

theorem readValue_length {total : Nat} {cs value rest : List Char}
    (h : readValue total cs = .ok (value, rest)) : rest.length < cs.length := by
  unfold readValue at h
  have hle := (List.dropWhile_sublist (l := cs) isSpace).length_le
  split at h
  · cases h
  · rename_i q inner heq
    rw [heq] at hle
    split at h
    · have hle' := (List.dropWhile_sublist (l := inner) (· ≠ q)).length_le
      split at h
      · cases h
      · rename_i heq'
        cases h
        rw [heq'] at hle'
        simp only [List.length_cons] at hle hle'
        omega
    · cases h

/-- The attributes in what follows the name of a tag of `total` bytes, without those that are left
out. `seen` are the names before, with their offsets; no name may occur twice. -/
def readAttributes (naming : Naming) (total : Nat) (seen : List (List Char × Nat))
    (cs : List Char) : Except TagFault (List (String × String)) :=
  match h : cs.dropWhile isSpace with
  | [] => .ok []
  | c :: rest =>
    let offset := total - byteLength (c :: rest)
    let key := c :: rest.takeWhile fun d ↦ d ≠ '=' && !isSpace d
    match h₁ : afterEquals total (rest.dropWhile fun d ↦ d ≠ '=' && !isSpace d) with
    | .error fault => .error (.attribute fault)
    | .ok afterKey =>
      match seen.lookup key with
      | some earlier => .error (.attribute (.duplicate offset earlier))
      | none =>
        match h₂ : readValue total afterKey with
        | .error fault => .error (.attribute fault)
        | .ok (value, after) =>
          have : after.length < cs.length := by
            have b := (List.dropWhile_sublist (l := cs) isSpace).length_le
            have b' := (List.dropWhile_sublist (l := rest) fun d ↦ d ≠ '=' && !isSpace d).length_le
            have b₁ := afterEquals_length h₁
            have b₂ := readValue_length h₂
            rw [h] at b
            simp only [List.length_cons] at b
            omega
          if naming.drops key then readAttributes naming total ((key, offset) :: seen) after
          else
            match expand (.ofList value) with
            | .error fault => .error (.reference fault)
            | .ok value => do
              let more ← readAttributes naming total ((key, offset) :: seen) after
              return (naming.rename key, value) :: more
termination_by cs.length

/-- The name and the attributes in the content of a tag. -/
def readTag (naming : Naming) (cs : List Char) :
    Except TagFault (String × List (String × String)) := do
  let attributes ← readAttributes naming (byteLength cs) [] (cs.dropWhile fun c ↦ !isSpace c)
  return (naming.rename (cs.takeWhile fun c ↦ !isSpace c), attributes)

end MarkupRecords.Xml
