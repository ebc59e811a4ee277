/-!
JSON values. Numbers keep the digits they are written with. A string may be `broken`: it holds an
escape for half of a surrogate pair, and so denotes no text; nothing but a member that nobody reads
may have such a value. `Json.quote` writes a text as a JSON string, `Json.sortMembers` orders the
members of an object by their names.
-/

set_option autoImplicit false
set_option relaxedAutoImplicit false

namespace MarkupRecords

/-- A JSON value. Members of an object keep their order, and a name may occur twice. -/
inductive Json where
  | null
  | bool (b : Bool)
  | number (written : String)
  | text (content : String)
  | broken
  | array (items : List Json)
  | object (members : List (String × Json))

namespace Json

/-- One character as it is written in a JSON string. Control characters are escaped, with four
hexadecimal digits unless they have an escape of their own. -/
def escapeChar (c : Char) : List Char :=
  match c with
  | '"' => ['\\', '"']
  | '\\' => ['\\', '\\']
  | '\x08' => ['\\', 'b']
  | '\x0c' => ['\\', 'f']
  | '\n' => ['\\', 'n']
  | '\r' => ['\\', 'r']
  | '\t' => ['\\', 't']
  | c =>
    if c.toNat < 0x20 then
      ['\\', 'u', '0', '0', (c.toNat / 16).digitChar, (c.toNat % 16).digitChar]
    else [c]

/-- A text as a JSON string. -/
def quote (s : String) : String := .ofList ('"' :: s.toList.flatMap escapeChar ++ ['"'])

/-- Puts a member before the first one whose name is not smaller. -/
def insertMember (member : String × Json) : List (String × Json) → List (String × Json)
  | [] => [member]
  | m :: ms => if m.1 < member.1 then m :: insertMember member ms else member :: m :: ms

/-- Members in the order of their names. -/
def sortMembers (members : List (String × Json)) : List (String × Json) :=
  members.foldr insertMember []

end Json

end MarkupRecords
