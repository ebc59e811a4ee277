import MarkupRecords.Selector.Basic
import MarkupRecords.Specification.Kind
import MarkupRecords.Transform.Table

/-!
Specifications. An `Entry` says what value to derive and under which path of keys to put it; a
`Specification` is a list of entries with a hook that may edit the finished container, a table of
transforms, and possibly a parent that it extends. `Entry.beq` compares entries by their selectors'
source texts and leaves aside what a nested specification has besides its entries.
-/

set_option autoImplicit false
set_option relaxedAutoImplicit false

namespace MarkupRecords

/-- Where a value goes: a path of keys through nested containers. -/
structure OutputKey where
  segments : List String
deriving DecidableEq, Repr

namespace OutputKey

/-- The path that is a single key. -/
def ofKey (key : String) : OutputKey := ⟨[key]⟩

/-- There is a segment, and none is empty. -/
def isValid (k : OutputKey) : Bool := !k.segments.isEmpty && k.segments.all (· ≠ "")

/-- The segments with points between them. -/
def text (k : OutputKey) : String := ".".intercalate k.segments

end OutputKey

/-- What else an entry says: the transforms that are applied to its value, and the attribute that it
reads. -/
structure Options where
  afterMap : List String := []
  attributeName : Option String := none
deriving DecidableEq, Repr

/-- A function that may edit a finished container. -/
abbrev Hook := Container → Container

mutual

/-- One declared rule. An entry of kind `many` has a nested specification. -/
inductive Entry where
  | mk (kind : Kind) (selector : Selector) (key : OutputKey) (options : Options)
    (nested : Option Specification)

/-- A set of entries, and what belongs to them. -/
inductive Specification where
  | mk (entries : List Entry) (hook : Option Hook) (mode : Selector.Mode)
    (parent : Option Specification) (transforms : TransformTable)

end

namespace Entry

/-- What the entry derives. -/
def kind : Entry → Kind
  | mk k _ _ _ _ => k

/-- Where the entry looks. -/
def selector : Entry → Selector
  | mk _ s _ _ _ => s

/-- Where the value goes. -/
def key : Entry → OutputKey
  | mk _ _ k _ _ => k

/-- The transforms and the attribute. -/
def options : Entry → Options
  | mk _ _ _ o _ => o

/-- The specification for each match. -/
def nested? : Entry → Option Specification
  | mk _ _ _ _ n => n

end Entry

namespace Specification

/-- The entries, in the order of declaration. -/
def entries : Specification → List Entry
  | mk es _ _ _ _ => es

/-- The hook. -/
def hook? : Specification → Option Hook
  | mk _ h _ _ _ => h

/-- How the selectors of entries of kind `many` look for their matches. -/
def mode : Specification → Selector.Mode
  | mk _ _ m _ _ => m

/-- The specification that this one extends. -/
def parent? : Specification → Option Specification
  | mk _ _ _ p _ => p

/-- The transforms that are registered here. -/
def transforms : Specification → TransformTable
  | mk _ _ _ _ t => t

/-- No entries, and nothing else. -/
def empty : Specification := mk [] none .search none .empty

end Specification

mutual

/-- Whether two entries say the same. -/
def Entry.beq : Entry → Entry → Bool
  | ⟨kind, selector, key, options, nested⟩, other =>
    kind == other.kind && selector.source == other.selector.source && key == other.key &&
      options == other.options && Specification.nestedBeq nested other.nested?

/-- Whether two lists of entries say the same, entry by entry. -/
def Entry.beqAll : List Entry → List Entry → Bool
  | [], [] => true
  | e :: es, e' :: es' => e.beq e' && Entry.beqAll es es'
  | _, _ => false

/-- Whether both or neither is there and the entries are the same. -/
def Specification.nestedBeq : Option Specification → Option Specification → Bool
  | none, none => true
  | some ⟨entries, _, _, _, _⟩, some other => Entry.beqAll entries other.entries
  | _, _ => false

end

end MarkupRecords
