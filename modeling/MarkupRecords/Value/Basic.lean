import MarkupRecords.Document.Basic
import MarkupRecords.Scalar.Date
import MarkupRecords.Scalar.Flag

/-!
Values and containers. A `Value` is what an extraction can yield, a `Container` an ordered map from
keys to values together with the path and the node it was read from, which are no part of the map.
`Container.insert` keeps the place of a key that is there, `Container.getPath?` and
`Container.insertPath` follow a path of keys through nested containers. Equality of containers,
`==`, does not look at the order of keys, nor at the path and the node.
-/

set_option autoImplicit false
set_option relaxedAutoImplicit false

namespace MarkupRecords

mutual

/-- Something that was extracted. -/
inductive Value where
  | nil
  | bool (b : Bool)
  | integer (n : Int64)
  | text (s : String)
  | date (d : Date)
  | node (n : Node)
  | list (items : List Value)
  | map (container : Container)

/-- An ordered map from keys to values, with the path of the file and the node it comes from. -/
structure Container where
  entries : List (String × Value)
  sourcePath : Option String
  sourceNode : Option Node

end

/-! ### Values -/

namespace Value

instance : Inhabited Value := ⟨nil⟩

/-- The value is nil. -/
def isNil : Value → Bool
  | nil => true
  | _ => false

/-- The name of the value's kind. -/
def kindName : Value → String
  | nil => "nil"
  | bool _ => "bool"
  | integer _ => "integer"
  | text _ => "text"
  | date _ => "date"
  | node _ => "node"
  | list _ => "list"
  | map _ => "map"

/-- The value as text, unless it is nil, a list or a map. -/
def toText? : Value → Option String
  | bool b => some (Flag.text b)
  | integer n => some (Integer.text n)
  | text s => some s
  | date d => some d.text
  | node n => some n.innerText
  | nil | list _ | map _ => none

/-- The content of a text. -/
def asText? : Value → Option String
  | text s => some s
  | _ => none

/-- The number in an integer. -/
def asInteger? : Value → Option Int64
  | integer n => some n
  | _ => none

/-- The truth value in a boolean. -/
def asBool? : Value → Option Bool
  | bool b => some b
  | _ => none

/-- The day in a date. -/
def asDate? : Value → Option Date
  | date d => some d
  | _ => none

/-- The node in a node value. -/
def asNode? : Value → Option Node
  | node n => some n
  | _ => none

/-- The items of a list. -/
def asList? : Value → Option (List Value)
  | list items => some items
  | _ => none

/-- The container in a map. -/
def asMap? : Value → Option Container
  | map c => some c
  | _ => none

/-- A text, or nil if there is none. -/
def ofText? (s : Option String) : Value := (s.map text).getD nil

end Value

/-! ### Containers -/

namespace Container

/-- No entries, read from nowhere. -/
def empty : Container := ⟨[], none, none⟩

instance : Inhabited Container := ⟨empty⟩

/-- No entries yet, read from the given path and node. -/
def ofSource (path : Option String) (node : Option Node) : Container := ⟨[], path, node⟩

/-- The keys, in order. -/
def keys (c : Container) : List String := c.entries.map Prod.fst

/-- The number of entries. -/
def length (c : Container) : Nat := c.entries.length

/-- There are no entries. -/
def isEmpty (c : Container) : Bool := c.entries.isEmpty

/-- The value of a key. -/
def get? (c : Container) (key : String) : Option Value := c.entries.lookup key

/-- The key has a value. -/
def contains (c : Container) (key : String) : Bool := (c.get? key).isSome

/-- The value of a key; a key that is not there reads as nil. -/
def get (c : Container) (key : String) : Value := (c.get? key).getD .nil

/-- Gives a key a value in a list of entries: in its place if it is there, at the end if not. -/
def insertEntry (key : String) (value : Value) : List (String × Value) → List (String × Value)
  | [] => [(key, value)]
  | (k, v) :: rest => if k = key then (k, value) :: rest else (k, v) :: insertEntry key value rest

/-- Gives a key a value. -/
def insert (c : Container) (key : String) (value : Value) : Container :=
  { c with entries := insertEntry key value c.entries }

/-- Takes the entry of a key out of a list of entries. -/
def eraseEntry (key : String) : List (String × Value) → List (String × Value)
  | [] => []
  | (k, v) :: rest => if k = key then rest else (k, v) :: eraseEntry key rest

/-- Takes a key out. -/
def erase (c : Container) (key : String) : Container :=
  { c with entries := eraseEntry key c.entries }

/-- Changes the value of a key in a list of entries; a key that is not there stays missing. -/
def modifyEntry (key : String) (f : Value → Value) : List (String × Value) → List (String × Value)
  | [] => []
  | (k, v) :: rest => if k = key then (k, f v) :: rest else (k, v) :: modifyEntry key f rest

/-- Changes the value of a key in place. -/
def modify (c : Container) (key : String) (f : Value → Value) : Container :=
  { c with entries := modifyEntry key f c.entries }

/-- The entries of a list, inserted one after another into a container without any. -/
def ofList (entries : List (String × Value)) : Container :=
  entries.foldl (fun c e ↦ c.insert e.1 e.2) empty

/-- The value at the end of a path of keys through nested containers. -/
def getPath? (c : Container) : List String → Option Value
  | [] => none
  | [key] => c.get? key
  | key :: path =>
    match c.get? key with
    | some (.map inner) => inner.getPath? path
    | _ => none

/-- The container under a key; an empty one if there is none. -/
def inner (c : Container) (key : String) : Container :=
  match c.get? key with
  | some (.map inner) => inner
  | _ => empty

/-- Gives a value to a path of keys. Whatever on the way is no container gives way to one. -/
def insertPath (c : Container) (path : List String) (value : Value) : Container :=
  match path with
  | [] => c
  | [key] => c.insert key value
  | key :: path => c.insert key (.map ((c.inner key).insertPath path value))

/-- Takes over every entry of another container. -/
def merge (c other : Container) : Container :=
  other.entries.foldl (fun c e ↦ c.insert e.1 e.2) c

/-- The value counts as unset: it is missing, nil or false. -/
def isUnset : Option Value → Bool
  | none | some .nil | some (.bool false) => true
  | _ => false

/-- Takes over the entries whose keys are unset. -/
def fillMissing (c : Container) (sources : List (String × Value)) : Container :=
  sources.foldl (fun c e ↦ if isUnset (c.get? e.1) then c.insert e.1 e.2 else c) c

/-- Fills missing entries into a map, or into each map that is an item of a list. -/
def fillValue (sources : List (String × Value)) : Value → Value
  | .list items => .list <| items.map fun
    | .map target => .map (target.fillMissing sources)
    | item => item
  | .map target => .map (target.fillMissing sources)
  | value => value

/-- The entries of those keys that are there. -/
def select (c : Container) (keys : List String) : List (String × Value) :=
  keys.filterMap fun key ↦ (c.get? key).map (key, ·)

/-- Copies the values of `keys` into the maps under the keys `targets`, and into the maps in lists
under them, wherever a key is unset there. The values are those from before the first copy. -/
def cloneInto (c : Container) (keys targets : List String) : Container :=
  targets.foldl (fun d target ↦ d.modify target (fillValue (c.select keys))) c

end Container

/-! ### Trimming -/

mutual

/-- Trims all texts in a value. A blank text becomes nil. -/
def Value.strip : Value → Value
  | .text s =>
    let trimmed := Text.trimmed s
    if trimmed = "" then .nil else .text trimmed
  | .map c => .map c.strip
  | .list items => .list (Value.stripAll items)
  | value => value

/-- `Value.strip` on each item. -/
def Value.stripAll : List Value → List Value
  | [] => []
  | v :: vs => v.strip :: Value.stripAll vs

/-- Trims all texts in a container. -/
def Container.strip : Container → Container
  | ⟨entries, path, node⟩ => ⟨Container.stripEntries entries, path, node⟩

/-- `Value.strip` on the value of each entry. -/
def Container.stripEntries : List (String × Value) → List (String × Value)
  | [] => []
  | (k, v) :: rest => (k, v.strip) :: Container.stripEntries rest

end

/-! ### Equality -/

namespace Container

theorem mem_of_get? {c : Container} {key : String} {value : Value}
    (h : c.get? key = some value) : (key, value) ∈ c.entries := by
  obtain ⟨before, after, hentries, -⟩ := List.lookup_eq_some_iff.mp h
  rw [hentries]
  exact List.mem_append_right before List.mem_cons_self

theorem sizeOf_lt_of_mem {c : Container} {e : String × Value} (h : e ∈ c.entries) :
    sizeOf e.2 < sizeOf c := by
  obtain ⟨key, value⟩ := e
  obtain ⟨entries, path, node⟩ := c
  have hentry := List.sizeOf_lt_of_mem h
  simp only [Prod.mk.sizeOf_spec] at hentry
  simp only [mk.sizeOf_spec]
  omega

end Container

mutual

/-- Whether two values are equal. -/
def Value.beq : Value → Value → Bool
  | .nil, .nil => true
  | .bool a, .bool b => a == b
  | .integer a, .integer b => a == b
  | .text a, .text b => a == b
  | .date a, .date b => a == b
  | .node a, .node b => a.beq b
  | .list as, .list bs => Value.beqAll as bs
  | .map a, .map b => a.beq b
  | _, _ => false
termination_by v w => sizeOf v + sizeOf w

/-- Whether two lists have equal items. -/
def Value.beqAll : List Value → List Value → Bool
  | [], [] => true
  | a :: as, b :: bs => a.beq b && Value.beqAll as bs
  | _, _ => false
termination_by vs ws => sizeOf vs + sizeOf ws

/-- Whether two containers have the same number of entries and the other has an equal value under
each key of this one. -/
def Container.beq : Container → Container → Bool
  | ⟨entries, _, _⟩, other =>
    entries.length == other.entries.length && Container.agrees entries other
termination_by c d => sizeOf c + sizeOf d

/-- Whether a container has, under each key of the entries, a value that is equal to the one in the
entries. -/
def Container.agrees : List (String × Value) → Container → Bool
  | [], _ => true
  | (k, v) :: rest, other =>
    (match _hget : other.get? k with
      | some w => w.beq v
      | none => false) && Container.agrees rest other
termination_by entries c => sizeOf entries + sizeOf c
decreasing_by
  · have hless : sizeOf w < sizeOf other := Container.sizeOf_lt_of_mem (Container.mem_of_get? _hget)
    simp only [List.cons.sizeOf_spec, Prod.mk.sizeOf_spec]
    omega
  · simp only [List.cons.sizeOf_spec]
    omega

end

instance : BEq Value := ⟨Value.beq⟩

instance : BEq Container := ⟨Container.beq⟩

end MarkupRecords
