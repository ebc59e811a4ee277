import MarkupRecords.Text.Quoted
import MarkupRecords.Transform.Operation

/-!
Named transforms. A `TransformTable` gives functions names; `register` replaces what had the name,
`mergeMissing` only fills gaps. `Value.applyNamed` looks a name up among the operations of the
value's kind, then in a list of tables, the innermost first, then among what is known everywhere;
`Value.applyChain` applies one name after another until the value is nil.
-/

set_option autoImplicit false
set_option relaxedAutoImplicit false

namespace MarkupRecords

/-- Functions on values by name. No name occurs twice. -/
structure TransformTable where
  entries : List (String × (Value → Value))
  nodup : (entries.map Prod.fst).Nodup

namespace TransformTable

/-- No transforms. -/
def empty : TransformTable := ⟨[], .nil⟩

/-- The transform with a name. -/
def get? (t : TransformTable) (name : String) : Option (Value → Value) := t.entries.lookup name

/-- There is a transform with the name. -/
def contains (t : TransformTable) (name : String) : Bool := (t.get? name).isSome

/-- There are no transforms. -/
def isEmpty (t : TransformTable) : Bool := t.entries.isEmpty

/-- The names, in the order in which they came up first. -/
def names (t : TransformTable) : List String := t.entries.map Prod.fst

/-- Gives a name a function in a list of entries. -/
def setEntry (name : String) (f : Value → Value) :
    List (String × (Value → Value)) → List (String × (Value → Value))
  | [] => [(name, f)]
  | (k, g) :: rest => if k = name then (k, f) :: rest else (k, g) :: setEntry name f rest

theorem mem_setEntry_names {name k : String} {f : Value → Value}
    {entries : List (String × (Value → Value))}
    (h : k ∈ (setEntry name f entries).map Prod.fst) : k = name ∨ k ∈ entries.map Prod.fst := by
  induction entries with
  | nil => simpa [setEntry] using h
  | cons e rest ih =>
    obtain ⟨k', g⟩ := e
    by_cases hk : k' = name
    · simp only [setEntry, hk, if_true, List.map_cons, List.mem_cons] at h ⊢
      rcases h with h | h
      · exact .inl h
      · exact .inr (.inr h)
    · simp only [setEntry, hk, if_false, List.map_cons, List.mem_cons] at h ⊢
      rcases h with h | h
      · exact .inr (.inl h)
      · rcases ih h with h | h
        · exact .inl h
        · exact .inr (.inr h)

theorem nodup_setEntry {name : String} {f : Value → Value}
    {entries : List (String × (Value → Value))} (h : (entries.map Prod.fst).Nodup) :
    ((setEntry name f entries).map Prod.fst).Nodup := by
  induction entries with
  | nil => simp [setEntry]
  | cons e rest ih =>
    obtain ⟨k, g⟩ := e
    rw [List.map_cons, List.nodup_cons] at h
    by_cases hk : k = name
    · rw [setEntry, if_pos hk, List.map_cons, List.nodup_cons]
      exact h
    · simp only [setEntry, hk, if_false, List.map_cons, List.nodup_cons]
      refine ⟨fun hmem ↦ ?_, ih h.2⟩
      rcases mem_setEntry_names hmem with heq | hmem
      · exact hk heq
      · exact h.1 hmem

/-- Gives a name a function, in place of the one it had. -/
def register (t : TransformTable) (name : String) (f : Value → Value) : TransformTable :=
  ⟨setEntry name f t.entries, nodup_setEntry t.nodup⟩

/-- Takes over the transforms of another table whose names are free. -/
def mergeMissing (t other : TransformTable) : TransformTable :=
  other.entries.foldl (fun t e ↦ if t.contains e.1 then t else t.register e.1 e.2) t

/-- Puts a name before the first one that is not smaller. -/
def insertName (name : String) : List String → List String
  | [] => [name]
  | n :: ns => if n < name then n :: insertName name ns else name :: n :: ns

/-- The names in quotes and in order, between braces. -/
def display (t : TransformTable) : String :=
  "\x7b" ++ ", ".intercalate ((t.names.foldr insertName []).map Text.quoted) ++ "\x7d"

end TransformTable

namespace Value

/-- Applies the transform of a name. A name that nobody knows changes nothing. -/
def applyNamed (tables : List TransformTable) (name : String) (v : Value) : Value :=
  match v.operation? name with
  | some result => result
  | none =>
    match tables.findSome? (·.get? name) with
    | some f => f v
    | none => (v.builtin? name).getD v

/-- Applies transforms from left to right. Nil stays nil. -/
def applyChain (tables : List TransformTable) (names : List String) (v : Value) : Value :=
  names.foldl (fun v name ↦ if v.isNil then v else v.applyNamed tables name) v

end Value

end MarkupRecords
