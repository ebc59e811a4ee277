import MarkupRecords.Proofs.Value.Merge

/-!
Containers without a word on where they come from. `Container.unsourced` drops the path and the node
of a container and of all containers in it, and keeps the keys with their order and all other
values. It goes through everything that an extraction does to a container: insertion, under a key or
under a path of keys, taking keys out, and merging.
-/

set_option autoImplicit false
set_option relaxedAutoImplicit false

namespace MarkupRecords

mutual

/-- The value with its containers unsourced. -/
def Value.unsourced : Value → Value
  | .list items => .list (Value.unsourcedAll items)
  | .map c => .map c.unsourced
  | value => value

/-- `Value.unsourced` on each item. -/
def Value.unsourcedAll : List Value → List Value
  | [] => []
  | v :: vs => v.unsourced :: Value.unsourcedAll vs

/-- The container without the path and the node that it comes from, and so for all containers in
it. -/
def Container.unsourced : Container → Container
  | ⟨entries, _, _⟩ => ⟨Container.unsourcedEntries entries, none, none⟩

/-- `Value.unsourced` on the value of each entry. -/
def Container.unsourcedEntries : List (String × Value) → List (String × Value)
  | [] => []
  | (k, v) :: rest => (k, v.unsourced) :: Container.unsourcedEntries rest

end

theorem Value.unsourcedAll_eq_map (vs : List Value) :
    Value.unsourcedAll vs = vs.map Value.unsourced := by
  induction vs with
  | nil => rfl
  | cons v vs ih => rw [Value.unsourcedAll, ih, List.map_cons]

namespace Container

theorem unsourced_withNode (c : Container) (node : Option Node) :
    unsourced { c with sourceNode := node } = c.unsourced := by
  obtain ⟨entries, path, _⟩ := c
  rfl

theorem entries_unsourced (c : Container) : c.unsourced.entries = unsourcedEntries c.entries := by
  obtain ⟨entries, path, node⟩ := c
  rfl

theorem lookup_unsourcedEntries (key : String) (entries : List (String × Value)) :
    (unsourcedEntries entries).lookup key = (entries.lookup key).map Value.unsourced := by
  induction entries with
  | nil => rfl
  | cons e rest ih =>
    obtain ⟨k, v⟩ := e
    rw [unsourcedEntries, lookup_cons_ite, lookup_cons_ite, ih]
    split <;> rfl

theorem unsourcedEntries_insertEntry (key : String) (value : Value)
    (entries : List (String × Value)) :
    unsourcedEntries (insertEntry key value entries) =
      insertEntry key value.unsourced (unsourcedEntries entries) := by
  induction entries with
  | nil => rfl
  | cons e rest ih =>
    obtain ⟨k, v⟩ := e
    rw [insertEntry, unsourcedEntries, insertEntry]
    by_cases hk : k = key
    · rw [if_pos hk, if_pos hk, unsourcedEntries]
    · rw [if_neg hk, if_neg hk, unsourcedEntries, ih]

theorem unsourcedEntries_eraseEntry (key : String) (entries : List (String × Value)) :
    unsourcedEntries (eraseEntry key entries) = eraseEntry key (unsourcedEntries entries) := by
  induction entries with
  | nil => rfl
  | cons e rest ih =>
    obtain ⟨k, v⟩ := e
    rw [eraseEntry, unsourcedEntries, eraseEntry]
    by_cases hk : k = key
    · rw [if_pos hk, if_pos hk]
    · rw [if_neg hk, if_neg hk, unsourcedEntries, ih]

theorem unsourced_insert (c : Container) (key : String) (value : Value) :
    (c.insert key value).unsourced = c.unsourced.insert key value.unsourced := by
  obtain ⟨entries, path, node⟩ := c
  rw [insert, unsourced, unsourcedEntries_insertEntry]
  rfl

theorem unsourced_erase (c : Container) (key : String) :
    (c.erase key).unsourced = c.unsourced.erase key := by
  obtain ⟨entries, path, node⟩ := c
  rw [erase, unsourced, unsourcedEntries_eraseEntry]
  rfl

theorem unsourced_merge (c d : Container) :
    (c.merge d).unsourced = c.unsourced.merge d.unsourced := by
  obtain ⟨entries, path, node⟩ := d
  induction entries generalizing c with
  | nil => rfl
  | cons e rest ih =>
    obtain ⟨key, value⟩ := e
    rw [merge_cons, ih, unsourced_insert]
    rfl

theorem unsourced_inner (c : Container) (key : String) :
    (c.inner key).unsourced = c.unsourced.inner key := by
  have hget : c.unsourced.get? key = (c.get? key).map Value.unsourced := by
    rw [get?, entries_unsourced, lookup_unsourcedEntries, get?]
  rw [inner_eq_innerOf, inner_eq_innerOf, hget]
  cases c.get? key with
  | none => rfl
  | some v => cases v <;> rfl

theorem unsourced_insertPath (c : Container) (path : List String) (value : Value) :
    (c.insertPath path value).unsourced = c.unsourced.insertPath path value.unsourced := by
  induction path generalizing c with
  | nil => rfl
  | cons key path ih =>
    by_cases hnil : path = []
    · subst hnil
      exact unsourced_insert c key value
    · rw [insertPath_cons c key hnil, insertPath_cons _ key hnil, unsourced_insert, Value.unsourced,
        ih, unsourced_inner]

theorem unsourced_fill (c : Container) (items : List (List String × Value)) :
    (c.fill items).unsourced =
      c.unsourced.fill (items.map fun item ↦ (item.1, item.2.unsourced)) := by
  induction items generalizing c with
  | nil => rfl
  | cons item items ih =>
    obtain ⟨path, value⟩ := item
    rw [fill_cons, ih, unsourced_insertPath]
    rfl

end Container

end MarkupRecords
