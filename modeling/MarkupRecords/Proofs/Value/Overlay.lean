import MarkupRecords.Proofs.Value.Merge

/-!
Merging a container that has been filled against filling the other one on. Giving a key a value
commutes with a merge (`Container.merge_insert`): a key that is there keeps its place, and one that
is not comes last, whether it is put into what is merged in or into the result. So for items that go
under single keys it makes no difference whether they fill a container of their own that is merged
over another one, or go on filling the other one (`Container.merge_fill`).
-/

set_option autoImplicit false
set_option relaxedAutoImplicit false

namespace MarkupRecords

namespace Container

/-! ### Inserting in place -/

theorem insertEntry_insertEntry_self (key : String) (v w : Value)
    (entries : List (String × Value)) :
    insertEntry key v (insertEntry key w entries) = insertEntry key v entries := by
  induction entries with
  | nil => simp [insertEntry]
  | cons e rest ih =>
    obtain ⟨k, u⟩ := e
    rw [insertEntry, insertEntry]
    by_cases hk : k = key
    · rw [if_pos hk, if_pos hk, insertEntry, if_pos hk]
    · rw [if_neg hk, if_neg hk, insertEntry, if_neg hk, ih]

theorem insertEntry_comm {key k : String} (hne : k ≠ key) {entries : List (String × Value)}
    (hkey : key ∈ entries.map Prod.fst) (v w : Value) :
    insertEntry k w (insertEntry key v entries) = insertEntry key v (insertEntry k w entries) := by
  induction entries with
  | nil => cases hkey
  | cons e rest ih =>
    obtain ⟨k', u⟩ := e
    rw [insertEntry, insertEntry]
    by_cases hk' : k' = key
    · subst hk'
      rw [if_pos rfl, if_neg (Ne.symm hne), insertEntry, if_neg (Ne.symm hne), insertEntry,
        if_pos rfl]
    · rw [if_neg hk']
      by_cases hk : k' = k
      · rw [if_pos hk, insertEntry, if_pos hk, insertEntry, if_neg hk']
      · have hrest : key ∈ rest.map Prod.fst :=
          (List.mem_cons.mp hkey).resolve_left (Ne.symm hk')
        rw [if_neg hk, insertEntry, if_neg hk, insertEntry, if_neg hk', ih hrest]

theorem insertEntry_of_lookup {key : String} {v : Value} {entries : List (String × Value)}
    (h : entries.lookup key = some v) : insertEntry key v entries = entries := by
  induction entries with
  | nil => cases h
  | cons e rest ih =>
    obtain ⟨k, u⟩ := e
    rw [lookup_cons_ite] at h
    rw [insertEntry]
    by_cases hk : k = key
    · rw [if_pos hk.symm] at h
      rw [if_pos hk, Option.some.inj h]
    · rw [if_neg (Ne.symm hk)] at h
      rw [if_neg hk, ih h]

/-- Of two values that a key is given the later one stays. -/
theorem insert_insert_self (c : Container) (key : String) (v w : Value) :
    (c.insert key w).insert key v = c.insert key v := by
  rw [insert, insert, insertEntry_insertEntry_self, insert]

/-- A key that is there may be given its value before or after another key. -/
theorem insert_comm {c : Container} {key k : String} (hne : k ≠ key) (hkey : key ∈ c.keys)
    (v w : Value) : (c.insert key v).insert k w = (c.insert k w).insert key v := by
  rw [insert, insert, insertEntry_comm hne hkey, insert, insert]

/-- Giving a key the value that it has changes nothing. -/
theorem insert_of_get? {c : Container} {key : String} {v : Value} (h : c.get? key = some v) :
    c.insert key v = c := by
  obtain ⟨entries, path, node⟩ := c
  rw [insert, insertEntry_of_lookup h]

theorem mem_keys_insert_self (c : Container) (key : String) (v : Value) :
    key ∈ (c.insert key v).keys := by
  rw [keys_insert]
  split_ifs with hmem
  · exact hmem
  · exact List.mem_append_right _ (List.mem_singleton_self key)

theorem mem_keys_insert {c : Container} {key : String} (k : String) (v : Value)
    (hkey : key ∈ c.keys) : key ∈ (c.insert k v).keys := by
  rw [keys_insert]
  split_ifs
  · exact hkey
  · exact List.mem_append_left _ hkey

/-- A key that is there, and not among those that are merged in, may be given its value before the
merge or after it. -/
theorem merge_insert_comm {c d : Container} {key : String} (hkey : key ∈ c.keys)
    (hd : key ∉ d.keys) (v : Value) : (c.insert key v).merge d = (c.merge d).insert key v := by
  obtain ⟨entries, path, node⟩ := d
  induction entries generalizing c with
  | nil => rfl
  | cons e rest ih =>
    obtain ⟨k, w⟩ := e
    obtain ⟨hk, hrest⟩ := List.ne_and_not_mem_of_not_mem_cons hd
    rw [merge_cons, merge_cons, insert_comm (Ne.symm hk) hkey,
      ih (mem_keys_insert k w hkey) hrest]

/-- Inserting as one goes comes to the same as inserting into what is merged in. -/
theorem merge_insert (c : Container) {d : Container} (hd : d.keys.Nodup) (key : String)
    (value : Value) : c.merge (d.insert key value) = (c.merge d).insert key value := by
  obtain ⟨entries, path, node⟩ := d
  induction entries generalizing c with
  | nil => rfl
  | cons e rest ih =>
    obtain ⟨k, w⟩ := e
    obtain ⟨hk, hrest⟩ := List.nodup_cons.mp hd
    by_cases hkey : k = key
    · subst hkey
      have hinsert : insert ⟨(k, w) :: rest, path, node⟩ k value =
          ⟨(k, value) :: rest, path, node⟩ := by
        rw [insert, insertEntry, if_pos rfl]
      have hmerge :=
        merge_insert_comm (d := ⟨rest, path, node⟩) (mem_keys_insert_self c k w) hk value
      rw [hinsert, merge_cons, merge_cons, ← hmerge, insert_insert_self]
    · have hinsert : insert ⟨(k, w) :: rest, path, node⟩ key value =
          ⟨(k, w) :: insertEntry key value rest, path, node⟩ := by
        rw [insert, insertEntry, if_neg hkey]
      rw [hinsert, merge_cons, merge_cons]
      exact ih (c.insert k w) hrest

/-- Merging a container into itself changes nothing. -/
theorem merge_self {c : Container} (hc : c.keys.Nodup) : c.merge c = c := by
  have hall (entries : List (String × Value)) (h : ∀ e ∈ entries, c.get? e.1 = some e.2) :
      entries.foldl (fun c e ↦ c.insert e.1 e.2) c = c := by
    induction entries with
    | nil => rfl
    | cons e rest ih =>
      obtain ⟨he, hrest⟩ := List.forall_mem_cons.mp h
      rw [List.foldl_cons, insert_of_get? he, ih hrest]
  exact hall c.entries fun e he ↦ get?_of_mem hc he

/-! ### Flat paths -/

/-- Merging in what items fill comes to the same as filling in the items, if their paths are single
keys. -/
theorem merge_fill (c : Container) {d : Container} (hd : d.keys.Nodup)
    {items : List (List String × Value)} (hflat : ∀ item ∈ items, item.1.length = 1) :
    c.merge (d.fill items) = (c.merge d).fill items := by
  induction items generalizing d with
  | nil => rfl
  | cons item items ih =>
    obtain ⟨path, value⟩ := item
    obtain ⟨hpath, hitems⟩ := List.forall_mem_cons.mp hflat
    obtain ⟨key, rfl⟩ := List.length_eq_one_iff.mp hpath
    rw [fill_cons, fill_cons, insertPath, insertPath, ih (nodup_keys_insert hd key value) hitems,
      merge_insert c hd]

end Container

end MarkupRecords
