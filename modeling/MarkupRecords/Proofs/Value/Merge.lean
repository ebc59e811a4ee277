import MarkupRecords.Proofs.Value.KeyPath

/-!
Merging containers and taking keys out. A merge looks a key up in the container that is merged in
and then in the other one (`Container.get?_merge`), and lists the keys of both in the order in which
they come up first (`Container.keys_merge`). Taking a key out leaves the other keys as they are, and
it may be done before or after an insertion or a merge (`Container.erase_merge`).
-/

set_option autoImplicit false
set_option relaxedAutoImplicit false

namespace MarkupRecords

/-! ### First occurrences -/

section FirstOccurrences

variable {α : Type} [BEq α] [LawfulBEq α]

theorem eraseDups_concat (xs : List α) (a : α) :
    (xs ++ [a]).eraseDups = if a ∈ xs then xs.eraseDups else xs.eraseDups ++ [a] := by
  rw [List.eraseDups_append]
  by_cases ha : a ∈ xs
  · simp [List.removeAll, ha]
  · simp [List.removeAll, ha, List.eraseDups_cons]

theorem nodup_eraseDups (xs : List α) : xs.eraseDups.Nodup := by
  induction xs using List.reverseRecOn with
  | nil => exact List.nodup_nil
  | append_singleton xs a ih =>
    rw [eraseDups_concat]
    by_cases ha : a ∈ xs
    · rw [if_pos ha]
      exact ih
    · rw [if_neg ha, List.nodup_append]
      refine ⟨ih, List.pairwise_singleton _ a, fun b hb c hc heq ↦ ha ?_⟩
      rw [← List.mem_singleton.mp hc, ← heq]
      exact List.mem_eraseDups.mp hb

theorem eraseDups_of_nodup {xs : List α} (h : xs.Nodup) : xs.eraseDups = xs := by
  induction xs using List.reverseRecOn with
  | nil => rfl
  | append_singleton xs a ih =>
    obtain ⟨hxs, -, hapart⟩ := List.nodup_append.mp h
    have ha : a ∉ xs := fun hmem ↦ hapart a hmem a List.mem_cons_self rfl
    rw [eraseDups_concat, if_neg ha, ih hxs]

theorem filter_eraseDups (p : α → Bool) (xs : List α) :
    xs.eraseDups.filter p = (xs.filter p).eraseDups := by
  induction xs using List.reverseRecOn with
  | nil => rfl
  | append_singleton xs a ih =>
    rw [eraseDups_concat, List.filter_append]
    cases hp : p a with
    | true =>
      have hsingle : [a].filter p = [a] := by simp [hp]
      rw [hsingle, eraseDups_concat, ← ih]
      by_cases ha : a ∈ xs
      · rw [if_pos ha, if_pos (List.mem_filter.mpr ⟨ha, hp⟩)]
      · rw [if_neg ha, if_neg fun h ↦ ha (List.mem_filter.mp h).1, List.filter_append, hsingle]
    | false =>
      have hsingle : [a].filter p = [] := by simp [hp]
      rw [hsingle, List.append_nil, ← ih]
      by_cases ha : a ∈ xs
      · rw [if_pos ha]
      · rw [if_neg ha, List.filter_append, hsingle, List.append_nil]

theorem eraseDups_eraseDups_append (xs ys : List α) :
    (xs.eraseDups ++ ys).eraseDups = (xs ++ ys).eraseDups := by
  induction ys using List.reverseRecOn with
  | nil =>
    rw [List.append_nil, List.append_nil]
    exact eraseDups_of_nodup (nodup_eraseDups xs)
  | append_singleton ys a ih =>
    rw [← List.append_assoc, ← List.append_assoc, eraseDups_concat, eraseDups_concat, ih]
    simp only [List.mem_append, List.mem_eraseDups]

end FirstOccurrences

namespace Container

/-! ### Taking a key out -/

theorem lookup_eraseEntry_of_ne {key k : String} (hne : k ≠ key)
    (entries : List (String × Value)) : (eraseEntry key entries).lookup k = entries.lookup k := by
  induction entries with
  | nil => rfl
  | cons e rest ih =>
    obtain ⟨k', v⟩ := e
    rw [eraseEntry]
    by_cases hkey : k' = key
    · rw [if_pos hkey, lookup_cons_ite, if_neg (hkey ▸ hne)]
    · rw [if_neg hkey, lookup_cons_ite, lookup_cons_ite, ih]

theorem map_fst_eraseEntry (key : String) (entries : List (String × Value)) :
    (eraseEntry key entries).map Prod.fst = (entries.map Prod.fst).erase key := by
  induction entries with
  | nil => rfl
  | cons e rest ih =>
    obtain ⟨k, v⟩ := e
    rw [eraseEntry, List.map_cons]
    by_cases hkey : k = key
    · rw [if_pos hkey, hkey, List.erase_cons_head]
    · rw [if_neg hkey, List.erase_cons_tail (by simpa using hkey), List.map_cons, ih]

theorem get?_erase_of_ne (c : Container) {key k : String} (hne : k ≠ key) :
    (c.erase key).get? k = c.get? k :=
  lookup_eraseEntry_of_ne hne c.entries

theorem keys_erase (c : Container) (key : String) : (c.erase key).keys = c.keys.erase key :=
  map_fst_eraseEntry key c.entries

theorem nodup_keys_erase {c : Container} (hc : c.keys.Nodup) (key : String) :
    (c.erase key).keys.Nodup := by
  rw [keys_erase]
  exact hc.erase key

/-- A key that has been taken out is left out of sight by keys that leave it aside. -/
theorem filter_keys_erase (c : Container) {key : String} {p : String → Bool} (hp : p key = false) :
    (c.erase key).keys.filter p = c.keys.filter p := by
  rw [keys_erase]
  induction c.keys with
  | nil => rfl
  | cons k ks ih =>
    by_cases hk : k = key
    · rw [hk, List.erase_cons_head, List.filter_cons_of_neg (by simp [hp])]
    · rw [List.erase_cons_tail (by simpa using hk), List.filter_cons, List.filter_cons, ih]

theorem eraseEntry_of_notMem {key : String} {entries : List (String × Value)}
    (h : key ∉ entries.map Prod.fst) : eraseEntry key entries = entries := by
  induction entries with
  | nil => rfl
  | cons e rest ih =>
    obtain ⟨k, v⟩ := e
    rw [List.map_cons, List.mem_cons, not_or] at h
    rw [eraseEntry, if_neg (Ne.symm h.1), ih h.2]

theorem eraseEntry_insertEntry (key : String) (value : Value) (entries : List (String × Value)) :
    eraseEntry key (insertEntry key value entries) = eraseEntry key entries := by
  induction entries with
  | nil => simp [insertEntry, eraseEntry]
  | cons e rest ih =>
    obtain ⟨k, v⟩ := e
    rw [insertEntry, eraseEntry]
    by_cases hk : k = key
    · rw [if_pos hk, if_pos hk, eraseEntry, if_pos hk]
    · rw [if_neg hk, if_neg hk, eraseEntry, if_neg hk, ih]

theorem eraseEntry_insertEntry_of_ne {key k : String} (hne : k ≠ key) (value : Value)
    (entries : List (String × Value)) :
    eraseEntry key (insertEntry k value entries) =
      insertEntry k value (eraseEntry key entries) := by
  induction entries with
  | nil => simp [insertEntry, eraseEntry, hne]
  | cons e rest ih =>
    obtain ⟨k', v⟩ := e
    rw [insertEntry, eraseEntry]
    by_cases hk : k' = k
    · rw [if_pos hk, if_neg (hk ▸ hne), eraseEntry, if_neg (hk ▸ hne), insertEntry, if_pos hk]
    · rw [if_neg hk, eraseEntry]
      by_cases hkey : k' = key
      · rw [if_pos hkey, if_pos hkey]
      · rw [if_neg hkey, if_neg hkey, insertEntry, if_neg hk, ih]

theorem erase_of_notMem {c : Container} {key : String} (h : key ∉ c.keys) : c.erase key = c := by
  obtain ⟨entries, path, node⟩ := c
  rw [erase, eraseEntry_of_notMem h]

/-- What is given to a key is gone when the key is taken out. -/
theorem erase_insert (c : Container) (key : String) (value : Value) :
    (c.insert key value).erase key = c.erase key := by
  rw [erase, insert, eraseEntry_insertEntry, erase]

theorem erase_insert_of_ne (c : Container) {key k : String} (hne : k ≠ key) (value : Value) :
    (c.insert k value).erase key = (c.erase key).insert k value := by
  rw [erase, insert, eraseEntry_insertEntry_of_ne hne, insert, erase]

/-! ### Merging -/

theorem merge_cons (c : Container) (key : String) (value : Value)
    (rest : List (String × Value)) (path : Option String) (node : Option Node) :
    c.merge ⟨(key, value) :: rest, path, node⟩ = (c.insert key value).merge ⟨rest, path, node⟩ :=
  rfl

theorem get?_merge (c : Container) {d : Container} (hd : d.keys.Nodup) (key : String) :
    (c.merge d).get? key = (d.get? key).or (c.get? key) := by
  obtain ⟨entries, path, node⟩ := d
  induction entries generalizing c with
  | nil => rfl
  | cons e rest ih =>
    obtain ⟨k, value⟩ := e
    obtain ⟨hk, hrest⟩ := List.nodup_cons.mp hd
    have hcons : get? ⟨(k, value) :: rest, path, node⟩ key =
        if key = k then some value else get? ⟨rest, path, node⟩ key :=
      lookup_cons_ite key k value rest
    rw [merge_cons, ih (c.insert k value) hrest, get?_insert, hcons]
    by_cases hkey : key = k
    · have hnone : get? ⟨rest, path, node⟩ key = none := get?_eq_none_iff.mpr (hkey ▸ hk)
      rw [if_pos hkey, if_pos hkey, hnone]
      rfl
    · rw [if_neg hkey, if_neg hkey]

/-- A key that is there keeps its place, and any other key comes last. -/
theorem keys_insert_of_nodup {c : Container} (hc : c.keys.Nodup) (key : String) (value : Value) :
    (c.insert key value).keys = (c.keys ++ [key]).eraseDups := by
  rw [keys_insert, eraseDups_concat, eraseDups_of_nodup hc]

theorem keys_merge {c : Container} (hc : c.keys.Nodup) (d : Container) :
    (c.merge d).keys = (c.keys ++ d.keys).eraseDups := by
  obtain ⟨entries, path, node⟩ := d
  induction entries generalizing c with
  | nil =>
    change c.keys = (c.keys ++ []).eraseDups
    rw [List.append_nil, eraseDups_of_nodup hc]
  | cons e rest ih =>
    obtain ⟨key, value⟩ := e
    have hkeys : keys ⟨(key, value) :: rest, path, node⟩ = [key] ++ keys ⟨rest, path, node⟩ := rfl
    rw [merge_cons, ih (nodup_keys_insert hc key value), keys_insert_of_nodup hc,
      eraseDups_eraseDups_append, List.append_assoc, hkeys]

theorem nodup_keys_merge {c : Container} (hc : c.keys.Nodup) (d : Container) :
    (c.merge d).keys.Nodup := by
  rw [keys_merge hc]
  exact nodup_eraseDups _

/-- A key may be taken out after a merge, or before it from both containers. -/
theorem erase_merge (c : Container) {d : Container} (hd : d.keys.Nodup) (key : String) :
    (c.merge d).erase key = (c.erase key).merge (d.erase key) := by
  obtain ⟨entries, path, node⟩ := d
  induction entries generalizing c with
  | nil => rfl
  | cons e rest ih =>
    obtain ⟨k, value⟩ := e
    obtain ⟨hk, hrest⟩ := List.nodup_cons.mp hd
    rw [merge_cons, ih (c.insert k value) hrest]
    by_cases hkey : k = key
    · have hhead : erase ⟨(k, value) :: rest, path, node⟩ key = ⟨rest, path, node⟩ := by
        rw [erase, eraseEntry, if_pos hkey]
      have htail : erase ⟨rest, path, node⟩ key = ⟨rest, path, node⟩ :=
        erase_of_notMem (hkey ▸ hk)
      rw [hhead, htail, hkey, erase_insert]
    · have hhead : erase ⟨(k, value) :: rest, path, node⟩ key =
          ⟨(k, value) :: eraseEntry key rest, path, node⟩ := by
        rw [erase, eraseEntry, if_neg hkey]
      rw [hhead, merge_cons, erase_insert_of_ne c hkey]
      rfl

end Container

end MarkupRecords
