import MarkupRecords.Proofs.Value.Equality
import Mathlib.Data.List.Induction
import Mathlib.Tactic.SplitIfs

/-!
Values under paths of keys. What is put under a path is found there, and putting it there is not
seen under a path that lies apart from it (`Container.getPath?_insertPath_of_apart`), one that is
neither a prefix of it nor goes on it.

`Container.fill` puts values under paths one after another. What becomes of one key depends only on
the paths that begin with it (`Container.get?_fill`), which is why the order of paths that lie apart
does not matter (`Container.alike_fill_of_perm`).
-/

set_option autoImplicit false
set_option relaxedAutoImplicit false

namespace MarkupRecords

/-! ### Paths that lie apart -/

/-- Neither path is a prefix of the other. -/
def KeysApart (p q : List String) : Prop := ¬ p <+: q ∧ ¬ q <+: p

theorem KeysApart.symm {p q : List String} (h : KeysApart p q) : KeysApart q p := ⟨h.2, h.1⟩

theorem KeysApart.ne_nil {p q : List String} (h : KeysApart p q) : p ≠ [] := by
  rintro rfl
  exact h.1 List.nil_prefix

theorem keysApart_cons_iff {key key' : String} {p q : List String} :
    KeysApart (key :: p) (key' :: q) ↔ (key = key' → KeysApart p q) := by
  constructor
  · rintro ⟨hbegins, hextends⟩ rfl
    exact ⟨fun h ↦ hbegins ((List.prefix_cons_inj key).mpr h),
      fun h ↦ hextends ((List.prefix_cons_inj key).mpr h)⟩
  · intro h
    refine ⟨fun hbegins ↦ ?_, fun hextends ↦ ?_⟩
    · obtain ⟨heq, hbegins⟩ := List.cons_prefix_cons.mp hbegins
      exact (h heq).1 hbegins
    · obtain ⟨heq, hextends⟩ := List.cons_prefix_cons.mp hextends
      exact (h heq.symm).2 hextends

namespace Container

/-! ### One key -/

theorem lookup_cons_ite {α : Type} (k key : String) (value : α) (entries : List (String × α)) :
    ((key, value) :: entries).lookup k = if k = key then some value else entries.lookup k := by
  by_cases hk : k = key
  · rw [if_pos hk, hk, List.lookup_cons_self]
  · rw [if_neg hk, List.lookup_cons, beq_eq_false_iff_ne.mpr hk]

theorem lookup_insertEntry (key : String) (value : Value) (entries : List (String × Value))
    (k : String) :
    (insertEntry key value entries).lookup k =
      if k = key then some value else entries.lookup k := by
  induction entries with
  | nil => rw [insertEntry, lookup_cons_ite]
  | cons e rest ih =>
    obtain ⟨k', v⟩ := e
    rw [insertEntry]
    by_cases hkey : k' = key
    · subst hkey
      rw [if_pos rfl, lookup_cons_ite, lookup_cons_ite]
      split_ifs <;> rfl
    · rw [if_neg hkey, lookup_cons_ite, lookup_cons_ite, ih]
      by_cases hk : k = k'
      · rw [if_pos hk, if_pos hk, if_neg (hk ▸ hkey)]
      · rw [if_neg hk, if_neg hk]

theorem map_fst_insertEntry (key : String) (value : Value) (entries : List (String × Value)) :
    (insertEntry key value entries).map Prod.fst =
      if key ∈ entries.map Prod.fst then entries.map Prod.fst
      else entries.map Prod.fst ++ [key] := by
  induction entries with
  | nil => rfl
  | cons e rest ih =>
    obtain ⟨k', v⟩ := e
    rw [insertEntry]
    by_cases hkey : k' = key
    · subst hkey
      simp
    · rw [if_neg hkey, List.map_cons, ih, List.map_cons]
      by_cases hmem : key ∈ rest.map Prod.fst
      · rw [if_pos hmem, if_pos (List.mem_cons_of_mem k' hmem)]
      · rw [if_neg hmem, if_neg (by simp [Ne.symm hkey, hmem])]
        rfl

theorem get?_insert (c : Container) (key : String) (value : Value) (k : String) :
    (c.insert key value).get? k = if k = key then some value else c.get? k :=
  lookup_insertEntry key value c.entries k

theorem keys_insert (c : Container) (key : String) (value : Value) :
    (c.insert key value).keys = if key ∈ c.keys then c.keys else c.keys ++ [key] :=
  map_fst_insertEntry key value c.entries

theorem nodup_keys_insert {c : Container} (hc : c.keys.Nodup) (key : String) (value : Value) :
    (c.insert key value).keys.Nodup := by
  rw [keys_insert]
  by_cases hkey : key ∈ c.keys
  · rw [if_pos hkey]
    exact hc
  · rw [if_neg hkey]
    refine List.nodup_append.mpr ⟨hc, List.pairwise_singleton _ key, fun k hk k' hk' heq ↦ ?_⟩
    rw [heq, List.mem_singleton.mp hk'] at hk
    exact hkey hk

theorem inner_insert_map_self (c : Container) (key : String) (d : Container) :
    (c.insert key (.map d)).inner key = d := by
  rw [inner, get?_insert, if_pos rfl]

/-! ### Paths of keys -/

theorem getPath?_empty (path : List String) : empty.getPath? path = none := by
  unfold getPath?
  split <;> rfl

/-- A path of several keys goes on in the container under the first. -/
theorem getPath?_cons (c : Container) (key : String) {path : List String} (hpath : path ≠ []) :
    c.getPath? (key :: path) = (c.inner key).getPath? path := by
  rw [getPath?, inner]
  · split
    · rfl
    · exact (getPath?_empty path).symm
  · exact hpath

/-- Only the value of the first key of a path matters. -/
theorem getPath?_congr {c d : Container} {key : String} (h : c.get? key = d.get? key)
    (path : List String) : c.getPath? (key :: path) = d.getPath? (key :: path) := by
  by_cases hnil : path = []
  · subst hnil
    exact h
  · rw [getPath?_cons c key hnil, getPath?_cons d key hnil, inner, inner, h]

theorem getPath?_insert_of_ne (c : Container) {key k : String} (hne : k ≠ key) (value : Value)
    (path : List String) :
    (c.insert key value).getPath? (k :: path) = c.getPath? (k :: path) :=
  getPath?_congr (by rw [get?_insert, if_neg hne]) path

theorem insertPath_cons (c : Container) (key : String) {path : List String} (hpath : path ≠ [])
    (value : Value) :
    c.insertPath (key :: path) value =
      c.insert key (.map ((c.inner key).insertPath path value)) := by
  rw [insertPath]
  exact hpath

/-- Only the value of the first key of a path changes. -/
theorem exists_insertPath_eq_insert (c : Container) (key : String) (path : List String)
    (value : Value) : ∃ v, c.insertPath (key :: path) value = c.insert key v := by
  by_cases hnil : path = []
  · subst hnil
    exact ⟨value, rfl⟩
  · exact ⟨_, insertPath_cons c key hnil value⟩

theorem nodup_keys_insertPath {c : Container} (hc : c.keys.Nodup) (path : List String)
    (value : Value) : (c.insertPath path value).keys.Nodup := by
  cases path with
  | nil => exact hc
  | cons key path =>
    obtain ⟨v, hv⟩ := exists_insertPath_eq_insert c key path value
    rw [hv]
    exact nodup_keys_insert hc key v

/-- What is put under a path is found there. -/
theorem getPath?_insertPath_self (c : Container) {path : List String} (hpath : path ≠ [])
    (value : Value) : (c.insertPath path value).getPath? path = some value := by
  induction path, hpath using List.recNeNil generalizing c with
  | singleton key => rw [insertPath, getPath?, get?_insert, if_pos rfl]
  | cons key path hpath ih =>
    rw [insertPath_cons c key hpath, getPath?_cons _ key hpath, inner_insert_map_self]
    exact ih _

/-- What is put under a path is not seen under a path apart from it. -/
theorem getPath?_insertPath_of_apart (c : Container) {path other : List String}
    (h : KeysApart path other) (value : Value) :
    (c.insertPath path value).getPath? other = c.getPath? other := by
  induction path generalizing c other with
  | nil => exact absurd rfl h.ne_nil
  | cons key path ih =>
    obtain ⟨key', other, rfl⟩ := List.exists_cons_of_ne_nil h.symm.ne_nil
    rw [keysApart_cons_iff] at h
    by_cases hkey : key' = key
    · have happart := h hkey.symm
      have hnil := happart.symm.ne_nil
      rw [insertPath_cons c key happart.ne_nil, hkey, getPath?_cons _ key hnil,
        getPath?_cons _ key hnil, inner_insert_map_self]
      exact ih _ happart
    · obtain ⟨v, hv⟩ := exists_insertPath_eq_insert c key path value
      rw [hv, getPath?_insert_of_ne c hkey]

/-! ### Filling a container -/

/-- Puts values under paths, from first to last. -/
def fill (c : Container) (items : List (List String × Value)) : Container :=
  items.foldl (fun c item ↦ c.insertPath item.1 item.2) c

theorem fill_nil (c : Container) : c.fill [] = c := rfl

theorem fill_cons (c : Container) (path : List String) (value : Value)
    (items : List (List String × Value)) :
    c.fill ((path, value) :: items) = (c.insertPath path value).fill items := rfl

theorem fill_append (c : Container) (items more : List (List String × Value)) :
    c.fill (items ++ more) = (c.fill items).fill more :=
  List.foldl_append

theorem insertPath_withNode (c : Container) (node : Option Node) (path : List String)
    (value : Value) :
    Container.insertPath { c with sourceNode := node } path value =
      { c.insertPath path value with sourceNode := node } := by
  cases path with
  | nil => rfl
  | cons key path =>
    by_cases hnil : path = []
    · rw [hnil]
      rfl
    · rw [insertPath_cons _ key hnil, insertPath_cons _ key hnil]
      rfl

theorem fill_withNode (c : Container) (node : Option Node) (items : List (List String × Value)) :
    Container.fill { c with sourceNode := node } items =
      { c.fill items with sourceNode := node } := by
  induction items generalizing c with
  | nil => rfl
  | cons item items ih =>
    obtain ⟨path, value⟩ := item
    rw [fill_cons, fill_cons, insertPath_withNode]
    exact ih _

theorem getPath?_fill_of_apart (c : Container) {path : List String}
    {items : List (List String × Value)} (h : ∀ item ∈ items, KeysApart path item.1) :
    (c.fill items).getPath? path = c.getPath? path := by
  induction items generalizing c with
  | nil => rfl
  | cons item items ih =>
    obtain ⟨hitem, hitems⟩ := List.forall_mem_cons.mp h
    rw [fill_cons, ih _ hitems, getPath?_insertPath_of_apart c hitem.symm]

/-- The last value under a path stays if everything after it goes under paths apart from it. -/
theorem getPath?_fill (c : Container) {path : List String} (hpath : path ≠ []) (value : Value)
    (before : List (List String × Value)) {after : List (List String × Value)}
    (h : ∀ item ∈ after, KeysApart path item.1) :
    (c.fill (before ++ (path, value) :: after)).getPath? path = some value := by
  rw [fill_append, fill_cons, getPath?_fill_of_apart _ h, getPath?_insertPath_self _ hpath]

/-- The first keys of the paths under which something is put. -/
def firstKeys (items : List (List String × Value)) : List String :=
  items.filterMap fun item ↦ item.1.head?

/-- Keys stand in the order in which they first occur. -/
theorem keys_fill {c : Container} (hc : c.keys = []) (items : List (List String × Value)) :
    (c.fill items).keys = (firstKeys items).eraseDups := by
  induction items using List.reverseRecOn with
  | nil => exact hc
  | append_singleton items item ih =>
    obtain ⟨path, value⟩ := item
    have hfirst : firstKeys (items ++ [(path, value)]) = firstKeys items ++ path.head?.toList := by
      rw [firstKeys, List.filterMap_append]
      cases path <;> rfl
    rw [fill_append, fill_cons, fill_nil, hfirst, List.eraseDups_append, ← ih]
    cases path with
    | nil => simp [insertPath]
    | cons key path =>
      obtain ⟨v, hv⟩ := exists_insertPath_eq_insert (c.fill items) key path value
      rw [hv, keys_insert, ih]
      by_cases hkey : key ∈ firstKeys items
      · rw [if_pos (List.mem_eraseDups.mpr hkey)]
        simp [List.removeAll, hkey]
      · rw [if_neg fun h ↦ hkey (List.mem_eraseDups.mp h)]
        simp [List.removeAll, hkey, List.eraseDups_cons]

theorem nodup_keys_fill {c : Container} (hc : c.keys.Nodup)
    (items : List (List String × Value)) : (c.fill items).keys.Nodup :=
  List.foldlRecOn (motive := fun d : Container ↦ d.keys.Nodup) items _ hc
    fun _ hd item _ ↦ nodup_keys_insertPath hd item.1 item.2

/-! ### What becomes of one key -/

/-- What a path goes on with after a key, if it begins with the key. -/
def after? (key : String) : List String → Option (List String)
  | [] => none
  | k :: path => if k = key then some path else none

theorem after?_eq_some_iff {key : String} {path rest : List String} :
    after? key path = some rest ↔ path = key :: rest := by
  cases path with
  | nil => simp [after?]
  | cons k path =>
    rw [after?, List.cons.injEq]
    by_cases hk : k = key
    · rw [if_pos hk, Option.some.injEq]
      exact (and_iff_right hk).symm
    · rw [if_neg hk]
      exact ⟨fun h ↦ absurd h (by simp), fun h ↦ absurd h.1 hk⟩

/-- What is put under paths that begin with a key, with the rests of the paths. -/
def under (key : String) (items : List (List String × Value)) : List (List String × Value) :=
  items.filterMap fun item ↦ (after? key item.1).map (·, item.2)

theorem mem_under_iff {key : String} {items : List (List String × Value)} {path : List String}
    {value : Value} : (path, value) ∈ under key items ↔ (key :: path, value) ∈ items := by
  rw [under, List.mem_filterMap]
  constructor
  · rintro ⟨⟨p, v⟩, hmem, h⟩
    obtain ⟨rest, hrest, heq⟩ := Option.map_eq_some_iff.mp h
    rw [Prod.mk.injEq] at heq
    rw [← heq.1, ← heq.2, ← after?_eq_some_iff.mp hrest]
    exact hmem
  · intro hmem
    exact ⟨_, hmem, Option.map_eq_some_iff.mpr ⟨path, after?_eq_some_iff.mpr rfl, rfl⟩⟩

/-- Paths that lie apart still do after the same key has been taken from them. -/
theorem pairwise_under {items : List (List String × Value)} (key : String)
    (h : items.Pairwise fun a b ↦ KeysApart a.1 b.1) :
    (under key items).Pairwise fun a b ↦ KeysApart a.1 b.1 := by
  refine List.Pairwise.filterMap _ (fun a b hapart a' ha b' hb ↦ ?_) h
  obtain ⟨p, hp, rfl⟩ := Option.map_eq_some_iff.mp ha
  obtain ⟨q, hq, rfl⟩ := Option.map_eq_some_iff.mp hb
  rw [after?_eq_some_iff.mp hp, after?_eq_some_iff.mp hq] at hapart
  exact keysApart_cons_iff.mp hapart rfl

/-- The container that a value is taken for when something is put under a path through it. -/
def innerOf : Option Value → Container
  | some (.map c) => c
  | _ => empty

/-- The value of a key after something has been put under a path that goes on with `item.1`. -/
def put (value : Option Value) (item : List String × Value) : Option Value :=
  if item.1 = [] then some item.2 else some (.map ((innerOf value).insertPath item.1 item.2))

theorem inner_eq_innerOf (c : Container) (key : String) : c.inner key = innerOf (c.get? key) := by
  rw [inner]
  cases c.get? key with
  | none => rfl
  | some v => cases v <;> rfl

theorem get?_insertPath_self (c : Container) (key : String) (path : List String) (value : Value) :
    (c.insertPath (key :: path) value).get? key = put (c.get? key) (path, value) := by
  by_cases hnil : path = []
  · subst hnil
    rw [insertPath, get?_insert, if_pos rfl, put, if_pos rfl]
  · rw [insertPath_cons c key hnil, get?_insert, if_pos rfl, put, if_neg hnil, inner_eq_innerOf]

/-- The value of a key comes from the paths that begin with it, whatever else is put. -/
theorem get?_fill (c : Container) (items : List (List String × Value)) (key : String) :
    (c.fill items).get? key = (under key items).foldl put (c.get? key) := by
  induction items generalizing c with
  | nil => rfl
  | cons item items ih =>
    obtain ⟨path, value⟩ := item
    rw [fill_cons, ih]
    cases path with
    | nil => rfl
    | cons k path =>
      by_cases hk : k = key
      · subst hk
        have hunder : under k ((k :: path, value) :: items) = (path, value) :: under k items := by
          simp [under, after?]
        rw [hunder, get?_insertPath_self, List.foldl_cons]
      · have hunder : under key ((k :: path, value) :: items) = under key items := by
          simp [under, after?, hk]
        obtain ⟨v, hv⟩ := exists_insertPath_eq_insert c k path value
        rw [hunder, hv, get?_insert, if_neg (Ne.symm hk)]

/-- If all paths go on after a key, they fill the container under it. -/
theorem foldl_put (value : Option Value) {items : List (List String × Value)} (hitems : items ≠ [])
    (h : ∀ item ∈ items, item.1 ≠ []) :
    items.foldl put value = some (.map ((innerOf value).fill items)) := by
  induction items generalizing value with
  | nil => exact absurd rfl hitems
  | cons item items ih =>
    obtain ⟨hitem, hrest⟩ := List.forall_mem_cons.mp h
    rw [List.foldl_cons, put, if_neg hitem]
    by_cases hnil : items = []
    · rw [hnil]
      rfl
    · rw [ih _ hnil hrest]
      rfl

theorem get?_of_keys_eq_nil {c : Container} (hc : c.keys = []) (key : String) :
    c.get? key = none := by
  rw [get?, List.map_eq_nil_iff.mp hc]
  rfl

/-- Under paths that lie apart, a key gets no value, the value of the only path that ends in it, or
a container with everything that goes under it. -/
theorem get?_fill_of_pairwise {c : Container} (hc : c.keys = [])
    {items : List (List String × Value)} (h : items.Pairwise fun a b ↦ KeysApart a.1 b.1)
    (key : String) :
    under key items = [] ∧ (c.fill items).get? key = none ∨
      (∃ value, under key items = [([], value)] ∧ (c.fill items).get? key = some value) ∨
      (∀ item ∈ under key items, item.1 ≠ []) ∧ under key items ≠ [] ∧
        (c.fill items).get? key = some (.map (empty.fill (under key items))) := by
  have happart := pairwise_under key h
  rw [get?_fill, get?_of_keys_eq_nil hc]
  match hunder : under key items with
  | [] => exact .inl ⟨rfl, rfl⟩
  | [([], value)] => exact .inr (.inl ⟨value, rfl, rfl⟩)
  | [(k :: path, value)] => exact .inr (.inr ⟨by simp, by simp, foldl_put _ (by simp) (by simp)⟩)
  | item :: other :: rest =>
    rw [hunder] at happart
    have hne : ∀ e ∈ item :: other :: rest, e.1 ≠ [] := by
      obtain ⟨hitem, hrest⟩ := List.pairwise_cons.mp happart
      refine List.forall_mem_cons.mpr ⟨(hitem other List.mem_cons_self).ne_nil, fun e he ↦ ?_⟩
      exact (hitem e he).symm.ne_nil
    exact .inr (.inr ⟨hne, by simp, foldl_put _ (by simp) hne⟩)

/-! ### The order of paths that lie apart -/

end Container

/-- No comparison tells the values apart, on whichever side they stand in it. -/
def Value.Alike (v w : Value) : Prop := ∀ x : Value, x.beq v = x.beq w ∧ v.beq x = w.beq x

/-- No comparison tells the containers apart, on whichever side they stand in it. -/
def Container.Alike (c d : Container) : Prop :=
  ∀ x : Container, (x == c) = (x == d) ∧ (c == x) = (d == x)

theorem Value.Alike.refl (v : Value) : v.Alike v := fun _ ↦ ⟨rfl, rfl⟩

theorem Container.Alike.map {c d : Container} (h : c.Alike d) : (Value.map c).Alike (.map d) := by
  intro v
  cases v with
  | map x =>
    simp only [Value.map_beq_map]
    exact h x
  | _ => simp [Value.beq]

namespace Container

/-- Containers with the same keys are alike if the values under each key are. -/
theorem alike_of_get? {c d : Container} (hc : c.keys.Nodup) (hd : d.keys.Nodup)
    (h : ∀ key, c.get? key = none ∧ d.get? key = none ∨
      ∃ v w, c.get? key = some v ∧ d.get? key = some w ∧ v.Alike w) : c.Alike d := by
  have hkeys : c.keys.Perm d.keys := by
    refine (List.perm_ext_iff_of_nodup hc hd).mpr fun key ↦ ?_
    rw [mem_keys_iff, mem_keys_iff]
    rcases h key with ⟨hnone, hnone'⟩ | ⟨v, w, hv, hw, -⟩
    · simp [hnone, hnone']
    · simp [hv, hw]
  have hlength : c.length = d.length := by
    rw [← length_keys, ← length_keys, hkeys.length_eq]
  refine fun x ↦ ⟨?_, ?_⟩
  · rw [Bool.eq_iff_iff, beq_iff, beq_iff, hlength]
    refine and_congr_right fun _ ↦ forall₂_congr fun e _ ↦ ?_
    rcases h e.1 with ⟨hnone, hnone'⟩ | ⟨v, w, hv, hw, halike⟩
    · rw [hnone, hnone']
    · simp [hv, hw, (halike e.2).2]
  · rw [Bool.eq_iff_iff, beq_iff, beq_iff, hlength]
    let p (key : String) (v : Value) : Prop := ∃ w, x.get? key = some w ∧ w.beq v = true
    have hentries : (∀ e ∈ c.entries, p e.1 e.2) ↔ ∀ e ∈ d.entries, p e.1 e.2 := by
      rw [forall_mem_entries_iff hc (p := p), forall_mem_entries_iff hd (p := p)]
      refine forall_congr' fun key ↦ ?_
      rcases h key with ⟨hnone, hnone'⟩ | ⟨v, w, hv, hw, halike⟩
      · rw [hnone, hnone']
      · simp [hv, hw, p, fun y ↦ (halike y).1]
    exact and_congr_right fun _ ↦ hentries

/-- `Container.alike_fill_of_perm`, by induction on a bound for the lengths of the paths: what goes
under one key goes under shorter paths. -/
theorem alike_fill_of_perm_of_lt (bound : Nat) {c c' : Container} (hc : c.keys = [])
    (hc' : c'.keys = []) {items items' : List (List String × Value)} (hperm : items.Perm items')
    (hapart : items.Pairwise fun a b ↦ KeysApart a.1 b.1)
    (hbound : ∀ item ∈ items, item.1.length < bound) : (c.fill items).Alike (c'.fill items') := by
  induction bound generalizing c c' items items' with
  | zero =>
    obtain rfl : items = [] :=
      List.eq_nil_iff_forall_not_mem.mpr fun item hitem ↦ Nat.not_lt_zero _ (hbound item hitem)
    obtain rfl := hperm.nil_eq
    exact alike_of_get? (hc ▸ List.nodup_nil) (hc' ▸ List.nodup_nil) fun key ↦
      .inl ⟨get?_of_keys_eq_nil hc key, get?_of_keys_eq_nil hc' key⟩
  | succ bound ih =>
    refine alike_of_get? (nodup_keys_fill (hc ▸ List.nodup_nil) items)
      (nodup_keys_fill (hc' ▸ List.nodup_nil) items') fun key ↦ ?_
    have hunder : (under key items).Perm (under key items') := hperm.filterMap _
    have hshorter : ∀ item ∈ under key items, item.1.length < bound :=
      fun item hitem ↦ Nat.lt_of_succ_lt_succ (hbound _ (mem_under_iff.mp hitem))
    rcases get?_fill_of_pairwise hc hapart key with ⟨hnil, hget⟩ | ⟨v, hsingle, hget⟩ |
      ⟨hne, hcons, hget⟩
    · rw [hnil] at hunder
      refine .inl ⟨hget, ?_⟩
      rw [get?_fill, ← hunder.nil_eq, get?_of_keys_eq_nil hc']
      rfl
    · rw [hsingle] at hunder
      refine .inr ⟨v, v, hget, ?_, .refl v⟩
      rw [get?_fill, ← List.singleton_perm.mp hunder]
      rfl
    · have hinner : (empty.fill (under key items)).Alike (empty.fill (under key items')) :=
        ih rfl rfl hunder (pairwise_under key hapart) hshorter
      refine .inr ⟨_, _, hget, ?_, hinner.map⟩
      have hne' : ∀ item ∈ under key items', item.1 ≠ [] :=
        fun item hitem ↦ hne item (hunder.mem_iff.mpr hitem)
      rw [get?_fill, get?_of_keys_eq_nil hc']
      exact foldl_put none (fun h ↦ hcons (List.perm_nil.mp (h ▸ hunder))) hne'

/-- In which order values are put under paths that lie apart makes no difference to a comparison. -/
theorem alike_fill_of_perm {c c' : Container} (hc : c.keys = []) (hc' : c'.keys = [])
    {items items' : List (List String × Value)} (hperm : items.Perm items')
    (hapart : items.Pairwise fun a b ↦ KeysApart a.1 b.1) :
    (c.fill items).Alike (c'.fill items') :=
  alike_fill_of_perm_of_lt ((items.map Prod.fst).flatten.length + 1) hc hc' hperm hapart
    fun _ hitem ↦ Nat.lt_succ_of_le
      (List.sublist_flatten_of_mem (List.mem_map_of_mem hitem)).length_le

end Container

end MarkupRecords
