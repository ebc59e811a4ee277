import MarkupRecords.Proofs.Value.Edit
import Mathlib.Data.List.Forall2

/-!
Copying values of a container into maps inside it. A map that is filled takes over the value of each
key that it lacks and keeps all the others (`Container.Filled`), and `Container.cloneInto` fills the
maps under its targets, and those in lists under them, from the container as it was before: that a
target may itself be copied, or come twice, makes no difference. For the same reason a second copy
changes nothing: what a map still lacks after the first one is a value that is nil or false, which
no copy changes (`Container.cloneInto_snapshot`).
-/

set_option autoImplicit false
set_option relaxedAutoImplicit false

namespace MarkupRecords

namespace Container

/-- The value of the key is missing, nil or false. -/
def Lacks (c : Container) (key : String) : Prop :=
  c.get? key = none ∨ c.get? key = some .nil ∨ c.get? key = some (.bool false)

/-- The second container is the first one with the values that it lacks of the given keys, as far as
the source has them. New keys come after the others. -/
structure Filled (source : Container) (keys : List String) (c d : Container) : Prop where
  given : ∀ key value, key ∈ keys → source.get? key = some value → c.Lacks key →
    d.get? key = some value
  kept : ∀ key, ¬ (key ∈ keys ∧ key ∈ source.keys ∧ c.Lacks key) → d.get? key = c.get? key
  keys_prefix : c.keys <+: d.keys
  sourcePath_eq : d.sourcePath = c.sourcePath
  sourceNode_eq : d.sourceNode = c.sourceNode

end Container

/-- A map has been filled, or a value of another sort left as it is. -/
inductive Value.ItemFilled (source : Container) (keys : List String) : Value → Value → Prop where
  | map {c d : Container} : source.Filled keys c d → ItemFilled source keys (.map c) (.map d)
  | other {v : Value} : (∀ c, v ≠ .map c) → ItemFilled source keys v v

/-- A map or the maps in a list have been filled, and everything else left as it is. -/
inductive Value.Filled (source : Container) (keys : List String) : Value → Value → Prop where
  | item {v w : Value} : (∀ items, v ≠ .list items) → v.ItemFilled source keys w →
      Filled source keys v w
  | list {items filled : List Value} : List.Forall₂ (ItemFilled source keys) items filled →
      Filled source keys (.list items) (.list filled)

namespace Container

/-! ### Changing a value in place -/

theorem lookup_modifyEntry (key : String) (f : Value → Value) (entries : List (String × Value))
    (k : String) :
    (modifyEntry key f entries).lookup k =
      if k = key then (entries.lookup key).map f else entries.lookup k := by
  induction entries with
  | nil => simp [modifyEntry]
  | cons e rest ih =>
    obtain ⟨k', v⟩ := e
    rw [modifyEntry, lookup_cons_ite, lookup_cons_ite]
    by_cases hkey : k' = key
    · subst hkey
      rw [if_pos rfl, if_pos rfl, lookup_cons_ite]
      by_cases hk : k = k'
      · rw [if_pos hk, if_pos hk, Option.map_some]
      · rw [if_neg hk, if_neg hk, if_neg hk]
    · rw [if_neg hkey, if_neg (Ne.symm hkey), lookup_cons_ite, ih]
      by_cases hk : k = k'
      · rw [if_pos hk, if_pos hk, if_neg (hk ▸ hkey)]
      · rw [if_neg hk, if_neg hk]

theorem get?_modify (c : Container) (key : String) (f : Value → Value) (k : String) :
    (c.modify key f).get? k = if k = key then (c.get? key).map f else c.get? k :=
  lookup_modifyEntry key f c.entries k

theorem modifyEntry_of_lookup {key : String} {f : Value → Value} {entries : List (String × Value)}
    (h : ∀ v, entries.lookup key = some v → f v = v) : modifyEntry key f entries = entries := by
  induction entries with
  | nil => rfl
  | cons e rest ih =>
    obtain ⟨k, v⟩ := e
    simp only [lookup_cons_ite] at h
    rw [modifyEntry]
    by_cases hk : k = key
    · rw [if_pos hk, h v (if_pos hk.symm)]
    · simp only [if_neg (Ne.symm hk)] at h
      rw [if_neg hk, ih h]

/-- A change that leaves the value of the key as it is changes nothing. -/
theorem modify_of_get? {c : Container} {key : String} {f : Value → Value}
    (h : ∀ v, c.get? key = some v → f v = v) : c.modify key f = c := by
  obtain ⟨entries, path, node⟩ := c
  rw [modify, modifyEntry_of_lookup h]

/-! ### Filling a map -/

theorem isUnset_iff {c : Container} {key : String} :
    isUnset (c.get? key) = true ↔ c.Lacks key := by
  rw [Lacks]
  rcases c.get? key with - | v
  · simp [isUnset]
  · cases v with
    | bool b => cases b <;> simp [isUnset]
    | _ => simp [isUnset]

theorem fillMissing_cons (c : Container) (key : String) (value : Value)
    (sources : List (String × Value)) :
    c.fillMissing ((key, value) :: sources) =
      (if isUnset (c.get? key) then c.insert key value else c).fillMissing sources := rfl

theorem select_cons_of_get? {c : Container} {key : String} {value : Value}
    (h : c.get? key = some value) (keys : List String) :
    c.select (key :: keys) = (key, value) :: c.select keys := by
  rw [select, List.filterMap_cons, h]
  rfl

theorem select_cons_of_notMem {c : Container} {key : String} (h : c.get? key = none)
    (keys : List String) : c.select (key :: keys) = c.select keys := by
  rw [select, List.filterMap_cons, h]
  rfl

theorem mem_select_iff {c : Container} {keys : List String} {key : String} {value : Value} :
    (key, value) ∈ c.select keys ↔ key ∈ keys ∧ c.get? key = some value := by
  rw [select, List.mem_filterMap]
  constructor
  · rintro ⟨k, hk, h⟩
    obtain ⟨v, hv, heq⟩ := Option.map_eq_some_iff.mp h
    rw [Prod.mk.injEq] at heq
    rw [← heq.1, ← heq.2]
    exact ⟨hk, hv⟩
  · rintro ⟨hkey, hvalue⟩
    exact ⟨key, hkey, Option.map_eq_some_iff.mpr ⟨value, hvalue, rfl⟩⟩

/-- What a key is filled with comes from the source, whatever has been filled before it. -/
theorem get?_fillMissing (source c : Container) (keys : List String) (k : String) :
    (c.fillMissing (source.select keys)).get? k =
      if k ∈ keys ∧ isUnset (c.get? k) then (source.get? k).or (c.get? k) else c.get? k := by
  induction keys generalizing c with
  | nil => rw [if_neg (by simp)]; rfl
  | cons key keys ih =>
    cases hkey : source.get? key with
    | none =>
      rw [select_cons_of_notMem hkey, ih]
      by_cases hk : k = key
      · subst hk
        simp [hkey]
      · simp [hk]
    | some value =>
      rw [select_cons_of_get? hkey, fillMissing_cons, ih]
      by_cases hk : k = key
      · subst hk
        by_cases hunset : isUnset (c.get? k) = true
        · simp [hunset, hkey, get?_insert]
        · simp [hunset]
      · split
        · simp [hk, get?_insert]
        · simp [hk]

theorem keys_prefix_fillMissing (c : Container) (sources : List (String × Value)) :
    c.keys <+: (c.fillMissing sources).keys := by
  refine List.foldlRecOn (motive := fun d : Container ↦ c.keys <+: d.keys) sources _
    List.prefix_rfl fun d hd e _ ↦ ?_
  split
  · rw [keys_insert]
    split
    · exact hd
    · exact hd.trans (List.prefix_append _ _)
  · exact hd

theorem source_fillMissing (c : Container) (sources : List (String × Value)) :
    (c.fillMissing sources).sourcePath = c.sourcePath ∧
      (c.fillMissing sources).sourceNode = c.sourceNode := by
  refine List.foldlRecOn (motive := fun d : Container ↦ d.sourcePath = c.sourcePath ∧
    d.sourceNode = c.sourceNode) sources _ ⟨rfl, rfl⟩ fun d hd e _ ↦ ?_
  split
  · exact hd
  · exact hd

theorem filled_fillMissing (source c : Container) (keys : List String) :
    source.Filled keys c (c.fillMissing (source.select keys)) where
  given key value hkey hvalue hlacks := by
    rw [get?_fillMissing, if_pos ⟨hkey, isUnset_iff.mpr hlacks⟩, hvalue, Option.some_or]
  kept key hkey := by
    rw [get?_fillMissing]
    split
    · next hunset =>
      have habsent : key ∉ source.keys := fun hmem ↦
        hkey ⟨hunset.1, hmem, isUnset_iff.mp hunset.2⟩
      rw [get?_eq_none_iff.mpr habsent, Option.none_or]
    · rfl
  keys_prefix := keys_prefix_fillMissing c _
  sourcePath_eq := (source_fillMissing c _).1
  sourceNode_eq := (source_fillMissing c _).2

theorem filled_fillValue (source : Container) (keys : List String) (v : Value) :
    v.Filled source keys (fillValue (source.select keys) v) := by
  cases v with
  | list items =>
    refine .list ?_
    rw [List.forall₂_map_right_iff, List.forall₂_same]
    intro item _
    cases item with
    | map c => exact .map (filled_fillMissing source c keys)
    | _ => exact .other nofun
  | map c => exact .item nofun (.map (filled_fillMissing source c keys))
  | _ => exact .item nofun (.other nofun)

/-! ### Filling again -/

/-- Filling changes nothing if the values that are still lacking are those that are filled in. -/
theorem fillMissing_of_forall {c : Container} {sources : List (String × Value)}
    (h : ∀ e ∈ sources, isUnset (c.get? e.1) = true → c.get? e.1 = some e.2) :
    c.fillMissing sources = c := by
  refine List.foldlRecOn (motive := fun d : Container ↦ d = c) sources _ rfl fun d hd e he ↦ ?_
  rw [hd]
  split
  · next hunset => exact insert_of_get? (h e he hunset)
  · rfl

/-- The entries are those of the container under some of the keys, except that a value that does not
count as unset may have changed. -/
def Resumes (source : Container) (keys : List String) (sources : List (String × Value)) : Prop :=
  ∀ e ∈ sources, e.1 ∈ keys ∧
    ∃ value, source.get? e.1 = some value ∧ (isUnset (some value) = true → e.2 = value)

section Resumes

variable {source : Container} {keys : List String} {sources : List (String × Value)}

/-- What is filled in a second time is already there. -/
theorem Resumes.fillMissing_fillMissing (h : source.Resumes keys sources) (c : Container) :
    (c.fillMissing (source.select keys)).fillMissing sources =
      c.fillMissing (source.select keys) := by
  refine fillMissing_of_forall fun e he hunset ↦ ?_
  obtain ⟨hkey, value, hvalue, hsame⟩ := h e he
  rw [get?_fillMissing] at hunset ⊢
  by_cases hlacks : isUnset (c.get? e.1) = true
  · rw [if_pos ⟨hkey, hlacks⟩, hvalue, Option.some_or] at hunset ⊢
    rw [hsame hunset]
  · rw [if_neg (by simp [hlacks])] at hunset
    exact absurd hunset hlacks

theorem Resumes.fillValue_fillValue (h : source.Resumes keys sources) (v : Value) :
    fillValue sources (fillValue (source.select keys) v) = fillValue (source.select keys) v := by
  cases v with
  | list items =>
    rw [fillValue, fillValue, List.map_map]
    congr 1
    refine List.map_congr_left fun item _ ↦ ?_
    cases item with
    | map c => simp only [Function.comp_apply, h.fillMissing_fillMissing]
    | _ => rfl
  | map c => rw [fillValue, fillValue, h.fillMissing_fillMissing]
  | _ => rfl

end Resumes

theorem resumes_select (source : Container) (keys : List String) :
    source.Resumes keys (source.select keys) := by
  rintro ⟨key, value⟩ he
  obtain ⟨hkey, hvalue⟩ := mem_select_iff.mp he
  exact ⟨hkey, value, hvalue, fun _ ↦ rfl⟩

/-! ### Copying -/

theorem keys_cloneInto (c : Container) (keys targets : List String) :
    (c.cloneInto keys targets).keys = c.keys := by
  refine List.foldlRecOn (motive := fun d : Container ↦ d.keys = c.keys) targets _ rfl
    fun d hd target _ ↦ ?_
  rw [keys_modify, hd]

/-- The value under a target is filled once, however often the target comes. -/
theorem get?_cloneInto (c : Container) (keys targets : List String) (k : String) :
    (c.cloneInto keys targets).get? k =
      if k ∈ targets then (c.get? k).map (fillValue (c.select keys)) else c.get? k := by
  have hagain : fillValue (c.select keys) ∘ fillValue (c.select keys) =
      fillValue (c.select keys) :=
    funext (resumes_select c keys).fillValue_fillValue
  induction targets using List.reverseRecOn with
  | nil => rfl
  | append_singleton targets target ih =>
    have hlast : c.cloneInto keys (targets ++ [target]) =
        (c.cloneInto keys targets).modify target (fillValue (c.select keys)) := by
      rw [cloneInto, List.foldl_append]
      rfl
    rw [hlast, get?_modify]
    by_cases hk : k = target
    · subst hk
      have hmem : k ∈ targets ++ [k] := List.mem_append_right _ (List.mem_singleton_self k)
      rw [if_pos rfl, ih, if_pos hmem]
      split
      · rw [Option.map_map, hagain]
      · rfl
    · rw [if_neg hk, ih]
      simp [hk]

theorem fillValue_of_isUnset {v : Value} (h : isUnset (some v) = true)
    (sources : List (String × Value)) : fillValue sources v = v := by
  cases v with
  | list items => cases h
  | map c => cases h
  | _ => rfl

/-- What is copied after a first copy differs from what was copied before it only in maps and
lists. -/
theorem resumes_select_cloneInto (c : Container) (keys targets : List String) :
    c.Resumes keys ((c.cloneInto keys targets).select keys) := by
  rintro ⟨key, value⟩ he
  obtain ⟨hkey, hvalue⟩ := mem_select_iff.mp he
  refine ⟨hkey, ?_⟩
  rw [get?_cloneInto] at hvalue
  split at hvalue
  · obtain ⟨before, hbefore, rfl⟩ := Option.map_eq_some_iff.mp hvalue
    exact ⟨before, hbefore, fun hunset ↦ fillValue_of_isUnset hunset _⟩
  · exact ⟨value, hvalue, fun _ ↦ rfl⟩

theorem cloneInto_cloneInto_self (c : Container) (keys targets : List String) :
    (c.cloneInto keys targets).cloneInto keys targets = c.cloneInto keys targets := by
  refine List.foldlRecOn (motive := fun d : Container ↦ d = c.cloneInto keys targets) targets _ rfl
    fun d hd target htarget ↦ ?_
  rw [hd]
  refine modify_of_get? fun v hv ↦ ?_
  rw [get?_cloneInto, if_pos htarget] at hv
  obtain ⟨before, -, rfl⟩ := Option.map_eq_some_iff.mp hv
  exact (resumes_select_cloneInto c keys targets).fillValue_fillValue before

/-- Copying fills what stands under the targets from the container before the copy, leaves
everything else as it is, and does nothing more when it is done again. -/
theorem cloneInto_snapshot (c : Container) (keys targets : List String) :
    let d := c.cloneInto keys targets
    d.keys = c.keys ∧ (∀ key, key ∉ targets → d.get? key = c.get? key) ∧
      (∀ target value, target ∈ targets → c.get? target = some value →
        ∃ filled, d.get? target = some filled ∧ value.Filled c keys filled) ∧
      d.cloneInto keys targets = d := by
  refine ⟨keys_cloneInto c keys targets, ?_, ?_, cloneInto_cloneInto_self c keys targets⟩
  · intro key hkey
    rw [get?_cloneInto, if_neg hkey]
  · intro target value htarget hvalue
    refine ⟨fillValue (c.select keys) value, ?_, filled_fillValue c keys value⟩
    rw [get?_cloneInto, if_pos htarget, hvalue, Option.map_some]

theorem cloneInto_snapshot_album :
    let title : String × Value := ("title", .text "October")
    let tracks : Value := .list [.map ⟨[title, ("explicit", .bool false)], none, none⟩, .nil]
    let c : Container := ⟨[("artist", .text "Unwound"), ("explicit", .bool true),
      ("label", .nil), ("tracks", tracks), ("disc", .map ⟨[("tracks", .nil)], none, none⟩)],
      some "album.xml", none⟩
    let keys := ["explicit", "artist", "year", "tracks", "label", "artist"]
    let targets := ["tracks", "disc", "tracks", "artist"]
    let filled : Value := .list [.map ⟨[title, ("explicit", .bool true),
      ("artist", .text "Unwound"), ("tracks", tracks), ("label", .nil)], none, none⟩, .nil]
    let disc : Value := .map ⟨[("tracks", tracks), ("explicit", .bool true),
      ("artist", .text "Unwound"), ("label", .nil)], none, none⟩
    let d : Container := ⟨[("artist", .text "Unwound"), ("explicit", .bool true),
      ("label", .nil), ("tracks", filled), ("disc", disc)], some "album.xml", none⟩
    c.cloneInto keys targets = d ∧ "explicit" ∉ targets ∧ "tracks" ∈ targets ∧
      d.keys = c.keys ∧ d.get? "explicit" = c.get? "explicit" ∧
      (∃ filled, d.get? "tracks" = some filled ∧ tracks.Filled c keys filled) ∧
      d.cloneInto keys targets = d := by
  intro title tracks c keys targets filled disc d
  have hd : c.cloneInto keys targets = d := by
    simp [c, d, title, tracks, disc, filled, keys, targets, cloneInto, select, fillValue,
      fillMissing, modify, modifyEntry, get?, insert, insertEntry, isUnset, lookup_cons_ite]
  obtain ⟨hkeys, hkept, hfilled, hagain⟩ := cloneInto_snapshot c keys targets
  rw [hd] at hkeys hkept hfilled hagain
  exact ⟨hd, by decide, by decide, hkeys, hkept "explicit" (by decide),
    hfilled "tracks" tracks (by decide) rfl, hagain⟩

end Container

end MarkupRecords
