import MarkupRecords.Proofs.Value.Overlay

/-!
A path of keys as a lens on a container. Looking up two paths one after the other is looking up the
whole path (`Container.getPath?_append`), and what is put under a path is put, at each place on the
way, into the container that is there under the rest of the path
(`Container.getPath?_insertPath_of_append`). Of two values that are put under a path the later one
stays (`Container.insertPath_insertPath_self`). `Container.Puts` says what putting a value under a
path does to all the other paths and to the order of keys, and `Container.puts_insertPath` that
`Container.insertPath` does so.
-/

set_option autoImplicit false
set_option relaxedAutoImplicit false

namespace MarkupRecords.Container

/-! ### Paths in two parts -/

/-- A path that goes on is looked up in the container at its first part. -/
theorem getPath?_append (c : Container) {path rest : List String} (hpath : path ≠ [])
    (hrest : rest ≠ []) :
    c.getPath? (path ++ rest) = (innerOf (c.getPath? path)).getPath? rest := by
  induction path, hpath using List.recNeNil generalizing c with
  | singleton key =>
    rw [List.singleton_append, getPath?_cons c key hrest, inner_eq_innerOf, getPath?]
  | cons key path hpath ih =>
    have happend : path ++ rest ≠ [] := List.append_ne_nil_of_left_ne_nil hpath rest
    rw [List.cons_append, getPath?_cons c key happend, getPath?_cons c key hpath, ih]

/-- At the first part of a path stands, in the end, the container that was there with the value
under the rest of the path. -/
theorem getPath?_insertPath_of_append (c : Container) {before rest : List String}
    (hbefore : before ≠ []) (hrest : rest ≠ []) (value : Value) :
    (c.insertPath (before ++ rest) value).getPath? before =
      some (.map ((innerOf (c.getPath? before)).insertPath rest value)) := by
  induction before, hbefore using List.recNeNil generalizing c with
  | singleton key =>
    rw [List.singleton_append, insertPath_cons c key hrest, getPath?, get?_insert, if_pos rfl,
      inner_eq_innerOf, getPath?]
  | cons key before hbefore ih =>
    have happend : before ++ rest ≠ [] := List.append_ne_nil_of_left_ne_nil hbefore rest
    rw [List.cons_append, insertPath_cons c key happend, getPath?_cons _ key hbefore,
      getPath?_cons c key hbefore, inner_insert_map_self, ih]

theorem getPath?_innerOf (value : Value) (path : List String) :
    (innerOf (some value)).getPath? path = value.asMap?.bind (·.getPath? path) := by
  cases value with
  | map c => rfl
  | _ => exact getPath?_empty path

/-- Only the first key of a path can be new. -/
theorem keys_insertPath (c : Container) (key : String) (path : List String) (value : Value) :
    (c.insertPath (key :: path) value).keys =
      if key ∈ c.keys then c.keys else c.keys ++ [key] := by
  obtain ⟨v, hv⟩ := exists_insertPath_eq_insert c key path value
  rw [hv, keys_insert]

/-- Of two values that are put under a path the later one stays. -/
theorem insertPath_insertPath_self (c : Container) (path : List String) (v w : Value) :
    (c.insertPath path w).insertPath path v = c.insertPath path v := by
  induction path generalizing c with
  | nil => rfl
  | cons key path ih =>
    by_cases hnil : path = []
    · subst hnil
      exact insert_insert_self c key v w
    · rw [insertPath_cons c key hnil, insertPath_cons _ key hnil, insertPath_cons c key hnil,
        inner_insert_map_self, ih, insert_insert_self]

/-! ### The laws -/

/-- The second container is the first one with a value under a path. The value is found there, and
below it whatever the value holds; above it there are maps; paths apart from it lead where they led.
The first key of the path comes last if it is new, and no other key moves; so it is with the next
key of the path in each map that was there above the value. -/
structure Puts (path : List String) (value : Value) (c d : Container) : Prop where
  found : d.getPath? path = some value
  below : ∀ rest, rest ≠ [] → d.getPath? (path ++ rest) = value.asMap?.bind (·.getPath? rest)
  above : ∀ before key rest, before ≠ [] → path = before ++ key :: rest →
    ∃ inner, d.getPath? before = some (.map inner) ∧
      ∀ old, c.getPath? before = some (.map old) →
        inner.keys = if key ∈ old.keys then old.keys else old.keys ++ [key]
  apart : ∀ other, KeysApart path other → d.getPath? other = c.getPath? other
  keys : ∀ key rest, path = key :: rest →
    d.keys = if key ∈ c.keys then c.keys else c.keys ++ [key]

/-- A value that is put under a path is there and changes nothing else. Putting it there again
changes nothing, and no path leads to no change. -/
theorem puts_insertPath (c : Container) {path : List String} (hpath : path ≠ []) (value : Value) :
    Puts path value c (c.insertPath path value) ∧
      (c.insertPath path value).insertPath path value = c.insertPath path value ∧
      c.insertPath [] value = c := by
  have hfound := getPath?_insertPath_self c hpath value
  refine ⟨⟨hfound, ?below, ?above, ?apart, ?keys⟩, insertPath_insertPath_self c path value value,
    rfl⟩
  case below =>
    intro rest hrest
    rw [getPath?_append _ hpath hrest, hfound, getPath?_innerOf]
  case above =>
    rintro before key rest hbefore rfl
    refine ⟨_, getPath?_insertPath_of_append c hbefore (List.cons_ne_nil key rest) value, ?_⟩
    intro old hold
    rw [keys_insertPath, hold, innerOf]
  case apart => exact fun other hother ↦ getPath?_insertPath_of_apart c hother value
  case keys =>
    rintro key rest rfl
    exact keys_insertPath c key rest value

theorem puts_insertPath_label :
    let c : Container := ofList [("label", .text "Kill Rock Stars"), ("artist", .map (ofList
      [("name", .text "Unwound")]))]
    let city : Container := ofList [("city", .text "Olympia")]
    let olympia : Container := ofList [("label", .map (ofList [("seat", .map city)])),
      ("artist", .map (ofList [("name", .text "Unwound")]))]
    ["label", "seat"] ≠ [] ∧ c.insertPath ["label", "seat"] (.map city) = olympia ∧
      Puts ["label", "seat"] (.map city) c olympia ∧
      olympia.insertPath ["label", "seat"] (.map city) = olympia ∧
      c.insertPath [] (.map city) = c := by
  intro c city olympia
  have hpath : ["label", "seat"] ≠ [] := List.cons_ne_nil _ _
  have holympia : c.insertPath ["label", "seat"] (.map city) = olympia := rfl
  have hputs := puts_insertPath c hpath (.map city)
  rw [holympia] at hputs
  exact ⟨hpath, holympia, hputs⟩

end MarkupRecords.Container
