import Mathlib.Data.List.InsertIdx
import MarkupRecords.Proofs.Value.Distinct
import MarkupRecords.Proofs.Value.Overlay

/-!
Containers under edits. A `Container.Edit` is one operation on a container: a key is given a value
or taken out, another container is merged in, values are copied into nested maps, texts are trimmed,
or the value of a key is changed in place, which goes on into the items of lists and into maps
(`Value.Edit`). No edit that brings in values without repeated keys makes a key come twice, in the
container or in a container inside it (`Container.distinct_apply`), and so does no run of them
(`Container.distinct_run`). A container without repeated keys is an ordered map
(`Container.Lawful`): its operations say where each key goes, and merging is associative.
-/

set_option autoImplicit false
set_option relaxedAutoImplicit false

namespace MarkupRecords

/-! ### Edits -/

mutual

/-- A change of a value in place: another value is put there, or the change is one of the container
that it is, of an item of the list that it is, or of the items the list has. -/
inductive Value.Edit where
  | put (value : Value)
  | inMap (edit : Container.Edit)
  | atItem (place : Nat) (edit : Value.Edit)
  | insertItem (place : Nat) (value : Value)
  | eraseItem (place : Nat)

/-- One operation on a container. -/
inductive Container.Edit where
  | insert (key : String) (value : Value)
  | erase (key : String)
  | insertPath (path : List String) (value : Value)
  | merge (other : Container)
  | cloneInto (keys targets : List String)
  | strip
  | atKey (key : String) (edit : Value.Edit)

end

mutual

/-- The value after the change. A value of another sort than the change is for stays as it is. -/
def Value.Edit.apply : Value.Edit → Value → Value
  | .put value, _ => value
  | .inMap edit, .map c => .map (edit.apply c)
  | .atItem place edit, .list items => .list (items.modify place fun v ↦ edit.apply v)
  | .insertItem place value, .list items => .list (items.insertIdx place value)
  | .eraseItem place, .list items => .list (items.eraseIdx place)
  | _, value => value

/-- The container after the operation. -/
def Container.Edit.apply : Container.Edit → Container → Container
  | .insert key value, c => c.insert key value
  | .erase key, c => c.erase key
  | .insertPath path value, c => c.insertPath path value
  | .merge other, c => c.merge other
  | .cloneInto keys targets, c => c.cloneInto keys targets
  | .strip, c => c.strip
  | .atKey key edit, c => c.modify key fun v ↦ edit.apply v

end

mutual

/-- No key comes twice in what the change brings in. -/
def Value.Edit.Distinct : Value.Edit → Prop
  | .put value => value.Distinct
  | .inMap edit => edit.Distinct
  | .atItem _ edit => edit.Distinct
  | .insertItem _ value => value.Distinct
  | .eraseItem _ => True

/-- No key comes twice in what the operation brings in. -/
def Container.Edit.Distinct : Container.Edit → Prop
  | .insert _ value => value.Distinct
  | .insertPath _ value => value.Distinct
  | .merge other => other.Distinct
  | .atKey _ edit => edit.Distinct
  | .erase _ | .cloneInto _ _ | .strip => True

end

/-- The container after operations one after another. -/
def Container.run (c : Container) (edits : List Container.Edit) : Container :=
  edits.foldl (fun c edit ↦ edit.apply c) c

/-! ### What an operation keeps -/

namespace Container

theorem map_fst_modifyEntry (key : String) (f : Value → Value) (entries : List (String × Value)) :
    (modifyEntry key f entries).map Prod.fst = entries.map Prod.fst := by
  induction entries with
  | nil => rfl
  | cons e rest ih =>
    obtain ⟨k, v⟩ := e
    rw [modifyEntry]
    by_cases hk : k = key
    · rw [if_pos hk, List.map_cons, List.map_cons]
    · rw [if_neg hk, List.map_cons, List.map_cons, ih]

theorem mem_modifyEntry {key : String} {f : Value → Value} {entries : List (String × Value)}
    {e : String × Value} (he : e ∈ modifyEntry key f entries) :
    e ∈ entries ∨ ∃ e' ∈ entries, e = (e'.1, f e'.2) := by
  induction entries with
  | nil => cases he
  | cons e' rest ih =>
    obtain ⟨k, v⟩ := e'
    rw [modifyEntry] at he
    by_cases hk : k = key
    · rw [if_pos hk, List.mem_cons] at he
      rcases he with rfl | he
      · exact .inr ⟨(k, v), List.mem_cons_self, rfl⟩
      · exact .inl (List.mem_cons_of_mem _ he)
    · rw [if_neg hk, List.mem_cons] at he
      rcases he with rfl | he
      · exact .inl List.mem_cons_self
      · refine (ih he).imp (List.mem_cons_of_mem _) ?_
        rintro ⟨e', he', rfl⟩
        exact ⟨e', List.mem_cons_of_mem _ he', rfl⟩

theorem keys_modify (c : Container) (key : String) (f : Value → Value) :
    (c.modify key f).keys = c.keys :=
  map_fst_modifyEntry key f c.entries

theorem stripEntries_eq_map (entries : List (String × Value)) :
    stripEntries entries = entries.map fun e ↦ (e.1, e.2.strip) := by
  induction entries with
  | nil => rfl
  | cons e rest ih => rw [stripEntries, List.map_cons, ih]

theorem strip_eq (c : Container) :
    c.strip = { c with entries := c.entries.map fun e ↦ (e.1, e.2.strip) } := by
  obtain ⟨entries, path, node⟩ := c
  rw [Container.strip, stripEntries_eq_map]

theorem distinct_ofSource (path : Option String) (node : Option Node) :
    (ofSource path node).Distinct :=
  distinct_iff_forall.mpr ⟨List.nodup_nil, List.forall_mem_nil _⟩

section Distinct

variable {c : Container} (hc : c.Distinct)

include hc

theorem Distinct.insert (key : String) {value : Value} (hvalue : value.Distinct) :
    (c.insert key value).Distinct := by
  rw [distinct_iff_throughout] at hc ⊢
  exact lasting_nodup_keys.throughout_insert hc key (Value.distinct_iff_throughout.mp hvalue)

theorem Distinct.erase (key : String) : (c.erase key).Distinct := by
  rw [distinct_iff_throughout] at hc ⊢
  exact lasting_nodup_keys.throughout_erase hc key

theorem Distinct.insertPath (path : List String) {value : Value} (hvalue : value.Distinct) :
    (c.insertPath path value).Distinct := by
  rw [distinct_iff_throughout] at hc ⊢
  exact lasting_nodup_keys.throughout_insertPath hc path (Value.distinct_iff_throughout.mp hvalue)

theorem Distinct.merge {other : Container} (hother : other.Distinct) :
    (c.merge other).Distinct := by
  rw [distinct_iff_throughout] at hc ⊢
  exact lasting_nodup_keys.throughout_merge hc (distinct_iff.mp hother).2

theorem Distinct.modify (key : String) {f : Value → Value}
    (hf : ∀ v, v.Distinct → (f v).Distinct) : (c.modify key f).Distinct := by
  obtain ⟨hkeys, hvalues⟩ := distinct_iff_forall.mp hc
  refine distinct_iff_forall.mpr ⟨?_, fun e he ↦ ?_⟩
  · rwa [keys_modify]
  · rcases mem_modifyEntry he with he | ⟨e', he', rfl⟩
    · exact hvalues e he
    · exact hf _ (hvalues e' he')

theorem Distinct.fillMissing {sources : List (String × Value)}
    (hsources : ∀ e ∈ sources, e.2.Distinct) : (c.fillMissing sources).Distinct := by
  refine List.foldlRecOn sources _ hc fun d hd e he ↦ ?_
  split
  · exact Distinct.insert hd e.1 (hsources e he)
  · exact hd

theorem Distinct.select (keys : List String) : ∀ e ∈ c.select keys, e.2.Distinct := by
  intro e he
  obtain ⟨key, -, hkey⟩ := List.mem_filterMap.mp he
  obtain ⟨v, hv, rfl⟩ := Option.map_eq_some_iff.mp hkey
  exact (distinct_iff_forall.mp hc).2 _ (mem_of_get? hv)

end Distinct

theorem distinct_ofList {entries : List (String × Value)} (h : ∀ e ∈ entries, e.2.Distinct) :
    (ofList entries).Distinct :=
  List.foldlRecOn entries _ (distinct_ofSource none none) fun _ hd e he ↦ hd.insert e.1 (h e he)

theorem distinct_fillValue {sources : List (String × Value)}
    (hsources : ∀ e ∈ sources, e.2.Distinct) {v : Value} (hv : v.Distinct) :
    (fillValue sources v).Distinct := by
  have hmap : ∀ {d : Container}, (Value.map d).Distinct →
      (Value.map (d.fillMissing sources)).Distinct := fun hd ↦
    Value.distinct_map_iff.mpr ((Value.distinct_map_iff.mp hd).fillMissing hsources)
  cases v with
  | map d => exact hmap hv
  | list items =>
    rw [fillValue, Value.distinct_list_iff, List.forall_mem_map]
    intro item hitem
    have hdistinct := Value.distinct_list_iff.mp hv item hitem
    cases item with
    | map d => exact hmap hdistinct
    | _ => exact hdistinct
  | _ => exact hv

theorem Distinct.cloneInto {c : Container} (hc : c.Distinct) (keys targets : List String) :
    (c.cloneInto keys targets).Distinct :=
  List.foldlRecOn targets _ hc fun _ hd target _ ↦
    hd.modify target fun _ ↦ distinct_fillValue (hc.select keys)

end Container

theorem Value.stripAll_eq_map (vs : List Value) : Value.stripAll vs = vs.map Value.strip := by
  induction vs with
  | nil => rfl
  | cons v vs ih => rw [Value.stripAll, List.map_cons, ih]

theorem Value.Distinct.strip {v : Value} (h : v.Distinct) : v.strip.Distinct := by
  induction v using Value.inductionOn with
  | text s =>
    rw [Value.strip]
    split <;> trivial
  | list items ih =>
    rw [Value.distinct_list_iff] at h
    rw [Value.strip, Value.distinct_list_iff, Value.stripAll_eq_map, List.forall_mem_map]
    exact fun v hv ↦ ih v hv (h v hv)
  | map c ih =>
    rw [Value.distinct_map_iff, Container.distinct_iff_forall] at h
    rw [Value.strip, Value.distinct_map_iff, Container.distinct_iff_forall, Container.strip_eq,
      List.forall_mem_map]
    refine ⟨?_, fun e he ↦ ih e he (h.2 e he)⟩
    rw [Container.keys, List.map_map]
    exact h.1
  | _ => trivial

theorem Container.Distinct.strip {c : Container} (hc : c.Distinct) : c.strip.Distinct := by
  have hmap := (Value.distinct_map_iff.mpr hc).strip
  rwa [Value.strip, Value.distinct_map_iff] at hmap

/-! ### What a run of operations keeps -/

theorem forall_mem_modify {α : Type} {q : α → Prop} {f : α → α} (hf : ∀ a, q a → q (f a))
    (place : Nat) {xs : List α} (h : ∀ a ∈ xs, q a) : ∀ a ∈ xs.modify place f, q a := by
  intro a ha
  obtain ⟨i, hi⟩ := List.mem_iff_getElem?.mp ha
  rw [List.getElem?_modify] at hi
  obtain ⟨b, hb, rfl⟩ := Option.map_eq_some_iff.mp hi
  have hqb : q b := h b (List.mem_of_getElem? hb)
  split
  · exact hf b hqb
  · exact hqb

mutual

/-- A change that brings in no key twice leaves none twice. -/
theorem Value.distinct_apply : ∀ {edit : Value.Edit} {v : Value}, edit.Distinct → v.Distinct →
    (edit.apply v).Distinct
  | .put value, _, h, _ => by
    rw [Value.Edit.Distinct] at h
    rwa [Value.Edit.apply]
  | .inMap edit, v, h, hv => by
    rw [Value.Edit.Distinct] at h
    cases v with
    | map c =>
      rw [Value.distinct_map_iff] at hv
      rw [Value.Edit.apply, Value.distinct_map_iff]
      exact Container.distinct_apply h hv
    | _ => exact hv
  | .atItem place edit, v, h, hv => by
    rw [Value.Edit.Distinct] at h
    cases v with
    | list items =>
      rw [Value.distinct_list_iff] at hv
      rw [Value.Edit.apply, Value.distinct_list_iff]
      exact forall_mem_modify (q := Value.Distinct) (fun _ ↦ Value.distinct_apply h) place hv
    | _ => exact hv
  | .insertItem place value, v, h, hv => by
    rw [Value.Edit.Distinct] at h
    cases v with
    | list items =>
      rw [Value.distinct_list_iff] at hv
      rw [Value.Edit.apply, Value.distinct_list_iff]
      intro w hw
      rcases List.eq_or_mem_of_mem_insertIdx hw with rfl | hw
      · exact h
      · exact hv w hw
    | _ => exact hv
  | .eraseItem place, v, _, hv => by
    cases v with
    | list items =>
      rw [Value.distinct_list_iff] at hv
      rw [Value.Edit.apply, Value.distinct_list_iff]
      exact fun w hw ↦ hv w (List.mem_of_mem_eraseIdx hw)
    | _ => exact hv

/-- An operation that brings in no key twice leaves none twice. -/
theorem Container.distinct_apply : ∀ {edit : Container.Edit} {c : Container}, edit.Distinct →
    c.Distinct → (edit.apply c).Distinct
  | .insert key value, c, h, hc => by
    rw [Container.Edit.Distinct] at h
    rw [Container.Edit.apply]
    exact hc.insert key h
  | .erase key, c, _, hc => by
    rw [Container.Edit.apply]
    exact hc.erase key
  | .insertPath path value, c, h, hc => by
    rw [Container.Edit.Distinct] at h
    rw [Container.Edit.apply]
    exact hc.insertPath path h
  | .merge other, c, h, hc => by
    rw [Container.Edit.Distinct] at h
    rw [Container.Edit.apply]
    exact hc.merge h
  | .cloneInto keys targets, c, _, hc => by
    rw [Container.Edit.apply]
    exact hc.cloneInto keys targets
  | .strip, c, _, hc => by
    rw [Container.Edit.apply]
    exact hc.strip
  | .atKey key edit, c, h, hc => by
    rw [Container.Edit.Distinct] at h
    rw [Container.Edit.apply]
    exact hc.modify key fun _ ↦ Value.distinct_apply h

end

namespace Container

/-- Operations that bring in no key twice leave none twice. -/
theorem distinct_run {c : Container} (hc : c.Distinct) {edits : List Edit}
    (h : ∀ edit ∈ edits, edit.Distinct) : (c.run edits).Distinct :=
  List.foldlRecOn edits _ hc fun _ hd edit hedit ↦ distinct_apply (h edit hedit) hd

/-! ### An ordered map -/

/-- The container is a map whose keys have an order: a key that is there keeps its place when it is
given a value, and any other key comes last; taking a key out leaves the other entries as they are.
A merge lists the keys that are there before the new ones of the container that is merged in, and
looks a key up in the latter first. Of two merges either may be done first. -/
structure Lawful (c : Container) : Prop where
  insert_of_mem : ∀ (key : String) (value : Value), key ∈ c.keys →
    c.insert key value =
      { c with entries := c.entries.map fun e ↦ if e.1 = key then (key, value) else e }
  insert_of_notMem : ∀ (key : String) (value : Value), key ∉ c.keys →
    c.insert key value = { c with entries := c.entries ++ [(key, value)] }
  erase : ∀ key : String, c.erase key = { c with entries := c.entries.filter (·.1 ≠ key) }
  keys_merge : ∀ d : Container, d.keys.Nodup →
    (c.merge d).keys = c.keys ++ d.keys.filter (· ∉ c.keys)
  get?_merge : ∀ d : Container, d.keys.Nodup → ∀ key : String,
    (c.merge d).get? key = (d.get? key).or (c.get? key)
  merge_assoc : ∀ d f : Container, d.keys.Nodup → (c.merge d).merge f = c.merge (d.merge f)

theorem insertEntry_of_notMem {key : String} (value : Value) {entries : List (String × Value)}
    (h : key ∉ entries.map Prod.fst) :
    insertEntry key value entries = entries ++ [(key, value)] := by
  induction entries with
  | nil => rfl
  | cons e rest ih =>
    obtain ⟨k, v⟩ := e
    rw [List.map_cons, List.mem_cons, not_or] at h
    rw [insertEntry, if_neg (Ne.symm h.1), ih h.2, List.cons_append]

/-- Entries under other keys are not those of the key. -/
theorem forall_ne_of_notMem {key : String} {entries : List (String × Value)}
    (h : key ∉ entries.map Prod.fst) : ∀ e ∈ entries, e.1 ≠ key := by
  rintro e he rfl
  exact h (List.mem_map_of_mem he)

theorem insertEntry_of_mem {key : String} (value : Value) {entries : List (String × Value)}
    (hnodup : (entries.map Prod.fst).Nodup) (h : key ∈ entries.map Prod.fst) :
    insertEntry key value entries =
      entries.map fun e ↦ if e.1 = key then (key, value) else e := by
  induction entries with
  | nil => cases h
  | cons e rest ih =>
    obtain ⟨k, v⟩ := e
    obtain ⟨hk, hrest⟩ := List.nodup_cons.mp hnodup
    rw [insertEntry, List.map_cons]
    by_cases hkey : k = key
    · subst hkey
      have hsame : rest.map (fun e ↦ if e.1 = k then (k, value) else e) = rest :=
        (List.map_congr_left fun e he ↦ if_neg (forall_ne_of_notMem hk e he)).trans
          (List.map_id' rest)
      rw [if_pos rfl, if_pos rfl, hsame]
    · rw [if_neg hkey, if_neg hkey, ih hrest ((List.mem_cons.mp h).resolve_left (Ne.symm hkey))]

theorem eraseEntry_eq_filter (key : String) {entries : List (String × Value)}
    (hnodup : (entries.map Prod.fst).Nodup) :
    eraseEntry key entries = entries.filter (·.1 ≠ key) := by
  induction entries with
  | nil => rfl
  | cons e rest ih =>
    obtain ⟨k, v⟩ := e
    obtain ⟨hk, hrest⟩ := List.nodup_cons.mp hnodup
    rw [eraseEntry]
    by_cases hkey : k = key
    · subst hkey
      have hsame : rest.filter (·.1 ≠ k) = rest :=
        List.filter_eq_self.mpr fun e he ↦ decide_eq_true (forall_ne_of_notMem hk e he)
      rw [if_pos rfl, List.filter_cons_of_neg (by simp), hsame]
    · rw [if_neg hkey, List.filter_cons_of_pos (by simpa using hkey), ih hrest]

theorem keys_merge_of_nodup {c d : Container} (hc : c.keys.Nodup) (hd : d.keys.Nodup) :
    (c.merge d).keys = c.keys ++ d.keys.filter (· ∉ c.keys) := by
  have hnew : d.keys.removeAll c.keys = d.keys.filter (· ∉ c.keys) :=
    List.filter_congr fun key _ ↦ by simp
  rw [keys_merge hc, List.eraseDups_append, eraseDups_of_nodup hc, hnew,
    eraseDups_of_nodup (hd.filter _)]

/-- Of two merges either may be done first. -/
theorem merge_assoc (c : Container) {d : Container} (hd : d.keys.Nodup) (f : Container) :
    (c.merge d).merge f = c.merge (d.merge f) := by
  obtain ⟨entries, path, node⟩ := f
  induction entries generalizing d with
  | nil => rfl
  | cons e rest ih =>
    obtain ⟨key, value⟩ := e
    rw [merge_cons, merge_cons, ← ih (nodup_keys_insert hd key value), merge_insert c hd]

theorem lawful_of_nodup {c : Container} (hc : c.keys.Nodup) : c.Lawful where
  insert_of_mem key value hkey := by rw [insert, insertEntry_of_mem value hc hkey]
  insert_of_notMem key value hkey := by rw [insert, insertEntry_of_notMem value hkey]
  erase key := by rw [Container.erase, eraseEntry_eq_filter key hc]
  keys_merge _ hd := keys_merge_of_nodup hc hd
  get?_merge _ hd key := get?_merge c hd key
  merge_assoc _ f hd := merge_assoc c hd f

/-- What operations make of a container without entries is an ordered map without repeated keys, and
so is every container inside it. -/
theorem throughout_lawful_run (path : Option String) (node : Option Node) {edits : List Edit}
    (h : ∀ edit ∈ edits, edit.Distinct) :
    let c := (ofSource path node).run edits
    c.Distinct ∧ c.Throughout Lawful := by
  intro c
  have hc : c.Distinct := distinct_run (distinct_ofSource path node) h
  exact ⟨hc, (distinct_iff_throughout.mp hc).imp fun _ ↦ lawful_of_nodup⟩

theorem throughout_lawful_run_album :
    let track (title : String) : Value := .map (ofList [("title", .text title)])
    let album : Container := ofList [("label", .nil), ("artist", .text "Unwound")]
    let edits : List Edit := [.insert "artist" (.text " Unwound "), .insert "year" (.integer 2001),
      .insertPath ["label", "name"] (.text "  "), .insert "tracks" (.list [track "October"]),
      .atKey "tracks" (.insertItem 1 (track " Treachery ")),
      .atKey "tracks" (.atItem 0 (.inMap (.insert "title" (.text "Look a Ghost")))),
      .cloneInto ["artist", "genre"] ["tracks", "label"], .erase "artist", .strip, .merge album]
    let copied (title : String) : Value :=
      .map ⟨[("title", .text title), ("artist", .text "Unwound")], none, none⟩
    let c := (ofSource (some "album.xml") none).run edits
    (∀ edit ∈ edits, edit.Distinct) ∧
      c = ⟨[("year", .integer 2001), ("label", .nil),
        ("tracks", .list [copied "Look a Ghost", copied "Treachery"]),
        ("artist", .text "Unwound")], some "album.xml", none⟩ ∧
      c.Distinct ∧ c.Throughout Lawful := by
  intro track album edits copied c
  have htrack : ∀ title, (track title).Distinct := fun title ↦
    Value.distinct_map_iff.mpr (distinct_ofList (List.forall_mem_singleton.mpr trivial))
  have halbum : album.Distinct := distinct_ofList (by simp [Value.Distinct])
  have hedits : ∀ edit ∈ edits, edit.Distinct := by
    simp [edits, Edit.Distinct, Value.Edit.Distinct, Value.Distinct, Value.AllDistinct, htrack,
      halbum]
  refine ⟨hedits, ?_, throughout_lawful_run (some "album.xml") none hedits⟩
  rfl

end Container

end MarkupRecords
