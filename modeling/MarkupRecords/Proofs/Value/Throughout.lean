import MarkupRecords.Proofs.Value.KeyPath

/-!
Properties of the containers in a value, and induction on values by way of what they hold
(`Value.inductionOn`). `Value.Throughout p` says that every container in a value has the property,
at any depth, and `Container.Holds p` that every container inside a container has it, the container
itself aside. What puts entries into a container or takes them out keeps what it holds, if the
property lasts when something is put in (`Container.Lasting`).
-/

set_option autoImplicit false
set_option relaxedAutoImplicit false

namespace MarkupRecords

/-! ### Induction on values -/

/-- Induction on a value by way of the items of a list and of the values in a container. -/
@[elab_as_elim]
theorem Value.inductionOn {motive : Value → Prop} (v : Value) (nil : motive .nil)
    (bool : ∀ b, motive (.bool b)) (integer : ∀ n, motive (.integer n))
    (text : ∀ s, motive (.text s)) (date : ∀ d, motive (.date d)) (node : ∀ n, motive (.node n))
    (list : ∀ items, (∀ v ∈ items, motive v) → motive (.list items))
    (map : ∀ c : Container, (∀ e ∈ c.entries, motive e.2) → motive (.map c)) : motive v :=
  @Value.rec motive (fun c ↦ ∀ e ∈ c.entries, motive e.2) (fun items ↦ ∀ v ∈ items, motive v)
    (fun entries ↦ ∀ e ∈ entries, motive e.2) (fun e ↦ motive e.2) nil bool integer text date node
    list map (fun _ _ _ hentries ↦ hentries) (List.forall_mem_nil _)
    (fun _ _ hv hvs ↦ List.forall_mem_cons.mpr ⟨hv, hvs⟩) (List.forall_mem_nil _)
    (fun _ _ he hrest ↦ List.forall_mem_cons.mpr ⟨he, hrest⟩) (fun _ _ hv ↦ hv) v

/-! ### Containers that have a property -/

mutual

/-- Every container in the value has the property. -/
def Value.Throughout (p : Container → Prop) : Value → Prop
  | .list items => Value.AllThroughout p items
  | .map c => c.Throughout p
  | .nil | .bool _ | .integer _ | .text _ | .date _ | .node _ => True

/-- `Value.Throughout` for each item. -/
def Value.AllThroughout (p : Container → Prop) : List Value → Prop
  | [] => True
  | v :: vs => v.Throughout p ∧ Value.AllThroughout p vs

/-- The container and every container inside it have the property. -/
def Container.Throughout (p : Container → Prop) : Container → Prop
  | ⟨entries, path, node⟩ => p ⟨entries, path, node⟩ ∧ Container.EntriesThroughout p entries

/-- `Value.Throughout` for the value of each entry. -/
def Container.EntriesThroughout (p : Container → Prop) : List (String × Value) → Prop
  | [] => True
  | (_, v) :: rest => v.Throughout p ∧ Container.EntriesThroughout p rest

end

/-- Every container inside the container has the property. -/
def Container.Holds (p : Container → Prop) (c : Container) : Prop :=
  ∀ e ∈ c.entries, e.2.Throughout p

/-- A container that comes from nowhere has the property, and it lasts when something is put into a
container or taken out. -/
structure Container.Lasting (p : Container → Prop) : Prop where
  empty : p Container.empty
  insert : ∀ (c : Container) (key : String) (value : Value), p c → p (c.insert key value)
  erase : ∀ (c : Container) (key : String), p c → p (c.erase key)

variable {p : Container → Prop}

/-! ### What it says -/

theorem Value.allThroughout_iff {vs : List Value} :
    Value.AllThroughout p vs ↔ ∀ v ∈ vs, v.Throughout p := by
  induction vs with
  | nil => simp [Value.AllThroughout]
  | cons v vs ih => rw [Value.AllThroughout, ih, List.forall_mem_cons]

theorem Value.throughout_list_iff {items : List Value} :
    (Value.list items).Throughout p ↔ ∀ v ∈ items, v.Throughout p := by
  rw [Value.Throughout, Value.allThroughout_iff]

theorem Value.throughout_map_iff {c : Container} :
    (Value.map c).Throughout p ↔ c.Throughout p := by
  rw [Value.Throughout]

theorem Container.entriesThroughout_iff {entries : List (String × Value)} :
    Container.EntriesThroughout p entries ↔ ∀ e ∈ entries, e.2.Throughout p := by
  induction entries with
  | nil => simp [Container.EntriesThroughout]
  | cons e rest ih => rw [Container.EntriesThroughout, ih, List.forall_mem_cons]

theorem Container.throughout_iff {c : Container} : c.Throughout p ↔ p c ∧ c.Holds p := by
  obtain ⟨entries, path, node⟩ := c
  rw [Container.Throughout, Container.entriesThroughout_iff]
  rfl

theorem Value.Throughout.imp {q : Container → Prop} (hpq : ∀ c, p c → q c) {v : Value}
    (h : v.Throughout p) : v.Throughout q := by
  induction v using Value.inductionOn with
  | list items ih =>
    rw [Value.throughout_list_iff] at h ⊢
    exact fun v hv ↦ ih v hv (h v hv)
  | map c ih =>
    rw [Value.throughout_map_iff, Container.throughout_iff] at h ⊢
    exact ⟨hpq c h.1, fun e he ↦ ih e he (h.2 e he)⟩
  | _ => trivial

theorem Container.Throughout.imp {q : Container → Prop} (hpq : ∀ c, p c → q c) {c : Container}
    (h : c.Throughout p) : c.Throughout q :=
  Value.throughout_map_iff.mp (Value.Throughout.imp hpq (Value.throughout_map_iff.mpr h))

namespace Container

theorem mem_insertEntry {key : String} {value : Value} {entries : List (String × Value)}
    {e : String × Value} (he : e ∈ insertEntry key value entries) :
    e = (key, value) ∨ e ∈ entries := by
  induction entries with
  | nil => exact .inl (List.mem_singleton.mp he)
  | cons e' rest ih =>
    obtain ⟨k, v⟩ := e'
    rw [insertEntry] at he
    by_cases hk : k = key
    · rw [if_pos hk, List.mem_cons, hk] at he
      exact he.imp_right (List.mem_cons_of_mem _)
    · rw [if_neg hk, List.mem_cons] at he
      rcases he with rfl | he
      · exact .inr List.mem_cons_self
      · exact (ih he).imp_right (List.mem_cons_of_mem _)

theorem sublist_eraseEntry (key : String) (entries : List (String × Value)) :
    (eraseEntry key entries).Sublist entries := by
  induction entries with
  | nil => exact List.Sublist.refl _
  | cons e rest ih =>
    obtain ⟨k, v⟩ := e
    rw [eraseEntry]
    by_cases hk : k = key
    · rw [if_pos hk]
      exact List.sublist_cons_self _ _
    · rw [if_neg hk]
      exact ih.cons_cons _

/-! ### What is held -/

section Holds

variable {c : Container}

theorem holds_of_entries_eq_nil (hc : c.entries = []) : c.Holds p := by
  intro e he
  rw [hc] at he
  cases he

theorem Holds.insert (hc : c.Holds p) (key : String) {value : Value}
    (hvalue : value.Throughout p) : (c.insert key value).Holds p := by
  intro e he
  rcases mem_insertEntry he with rfl | he
  · exact hvalue
  · exact hc e he

theorem Holds.erase (hc : c.Holds p) (key : String) : (c.erase key).Holds p :=
  fun e he ↦ hc e ((sublist_eraseEntry key c.entries).subset he)

theorem Lasting.throughout_inner (hp : Lasting p) (hc : c.Holds p) (key : String) :
    (c.inner key).Throughout p := by
  rw [Container.inner]
  split
  · next d hget => exact Value.throughout_map_iff.mp (hc _ (mem_of_get? hget))
  · exact throughout_iff.mpr ⟨hp.empty, holds_of_entries_eq_nil rfl⟩

theorem Lasting.throughout_insert (hp : Lasting p) (hc : c.Throughout p) (key : String)
    {value : Value} (hvalue : value.Throughout p) : (c.insert key value).Throughout p := by
  obtain ⟨hself, hheld⟩ := throughout_iff.mp hc
  exact throughout_iff.mpr ⟨hp.insert c key value hself, hheld.insert key hvalue⟩

theorem Lasting.throughout_erase (hp : Lasting p) (hc : c.Throughout p) (key : String) :
    (c.erase key).Throughout p := by
  obtain ⟨hself, hheld⟩ := throughout_iff.mp hc
  exact throughout_iff.mpr ⟨hp.erase c key hself, hheld.erase key⟩

theorem Lasting.throughout_merge (hp : Lasting p) (hc : c.Throughout p) {other : Container}
    (hother : other.Holds p) : (c.merge other).Throughout p :=
  List.foldlRecOn _ _ hc fun _ hd e he ↦ hp.throughout_insert hd e.1 (hother e he)

theorem Lasting.throughout_insertPath (hp : Lasting p) (hc : c.Throughout p) (path : List String)
    {value : Value} (hvalue : value.Throughout p) : (c.insertPath path value).Throughout p := by
  induction path generalizing c with
  | nil => exact hc
  | cons key path ih =>
    by_cases hnil : path = []
    · subst hnil
      exact hp.throughout_insert hc key hvalue
    · rw [insertPath_cons c key hnil]
      have hinner := hp.throughout_inner (throughout_iff.mp hc).2 key
      exact hp.throughout_insert hc key (Value.throughout_map_iff.mpr (ih hinner))

theorem Holds.insertPath (hp : Lasting p) (hc : c.Holds p) (path : List String) {value : Value}
    (hvalue : value.Throughout p) : (c.insertPath path value).Holds p := by
  cases path with
  | nil => exact hc
  | cons key path =>
    by_cases hnil : path = []
    · subst hnil
      exact hc.insert key hvalue
    · rw [insertPath_cons c key hnil]
      have hinner := hp.throughout_inner hc key
      exact hc.insert key
        (Value.throughout_map_iff.mpr (hp.throughout_insertPath hinner path hvalue))

theorem Holds.fill (hp : Lasting p) (hc : c.Holds p) {items : List (List String × Value)}
    (hitems : ∀ item ∈ items, item.2.Throughout p) : (c.fill items).Holds p :=
  List.foldlRecOn _ _ hc fun _ hd item hitem ↦ hd.insertPath hp item.1 (hitems item hitem)

end Holds

end Container

end MarkupRecords
