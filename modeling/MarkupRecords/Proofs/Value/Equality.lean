import MarkupRecords.Value.Basic

/-!
Equality of values and containers. Two containers are equal if they have equally many entries and
the second has an equal value under each key of the first (`Container.beq_iff`). A value in which no
container holds a key twice (`Value.Distinct`) is equal to itself.
-/

set_option autoImplicit false
set_option relaxedAutoImplicit false

namespace MarkupRecords

/-! ### Trees and nodes -/

mutual

theorem Tree.beq_self : ∀ t : Tree, t.beq t = true
  | .document kids => by rw [Tree.beq, Tree.beqAll_self kids]
  | .element name attributes kids => by
    rw [Tree.beq, Tree.beqAll_self kids, beq_self_eq_true, beq_self_eq_true]
    rfl
  | .text content => by rw [Tree.beq, beq_self_eq_true]

theorem Tree.beqAll_self : ∀ ts : List Tree, Tree.beqAll ts ts = true
  | [] => by rw [Tree.beqAll]
  | t :: ts => by
    rw [Tree.beqAll, Tree.beq_self t, Tree.beqAll_self ts]
    rfl

end

theorem Node.beq_self (n : Node) : n.beq n = true := by
  have htree : (n.document.tree == n.document.tree) = true := Tree.beq_self n.document.tree
  rw [Node.beq, Document.beq, htree, beq_self_eq_true, beq_self_eq_true]
  rfl

/-! ### Distinct keys -/

mutual

/-- No container in the value holds a key twice. -/
def Value.Distinct : Value → Prop
  | .list items => Value.AllDistinct items
  | .map c => c.Distinct
  | _ => True

/-- `Value.Distinct` for each item. -/
def Value.AllDistinct : List Value → Prop
  | [] => True
  | v :: vs => v.Distinct ∧ Value.AllDistinct vs

/-- The container does not hold a key twice, nor does a container in it. -/
def Container.Distinct : Container → Prop
  | ⟨entries, _, _⟩ => (entries.map Prod.fst).Nodup ∧ Container.EntriesDistinct entries

/-- `Value.Distinct` for the value of each entry. -/
def Container.EntriesDistinct : List (String × Value) → Prop
  | [] => True
  | (_, v) :: rest => v.Distinct ∧ Container.EntriesDistinct rest

end

@[simp] theorem Value.map_beq_map (c d : Container) : (Value.map c).beq (.map d) = (c == d) := by
  rw [Value.beq]
  rfl

namespace Container

theorem length_keys (c : Container) : c.keys.length = c.length :=
  List.length_map Prod.fst

theorem get?_of_mem {c : Container} (hkeys : c.keys.Nodup) {key : String} {value : Value}
    (h : (key, value) ∈ c.entries) : c.get? key = some value := by
  obtain ⟨before, after, hentries⟩ := List.append_of_mem h
  refine List.lookup_eq_some_iff.mpr ⟨before, after, hentries, fun e he ↦ ?_⟩
  rw [keys, hentries, List.map_append, List.nodup_append] at hkeys
  have hne := hkeys.2.2 e.1 (List.mem_map_of_mem he) key (by simp)
  simpa using hne.symm

theorem get?_eq_none_iff {c : Container} {key : String} : c.get? key = none ↔ key ∉ c.keys := by
  rw [get?, List.lookup_eq_none_iff, keys, List.mem_map]
  constructor
  · rintro h ⟨e, he, rfl⟩
    simpa using h e he
  · intro h e he
    simpa using fun heq : key = e.1 ↦ h ⟨e, he, heq.symm⟩

theorem contains_iff {c : Container} {key : String} : c.contains key = true ↔ key ∈ c.keys := by
  rw [contains, Option.isSome_iff_ne_none, ne_eq, get?_eq_none_iff, Decidable.not_not]

theorem mem_keys_iff {c : Container} {key : String} : key ∈ c.keys ↔ ∃ v, c.get? key = some v := by
  rw [← Option.isSome_iff_exists, ← contains_iff, contains]

/-- What holds of all entries holds of what is found under the keys. -/
theorem forall_mem_entries_iff {c : Container} (hkeys : c.keys.Nodup)
    {p : String → Value → Prop} :
    (∀ e ∈ c.entries, p e.1 e.2) ↔ ∀ key v, c.get? key = some v → p key v :=
  ⟨fun h _ _ hv ↦ h _ (mem_of_get? hv), fun h _ he ↦ h _ _ (get?_of_mem hkeys he)⟩

/-- The entries agree with a container if it has an equal value under each key. -/
theorem agrees_iff {entries : List (String × Value)} {c : Container} :
    agrees entries c = true ↔ ∀ e ∈ entries, ∃ w, c.get? e.1 = some w ∧ w.beq e.2 = true := by
  induction entries with
  | nil => simp [agrees]
  | cons e rest ih =>
    obtain ⟨key, value⟩ := e
    rw [agrees, Bool.and_eq_true, ih, List.forall_mem_cons]
    refine and_congr_left fun _ ↦ ?_
    split
    · next w hget => simp [hget]
    · next hget => simp [hget]

theorem beq_iff {c d : Container} :
    (c == d) = true ↔ c.length = d.length ∧
      ∀ e ∈ c.entries, ∃ w, d.get? e.1 = some w ∧ w.beq e.2 = true := by
  obtain ⟨entries, path, node⟩ := c
  change Container.beq ⟨entries, path, node⟩ d = true ↔ _
  rw [Container.beq, Bool.and_eq_true, beq_iff_eq, agrees_iff]
  rfl

end Container

mutual

/-- A value in which no container holds a key twice is equal to itself. -/
theorem Value.beq_self : ∀ {v : Value}, v.Distinct → v.beq v = true
  | .nil, _ => by rw [Value.beq]
  | .bool b, _ => by rw [Value.beq, beq_self_eq_true]
  | .integer n, _ => by rw [Value.beq, beq_self_eq_true]
  | .text s, _ => by rw [Value.beq, beq_self_eq_true]
  | .date d, _ => by rw [Value.beq, beq_self_eq_true]
  | .node n, _ => by rw [Value.beq, n.beq_self]
  | .list items, h => by
    rw [Value.Distinct] at h
    rw [Value.beq, Value.beqAll_self h]
  | .map ⟨entries, path, node⟩, h => by
    rw [Value.Distinct, Container.Distinct] at h
    rw [Value.beq, Container.beq, beq_self_eq_true, Bool.true_and]
    have hkeys : (Container.mk entries path node).keys.Nodup := h.1
    exact Container.agrees_self h.2 fun e he ↦ Container.get?_of_mem hkeys he

theorem Value.beqAll_self : ∀ {vs : List Value}, Value.AllDistinct vs → Value.beqAll vs vs = true
  | [], _ => by rw [Value.beqAll]
  | v :: vs, h => by
    rw [Value.AllDistinct] at h
    rw [Value.beqAll, Value.beq_self h.1, Value.beqAll_self h.2]
    rfl

theorem Container.agrees_self : ∀ {entries : List (String × Value)} {c : Container},
    Container.EntriesDistinct entries → (∀ e ∈ entries, c.get? e.1 = some e.2) →
      Container.agrees entries c = true
  | [], _, _, _ => by rw [Container.agrees]
  | (key, value) :: rest, c, h, hget => by
    rw [Container.EntriesDistinct] at h
    obtain ⟨hkey, hrest⟩ := List.forall_mem_cons.mp hget
    rw [Container.agrees, hkey, Container.agrees_self h.2 hrest, Bool.and_true]
    exact Value.beq_self h.1

end

end MarkupRecords
