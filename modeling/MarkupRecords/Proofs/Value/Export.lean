import Mathlib.Data.List.Sort
import Mathlib.Data.String.Basic
import MarkupRecords.Proofs.Value.Equivalence
import MarkupRecords.Value.Json

/-!
Equal containers as JSON. A container becomes the object that has a member for each of its entries,
in the order of the names (`Container.toJson_eq`). Sorting forgets in which order the entries come
where no name comes twice (`Json.sortMembers_eq_of_perm`), so containers that are equal become the
same object (`Container.toJson_eq_of_beq`).
-/

set_option autoImplicit false
set_option relaxedAutoImplicit false

namespace MarkupRecords

/-! ### Members in order -/

namespace Json

/-- The first member comes before the second one by its name, or has the same name. -/
def Precedes (m m' : String × Json) : Prop := m.1 ≤ m'.1

instance : DecidableRel Precedes := fun m m' ↦ inferInstanceAs (Decidable (m.1 ≤ m'.1))

instance : Std.Total Precedes := ⟨fun m m' ↦ le_total m.1 m'.1⟩

instance : IsTrans (String × Json) Precedes := ⟨fun _ _ _ ↦ le_trans⟩

theorem insertMember_eq (member : String × Json) (members : List (String × Json)) :
    insertMember member members = members.orderedInsert Precedes member := by
  induction members with
  | nil => rfl
  | cons m ms ih =>
    rw [insertMember, List.orderedInsert]
    by_cases hm : m.1 < member.1
    · have hafter : ¬ Precedes member m := not_le.mpr hm
      rw [if_pos hm, if_neg hafter, ih]
    · have hbefore : Precedes member m := not_lt.mp hm
      rw [if_neg hm, if_pos hbefore]

theorem sortMembers_eq (members : List (String × Json)) :
    sortMembers members = members.insertionSort Precedes := by
  induction members with
  | nil => rfl
  | cons m ms ih =>
    rw [List.insertionSort_cons, ← ih, ← insertMember_eq]
    rfl

theorem perm_sortMembers (members : List (String × Json)) :
    (sortMembers members).Perm members := by
  rw [sortMembers_eq]
  exact List.perm_insertionSort Precedes members

theorem pairwise_sortMembers (members : List (String × Json)) :
    (sortMembers members).Pairwise Precedes := by
  rw [sortMembers_eq]
  exact List.pairwise_insertionSort Precedes members

/-- In which order members come makes no difference to sorting, if no name comes twice. -/
theorem sortMembers_eq_of_perm {members moved : List (String × Json)} (hperm : members.Perm moved)
    (hnames : (members.map Prod.fst).Nodup) : sortMembers members = sortMembers moved := by
  refine List.Perm.eq_of_pairwise (fun m m' hm hm' hle hle' ↦ ?_) (pairwise_sortMembers members)
    (pairwise_sortMembers moved)
    ((perm_sortMembers members).trans (hperm.trans (perm_sortMembers moved).symm))
  have hmem : m ∈ members := (perm_sortMembers members).mem_iff.mp hm
  have hmem' : m' ∈ members := hperm.mem_iff.mpr ((perm_sortMembers moved).mem_iff.mp hm')
  exact List.inj_on_of_nodup_map hnames hmem hmem' (le_antisymm hle hle')

end Json

/-! ### Members of a container -/

theorem Value.toJsonAll_eq_map (vs : List Value) : Value.toJsonAll vs = vs.map Value.toJson := by
  induction vs with
  | nil => rfl
  | cons v vs ih => rw [Value.toJsonAll, List.map_cons, ih]

namespace Container

theorem toMembers_eq_map (entries : List (String × Value)) :
    toMembers entries = entries.map fun e ↦ (e.1, e.2.toJson) := by
  induction entries with
  | nil => rfl
  | cons e rest ih => rw [toMembers, List.map_cons, ih]

theorem map_fst_toMembers (entries : List (String × Value)) :
    (toMembers entries).map Prod.fst = entries.map Prod.fst := by
  rw [toMembers_eq_map, List.map_map]
  rfl

theorem toJson_eq (c : Container) :
    c.toJson = .object (Json.sortMembers (toMembers c.entries)) := by
  obtain ⟨entries, path, node⟩ := c
  rw [Container.toJson]

/-- Containers with the same members up to order become the same object. -/
theorem toJson_eq_of_perm {c d : Container} (hc : c.keys.Nodup)
    (h : (toMembers c.entries).Perm (toMembers d.entries)) : c.toJson = d.toJson := by
  rw [toJson_eq, toJson_eq, Json.sortMembers_eq_of_perm h]
  rwa [map_fst_toMembers]

end Container

/-! ### Equal values -/

/-- Equal values are the same as JSON. -/
theorem Value.toJson_eq_of_beq {v w : Value} (hv : v.Distinct) (hw : w.Distinct)
    (h : v.beq w = true) : v.toJson = w.toJson := by
  revert hv hw
  refine Value.beq_induction (motive := fun v w ↦ v.Distinct → w.Distinct → v.toJson = w.toJson)
    ?leaf ?list ?map v w h
  case leaf => exact fun _ _ _ _ _ ↦ rfl
  case list =>
    intro items items' hitems hv hw
    rw [Value.distinct_list_iff] at hv hw
    have hsame : List.Forall₂ Eq (items.map Value.toJson) (items'.map Value.toJson) :=
      List.forall₂_map_left_iff.mpr <| List.forall₂_map_right_iff.mpr <|
        forall₂_imp_of_mem hitems fun x hx y hy hxy ↦ hxy.2 (hv x hx) (hw y hy)
    rw [List.forall₂_eq_eq_eq] at hsame
    rw [Value.toJson, Value.toJson, Value.toJsonAll_eq_map, Value.toJsonAll_eq_map, hsame]
  case map =>
    intro c d hcd hfound hv hw
    rw [Value.distinct_map_iff, Container.distinct_iff_forall] at hv hw
    rw [Value.toJson, Value.toJson]
    refine Container.toJson_eq_of_perm hv.1 ?_
    have hsubset : Container.toMembers c.entries ⊆ Container.toMembers d.entries := by
      rw [Container.toMembers_eq_map, Container.toMembers_eq_map]
      intro m hm
      obtain ⟨e, he, rfl⟩ := List.mem_map.mp hm
      obtain ⟨w, hw', -, hsame⟩ := hfound e he
      have hmem := Container.mem_of_get? hw'
      rw [← hsame (hw.2 _ hmem) (hv.2 e he)]
      exact List.mem_map_of_mem hmem
    have hnodup : (Container.toMembers c.entries).Nodup :=
      List.Nodup.of_map Prod.fst ((Container.map_fst_toMembers c.entries).symm ▸ hv.1)
    refine (List.subperm_of_subset hnodup hsubset).perm_of_length_le ?_
    rw [Container.toMembers_eq_map, Container.toMembers_eq_map, List.length_map, List.length_map]
    exact (Container.beq_iff.mp hcd).1.symm.le

namespace Container

theorem toJson_eq_of_beq {c d : Container} (hc : c.Distinct) (hd : d.Distinct)
    (h : (c == d) = true) : c.toJson = d.toJson := by
  have hmaps := Value.toJson_eq_of_beq (Value.distinct_map_iff.mpr hc)
    (Value.distinct_map_iff.mpr hd) (by rwa [Value.map_beq_map])
  rwa [Value.toJson, Value.toJson] at hmaps

/-- A container becomes an object with its keys for names. -/
theorem exists_toJson_eq {c : Container} (hc : c.keys.Nodup) :
    ∃ members, c.toJson = .object members ∧ (members.map Prod.fst).Perm c.keys ∧
      ∀ key json, (key, json) ∈ members ↔ ∃ v, c.get? key = some v ∧ json = v.toJson := by
  have hperm := Json.perm_sortMembers (toMembers c.entries)
  refine ⟨_, toJson_eq c, ?_, fun key json ↦ ?_⟩
  · have hnames := hperm.map Prod.fst
    rwa [map_fst_toMembers] at hnames
  · rw [hperm.mem_iff, toMembers_eq_map, List.mem_map]
    constructor
    · rintro ⟨⟨k, v⟩, he, heq⟩
      obtain ⟨rfl, rfl⟩ := Prod.mk.inj heq
      exact ⟨v, get?_of_mem hc he, rfl⟩
    · rintro ⟨v, hv, rfl⟩
      exact ⟨(key, v), mem_of_get? hv, rfl⟩

/-- Equality is an equivalence where no key comes twice. It holds of containers with the same keys
and equal values under each, however they are arranged, and equal containers become the same JSON,
an object with the keys for names. -/
theorem equality_and_export {c d : Container} (hc : c.Distinct) (hd : d.Distinct) :
    (Equivalence fun v w : {v : Value // v.Distinct} ↦ (v.1 == w.1) = true) ∧
    (Equivalence fun c d : {c : Container // c.Distinct} ↦ (c.1 == d.1) = true) ∧
    ((c == d) = true ↔ (∀ key, key ∈ c.keys ↔ key ∈ d.keys) ∧
      ∀ key v w, c.get? key = some v → d.get? key = some w → (v == w) = true) ∧
    (∀ c' d', c.Rearranges c' → d.Rearranges d' → (c == d) = (c' == d')) ∧
    ((c == d) = true → c.toJson = d.toJson) ∧
    ∃ members, c.toJson = .object members ∧ (members.map Prod.fst).Perm c.keys ∧
      ∀ key json, (key, json) ∈ members ↔ ∃ v, c.get? key = some v ∧ json = v.toJson := by
  have hkeys := (distinct_iff_forall.mp hc).1
  exact ⟨Value.beq_equivalence, beq_equivalence, beq_iff_forall_keys hc hd,
    fun _ _ ↦ beq_congr_of_rearranges hc hd, toJson_eq_of_beq hc hd, exists_toJson_eq hkeys⟩

theorem equality_and_export_album :
    let title : String × Value := ("title", .text "October")
    let number : String × Value := ("number", .integer 2)
    let c : Container := ⟨[("artist", .nil),
      ("tracks", .list [.map ⟨[title, number], none, none⟩])], some "album.xml", none⟩
    let d : Container := ⟨[("tracks", .list [.map ⟨[number, title], some "track.xml", none⟩]),
      ("artist", .nil)], none, some (Document.ofTree (.document [])).root⟩
    c.Distinct ∧ d.Distinct ∧ (c == d) = true ∧ (d == c) = true ∧ c.toJson = d.toJson ∧
      ∃ members, c.toJson = .object members ∧ members.map Prod.fst = ["artist", "tracks"] := by
  intro title number c d
  have hc : c.Distinct := by
    simp [c, Container.Distinct, EntriesDistinct, Value.Distinct, Value.AllDistinct, title, number]
  have hd : d.Distinct := by
    simp [d, Container.Distinct, EntriesDistinct, Value.Distinct, Value.AllDistinct, title, number]
  obtain ⟨-, hequivalence, -, -, hexport, -⟩ := equality_and_export hc hd
  have hcd : (c == d) = true := by decide +kernel
  have hdc : (d == c) = true := @Equivalence.symm _ _ hequivalence ⟨c, hc⟩ ⟨d, hd⟩ hcd
  exact ⟨hc, hd, hcd, hdc, hexport hcd, _, rfl, by decide +kernel⟩

end Container

end MarkupRecords
