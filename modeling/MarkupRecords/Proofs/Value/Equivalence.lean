import Mathlib.Data.List.Forall2
import Mathlib.Data.List.Perm.Subperm
import MarkupRecords.Proofs.Value.Distinct

/-!
Equality of containers as an equivalence. The comparison `==` asks for equally many entries and
looks each key of the first container up in the second; it never looks the other way. Where no key
comes twice this is enough for both to have the same keys (`Container.perm_keys_of_beq`), so that
two containers are equal if and only if they have the same keys with equal values
(`Container.beq_iff_forall_keys`), and the comparison is an equivalence (`Value.beq_equivalence`,
`Container.beq_equivalence`). It does not see what only rearranges entries or gives containers
another path or node, at whatever depth (`Value.Rearranges`, `Container.beq_congr_of_rearranges`).
-/

set_option autoImplicit false
set_option relaxedAutoImplicit false

namespace MarkupRecords

/-! ### Trees and nodes -/

mutual

theorem Tree.eq_of_beq : ∀ {t t' : Tree}, t.beq t' = true → t = t'
  | .document kids, .document kids', h => by
    rw [Tree.beq] at h
    rw [Tree.eq_of_beqAll h]
  | .element name attributes kids, .element name' attributes' kids', h => by
    rw [Tree.beq, Bool.and_eq_true, Bool.and_eq_true, beq_iff_eq, beq_iff_eq] at h
    obtain ⟨⟨rfl, rfl⟩, hkids⟩ := h
    rw [Tree.eq_of_beqAll hkids]
  | .text s, .text s', h => by
    rw [Tree.beq, beq_iff_eq] at h
    rw [h]
  | .document _, .element .., h | .document _, .text _, h | .element .., .document _, h
  | .element .., .text _, h | .text _, .document _, h | .text _, .element .., h => by
    simp [Tree.beq] at h

theorem Tree.eq_of_beqAll : ∀ {ts ts' : List Tree}, Tree.beqAll ts ts' = true → ts = ts'
  | [], [], _ => rfl
  | t :: ts, t' :: ts', h => by
    rw [Tree.beqAll, Bool.and_eq_true] at h
    rw [Tree.eq_of_beq h.1, Tree.eq_of_beqAll h.2]
  | [], _ :: _, h | _ :: _, [], h => by simp [Tree.beqAll] at h

end

theorem Document.eq_of_beq {d d' : Document} (h : d.beq d' = true) : d = d' := by
  obtain ⟨label, tree, places, hplaces⟩ := d
  obtain ⟨label', tree', places', hplaces'⟩ := d'
  obtain ⟨hlabel, htree⟩ := Bool.and_eq_true_iff.mp h
  obtain rfl : label = label' := beq_iff_eq.mp hlabel
  obtain rfl : tree = tree' := Tree.eq_of_beq htree
  subst hplaces hplaces'
  rfl

theorem Node.eq_of_beq {n n' : Node} (h : n.beq n' = true) : n = n' := by
  obtain ⟨document, index, hinside⟩ := n
  obtain ⟨document', index', hinside'⟩ := n'
  obtain ⟨hindex, hdocument⟩ := Bool.and_eq_true_iff.mp h
  obtain rfl : index = index' := beq_iff_eq.mp hindex
  obtain rfl : document = document' := Document.eq_of_beq hdocument
  rfl

/-! ### Lists and containers -/

theorem forall₂_imp_of_mem {α β : Type} {R S : α → β → Prop} {xs : List α} {ys : List β}
    (h : List.Forall₂ R xs ys) (himp : ∀ x ∈ xs, ∀ y ∈ ys, R x y → S x y) :
    List.Forall₂ S xs ys := by
  obtain ⟨hlength, hzip⟩ := List.forall₂_iff_zip.mp h
  refine List.forall₂_iff_zip.mpr ⟨hlength, fun {x y} hxy ↦ ?_⟩
  obtain ⟨hx, hy⟩ := List.of_mem_zip hxy
  exact himp x hx y hy (hzip hxy)

theorem exists_of_mem_right {α β : Type} {R : α → β → Prop} {xs : List α} {ys : List β}
    (h : List.Forall₂ R xs ys) {y : β} (hy : y ∈ ys) : ∃ x ∈ xs, R x y := by
  induction h with
  | nil => cases hy
  | @cons x _ xs _ hxy _ ih =>
    rcases List.mem_cons.mp hy with rfl | hy
    · exact ⟨x, List.mem_cons_self, hxy⟩
    · obtain ⟨x', hx', hxy'⟩ := ih hy
      exact ⟨x', List.mem_cons_of_mem _ hx', hxy'⟩

theorem forall₂_comp {α β γ : Type} {R : α → β → Prop} {S : β → γ → Prop} {T : α → γ → Prop}
    {xs : List α} {ys : List β} {zs : List γ} (hxy : List.Forall₂ R xs ys)
    (hyz : List.Forall₂ S ys zs) (himp : ∀ x y z, R x y → S y z → T x z) :
    List.Forall₂ T xs zs := by
  induction hxy generalizing zs with
  | nil =>
    cases hyz
    exact .nil
  | cons hx _ ih =>
    cases hyz with
    | cons hy hyz => exact .cons (himp _ _ _ hx hy) (ih hyz)

namespace Value

theorem beqAll_iff {vs ws : List Value} :
    beqAll vs ws = true ↔ List.Forall₂ (fun v w ↦ v.beq w = true) vs ws := by
  induction vs generalizing ws with
  | nil =>
    cases ws with
    | nil => simp [beqAll]
    | cons w ws => simp [beqAll]
  | cons v vs ih =>
    cases ws with
    | nil => simp [beqAll]
    | cons w ws => rw [beqAll, Bool.and_eq_true, ih, List.forall₂_cons]

/-- Equal values are the same, if they are neither lists nor maps. -/
theorem eq_of_beq {v w : Value} (hlist : ∀ items, v ≠ list items) (hmap : ∀ c, v ≠ map c)
    (h : v.beq w = true) : v = w := by
  unfold beq at h
  split at h
  · rfl
  · rw [beq_iff_eq.mp h]
  · rw [beq_iff_eq.mp h]
  · rw [beq_iff_eq.mp h]
  · rw [beq_iff_eq.mp h]
  · rw [Node.eq_of_beq h]
  · exact absurd rfl (hlist _)
  · exact absurd rfl (hmap _)
  · cases h

theorem beq_list_iff {items : List Value} {w : Value} : (list items).beq w = true ↔
    ∃ items', w = list items' ∧ List.Forall₂ (fun v w ↦ v.beq w = true) items items' := by
  cases w with
  | list items' => simp [beq, beqAll_iff]
  | _ => simp [beq]

theorem list_beq_iff {items : List Value} {w : Value} : w.beq (list items) = true ↔
    ∃ items', w = list items' ∧ List.Forall₂ (fun w v ↦ w.beq v = true) items' items := by
  cases w with
  | list items' => simp [beq, beqAll_iff]
  | _ => simp [beq]

theorem beq_map_iff {c : Container} {w : Value} :
    (map c).beq w = true ↔ ∃ d, w = map d ∧ (c == d) = true := by
  cases w with
  | map d => simp
  | _ => simp [beq]

theorem map_beq_iff {c : Container} {w : Value} :
    w.beq (map c) = true ↔ ∃ d, w = map d ∧ (d == c) = true := by
  cases w with
  | map d => simp
  | _ => simp [beq]

/-- A relation holds of equal values if it goes over from items to lists and from entries to maps.
What is looked up in the second container stands on the left when it is compared, so the sides
change places from each container to the next. -/
theorem beq_induction {motive : Value → Value → Prop}
    (leaf : ∀ v, (∀ items, v ≠ .list items) → (∀ c, v ≠ .map c) → motive v v)
    (list : ∀ items items', List.Forall₂ (fun v w ↦ v.beq w = true ∧ motive v w) items items' →
      motive (.list items) (.list items'))
    (map : ∀ c d : Container, (c == d) = true →
      (∀ e ∈ c.entries, ∃ w, d.get? e.1 = some w ∧ w.beq e.2 = true ∧ motive w e.2) →
        motive (.map c) (.map d)) (v w : Value) (h : v.beq w = true) : motive v w := by
  cases v with
  | list items =>
    obtain ⟨items', rfl, hitems⟩ := beq_list_iff.mp h
    refine list items items' (forall₂_imp_of_mem hitems fun x hx y hy hxy ↦ ⟨hxy, ?_⟩)
    have hless := List.sizeOf_lt_of_mem hx
    have hless' := List.sizeOf_lt_of_mem hy
    exact beq_induction leaf list map x y hxy
  | map c =>
    obtain ⟨d, rfl, hcd⟩ := beq_map_iff.mp h
    refine map c d hcd fun e he ↦ ?_
    obtain ⟨w, hw, hwe⟩ := (Container.beq_iff.mp hcd).2 e he
    have hless := Container.sizeOf_lt_of_mem he
    have hless' : sizeOf w < sizeOf d :=
      Container.sizeOf_lt_of_mem (Container.mem_of_get? hw)
    exact ⟨w, hw, hwe, beq_induction leaf list map w e.2 hwe⟩
  | _ =>
    obtain rfl := eq_of_beq (by simp) (by simp) h
    exact leaf _ (by simp) (by simp)
termination_by sizeOf v + sizeOf w
decreasing_by
  · subst_vars
    simp only [Value.list.sizeOf_spec]
    omega
  · subst_vars
    simp only [Value.map.sizeOf_spec]
    omega

end Value

namespace Container

/-- A container is only equal to one with the same keys: the keys of the first are among those of
the second, and there are as many. -/
theorem perm_keys_of_beq {c d : Container} (hc : c.keys.Nodup) (h : (c == d) = true) :
    c.keys.Perm d.keys := by
  obtain ⟨hlength, hfound⟩ := beq_iff.mp h
  have hsubset : c.keys ⊆ d.keys := by
    intro key hkey
    obtain ⟨e, he, rfl⟩ := List.mem_map.mp hkey
    obtain ⟨w, hw, -⟩ := hfound e he
    exact mem_keys_iff.mpr ⟨w, hw⟩
  refine (List.subperm_of_subset hc hsubset).perm_of_length_le ?_
  rw [length_keys, length_keys]
  exact Nat.le_of_eq hlength.symm

end Container

/-! ### An equivalence -/

namespace Value

/-- Where no key comes twice, equality goes both ways. -/
theorem beq_symm {v w : Value} (hv : v.Distinct) (hw : w.Distinct) (h : v.beq w = true) :
    w.beq v = true := by
  revert hv hw
  refine beq_induction (motive := fun v w ↦ v.Distinct → w.Distinct → w.beq v = true)
    ?leaf ?list ?map v w h
  case leaf => exact fun v _ _ hv _ ↦ beq_self hv
  case list =>
    intro items items' hitems hv hw
    rw [distinct_list_iff] at hv hw
    have hback : List.Forall₂ (fun x y ↦ y.beq x = true) items items' :=
      forall₂_imp_of_mem hitems fun x hx y hy hxy ↦ hxy.2 (hv x hx) (hw y hy)
    exact beq_list_iff.mpr ⟨items, rfl, hback.flip⟩
  case map =>
    intro c d hcd hfound hv hw
    rw [distinct_map_iff, Container.distinct_iff_forall] at hv hw
    have hkeys := Container.perm_keys_of_beq hv.1 hcd
    refine beq_map_iff.mpr ⟨c, rfl, Container.beq_iff.mpr
      ⟨(Container.beq_iff.mp hcd).1.symm, fun e he ↦ ?_⟩⟩
    obtain ⟨x, hx⟩ := Container.mem_keys_iff.mp (hkeys.mem_iff.mpr (List.mem_map_of_mem he))
    have hmem := Container.mem_of_get? hx
    obtain ⟨y, hy, -, hback⟩ := hfound _ hmem
    obtain rfl : y = e.2 := Option.some.inj (hy.symm.trans (Container.get?_of_mem hw.1 he))
    exact ⟨x, hx, hback (hw.2 e he) (hv.2 _ hmem)⟩

/-- Equality can be gone on with. This is shown for both ends at once, since the sides change places
below a container. -/
theorem beq_trans {u v w : Value} (huv : u.beq v = true) (hvw : v.beq w = true) :
    u.beq w = true := by
  suffices h : (∀ w : Value, v.beq w = true → u.beq w = true) ∧
      ∀ w : Value, w.beq u = true → w.beq v = true from h.1 w hvw
  refine beq_induction (motive := fun u v ↦ (∀ w : Value, v.beq w = true → u.beq w = true) ∧
    ∀ w : Value, w.beq u = true → w.beq v = true) ?leaf ?list ?map u v huv
  case leaf => exact fun _ _ _ ↦ ⟨fun _ h ↦ h, fun _ h ↦ h⟩
  case list =>
    refine fun items items' hitems ↦ ⟨fun w hw ↦ ?_, fun w hw ↦ ?_⟩
    · obtain ⟨items'', rfl, hitems'⟩ := beq_list_iff.mp hw
      exact beq_list_iff.mpr ⟨items'', rfl,
        forall₂_comp hitems hitems' fun _ _ z hxy hyz ↦ hxy.2.1 z hyz⟩
    · obtain ⟨items'', rfl, hitems'⟩ := list_beq_iff.mp hw
      exact list_beq_iff.mpr ⟨items'', rfl,
        forall₂_comp hitems' hitems fun z _ _ hzx hxy ↦ hxy.2.2 z hzx⟩
  case map =>
    refine fun c d hcd hfound ↦ ⟨fun w hw ↦ ?_, fun w hw ↦ ?_⟩
    · obtain ⟨f, rfl, hdf⟩ := beq_map_iff.mp hw
      obtain ⟨hlength, hfound'⟩ := Container.beq_iff.mp hdf
      refine beq_map_iff.mpr ⟨f, rfl, Container.beq_iff.mpr
        ⟨(Container.beq_iff.mp hcd).1.trans hlength, fun e he ↦ ?_⟩⟩
      obtain ⟨x, hx, -, -, hleft⟩ := hfound e he
      obtain ⟨y, hy, hyx⟩ := hfound' _ (Container.mem_of_get? hx)
      exact ⟨y, hy, hleft y hyx⟩
    · obtain ⟨f, rfl, hfc⟩ := map_beq_iff.mp hw
      obtain ⟨hlength, hfound'⟩ := Container.beq_iff.mp hfc
      refine map_beq_iff.mpr ⟨f, rfl, Container.beq_iff.mpr
        ⟨hlength.trans (Container.beq_iff.mp hcd).1, fun e he ↦ ?_⟩⟩
      obtain ⟨x, hx, hxe⟩ := hfound' e he
      obtain ⟨y, hy, -, hright, -⟩ := hfound _ (Container.mem_of_get? hx)
      exact ⟨y, hy, hright e.2 hxe⟩

/-- Equality is an equivalence on the values in which no key comes twice. -/
theorem beq_equivalence :
    Equivalence fun v w : {v : Value // v.Distinct} ↦ (v.1 == w.1) = true where
  refl v := beq_self v.2
  symm := fun {v w} h ↦ beq_symm v.2 w.2 h
  trans := beq_trans

end Value

namespace Container

/-- Two containers are equal if they have the same keys, and equal values under each. -/
theorem beq_iff_forall_keys {c d : Container} (hc : c.Distinct) (hd : d.Distinct) :
    (c == d) = true ↔ (∀ key, key ∈ c.keys ↔ key ∈ d.keys) ∧
      ∀ key v w, c.get? key = some v → d.get? key = some w → (v == w) = true := by
  rw [distinct_iff_forall] at hc hd
  -- The comparison looks at `w == v`, so each step takes the symmetry of what is under the key.
  constructor
  · intro h
    refine ⟨fun key ↦ (perm_keys_of_beq hc.1 h).mem_iff, fun key v w hv hw ↦ ?_⟩
    have hmem := mem_of_get? hv
    obtain ⟨w', hw', hwv⟩ := (beq_iff.mp h).2 (key, v) hmem
    obtain rfl : w = w' := Option.some.inj (hw.symm.trans hw')
    exact Value.beq_symm (hd.2 _ (mem_of_get? hw)) (hc.2 _ hmem) hwv
  · rintro ⟨hkeys, hvalues⟩
    have hperm := (List.perm_ext_iff_of_nodup hc.1 hd.1).mpr hkeys
    refine beq_iff.mpr ⟨?_, fun e he ↦ ?_⟩
    · rw [← length_keys, ← length_keys, hperm.length_eq]
    · have hget : c.get? e.1 = some e.2 := get?_of_mem hc.1 he
      obtain ⟨w, hw⟩ := mem_keys_iff.mp ((hkeys e.1).mp (mem_keys_iff.mpr ⟨e.2, hget⟩))
      have hback := Value.beq_symm (hc.2 e he) (hd.2 _ (mem_of_get? hw))
        (hvalues e.1 e.2 w hget hw)
      exact ⟨w, hw, hback⟩

theorem beq_symm {c d : Container} (hc : c.Distinct) (hd : d.Distinct) (h : (c == d) = true) :
    (d == c) = true := by
  rw [← Value.map_beq_map] at h ⊢
  exact Value.beq_symm (Value.distinct_map_iff.mpr hc) (Value.distinct_map_iff.mpr hd) h

theorem beq_trans {c d f : Container} (hcd : (c == d) = true) (hdf : (d == f) = true) :
    (c == f) = true := by
  rw [← Value.map_beq_map] at hcd hdf ⊢
  exact Value.beq_trans hcd hdf

/-- Equality is an equivalence on the containers in which no key comes twice. -/
theorem beq_equivalence :
    Equivalence fun c d : {c : Container // c.Distinct} ↦ (c.1 == d.1) = true where
  refl c := beq_self c.2
  symm := fun {c d} h ↦ beq_symm c.2 d.2 h
  trans := beq_trans

end Container

/-! ### Rearranged entries -/

/-- The values differ at most in the order of the entries of the containers in them, and in the
paths and nodes of these. -/
inductive Value.Rearranges : Value → Value → Prop
  | refl (v : Value) : Rearranges v v
  | list {items items' : List Value} (hitems : List.Forall₂ Rearranges items items') :
    Rearranges (.list items) (.list items')
  | map {c c' : Container} {moved : List (String × Value)} (hperm : c.entries.Perm moved)
    (hentries : List.Forall₂ (Prod.RProd Eq Rearranges) moved c'.entries) :
    Rearranges (.map c) (.map c')

/-- The containers differ at most in the order of their entries, in their paths and nodes, and in
those of the containers inside them. -/
def Container.Rearranges (c c' : Container) : Prop := (Value.map c).Rearranges (.map c')

/-- What is rearranged is equal, and no key comes twice in it where none did before. -/
theorem Value.Rearranges.distinct_and_beq {v w : Value} (h : v.Rearranges w) (hv : v.Distinct) :
    w.Distinct ∧ v.beq w = true := by
  induction v using Value.inductionOn generalizing w with
  | list items ih =>
    cases h with
    | refl => exact ⟨hv, Value.beq_self hv⟩
    | @list _ items' hitems =>
      rw [Value.distinct_list_iff] at hv
      have hall : List.Forall₂ (fun v w ↦ w.Distinct ∧ v.beq w = true) items items' :=
        forall₂_imp_of_mem hitems fun v hmem _ _ hvw ↦ ih v hmem hvw (hv v hmem)
      refine ⟨Value.distinct_list_iff.mpr fun w hw ↦ ?_,
        Value.beq_list_iff.mpr ⟨items', rfl, hall.imp fun _ _ ↦ And.right⟩⟩
      obtain ⟨v, -, hdistinct, -⟩ := exists_of_mem_right hall hw
      exact hdistinct
  | map c ih =>
    cases h with
    | refl => exact ⟨hv, Value.beq_self hv⟩
    | @map _ c' moved hperm hentries =>
      rw [Value.distinct_map_iff, Container.distinct_iff_forall] at hv
      obtain ⟨hnodup, hvalues⟩ := hv
      have hsame : List.Forall₂ Eq (moved.map Prod.fst) (c'.entries.map Prod.fst) :=
        List.forall₂_map_left_iff.mpr <|
          List.forall₂_map_right_iff.mpr (hentries.imp fun _ _ ⟨hkey, _⟩ ↦ hkey)
      rw [List.forall₂_eq_eq_eq] at hsame
      have hkeys : c.keys.Perm c'.keys := by
        rw [Container.keys, Container.keys, ← hsame]
        exact hperm.map _
      have hfrom : ∀ e' ∈ c'.entries, ∃ v, c.get? e'.1 = some v ∧ e'.2.Distinct ∧
          v.beq e'.2 = true := by
        intro e' he'
        obtain ⟨⟨key, v⟩, he, rfl, hvw⟩ := exists_of_mem_right hentries he'
        have hmem := hperm.mem_iff.mpr he
        exact ⟨v, Container.get?_of_mem hnodup hmem, ih _ hmem hvw (hvalues _ hmem)⟩
      have hnodup' : c'.keys.Nodup := hkeys.nodup_iff.mp hnodup
      have hc : c.Distinct := Container.distinct_iff_forall.mpr ⟨hnodup, hvalues⟩
      have hc' : c'.Distinct := by
        refine Container.distinct_iff_forall.mpr ⟨hnodup', fun e' he' ↦ ?_⟩
        obtain ⟨v, -, hdistinct, -⟩ := hfrom e' he'
        exact hdistinct
      refine ⟨Value.distinct_map_iff.mpr hc', ?_⟩
      · refine Value.beq_map_iff.mpr ⟨c', rfl, ?_⟩
        refine (Container.beq_iff_forall_keys hc hc').mpr ⟨fun key ↦ hkeys.mem_iff, ?_⟩
        intro key v w hv hw
        obtain ⟨v', hv', -, hvw⟩ := hfrom _ (Container.mem_of_get? hw)
        rwa [Option.some.inj (hv.symm.trans hv')]
  | _ =>
    cases h
    exact ⟨hv, Value.beq_self hv⟩

namespace Container

theorem Rearranges.distinct_and_beq {c c' : Container} (h : c.Rearranges c') (hc : c.Distinct) :
    c'.Distinct ∧ (c == c') = true := by
  obtain ⟨hdistinct, hbeq⟩ :=
    Value.Rearranges.distinct_and_beq h (Value.distinct_map_iff.mpr hc)
  rw [Value.map_beq_map] at hbeq
  exact ⟨Value.distinct_map_iff.mp hdistinct, hbeq⟩

/-- A comparison does not see how the entries of a container are arranged. -/
theorem beq_congr_of_rearranges {c c' d d' : Container} (hc : c.Distinct) (hd : d.Distinct)
    (hcc' : c.Rearranges c') (hdd' : d.Rearranges d') : (c == d) = (c' == d') := by
  obtain ⟨hc', hceq⟩ := hcc'.distinct_and_beq hc
  obtain ⟨hd', hdeq⟩ := hdd'.distinct_and_beq hd
  rw [Bool.eq_iff_iff]
  exact ⟨fun h ↦ beq_trans (beq_symm hc hc' hceq) (beq_trans h hdeq),
    fun h ↦ beq_trans hceq (beq_trans h (beq_symm hd hd' hdeq))⟩

end Container

end MarkupRecords
