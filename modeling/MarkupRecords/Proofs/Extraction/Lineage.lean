import MarkupRecords.Proofs.Extraction.Pass
import MarkupRecords.Proofs.Value.Merge

/-!
What a specification takes over from those that it extends. `Specification.lineage` lists these, the
base first, and after them the specification itself. Each key has its value from the latest own pass
in the lineage that yields the key, and the keys stand in the order in which the own passes bring
them up (`Specification.extractIn_lineage`). The key for the path is an exception: it is taken out
of what is inherited, so only the own pass of the specification itself decides on it.

Hooks may do anything to a container but make it hold a key twice (`Hook.KeepsKeys`).
-/

set_option autoImplicit false
set_option relaxedAutoImplicit false

namespace MarkupRecords

/-- The hook gives a container that holds each key once, from such a container. -/
def Hook.KeepsKeys (hook : Hook) : Prop := ∀ c : Container, c.keys.Nodup → (hook c).keys.Nodup

namespace Source

theorem nodup_keys_record (s : Source) {c : Container} (hc : c.keys.Nodup) :
    (s.record c).keys.Nodup := by
  rw [record]
  split
  · exact Container.nodup_keys_insert hc _ _
  · exact hc

theorem nodup_keys_forget (s : Source) {c : Container} (hc : c.keys.Nodup) :
    (s.forget c).keys.Nodup := by
  rw [forget]
  split
  · exact Container.nodup_keys_erase hc _
  · exact hc

/-- Only the key for the path is taken out. -/
theorem get?_forget_of_ne {s : Source} {key : String} (hkey : s.key ≠ some key) (c : Container) :
    (s.forget c).get? key = c.get? key := by
  rw [forget]
  split
  · next k hk => exact c.get?_erase_of_ne fun heq ↦ hkey (heq ▸ hk)
  · rfl

theorem get?_forget_self {s : Source} {key : String} (hkey : s.key = some key) {c : Container}
    (hc : c.keys.Nodup) : (s.forget c).get? key = .none := by
  rw [forget, hkey, Container.get?_eq_none_iff, Container.keys_erase]
  exact hc.not_mem_erase

theorem filter_keys_forget (s : Source) (c : Container) :
    (s.forget c).keys.filter (s.key ≠ some ·) = c.keys.filter (s.key ≠ some ·) := by
  rw [forget]
  split
  · next k hk => exact c.filter_keys_erase (by simp [hk])
  · rfl

end Source

namespace Specification

/-- The specifications that a specification extends, the base first, and itself after them. -/
def lineage : Specification → List Specification
  | ⟨entries, hook, mode, none, transforms⟩ => [⟨entries, hook, mode, none, transforms⟩]
  | ⟨entries, hook, mode, some parent, transforms⟩ =>
    parent.lineage ++ [⟨entries, hook, mode, some parent, transforms⟩]

theorem lineage_of_parent?_eq_none {spec : Specification} (hparent : spec.parent? = none) :
    spec.lineage = [spec] := by
  obtain ⟨entries, hook, mode, parent, transforms⟩ := spec
  cases hparent
  rfl

theorem lineage_of_parent?_eq_some {spec parent : Specification}
    (hparent : spec.parent? = some parent) : spec.lineage = parent.lineage ++ [spec] := by
  obtain ⟨entries, hook, mode, _, transforms⟩ := spec
  cases hparent
  rfl

/-- What holds of a specification without a parent, and goes over from a parent, holds of all. -/
theorem lineage_induction {motive : Specification → Prop}
    (base : ∀ spec : Specification, spec.parent? = none → motive spec)
    (derived : ∀ spec parent : Specification, spec.parent? = some parent → motive parent →
      motive spec) (spec : Specification) : motive spec := by
  induction spec using Specification.induction with
  | step spec _ ih =>
    cases hparent : spec.parent? with
    | none => exact base spec hparent
    | some parent => exact derived spec parent hparent (ih parent hparent)

theorem mem_lineage_self (spec : Specification) : spec ∈ spec.lineage := by
  cases hparent : spec.parent? with
  | none =>
    rw [lineage_of_parent?_eq_none hparent]
    exact List.mem_singleton_self spec
  | some parent =>
    rw [lineage_of_parent?_eq_some hparent]
    exact List.mem_append_right _ (List.mem_singleton_self spec)

/-- What holds everywhere in a specification holds everywhere in those that it extends. -/
theorem Everywhere.lineage {p : Specification → Prop} {spec : Specification}
    (h : spec.Everywhere p) : ∀ s ∈ spec.lineage, s.Everywhere p := by
  induction spec using lineage_induction with
  | base spec hparent =>
    rw [lineage_of_parent?_eq_none hparent]
    exact List.forall_mem_singleton.mpr h
  | derived spec parent hparent ih =>
    rw [lineage_of_parent?_eq_some hparent]
    have hparentHolds := (everywhere_iff.mp h).2.2 parent hparent
    exact List.forall_mem_append.mpr ⟨ih hparentHolds, List.forall_mem_singleton.mpr h⟩

variable (outer : List TransformTable) (source : Source) (n : Node)

theorem extractIn_of_parent?_eq_none {spec : Specification} (hparent : spec.parent? = none) :
    spec.extractIn outer source n = spec.ownPass outer source n := by
  rw [extractIn_eq, hparent, mergeOver]

theorem extractIn_of_parent?_eq_some {spec parent : Specification}
    (hparent : spec.parent? = some parent) :
    spec.extractIn outer source n =
      (source.forget (parent.extractIn outer source n)).merge (spec.ownPass outer source n) := by
  rw [extractIn_eq, hparent, mergeOver]

/-- A hook of any specification in the lineage leaves each key to be held once. -/
def HooksKeepKeys (spec : Specification) : Prop :=
  ∀ s ∈ spec.lineage, ∀ hook, s.hook? = some hook → hook.KeepsKeys

variable {spec : Specification}

theorem HooksKeepKeys.parent {parent : Specification} (h : spec.HooksKeepKeys)
    (hparent : spec.parent? = some parent) : parent.HooksKeepKeys := by
  intro s hs
  refine h s ?_
  rw [lineage_of_parent?_eq_some hparent]
  exact List.mem_append_left _ hs

theorem HooksKeepKeys.own (h : spec.HooksKeepKeys) (hook : Hook) (hspec : spec.hook? = some hook) :
    hook.KeepsKeys :=
  h spec spec.mem_lineage_self hook hspec

theorem nodup_keys_ownPass (h : spec.HooksKeepKeys) :
    (spec.ownPass outer source n).keys.Nodup := by
  have hfilled (items : List (List String × Value)) :
      (source.record ((Container.ofSource source.path (some n)).fill items)).keys.Nodup :=
    source.nodup_keys_record
      (Container.nodup_keys_fill (c := Container.ofSource _ _) List.nodup_nil items)
  rw [ownPass]
  cases hspec : spec.hook? with
  | none => exact hfilled _
  | some hook => exact h.own hook hspec _ (hfilled _)

theorem nodup_keys_extractIn (h : spec.HooksKeepKeys) :
    (spec.extractIn outer source n).keys.Nodup := by
  induction spec using lineage_induction with
  | base spec hparent =>
    rw [extractIn_of_parent?_eq_none outer source n hparent]
    exact nodup_keys_ownPass outer source n h
  | derived spec parent hparent ih =>
    rw [extractIn_of_parent?_eq_some outer source n hparent]
    exact Container.nodup_keys_merge (source.nodup_keys_forget (ih (h.parent hparent))) _

/-- A key has its value from the latest own pass of the lineage that yields it, unless it is the key
for the path. -/
theorem get?_extractIn (h : spec.HooksKeepKeys) {key : String} (hkey : source.key ≠ some key) :
    (spec.extractIn outer source n).get? key =
      (spec.lineage.map fun s ↦ s.ownPass outer source n).reverse.findSome? (·.get? key) := by
  induction spec using lineage_induction with
  | base spec hparent =>
    rw [extractIn_of_parent?_eq_none outer source n hparent, lineage_of_parent?_eq_none hparent]
    simp
  | derived spec parent hparent ih =>
    rw [extractIn_of_parent?_eq_some outer source n hparent, lineage_of_parent?_eq_some hparent,
      Container.get?_merge _ (nodup_keys_ownPass outer source n h),
      source.get?_forget_of_ne hkey, ih (h.parent hparent), List.map_append, List.reverse_append]
    cases hown : (spec.ownPass outer source n).get? key with
    | none => simp [hown]
    | some value => simp [hown]

/-- The key for the path has the value that the own pass of the specification itself yields. -/
theorem get?_extractIn_sourceKey (h : spec.HooksKeepKeys) {key : String}
    (hkey : source.key = some key) :
    (spec.extractIn outer source n).get? key = (spec.ownPass outer source n).get? key := by
  cases hparent : spec.parent? with
  | none => rw [extractIn_of_parent?_eq_none outer source n hparent]
  | some parent =>
    have hinherited := nodup_keys_extractIn outer source n (h.parent hparent)
    rw [extractIn_of_parent?_eq_some outer source n hparent,
      Container.get?_merge _ (nodup_keys_ownPass outer source n h),
      Source.get?_forget_self hkey hinherited, Option.or_none]

/-- The keys stand in the order in which the own passes of the lineage bring them up. -/
theorem filter_keys_extractIn (h : spec.HooksKeepKeys) :
    (spec.extractIn outer source n).keys.filter (source.key ≠ some ·) =
      ((spec.lineage.flatMap fun s ↦ (s.ownPass outer source n).keys).filter
        (source.key ≠ some ·)).eraseDups := by
  have hown := nodup_keys_ownPass outer source n h
  induction spec using lineage_induction with
  | base spec hparent =>
    rw [extractIn_of_parent?_eq_none outer source n hparent, lineage_of_parent?_eq_none hparent,
      List.flatMap_singleton, eraseDups_of_nodup (hown.filter _)]
  | derived spec parent hparent ih =>
    have hinherited := nodup_keys_extractIn outer source n (h.parent hparent)
    have hparentOwn := nodup_keys_ownPass outer source n (h.parent hparent)
    rw [extractIn_of_parent?_eq_some outer source n hparent, lineage_of_parent?_eq_some hparent,
      Container.keys_merge (source.nodup_keys_forget hinherited), filter_eraseDups,
      List.filter_append, source.filter_keys_forget, ih (h.parent hparent) hparentOwn,
      eraseDups_eraseDups_append, List.flatMap_append, List.flatMap_singleton, List.filter_append]

/-- Of specifications that extend each other, a key has the value that the latest own pass yields
for it, as a whole, and is missing if no own pass yields it; the keys stand in the order in which
the own passes bring them up. Only the key for the path is not inherited: it is as the own pass of
the specification itself has it. -/
theorem extractIn_lineage (h : spec.HooksKeepKeys) :
    let owns := spec.lineage.map fun s ↦ s.ownPass outer source n
    let result := spec.extractIn outer source n
    (∀ key, source.key ≠ some key →
      result.get? key = owns.reverse.findSome? (·.get? key)) ∧
    result.keys.filter (source.key ≠ some ·) =
      ((owns.flatMap Container.keys).filter (source.key ≠ some ·)).eraseDups ∧
    ∀ key, source.key = some key → result.get? key = (spec.ownPass outer source n).get? key := by
  intro owns result
  refine ⟨fun key hkey ↦ get?_extractIn outer source n h hkey, ?_, fun key hkey ↦
    get?_extractIn_sourceKey outer source n h hkey⟩
  rw [List.flatMap_map]
  exact filter_keys_extractIn outer source n h

theorem extractIn_lineage_album :
    let here : Selector := ⟨"", ⟨false, false, []⟩⟩
    let entry (kind : Kind) (key : String) : Entry := ⟨kind, here, .ofKey key, { }, none⟩
    let base : Specification :=
      ⟨[entry .nodeName "name", entry .innerText "title"], none, .search, none, .empty⟩
    let middle : Specification :=
      ⟨[entry .innerText "name"], some (·.insert "rank" .nil), .search, some base, .empty⟩
    let derived : Specification :=
      ⟨[entry .exists "title"], some (·.erase "path"), .search, some middle, .empty⟩
    let source : Source := ⟨some "album.xml", some "path"⟩
    let n := (Document.ofTree (.document [.element "album" [] [.text "Zoot"]])).root
    let result := derived.extractIn [] source n
    derived.HooksKeepKeys ∧
    result.get? "name" = some (.text "Zoot") ∧ result.get? "title" = some (.bool true) ∧
    result.get? "rank" = some .nil ∧ result.get? "path" = none ∧
    result.keys.filter (source.key ≠ some ·) = ["name", "title", "rank"] := by
  intro here entry base middle derived source n result
  have hhooks : derived.HooksKeepKeys := by
    intro s hs hook hhook c hc
    have hmem : s ∈ [base, middle, derived] := hs
    simp only [List.mem_cons, List.not_mem_nil, or_false] at hmem
    rcases hmem with rfl | rfl | rfl
    · cases hhook
    · cases hhook
      exact Container.nodup_keys_insert hc "rank" .nil
    · cases hhook
      exact Container.nodup_keys_erase hc "path"
  obtain ⟨hvalue, hkeys, hpath⟩ := extractIn_lineage [] source n hhooks
  refine ⟨hhooks, (hvalue "name" (by decide)).trans rfl, (hvalue "title" (by decide)).trans rfl,
    (hvalue "rank" (by decide)).trans rfl, (hpath "path" rfl).trans rfl,
    hkeys.trans (by decide)⟩

end Specification

end MarkupRecords
