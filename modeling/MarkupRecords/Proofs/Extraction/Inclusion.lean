import MarkupRecords.Proofs.Extraction.Entries
import MarkupRecords.Proofs.Extraction.Source
import MarkupRecords.Proofs.Value.Overlay

/-!
Extending a specification and splicing it. The two go different ways: a parent is extracted by
itself and the own container is merged over its own, while spliced entries fill one container
together with those that are declared after them. On flat keys they agree, down to the order of the
keys (`Specification.extract_extend_eq_splice`).

On the side of the declarations, the two drafts stay alongside each other (`Draft.Alongside`): they
differ only in the entries that one has in front, and in the parent that the other one has in their
place.
-/

set_option autoImplicit false
set_option relaxedAutoImplicit false

namespace MarkupRecords

/-! ### Drafts alongside each other -/

namespace Draft

/-- The second draft has the entries of a specification in front of those of the first one, which
may have the specification as its parent instead. In all else they are the same. -/
structure Alongside (base : Specification) (d d' : Draft) : Prop where
  entries : d'.entries = base.entries ++ d.entries
  hook : d'.hook = d.hook
  mode : d'.mode = d.mode
  parent : d'.parent = d.parent ∨ d.parent = some base ∧ d'.parent = none
  transforms : d'.transforms = d.transforms
  defects : d'.defects = d.defects

namespace Alongside

variable {base : Specification} {d d' : Draft}

theorem fail (h : Alongside base d d') (defect : Defect) :
    Alongside base (d.fail defect) (d'.fail defect) :=
  { h with defects := congrArg (· ++ [defect]) h.defects }

theorem push (h : Alongside base d d') (kind : Kind) (selector : String) (key : OutputKey)
    (options : Options) (nested : Option Specification) :
    Alongside base (d.push kind selector key options nested)
      (d'.push kind selector key options nested) := by
  rw [Draft.push, Draft.push]
  split
  · refine { h with entries := ?_ }
    dsimp only
    rw [h.entries, List.append_assoc]
  · exact h.fail _

theorem pushScalar (h : Alongside base d d') (scopes : List String) (kind : Kind)
    (options : Options) (t : Target) :
    Alongside base (pushScalar scopes kind options d t) (pushScalar scopes kind options d' t) := by
  rw [Draft.pushScalar, Draft.pushScalar]
  split_ifs
  · exact h.push _ _ _ _ _
  · exact h.push _ _ _ _ _

theorem pushMany (h : Alongside base d d') (scopes : List String) (nested : Specification)
    (t : Target) : Alongside base (pushMany scopes nested d t) (pushMany scopes nested d' t) := by
  rw [Draft.pushMany, Draft.pushMany]
  split_ifs
  · exact h.fail _
  · exact h.push _ _ _ _ _

theorem checkTargets (h : Alongside base d d') (kind : Kind) (targets : List Target) :
    Alongside base (d.checkTargets kind targets) (d'.checkTargets kind targets) := by
  rw [Draft.checkTargets, Draft.checkTargets]
  split_ifs
  · exact h.fail _
  · exact { h with defects := congrArg (· ++ _) h.defects }

theorem foldl {push : Draft → Target → Draft}
    (hpush : ∀ {d d' : Draft}, Alongside base d d' → ∀ t, Alongside base (push d t) (push d' t))
    (h : Alongside base d d') (targets : List Target) :
    Alongside base (targets.foldl push d) (targets.foldl push d') := by
  induction targets generalizing d d' with
  | nil => exact h
  | cons t targets ih => exact ih (hpush h t)

theorem declareMany (h : Alongside base d d') (scopes : List String) (targets : List Target)
    (nested : Specification) :
    Alongside base (d.declareMany scopes targets nested) (d'.declareMany scopes targets nested) :=
  foldl (fun h t ↦ h.pushMany scopes nested t) (h.checkTargets .many targets) _

mutual

/-- A declaration does the same to both drafts. -/
theorem declare : ∀ (c : Declaration) (scopes : List String) {d d' : Draft},
    Alongside base d d' → Alongside base (declare scopes d c) (declare scopes d' c)
  | .scalar kind targets options, scopes, d, d', h => by
    rw [Draft.declare, Draft.declare, declareScalar, declareScalar]
    split_ifs
    · exact h.fail _
    · exact foldl (fun h t ↦ h.pushScalar scopes kind options t) (h.checkTargets kind targets) _
  | .within selector body, scopes, d, d', h => by
    rw [Draft.declare, Draft.declare]
    split_ifs
    · exact h.fail _
    · exact declareAll body _ h
  | .many targets body, scopes, d, d', h => by
    rw [Draft.declare, Draft.declare]
    split_ifs
    · exact h.declareMany scopes targets _
    · exact { h with defects := congrArg (· ++ _) h.defects }
  | .manyOf targets nested, scopes, d, d', h => by
    rw [Draft.declare, Draft.declare]
    exact h.declareMany scopes targets nested
  | .splice other, _, d, d', h => by
    rw [Draft.declare, Draft.declare]
    refine { h with entries := ?_, transforms := ?_ }
    · dsimp only
      rw [h.entries, List.append_assoc]
    · dsimp only
      rw [h.transforms]
  | .extend parent, _, d, d', h => by
    rw [Draft.declare, Draft.declare]
    exact { h with parent := .inl rfl }
  | .mode mode, _, d, d', h => by
    rw [Draft.declare, Draft.declare]
    exact { h with mode := rfl }
  | .hook hook, _, d, d', h => by
    rw [Draft.declare, Draft.declare]
    exact { h with hook := rfl }
  | .transform name f, _, d, d', h => by
    rw [Draft.declare, Draft.declare]
    exact { h with transforms := congrArg (·.register name f) h.transforms }

theorem declareAll : ∀ (cs : List Declaration) (scopes : List String) {d d' : Draft},
    Alongside base d d' → Alongside base (declareAll scopes d cs) (declareAll scopes d' cs)
  | [], scopes, d, d', h => by
    rw [Draft.declareAll, Draft.declareAll]
    exact h
  | c :: rest, scopes, d, d', h => by
    rw [Draft.declareAll, Draft.declareAll]
    exact declareAll rest scopes (declare c scopes h)

end

end Alongside

/-- The drafts are alongside each other at the start, if there are no transforms to take over. -/
theorem alongside_extend_splice {base : Specification} (h : base.transforms.isEmpty = true) :
    Alongside base (declare [] { } (.extend base)) (declare [] { } (.splice base)) := by
  rw [declare, declare]
  refine ⟨by simp, rfl, rfl, .inr ⟨rfl, rfl⟩, ?_, rfl⟩
  dsimp only
  rw [TransformTable.mergeMissing, List.isEmpty_iff.mp h]
  rfl

end Draft

/-! ### Extractions -/

namespace Specification

/-- The values of entries are the same in a table without transforms as in another one. -/
theorem map_item_of_isEmpty {t t' : TransformTable} (ht : t.isEmpty = true)
    (ht' : t'.isEmpty = true) (entries : List Entry) (mode : Selector.Mode)
    (outer : List TransformTable) (source : Source) (n : Node) :
    (entries.map fun e ↦ e.item mode (t :: outer) source n) =
      entries.map fun e ↦ e.item mode (t' :: outer) source n := by
  have hagree : TransformTable.Agree (t :: outer) (t' :: outer) := fun name ↦
    (TransformTable.agree_cons_of_isEmpty ht outer name).trans
      (TransformTable.agree_cons_of_isEmpty ht' outer name).symm
  exact Entry.map_item_congr fun e _ ↦ e.value_congr hagree mode source n

/-- The specification has no hook and no transforms of its own, and its entries go under single
keys. -/
structure Flat (spec : Specification) : Prop where
  hook : spec.hook? = none
  transforms : spec.transforms.isEmpty = true
  keys : ∀ e ∈ spec.entries, e.key.segments.length = 1

theorem Flat.forall_mem_items {spec : Specification} (h : spec.Flat) (mode : Selector.Mode)
    (tables : List TransformTable) (source : Source) (n : Node) :
    ∀ item ∈ spec.entries.map fun e ↦ e.item mode tables source n, item.1.length = 1 := by
  intro item hitem
  obtain ⟨e, he, rfl⟩ := List.mem_map.mp hitem
  exact h.keys e he

section Flat

variable {base child included : Specification} {source : Source}

/-- A child that extends a base yields what the specification does that has the entries of both,
whether this one extends the base as well or nothing at all. -/
theorem extractIn_of_append (hbase : base.Flat) (horphan : base.parent? = none)
    (hchild : child.Flat) (hextends : child.parent? = some base) (hmode : child.mode = base.mode)
    (hincluded : included.Flat) (hentries : included.entries = base.entries ++ child.entries)
    (hincludedMode : included.mode = child.mode)
    (hparent : included.parent? = none ∨ included.parent? = some base) (hkey : source.key = none)
    (outer : List TransformTable) (n : Node) :
    child.extractIn outer source n = included.extractIn outer source n := by
  let start := Container.ofSource source.path none
  let front := base.entries.map fun e ↦ e.item base.mode (base.transforms :: outer) source n
  let back := child.entries.map fun e ↦ e.item child.mode (child.transforms :: outer) source n
  have hstart : start.keys.Nodup := List.nodup_nil
  have hfront : ∀ item ∈ front, item.1.length = 1 := hbase.forall_mem_items _ _ _ _
  have hback : ∀ item ∈ back, item.1.length = 1 := hchild.forall_mem_items _ _ _ _
  have hinherited : base.extractIn outer source n = start.fill front :=
    extractIn_eq_fill hbase.hook horphan hkey outer n
  have hown : included.ownPass outer source n = start.fill (front ++ back) := by
    rw [ownPass_eq_fill hincluded.hook hkey, hentries, List.map_append, hincludedMode,
      map_item_of_isEmpty hincluded.transforms hchild.transforms child.entries, hmode,
      map_item_of_isEmpty hincluded.transforms hbase.transforms base.entries]
    simp only [front, back, hmode, start]
  have hmerge : child.extractIn outer source n = (start.fill front).fill back := by
    rw [extractIn_of_parent?_eq_some outer source n hextends, Source.forget_of_key_eq_none hkey,
      hinherited, ownPass_eq_fill hchild.hook hkey]
    exact Container.merge_fill (start.fill front) hstart hback
  rw [hmerge]
  rcases hparent with hparent | hparent
  · rw [extractIn_of_parent?_eq_none outer source n hparent, hown, Container.fill_append]
  · have hagain : (start.fill front).fill front = start.fill front := by
      have hself := Container.merge_self (Container.nodup_keys_fill hstart front)
      rwa [Container.merge_fill (start.fill front) hstart hfront] at hself
    have hflat : ∀ item ∈ front ++ back, item.1.length = 1 :=
      List.forall_mem_append.mpr ⟨hfront, hback⟩
    rw [extractIn_of_parent?_eq_some outer source n hparent, Source.forget_of_key_eq_none hkey,
      hinherited, hown, Container.merge_fill (start.fill front) hstart hflat,
      Container.fill_append]
    exact congrArg (·.fill back) hagain.symm

end Flat

/-- On flat keys it makes no difference whether a specification is extended or spliced in front of
further declarations, as long as neither has a hook or registers transforms and they select in the
same mode: from every node the same container is extracted. -/
theorem extract_extend_eq_splice {base child : Specification} {more : List Declaration}
    (hbase : base.Flat) (horphan : base.parent? = none)
    (hbuild : build (.extend base :: more) = .ok child) (hchild : child.Flat)
    (hextends : child.parent? = some base) (hmode : child.mode = base.mode) :
    ∃ included, build (.splice base :: more) = .ok included ∧
      included.entries = base.entries ++ child.entries ∧
      ∀ n : Node, child.extract n = included.extract n := by
  obtain ⟨hdefects, rfl⟩ := build_eq_ok_iff.mp hbuild
  rw [Draft.declareAll] at hdefects hchild hextends hmode ⊢
  have halongside := (Draft.alongside_extend_splice hbase.transforms).declareAll more []
  set d := Draft.declareAll [] (Draft.declare [] { } (.extend base)) more
  set d' := Draft.declareAll [] (Draft.declare [] { } (.splice base)) more with hd'
  have hincluded : build (.splice base :: more) = .ok d'.toSpecification := by
    refine build_eq_ok_iff.mpr ⟨?_, ?_⟩
    · rw [Draft.declareAll, ← hd', halongside.defects, hdefects]
    · rw [Draft.declareAll]
  have hentries : d'.toSpecification.entries = base.entries ++ d.toSpecification.entries :=
    halongside.entries
  have hflat : d'.toSpecification.Flat := by
    refine ⟨halongside.hook.trans hchild.hook, ?_, ?_⟩
    · exact (congrArg TransformTable.isEmpty halongside.transforms).trans hchild.transforms
    · rw [hentries]
      exact List.forall_mem_append.mpr ⟨hbase.keys, hchild.keys⟩
  have hparent : d'.parent = none ∨ d'.parent = some base := by
    rcases halongside.parent with hparent | ⟨-, hparent⟩
    · exact .inr (hparent.trans hextends)
    · exact .inl hparent
  exact ⟨_, hincluded, hentries, fun n ↦ extractIn_of_append hbase horphan hchild hextends hmode
    hflat hentries halongside.mode hparent rfl [] n⟩

theorem extract_extend_eq_splice_album :
    let here : Selector := ⟨"", ⟨false, false, []⟩⟩
    let entry (kind : Kind) (key : String) : Entry := ⟨kind, here, ⟨[key]⟩, { }, none⟩
    let base : Specification :=
      ⟨[entry .nodeName "title", entry .innerText "name", entry .innerText "title"], none, .search,
        none, .empty⟩
    let more : List Declaration := [.scalar .exists [⟨"", ⟨["found"]⟩⟩, ⟨"", ⟨["title"]⟩⟩] { },
      .scalar .notExists [⟨"", ⟨["found"]⟩⟩] { }]
    let n := (Document.ofTree (.document [.element "album" [] [.text "Zoot"]])).root
    ∃ child included, build (.extend base :: more) = .ok child ∧
      build (.splice base :: more) = .ok included ∧ child.extract n = included.extract n ∧
      (child.extract n).keys = ["title", "name", "found"] := by
  intro here entry base more n
  let child : Specification :=
    ⟨[entry .exists "found", entry .exists "title", entry .notExists "found"], none, .search,
      some base, .empty⟩
  have hbuild : build (.extend base :: more) = .ok child := rfl
  have hbase : base.Flat := ⟨rfl, rfl, by decide⟩
  have hchild : child.Flat := ⟨rfl, rfl, by decide⟩
  obtain ⟨included, hincluded, -, hextract⟩ :=
    extract_extend_eq_splice hbase rfl hbuild hchild rfl rfl
  exact ⟨child, included, hbuild, hincluded, hextract n, rfl⟩

end Specification

end MarkupRecords
