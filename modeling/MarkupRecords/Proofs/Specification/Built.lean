import MarkupRecords.Specification.Declaration

/-!
Specifications that have been built. `Specification.IsBuilt` holds of what `Specification.build`
gives for declarations in which every specification that is spliced, extended or nested has been
built as well. `Draft.Invariant` says once what declarations can do to a draft; what outlasts each
of these changes outlasts all declarations (`Draft.Invariant.declareAll`). So each entry of a
specification that has been built is well formed (`Specification.IsBuilt.wellFormed`): this is so
for an entry that is made from a target, and splicing takes over entries as they are.
-/

set_option autoImplicit false
set_option relaxedAutoImplicit false

namespace MarkupRecords

/-! ### Declarations that use other specifications -/

mutual

/-- The specifications that a declaration splices, extends or nests. -/
def Declaration.others : Declaration → List Specification
  | .within _ body | .many _ body => Declaration.othersAll body
  | .manyOf _ nested => [nested]
  | .splice other => [other]
  | .extend parent => [parent]
  | .scalar _ _ _ | .mode _ | .hook _ | .transform _ _ => []

/-- `Declaration.others` of each declaration. -/
def Declaration.othersAll : List Declaration → List Specification
  | [] => []
  | declaration :: rest => declaration.others ++ Declaration.othersAll rest

end

/-- The specification is what declarations describe that use only such specifications. -/
inductive Specification.IsBuilt : Specification → Prop
  | build {declarations : List Declaration} {spec : Specification}
      (hothers : ∀ other ∈ Declaration.othersAll declarations, other.IsBuilt)
      (hbuild : Specification.build declarations = .ok spec) : spec.IsBuilt

/-- What holds of an entry that has been declared. -/
structure Entry.WellFormed (e : Entry) : Prop where
  isValid_key : e.key.isValid = true
  nested_iff : e.nested?.isSome = true ↔ e.kind = .many
  attributeName : e.kind = .attribute → ∃ name, e.options.attributeName = some name ∧ name ≠ ""
  selector : ∃ source, Selector.ofText? source = .ok e.selector

theorem Selector.source_of_ofText? {source : String} {s : Selector} (h : ofText? source = .ok s) :
    s.source = source := by
  rw [ofText?] at h
  split at h
  · cases h
    rfl
  · cases h

theorem Entry.WellFormed.segments_ne_nil {e : Entry} (h : e.WellFormed) : e.key.segments ≠ [] := by
  intro hnil
  have hkey := h.isValid_key
  rw [OutputKey.isValid, hnil] at hkey
  exact absurd hkey (by simp)

/-- The source text of an entry's selector denotes the selector. -/
theorem Entry.WellFormed.ofText?_source {e : Entry} (h : e.WellFormed) :
    Selector.ofText? e.selector.source = .ok e.selector := by
  obtain ⟨source, hread⟩ := h.selector
  rw [Selector.source_of_ofText? hread, hread]

/-- The specification is one of the others, or a block describes it that uses only these. -/
def Specification.BuiltFrom (others : List Specification) (spec : Specification) : Prop :=
  spec ∈ others ∨ ∃ body, Specification.build body = .ok spec ∧
    ∀ other ∈ Declaration.othersAll body, other ∈ others

namespace Draft

/-! ### Sound targets -/

theorem mem_soundTargets_iff {kind : Kind} {targets : List Target} {t : Target} :
    t ∈ soundTargets kind targets ↔ t ∈ targets ∧ targetDefect? kind t = none := by
  rw [soundTargets, List.mem_filter, Option.isNone_iff_eq_none]

theorem targetDefect?_eq_none_iff {kind : Kind} {t : Target} :
    targetDefect? kind t = none ↔ t.key.isValid = true ∧
      (kind = .attribute → (splitAttribute t.selector).2 ≠ "") := by
  rw [targetDefect?]
  cases hkey : t.key.isValid with
  | false => simp
  | true => simp

/-! ### Invariants of drafts -/

/-- The property outlasts every change that declarations make to a draft, if these use only the
given specifications: an entry that is added is well formed, and its nested specification is built
from them. -/
structure Invariant (others : List Specification) (P : Draft → Prop) : Prop where
  defects : ∀ d defects, P d → P { d with defects }
  entry : ∀ d e, e.WellFormed → (∀ nested, e.nested? = some nested → nested.BuiltFrom others) →
    P d → P { d with entries := d.entries ++ [e] }
  splice : ∀ d, ∀ other ∈ others, P d →
    P { d with
      entries := d.entries ++ other.entries
      transforms := d.transforms.mergeMissing other.transforms }
  extend : ∀ d, ∀ parent ∈ others, P d → P { d with parent := some parent }
  mode : ∀ d mode, P d → P { d with mode }
  hook : ∀ d hook, P d → P { d with hook }
  transforms : ∀ d transforms, P d → P { d with transforms }

namespace Invariant

variable {others : List Specification} {P : Draft → Prop} {d : Draft}

theorem push (h : Invariant others P) (hd : P d) {kind : Kind} {selector : String} {key : OutputKey}
    {options : Options} {nested : Option Specification}
    (hentry : ∀ s, Selector.ofText? selector = .ok s →
      (Entry.mk kind s key options nested).WellFormed)
    (hnested : ∀ spec, nested = some spec → spec.BuiltFrom others) :
    P (d.push kind selector key options nested) := by
  rw [Draft.push]
  split
  · next s hs => exact h.entry d _ (hentry s hs) hnested hd
  · exact h.defects d _ hd

theorem pushScalar (h : Invariant others P) (hd : P d) (scopes : List String) {kind : Kind}
    (hkind : kind ≠ .many) (options : Options) {t : Target} (ht : targetDefect? kind t = none) :
    P (pushScalar scopes kind options d t) := by
  obtain ⟨hkey, hname⟩ := targetDefect?_eq_none_iff.mp ht
  rw [Draft.pushScalar]
  by_cases hattribute : kind = .attribute
  · rw [if_pos hattribute]
    refine h.push hd (fun s hs ↦ ?_) (by simp)
    exact ⟨hkey, iff_of_false Bool.false_ne_true hkind, fun _ ↦ ⟨_, rfl, hname hattribute⟩, _, hs⟩
  · rw [if_neg hattribute]
    refine h.push hd (fun s hs ↦ ?_) (by simp)
    exact ⟨hkey, iff_of_false Bool.false_ne_true hkind, fun hk ↦ absurd hk hattribute, _, hs⟩

theorem pushMany (h : Invariant others P) (hd : P d) (scopes : List String) {nested : Specification}
    (hnested : nested.BuiltFrom others) {t : Target} (ht : targetDefect? .many t = none) :
    P (pushMany scopes nested d t) := by
  obtain ⟨hkey, -⟩ := targetDefect?_eq_none_iff.mp ht
  rw [Draft.pushMany]
  split
  · exact h.defects d _ hd
  · refine h.push hd (fun s hs ↦ ?_) (fun spec hspec ↦ Option.some.inj hspec ▸ hnested)
    exact ⟨hkey, iff_of_true rfl rfl, (fun hk ↦ nomatch hk), _, hs⟩

theorem checkTargets (h : Invariant others P) (hd : P d) (kind : Kind) (targets : List Target) :
    P (d.checkTargets kind targets) := by
  rw [Draft.checkTargets]
  split
  · exact h.defects d _ hd
  · exact h.defects d _ hd

theorem foldl_soundTargets {push : Draft → Target → Draft} {kind : Kind}
    (hpush : ∀ {d : Draft} {t : Target}, P d → targetDefect? kind t = none → P (push d t))
    (hd : P d) (targets : List Target) : P ((soundTargets kind targets).foldl push d) :=
  List.foldlRecOn _ push hd fun _ hd _ ht ↦ hpush hd (mem_soundTargets_iff.mp ht).2

theorem declareScalar (h : Invariant others P) (hd : P d) (scopes : List String) (kind : Kind)
    (targets : List Target) (options : Options) :
    P (d.declareScalar scopes kind targets options) := by
  rw [Draft.declareScalar]
  by_cases hkind : kind = .many
  · rw [if_pos hkind]
    exact h.defects d _ hd
  · rw [if_neg hkind]
    exact foldl_soundTargets (P := P) (fun hd ht ↦ h.pushScalar hd scopes hkind options ht)
      (h.checkTargets hd kind targets) targets

theorem declareMany (h : Invariant others P) (hd : P d) (scopes : List String)
    (targets : List Target) {nested : Specification} (hnested : nested.BuiltFrom others) :
    P (d.declareMany scopes targets nested) :=
  foldl_soundTargets (P := P) (fun hd ht ↦ h.pushMany hd scopes hnested ht)
    (h.checkTargets hd .many targets) targets

mutual

theorem declare (h : Invariant others P) (scopes : List String) {d : Draft} (hd : P d) :
    ∀ declaration : Declaration, (∀ other ∈ declaration.others, other ∈ others) →
      P (declare scopes d declaration)
  | .scalar kind targets options, _ => by
    rw [Draft.declare]
    exact h.declareScalar hd scopes kind targets options
  | .within selector body, hothers => by
    rw [Declaration.others] at hothers
    rw [Draft.declare]
    split
    · exact h.defects d _ hd
    · exact declareAll h _ hd body hothers
  | .many targets body, hothers => by
    rw [Declaration.others] at hothers
    rw [Draft.declare]
    split
    · next hclean => exact h.declareMany hd scopes targets (.inr ⟨body, if_pos hclean, hothers⟩)
    · exact h.defects d _ hd
  | .manyOf targets nested, hothers => by
    rw [Declaration.others] at hothers
    rw [Draft.declare]
    exact h.declareMany hd scopes targets (.inl (List.forall_mem_singleton.mp hothers))
  | .splice other, hothers => by
    rw [Declaration.others] at hothers
    rw [Draft.declare]
    exact h.splice d other (List.forall_mem_singleton.mp hothers) hd
  | .extend parent, hothers => by
    rw [Declaration.others] at hothers
    rw [Draft.declare]
    exact h.extend d parent (List.forall_mem_singleton.mp hothers) hd
  | .mode mode, _ => by
    rw [Draft.declare]
    exact h.mode d mode hd
  | .hook hook, _ => by
    rw [Draft.declare]
    exact h.hook d (some hook) hd
  | .transform name f, _ => by
    rw [Draft.declare]
    exact h.transforms d _ hd

theorem declareAll (h : Invariant others P) (scopes : List String) {d : Draft} (hd : P d) :
    ∀ declarations : List Declaration,
      (∀ other ∈ Declaration.othersAll declarations, other ∈ others) →
        P (declareAll scopes d declarations)
  | [], _ => by
    rw [Draft.declareAll]
    exact hd
  | declaration :: rest, hothers => by
    rw [Declaration.othersAll] at hothers
    obtain ⟨hfirst, hrest⟩ := List.forall_mem_append.mp hothers
    rw [Draft.declareAll]
    exact declareAll h scopes (declare h scopes hd declaration hfirst) rest hrest

end

end Invariant

/-- All entries of the draft are well formed. -/
def Sound (d : Draft) : Prop := ∀ e ∈ d.entries, e.WellFormed

theorem invariant_sound {others : List Specification}
    (hothers : ∀ other ∈ others, ∀ e ∈ other.entries, e.WellFormed) : Invariant others Sound where
  defects _ _ hd := hd
  entry _ _ he _ hd := List.forall_mem_append.mpr ⟨hd, List.forall_mem_singleton.mpr he⟩
  splice _ other hother hd := List.forall_mem_append.mpr ⟨hd, hothers other hother⟩
  extend _ _ _ hd := hd
  mode _ _ hd := hd
  hook _ _ hd := hd
  transforms _ _ hd := hd

end Draft

namespace Specification

theorem build_eq_ok_iff {declarations : List Declaration} {spec : Specification} :
    build declarations = .ok spec ↔
      (Draft.declareAll [] { } declarations).defects = [] ∧
        (Draft.declareAll [] { } declarations).toSpecification = spec := by
  rw [build]
  by_cases hdefects : (Draft.declareAll [] { } declarations).defects = []
  · simp [hdefects]
  · simp [hdefects]

/-- An invariant of the empty draft holds of the draft that a specification comes from. -/
theorem exists_draft_of_build {declarations : List Declaration} {spec : Specification}
    (hbuild : build declarations = .ok spec) {P : Draft → Prop}
    (h : Draft.Invariant (Declaration.othersAll declarations) P) (hempty : P { }) :
    ∃ d, P d ∧ spec = d.toSpecification := by
  obtain ⟨-, rfl⟩ := build_eq_ok_iff.mp hbuild
  exact ⟨_, h.declareAll [] hempty declarations fun _ hother ↦ hother, rfl⟩

/-- Every entry of a specification that has been built is well formed. -/
theorem IsBuilt.wellFormed {spec : Specification} (h : spec.IsBuilt) :
    ∀ e ∈ spec.entries, e.WellFormed := by
  induction h with
  | @build declarations spec _ hbuild ih =>
    obtain ⟨d, hd, rfl⟩ := exists_draft_of_build hbuild (Draft.invariant_sound ih)
      (List.forall_mem_nil _)
    exact hd

end Specification

end MarkupRecords
