import MarkupRecords.Proofs.Extraction.Lexical
import MarkupRecords.Proofs.Specification.AbsoluteScope
import MarkupRecords.Proofs.Specification.Program

/-!
Whose transform a name gets. A specification that is being described registers transforms of its own
and takes over those of the specifications that are spliced into it. All of them end up in one
table, which does not say where they come from; `TransformTable.Favours` does. A registration
replaces what has the name (`TransformTable.Favours.register`), splicing only fills gaps
(`TransformTable.Favours.mergeMissing`), and no other declaration touches the table, so that along
any run the own transforms go before the spliced ones (`Draft.favours_declareAll`).
-/

set_option autoImplicit false
set_option relaxedAutoImplicit false

namespace MarkupRecords

/-! ### Tables -/

namespace TransformTable

theorem get?_empty (k : String) : empty.get? k = none := rfl

theorem get?_foldl_missing (entries : List (String × (Value → Value))) (t : TransformTable)
    (k : String) :
    (entries.foldl (fun t e ↦ if t.contains e.1 then t else t.register e.1 e.2) t).get? k =
      (t.get? k).or (entries.lookup k) := by
  induction entries generalizing t with
  | nil => rw [List.foldl_nil, List.lookup_nil, Option.or_none]
  | cons e rest ih =>
    obtain ⟨name, f⟩ := e
    rw [List.foldl_cons, ih, Container.lookup_cons_ite]
    by_cases hk : k = name
    · subst hk
      cases hget : t.get? k with
      | some g => simp [contains, hget]
      | none => simp [contains, hget, get?_register]
    · have hsame : (if t.contains name then t else t.register name f).get? k = t.get? k := by
        split_ifs
        · rfl
        · rw [get?_register, if_neg hk]
      rw [hsame, if_neg hk]

/-- Taking over the transforms of another table only fills gaps. -/
theorem get?_mergeMissing (t other : TransformTable) (k : String) :
    (t.mergeMissing other).get? k = (t.get? k).or (other.get? k) :=
  get?_foldl_missing other.entries t k

/-- The table has for a name what was registered for it last, and if nothing was, what the first of
the other specifications with the name has for it. -/
def Favours (t : TransformTable) (own : List (String × (Value → Value)))
    (others : List Specification) : Prop :=
  ∀ name, t.get? name =
    (own.reverse.lookup name).or (others.findSome? (·.transforms.get? name))

variable {t : TransformTable} {own : List (String × (Value → Value))} {others : List Specification}

theorem favours_empty : empty.Favours [] [] := get?_empty

theorem Favours.register (h : t.Favours own others) (name : String) (f : Value → Value) :
    (t.register name f).Favours (own ++ [(name, f)]) others := by
  intro k
  rw [get?_register, List.reverse_concat, Container.lookup_cons_ite, h k]
  split_ifs with hk
  · rfl
  · rfl

theorem Favours.mergeMissing (h : t.Favours own others) (other : Specification) :
    (t.mergeMissing other.transforms).Favours own (others ++ [other]) := by
  intro k
  rw [get?_mergeMissing, h k, List.findSome?_append, Option.or_assoc, List.findSome?_singleton]

/-- From the end, the last registration of a name is found first. -/
theorem lookup_reverse_eq_some {name : String} {f : Value → Value}
    {before after : List (String × (Value → Value))} (hafter : ∀ g, (name, g) ∉ after) :
    (before ++ (name, f) :: after).reverse.lookup name = some f := by
  refine List.lookup_eq_some_iff.mpr ⟨after.reverse, before.reverse, by simp, ?_⟩
  rintro ⟨k, g⟩ he
  rw [bne_iff_ne]
  rintro rfl
  exact hafter g (List.mem_reverse.mp he)

theorem lookup_reverse_eq_none_iff {name : String} :
    own.reverse.lookup name = none ↔ ∀ f, (name, f) ∉ own := by
  rw [List.lookup_eq_none_iff]
  constructor
  · intro h f hf
    exact bne_iff_ne.mp (h (name, f) (List.mem_reverse.mpr hf)) rfl
  · rintro h ⟨k, f⟩ he
    rw [bne_iff_ne]
    rintro rfl
    exact h f (List.mem_reverse.mp he)

theorem isSome_lookup_reverse_iff {name : String} :
    (own.reverse.lookup name).isSome = true ↔ ∃ f, (name, f) ∈ own := by
  rw [Option.isSome_iff_ne_none, Ne, lookup_reverse_eq_none_iff, not_forall_not]

end TransformTable

/-! ### What declarations do to the table -/

mutual

/-- The transforms that a declaration registers. What is registered in the block of an entry of kind
`many` belongs to the nested specification. -/
def Declaration.registered : Declaration → List (String × (Value → Value))
  | .within _ body => Declaration.registeredAll body
  | .transform name f => [(name, f)]
  | .scalar _ _ _ | .many _ _ | .manyOf _ _ | .splice _ | .extend _ | .mode _ | .hook _ => []

/-- `Declaration.registered` of each declaration. -/
def Declaration.registeredAll : List Declaration → List (String × (Value → Value))
  | [] => []
  | c :: rest => c.registered ++ Declaration.registeredAll rest

end

namespace Draft

theorem transforms_push (d : Draft) (kind : Kind) (selector : String) (key : OutputKey)
    (options : Options) (nested : Option Specification) :
    (d.push kind selector key options nested).transforms = d.transforms := by
  rw [push]
  split
  · rfl
  · rfl

theorem transforms_checkTargets (d : Draft) (kind : Kind) (targets : List Target) :
    (d.checkTargets kind targets).transforms = d.transforms := by
  rw [checkTargets]
  split_ifs
  · rfl
  · rfl

theorem transforms_declareTargets {push : Draft → Target → Draft}
    (hpush : ∀ d t, (push d t).transforms = d.transforms) (d : Draft) (kind : Kind)
    (targets : List Target) :
    ((soundTargets kind targets).foldl push (d.checkTargets kind targets)).transforms =
      d.transforms :=
  List.foldlRecOn (motive := fun d' ↦ d'.transforms = d.transforms) _ push
    (transforms_checkTargets d kind targets) fun d' hd' t _ ↦ (hpush d' t).trans hd'

theorem transforms_declareScalar (scopes : List String) (d : Draft) (kind : Kind)
    (targets : List Target) (options : Options) :
    (d.declareScalar scopes kind targets options).transforms = d.transforms := by
  rw [declareScalar]
  split_ifs
  · rfl
  · refine transforms_declareTargets (fun d t ↦ ?_) d kind targets
    rw [pushScalar_eq, transforms_push]

theorem transforms_declareMany (scopes : List String) (d : Draft) (targets : List Target)
    (nested : Specification) :
    (d.declareMany scopes targets nested).transforms = d.transforms := by
  refine transforms_declareTargets (fun d t ↦ ?_) d .many targets
  rw [pushMany]
  split_ifs
  · rfl
  · exact transforms_push _ _ _ _ _ _

/-- A block of an entry of kind `many` leaves the table outside as it is, whatever it holds. -/
theorem transforms_declare_many (scopes : List String) (d : Draft) (targets : List Target)
    (body : List Declaration) :
    (declare scopes d (.many targets body)).transforms = d.transforms := by
  rw [declare]
  split_ifs
  · exact transforms_declareMany scopes d targets _
  · rfl

open Declaration (registered registeredAll spliced splicedAll)

variable {own : List (String × (Value → Value))} {others : List Specification}

mutual

/-- A declaration without defects adds the transforms that it registers to the own ones, and what it
splices to the others. -/
theorem favours_declare : ∀ (c : Declaration) {scopes : List String} {d : Draft}
    {own : List (String × (Value → Value))} {others : List Specification},
    c.defects scopes = [] → d.transforms.Favours own others →
      (declare scopes d c).transforms.Favours (own ++ c.registered) (others ++ c.spliced)
  | .scalar kind targets options, scopes, d, own, others, _, h => by
    rw [declare, transforms_declareScalar, registered, spliced, List.append_nil, List.append_nil]
    exact h
  | .within selector body, scopes, d, own, others, hdefects, h => by
    rw [Declaration.defects] at hdefects
    split_ifs at hdefects with hselector
    rw [declare, if_neg hselector, registered, spliced]
    exact favours_declareAll body hdefects h
  | .many targets body, scopes, d, own, others, _, h => by
    rw [transforms_declare_many, registered, spliced, List.append_nil, List.append_nil]
    exact h
  | .manyOf targets nested, scopes, d, own, others, _, h => by
    rw [declare, transforms_declareMany, registered, spliced, List.append_nil, List.append_nil]
    exact h
  | .splice other, scopes, d, own, others, _, h => by
    rw [declare, registered, spliced, List.append_nil]
    exact h.mergeMissing other
  | .transform name f, scopes, d, own, others, _, h => by
    rw [declare, registered, spliced, List.append_nil]
    exact h.register name f
  | .extend _, scopes, d, own, others, _, h | .mode _, scopes, d, own, others, _, h
  | .hook _, scopes, d, own, others, _, h => by
    rw [declare, registered, spliced, List.append_nil, List.append_nil]
    exact h

theorem favours_declareAll : ∀ (cs : List Declaration) {scopes : List String} {d : Draft}
    {own : List (String × (Value → Value))} {others : List Specification},
    Declaration.defectsAll scopes cs = [] → d.transforms.Favours own others →
      (declareAll scopes d cs).transforms.Favours (own ++ registeredAll cs)
        (others ++ splicedAll cs)
  | [], scopes, d, own, others, _, h => by
    rw [declareAll, registeredAll, splicedAll, List.append_nil, List.append_nil]
    exact h
  | c :: rest, scopes, d, own, others, hdefects, h => by
    rw [Declaration.defectsAll, List.append_eq_nil_iff] at hdefects
    rw [declareAll, registeredAll, splicedAll, ← List.append_assoc, ← List.append_assoc]
    exact favours_declareAll rest hdefects.2 (favours_declare c hdefects.1 h)

end

end Draft

/-! ### What is spliced stays as it is -/

namespace Declaration

mutual

/-- The entries of a specification that is spliced stand together in their order. -/
theorem infix_of_yields : ∀ (c : Declaration) {scopes : List String} {es : List Entry},
    Yields scopes c es → ∀ other ∈ c.spliced, other.entries <:+: es
  | .within selector body, scopes, es, h, other, hother => by
    cases h with
    | within h => exact infix_of_yieldAll body h other hother
  | .splice spec, scopes, es, h, other, hother => by
    cases h with
    | splice => rw [List.mem_singleton.mp hother]
  | .scalar _ _ _, _, _, _, _, hother | .many _ _, _, _, _, _, hother
  | .manyOf _ _, _, _, _, _, hother | .extend _, _, _, _, _, hother
  | .mode _, _, _, _, _, hother | .hook _, _, _, _, _, hother
  | .transform _ _, _, _, _, _, hother => by
    cases hother

theorem infix_of_yieldAll : ∀ (cs : List Declaration) {scopes : List String} {es : List Entry},
    YieldAll scopes cs es → ∀ other ∈ splicedAll cs, other.entries <:+: es
  | [], _, _, _, _, hother => by
    cases hother
  | c :: rest, scopes, es, h, other, hother => by
    cases h with
    | cons hc hrest =>
      rcases List.mem_append.mp hother with hother | hother
      · exact (infix_of_yields c hc other hother).trans (List.prefix_append _ _).isInfix
      · exact (infix_of_yieldAll rest hrest other hother).trans (List.suffix_append _ _).isInfix

end

end Declaration

/-! ### Tables of specifications -/

namespace Specification

open Declaration (registeredAll splicedAll)

theorem favours_of_build {program : List Declaration} {spec : Specification}
    (hbuild : build program = .ok spec) :
    spec.transforms.Favours (registeredAll program) (splicedAll program) := by
  obtain ⟨hclean, rfl⟩ := build_eq_ok_iff_defectsAll.mp hbuild
  have hempty : ({ } : Draft).transforms.Favours [] [] := TransformTable.favours_empty
  exact Draft.favours_declareAll program hclean hempty

/-- A specification has a transform under a name if it has registered one, or if one of the
specifications that are spliced into it has one: its own last one if there is any, wherever the
splicing was declared, and otherwise that of the first spliced specification with the name. What is
spliced comes out with its entries as they were, and a block of an entry of kind `many` adds nothing
to the table outside. -/
theorem transforms_of_build {program : List Declaration} {spec : Specification}
    (hbuild : build program = .ok spec) :
    (∀ name, spec.transforms.contains name = true ↔
      (∃ f, (name, f) ∈ registeredAll program) ∨
        ∃ other ∈ splicedAll program, other.transforms.contains name = true) ∧
    (∀ name f before after, registeredAll program = before ++ (name, f) :: after →
      (∀ g, (name, g) ∉ after) → spec.transforms.get? name = some f) ∧
    (∀ name f before other after, (∀ g, (name, g) ∉ registeredAll program) →
      splicedAll program = before ++ other :: after →
      (∀ s ∈ before, s.transforms.contains name = false) →
      other.transforms.get? name = some f → spec.transforms.get? name = some f) ∧
    (∀ program' spec', build program' = .ok spec' →
      registeredAll program' = registeredAll program → splicedAll program' = splicedAll program →
      ∀ name, spec'.transforms.get? name = spec.transforms.get? name) ∧
    (∀ other ∈ splicedAll program, other.entries <:+: spec.entries) ∧
    ∀ (scopes : List String) (d : Draft) (targets : List Target) (body : List Declaration),
      (Draft.declare scopes d (.many targets body)).transforms = d.transforms := by
  have hfavours := favours_of_build hbuild
  refine ⟨fun name ↦ ?_, fun name f before after hown hafter ↦ ?_,
    fun name f before other after hown hothers hbefore hother ↦ ?_,
    fun program' spec' hbuild' hregistered hspliced name ↦ ?_,
    Declaration.infix_of_yieldAll program (yieldAll_of_build hbuild),
    Draft.transforms_declare_many⟩
  · rw [TransformTable.contains, hfavours name, Option.isSome_or, Bool.or_eq_true,
      TransformTable.isSome_lookup_reverse_iff, List.findSome?_isSome_iff]
    rfl
  · rw [hfavours name, hown, TransformTable.lookup_reverse_eq_some hafter, Option.some_or]
  · have hfirst : before.findSome? (·.transforms.get? name) = none :=
      List.findSome?_eq_none_iff.mpr fun s hs ↦ Option.not_isSome_iff_eq_none.mp
        (Bool.eq_false_iff.mp (hbefore s hs))
    rw [hfavours name, TransformTable.lookup_reverse_eq_none_iff.mpr hown, Option.none_or, hothers,
      List.findSome?_append, hfirst, Option.none_or, List.findSome?_cons, hother]
  · rw [favours_of_build hbuild' name, hfavours name, hregistered, hspliced]

theorem transforms_of_build_marks :
    let mark (text : String) : Value → Value := fun _ ↦ .text text
    let table (names : List String) (text : String) : TransformTable :=
      names.foldl (fun t name ↦ t.register name (mark text)) .empty
    let first : Specification := ⟨[], none, .search, none, table ["a", "b"] "first"⟩
    let second : Specification := ⟨[], none, .search, none, table ["b", "c"] "second"⟩
    let program : List Declaration :=
      [.transform "a" (mark "early"), .within "disc" [.splice first, .transform "a" (mark "late")],
        .splice second]
    let program' : List Declaration :=
      [.splice first, .splice second, .transform "a" (mark "early"), .transform "a" (mark "late")]
    ∃ spec spec', build program = .ok spec ∧ build program' = .ok spec' ∧
      spec.transforms.get? "a" = some (mark "late") ∧
      spec.transforms.get? "b" = some (mark "first") ∧ spec.transforms.contains "c" = true ∧
      spec'.transforms.get? "a" = spec.transforms.get? "a" := by
  intro mark table first second program program'
  have hblank : Text.isBlankText "disc" = false := by decide +kernel
  have hspec : build program = .ok (Draft.declareAll [] { } program).toSpecification := by
    refine build_eq_ok_iff.mpr ⟨?_, rfl⟩
    simp [program, Draft.declareAll, Draft.declare, hblank]
  have hspec' : build program' = .ok (Draft.declareAll [] { } program').toSpecification := rfl
  obtain ⟨hcontains, hown, hother, horder, -, -⟩ := transforms_of_build hspec
  refine ⟨_, _, hspec, hspec', ?_, ?_, ?_, horder _ _ hspec' rfl rfl "a"⟩
  · exact hown "a" _ [("a", mark "early")] [] rfl (by simp)
  · refine hother "b" _ [] first [second] (fun g ↦ ?_) rfl (by simp) rfl
    simp [program, registeredAll, Declaration.registered]
  · have hmem : second ∈ splicedAll program := by
      simp [program, splicedAll, Declaration.spliced]
    exact (hcontains "c").mpr (.inr ⟨second, hmem, rfl⟩)

end Specification

end MarkupRecords
