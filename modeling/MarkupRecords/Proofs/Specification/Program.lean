import MarkupRecords.Error
import MarkupRecords.Proofs.Specification.Targets

/-!
What declarations denote. A tree of declarations is a program, and `Specification.build` runs it:
`Declaration.Executes` says which calls the run comes to, and under which scopes. The scopes of a
call are the selectors of the `within` blocks around it inside the same `many` block.

A draft goes from call to call, but what a call adds to it depends on the call and on its scopes
alone: its defects (`Declaration.defects`, `Draft.defects_declareAll`) and, if there is none, its
entries (`Declaration.Yields`, `Draft.exists_entries_declareAll`). Since there is no defect if and
only if no call that is executed is defective (`Declaration.defectsAll_eq_nil_iff`), a specification
denotes its program (`Specification.build_denotes`).
-/

set_option autoImplicit false
set_option relaxedAutoImplicit false

namespace MarkupRecords

namespace Declaration

/-! ### Calls that are executed -/

/-- Running the declaration under scopes runs the call under the scopes `inner`. A block with a
blank scope is not run, and the block of an entry of kind `many` is run without scopes. -/
inductive Executes : List String → Declaration → List String → Declaration → Prop
  | self (scopes : List String) (call : Declaration) : Executes scopes call scopes call
  | within {scopes inner : List String} {selector : String} {body : List Declaration}
    {c call : Declaration} (hselector : Text.isBlankText selector = false) (hc : c ∈ body)
    (h : Executes (scopes ++ [selector]) c inner call) :
    Executes scopes (.within selector body) inner call
  | many {scopes inner : List String} {targets : List Target} {body : List Declaration}
    {c call : Declaration} (hc : c ∈ body) (h : Executes [] c inner call) :
    Executes scopes (.many targets body) inner call

/-- The call is wrong by itself, whatever its block holds. -/
def Defective (scopes : List String) : Declaration → Prop
  | .scalar kind targets _ => kind = .many ∨ targets = [] ∨ ∃ t ∈ targets, t.Fails scopes kind
  | .within selector _ => Text.isBlankText selector = true
  | .many targets _ | .manyOf targets _ => targets = [] ∨ ∃ t ∈ targets, t.Fails scopes .many
  | .splice _ | .extend _ | .mode _ | .hook _ | .transform _ _ => False

/-- No call that running the declaration under the scopes comes to is defective. -/
def Clean (scopes : List String) (c : Declaration) : Prop :=
  ∀ inner call, Executes scopes c inner call → ¬ call.Defective inner

/-! ### Defects -/

mutual

/-- What is wrong with a declaration under scopes. -/
def defects (scopes : List String) : Declaration → List Defect
  | .scalar kind targets _ =>
    if kind = .many then [.noNested] else Draft.targetsDefects scopes kind targets
  | .within selector body =>
    if Text.isBlankText selector then [.blankScope] else defectsAll (scopes ++ [selector]) body
  | .many targets body =>
    if (defectsAll [] body).isEmpty then Draft.targetsDefects scopes .many targets
    else (defectsAll [] body).map .inMany
  | .manyOf targets _ => Draft.targetsDefects scopes .many targets
  | .splice _ | .extend _ | .mode _ | .hook _ | .transform _ _ => []

/-- What is wrong with declarations, from first to last. -/
def defectsAll (scopes : List String) : List Declaration → List Defect
  | [] => []
  | c :: rest => defects scopes c ++ defectsAll scopes rest

end

/-! ### Entries -/

mutual

/-- The entries that a declaration under scopes stands for. -/
inductive Yields : List String → Declaration → List Entry → Prop
  | scalar {scopes : List String} {kind : Kind} {targets : List Target} {options : Options}
    {es : List Entry} (h : List.Forall₂ (Entry.IsFor scopes kind options none) targets es) :
    Yields scopes (.scalar kind targets options) es
  | within {scopes : List String} {selector : String} {body : List Declaration} {es : List Entry}
    (h : YieldAll (scopes ++ [selector]) body es) : Yields scopes (.within selector body) es
  | many {scopes : List String} {targets : List Target} {body : List Declaration}
    {nested : Specification} {es : List Entry} (hnested : Specification.build body = .ok nested)
    (h : List.Forall₂ (Entry.IsFor scopes .many { } (some nested)) targets es) :
    Yields scopes (.many targets body) es
  | manyOf {scopes : List String} {targets : List Target} {nested : Specification}
    {es : List Entry}
    (h : List.Forall₂ (Entry.IsFor scopes .many { } (some nested)) targets es) :
    Yields scopes (.manyOf targets nested) es
  | splice (scopes : List String) (other : Specification) :
    Yields scopes (.splice other) other.entries
  | extend (scopes : List String) (parent : Specification) : Yields scopes (.extend parent) []
  | mode (scopes : List String) (mode : Selector.Mode) : Yields scopes (.mode mode) []
  | hook (scopes : List String) (hook : Hook) : Yields scopes (.hook hook) []
  | transform (scopes : List String) (name : String) (f : Value → Value) :
    Yields scopes (.transform name f) []

/-- The entries that declarations stand for, in the order of the declarations. -/
inductive YieldAll : List String → List Declaration → List Entry → Prop
  | nil (scopes : List String) : YieldAll scopes [] []
  | cons {scopes : List String} {c : Declaration} {rest : List Declaration} {es more : List Entry}
    (hc : Yields scopes c es) (hrest : YieldAll scopes rest more) :
    YieldAll scopes (c :: rest) (es ++ more)

end

/-! ### Clean declarations have no defects -/

section Clean

variable {scopes : List String} {targets : List Target} {body : List Declaration}

/-- Without a block there is no other call to come to. -/
theorem clean_iff_of_self {c : Declaration}
    (hself : ∀ inner call, Executes scopes c inner call → inner = scopes ∧ call = c) :
    Clean scopes c ↔ ¬ c.Defective scopes := by
  constructor
  · intro h
    exact h scopes c (.self scopes c)
  · intro h inner call hcall
    obtain ⟨rfl, rfl⟩ := hself inner call hcall
    exact h

theorem clean_within_iff {selector : String} : Clean scopes (.within selector body) ↔
    Text.isBlankText selector = false ∧ ∀ c ∈ body, Clean (scopes ++ [selector]) c := by
  constructor
  · intro h
    have hselector : Text.isBlankText selector = false :=
      Bool.eq_false_iff.mpr (h scopes _ (.self scopes _))
    exact ⟨hselector, fun c hc inner call hcall ↦ h inner call (.within hselector hc hcall)⟩
  · rintro ⟨hselector, hbody⟩ inner call hcall
    cases hcall with
    | self => exact Bool.eq_false_iff.mp hselector
    | within _ hc h => exact hbody _ hc inner call h

theorem clean_many_iff : Clean scopes (.many targets body) ↔
    ¬ Defective scopes (.many targets body) ∧ ∀ c ∈ body, Clean [] c := by
  constructor
  · intro h
    exact ⟨h scopes _ (.self scopes _), fun c hc inner call hcall ↦ h inner call (.many hc hcall)⟩
  · rintro ⟨hself, hbody⟩ inner call hcall
    cases hcall with
    | self => exact hself
    | many hc h => exact hbody _ hc inner call h

theorem targetsDefects_eq_nil_iff_not_defective {kind : Kind} :
    Draft.targetsDefects scopes kind targets = [] ↔
      ¬ (targets = [] ∨ ∃ t ∈ targets, t.Fails scopes kind) := by
  rw [Draft.targetsDefects_eq_nil_iff]
  simp

mutual

/-- A declaration has no defects if and only if no call that it runs is defective. -/
theorem defects_eq_nil_iff : ∀ (c : Declaration) {scopes : List String},
    defects scopes c = [] ↔ Clean scopes c
  | .scalar kind targets options, scopes => by
    rw [clean_iff_of_self (by rintro _ _ ⟨⟩; exact ⟨rfl, rfl⟩), defects, Defective, not_or,
      ← targetsDefects_eq_nil_iff_not_defective]
    split_ifs with hkind
    · simp [hkind]
    · simp [hkind]
  | .within selector body, scopes => by
    rw [clean_within_iff, defects]
    cases hselector : Text.isBlankText selector with
    | true => simp
    | false => simpa using defectsAll_eq_nil_iff body
  | .many targets body, scopes => by
    rw [clean_many_iff, ← defectsAll_eq_nil_iff body, defects, Defective,
      ← targetsDefects_eq_nil_iff_not_defective]
    cases hbody : defectsAll [] body with
    | nil => simp
    | cons => simp
  | .manyOf targets nested, scopes => by
    rw [clean_iff_of_self (by rintro _ _ ⟨⟩; exact ⟨rfl, rfl⟩), defects, Defective,
      ← targetsDefects_eq_nil_iff_not_defective]
  | .splice _, scopes | .extend _, scopes | .mode _, scopes | .hook _, scopes
  | .transform _ _, scopes => by
    rw [clean_iff_of_self (by rintro _ _ ⟨⟩; exact ⟨rfl, rfl⟩), defects]
    exact iff_of_true rfl id

theorem defectsAll_eq_nil_iff : ∀ (cs : List Declaration) {scopes : List String},
    defectsAll scopes cs = [] ↔ ∀ c ∈ cs, Clean scopes c
  | [], scopes => by
    rw [defectsAll]
    exact iff_of_true rfl (List.forall_mem_nil _)
  | c :: rest, scopes => by
    rw [defectsAll, List.append_eq_nil_iff, List.forall_mem_cons, defects_eq_nil_iff c,
      defectsAll_eq_nil_iff rest]

end

end Clean

end Declaration

/-! ### Runs -/

namespace Draft

open Declaration (defectsAll)

mutual

/-- What a declaration adds to the defects does not depend on what comes before it. -/
theorem defects_declare : ∀ (c : Declaration) (scopes : List String) (d : Draft),
    (declare scopes d c).defects = d.defects ++ c.defects scopes
  | .scalar kind targets options, scopes, d => by
    rw [declare, declareScalar, Declaration.defects]
    split_ifs with hkind
    · rfl
    · exact defects_declareTargets (pushes_pushScalar scopes hkind options) d targets
  | .within selector body, scopes, d => by
    rw [declare, Declaration.defects]
    split_ifs
    · rfl
    · exact defects_declareAll body _ d
  | .many targets body, scopes, d => by
    have hbody : (declareAll [] { } body).defects = defectsAll [] body := by
      rw [defects_declareAll body]
      rfl
    rw [declare, Declaration.defects, ← hbody]
    split_ifs
    · exact defects_declareTargets (pushes_pushMany scopes _) d targets
    · rfl
  | .manyOf targets nested, scopes, d => by
    rw [declare, Declaration.defects]
    exact defects_declareTargets (pushes_pushMany scopes nested) d targets
  | .splice _, _, d | .extend _, _, d | .mode _, _, d | .hook _, _, d | .transform _ _, _, d => by
    rw [declare, Declaration.defects, List.append_nil]

theorem defects_declareAll : ∀ (cs : List Declaration) (scopes : List String) (d : Draft),
    (declareAll scopes d cs).defects = d.defects ++ defectsAll scopes cs
  | [], scopes, d => by
    rw [declareAll, defectsAll, List.append_nil]
  | c :: rest, scopes, d => by
    rw [declareAll, defectsAll, defects_declareAll rest, defects_declare c, List.append_assoc]

end

end Draft

theorem Specification.build_eq_ok_iff_defectsAll {program : List Declaration}
    {spec : Specification} : build program = .ok spec ↔
      Declaration.defectsAll [] program = [] ∧
        (Draft.declareAll [] { } program).toSpecification = spec := by
  rw [build_eq_ok_iff, Draft.defects_declareAll]
  rfl

namespace Draft

open Declaration (Yields YieldAll defectsAll)

mutual

/-- A declaration without defects adds the entries that it stands for after those before it. -/
theorem exists_entries_declare : ∀ (c : Declaration) (scopes : List String) (d : Draft),
    c.defects scopes = [] →
      ∃ es, (declare scopes d c).entries = d.entries ++ es ∧ Yields scopes c es
  | .scalar kind targets options, scopes, d, h => by
    rw [Declaration.defects] at h
    split_ifs at h with hkind
    obtain ⟨es, hentries, hes⟩ :=
      exists_entries_declareTargets (pushes_pushScalar scopes hkind options) d h
    rw [declare, declareScalar, if_neg hkind]
    exact ⟨es, hentries, .scalar hes⟩
  | .within selector body, scopes, d, h => by
    rw [Declaration.defects] at h
    split_ifs at h with hselector
    obtain ⟨es, hentries, hes⟩ := exists_entries_declareAll body (scopes ++ [selector]) d h
    rw [declare, if_neg hselector]
    exact ⟨es, hentries, .within hes⟩
  | .many targets body, scopes, d, h => by
    have hbody : defectsAll [] body = [] := by
      rw [Declaration.defects] at h
      split_ifs at h with hempty
      · exact List.isEmpty_iff.mp hempty
      · simpa using h
    have hnested : Specification.build body = .ok (declareAll [] { } body).toSpecification :=
      Specification.build_eq_ok_iff_defectsAll.mpr ⟨hbody, rfl⟩
    have hdefects : (declareAll [] { } body).defects.isEmpty = true := by
      rw [defects_declareAll, hbody]
      rfl
    rw [Declaration.defects, hbody] at h
    obtain ⟨es, hentries, hes⟩ := exists_entries_declareTargets (pushes_pushMany scopes _) d h
    rw [declare, if_pos hdefects]
    exact ⟨es, hentries, .many hnested hes⟩
  | .manyOf targets nested, scopes, d, h => by
    rw [Declaration.defects] at h
    obtain ⟨es, hentries, hes⟩ :=
      exists_entries_declareTargets (pushes_pushMany scopes nested) d h
    rw [declare]
    exact ⟨es, hentries, .manyOf hes⟩
  | .splice other, scopes, d, _ => by
    rw [declare]
    exact ⟨other.entries, rfl, .splice scopes other⟩
  | .extend parent, scopes, d, _ => by
    rw [declare]
    exact ⟨[], (List.append_nil _).symm, .extend scopes parent⟩
  | .mode mode, scopes, d, _ => by
    rw [declare]
    exact ⟨[], (List.append_nil _).symm, .mode scopes mode⟩
  | .hook hook, scopes, d, _ => by
    rw [declare]
    exact ⟨[], (List.append_nil _).symm, .hook scopes hook⟩
  | .transform name f, scopes, d, _ => by
    rw [declare]
    exact ⟨[], (List.append_nil _).symm, .transform scopes name f⟩

theorem exists_entries_declareAll : ∀ (cs : List Declaration) (scopes : List String) (d : Draft),
    defectsAll scopes cs = [] →
      ∃ es, (declareAll scopes d cs).entries = d.entries ++ es ∧ YieldAll scopes cs es
  | [], scopes, d, _ => by
    rw [declareAll]
    exact ⟨[], (List.append_nil _).symm, .nil scopes⟩
  | c :: rest, scopes, d, h => by
    rw [defectsAll, List.append_eq_nil_iff] at h
    obtain ⟨es, hentries, hes⟩ := exists_entries_declare c scopes d h.1
    obtain ⟨more, hrest, hmore⟩ :=
      exists_entries_declareAll rest scopes (declare scopes d c) h.2
    rw [declareAll, hrest, hentries, List.append_assoc]
    exact ⟨es ++ more, rfl, .cons hes hmore⟩

end

end Draft

namespace Specification

/-- The entries of a specification are those that its program stands for. -/
theorem yieldAll_of_build {program : List Declaration} {spec : Specification}
    (hspec : build program = .ok spec) : Declaration.YieldAll [] program spec.entries := by
  obtain ⟨hclean, rfl⟩ := build_eq_ok_iff_defectsAll.mp hspec
  obtain ⟨es, hentries, hes⟩ := Draft.exists_entries_declareAll program [] { } hclean
  rw [List.nil_append] at hentries
  change Declaration.YieldAll [] program (Draft.declareAll [] { } program).entries
  rwa [hentries]

/-- A specification denotes its program. There is one if and only if no call that is executed is
defective; its entries are those that the calls stand for, in order; and if there is none, the error
lists the defects of the calls in order. The selector of an attribute counts without the name. -/
theorem build_denotes (program : List Declaration) :
    ((∃ spec, build program = .ok spec) ↔ ∀ c ∈ program, ∀ inner call,
      Declaration.Executes [] c inner call → ¬ call.Defective inner) ∧
    (∀ spec, build program = .ok spec → Declaration.YieldAll [] program spec.entries) ∧
    (∀ defects, build program = .error defects ↔
      defects ≠ [] ∧ defects = Declaration.defectsAll [] program) ∧
    (∀ defects, build program = .error defects → (Error.specification defects).message =
      "Invalid specification: " ++
        "; ".intercalate ((Declaration.defectsAll [] program).map Defect.message)) ∧
    ∀ (t : Target) (path name : String), AttributeParts t.selector path name ↔
      t.ownSelector .attribute = path ∧
        (t.ownOptions .attribute { }).attributeName = some name := by
  have hbuild : build program =
      if Declaration.defectsAll [] program = [] then
        .ok (Draft.declareAll [] { } program).toSpecification
      else .error (Declaration.defectsAll [] program) := by
    rw [build, Draft.defects_declareAll]
    simp
  have herror (defects : List Defect) : build program = .error defects ↔
      defects ≠ [] ∧ defects = Declaration.defectsAll [] program := by
    rw [hbuild]
    split_ifs with hclean
    · simp [hclean]
    · simp only [Except.error.injEq, ne_eq]
      constructor
      · rintro rfl
        exact ⟨hclean, rfl⟩
      · rintro ⟨-, rfl⟩
        rfl
  refine ⟨?_, fun spec hspec ↦ ?_, herror, fun defects hdefects ↦ ?_, fun t path name ↦ ?_⟩
  · have hclean : Declaration.defectsAll [] program = [] ↔ ∀ c ∈ program, Declaration.Clean [] c :=
      Declaration.defectsAll_eq_nil_iff program
    unfold Declaration.Clean at hclean
    rw [← hclean, hbuild]
    split_ifs with h
    · simp [h]
    · simp [h]
  · exact yieldAll_of_build hspec
  · obtain ⟨-, rfl⟩ := (herror defects).mp hdefects
    rfl
  · rw [← splitAttribute_eq_iff, Prod.ext_iff]
    simp [Target.ownSelector, Target.ownOptions]

theorem build_denotes_disc :
    let code : Target := ⟨"file/@code", .ofKey "isrc"⟩
    let targets : List Target := [code]
    let program : List Declaration := [.within "disc" [.scalar .attribute targets { }]]
    let flawed : List Declaration :=
      [.within " " [], .many [.ofName "tracks"] [.scalar .text [] { }]]
    (∃ spec, build program = .ok spec ∧ Declaration.YieldAll [] program spec.entries ∧
      spec.entries.map (·.selector.source) = ["disc/file"]) ∧
    (∀ c ∈ program, ∀ inner call,
      Declaration.Executes [] c inner call → ¬ call.Defective inner) ∧
    build flawed = .error [.blankScope, .inMany (.noTargets .text)] ∧
    (Error.specification [.blankScope, .inMany (.noTargets .text)]).message =
      "Invalid specification: within() needs a non-empty selector; " ++
        "in many block: Text entry declared without targets" ∧
    AttributeParts code.selector "file" "code" := by
  intro code targets program flawed
  let path : Path := ⟨false, true, [⟨.child, .name "disc", []⟩, ⟨.child, .name "file", []⟩]⟩
  have hscoped : Draft.underScopes ["disc"] (code.ownSelector .attribute) = "disc/file" := by
    decide +kernel
  have hread : Selector.ofText? (Draft.underScopes ["disc"] (code.ownSelector .attribute)) =
      .ok ⟨"disc/file", path⟩ := by
    rw [hscoped]
    exact Selector.ofText?_of_eq_render (by decide +kernel) (by decide +kernel)
  have hdeclare := Draft.declareScalar_eq (by decide) (by decide +kernel) hread { } { }
  have hblank : Text.isBlankText "disc" = false := by decide +kernel
  have hdraft : Draft.declareAll [] { } program =
      Draft.declareScalar ["disc"] { } .attribute targets { } := by
    simp [program, Draft.declareAll, Draft.declare, hblank]
  obtain ⟨spec, hspec, hsources⟩ : ∃ spec, build program = .ok spec ∧
      spec.entries.map (·.selector.source) = ["disc/file"] := by
    refine ⟨_, build_eq_ok_iff.mpr ⟨?_, rfl⟩, ?_⟩
    · rw [hdraft, hdeclare]
    · rw [hdraft, hdeclare]
      rfl
  have hflawed : build flawed = .error [.blankScope, .inMany (.noTargets .text)] := by
    rfl
  refine ⟨⟨spec, hspec, (build_denotes program).2.1 spec hspec, hsources⟩, ?_, hflawed, ?_, ?_⟩
  · exact (build_denotes program).1.mp ⟨spec, hspec⟩
  · rw [(build_denotes flawed).2.2.2.1 _ hflawed]
    decide +kernel
  · exact ((build_denotes program).2.2.2.2 code "file" "code").mpr (by decide +kernel)

end Specification

end MarkupRecords
