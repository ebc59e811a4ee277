import MarkupRecords.Definition.Basic
import MarkupRecords.Proofs.Specification.Built
import MarkupRecords.Proofs.Specification.Everywhere

/-!
Built specifications are built throughout. An entry gets its nested specification from a block,
which is built where it stands, from the call that names it, or from the entry it is spliced from;
the parent is one that a call names. So the parts of a specification that has been built have been
built as well (`Specification.IsBuilt.exists_partsBuilt`), and so on through all specifications that
are applied with it (`Specification.IsBuilt.everywhere`). The declarations of a definition use no
other specifications, so what it compiles to is built too (`Definition.isBuilt_of_compileWith`).
-/

set_option autoImplicit false
set_option relaxedAutoImplicit false

namespace MarkupRecords

/-! ### Parts of a specification -/

namespace Draft

/-- The nested specifications of the entries and the parent have been built. -/
structure PartsBuilt (d : Draft) : Prop where
  nested : ∀ e ∈ d.entries, ∀ nested, e.nested? = some nested → nested.IsBuilt
  parent : ∀ parent, d.parent = some parent → parent.IsBuilt

theorem partsBuilt_empty : PartsBuilt { } := ⟨List.forall_mem_nil _, nofun⟩

theorem invariant_partsBuilt {others : List Specification}
    (hothers : ∀ other ∈ others, other.IsBuilt)
    (hnested : ∀ other ∈ others, ∀ e ∈ other.entries, ∀ nested, e.nested? = some nested →
      nested.IsBuilt) : Invariant others PartsBuilt where
  defects _ _ hd := ⟨hd.nested, hd.parent⟩
  entry d e _ hfrom hd := by
    refine ⟨List.forall_mem_append.mpr ⟨hd.nested, List.forall_mem_singleton.mpr ?_⟩, hd.parent⟩
    intro nested hgiven
    rcases hfrom nested hgiven with hother | ⟨body, hbody, husing⟩
    · exact hothers nested hother
    · exact .build (fun other hother ↦ hothers other (husing other hother)) hbody
  splice d other hother hd :=
    ⟨List.forall_mem_append.mpr ⟨hd.nested, hnested other hother⟩, hd.parent⟩
  extend d parent hother hd := by
    refine ⟨hd.nested, fun given hgiven ↦ ?_⟩
    rw [← Option.some.inj hgiven]
    exact hothers parent hother
  mode _ _ hd := ⟨hd.nested, hd.parent⟩
  hook _ _ hd := ⟨hd.nested, hd.parent⟩
  transforms _ _ hd := ⟨hd.nested, hd.parent⟩

end Draft

namespace Specification

theorem IsBuilt.exists_partsBuilt {spec : Specification} (h : spec.IsBuilt) :
    ∃ d : Draft, d.PartsBuilt ∧ spec = d.toSpecification := by
  induction h with
  | build hothers hbuild ih =>
    refine exists_draft_of_build hbuild (Draft.invariant_partsBuilt hothers ?_)
      Draft.partsBuilt_empty
    intro other hother
    obtain ⟨d, hd, rfl⟩ := ih other hother
    exact hd.nested

/-- All specifications that are applied with one that has been built have been built. -/
theorem IsBuilt.everywhere {spec : Specification} (h : spec.IsBuilt) : spec.Everywhere IsBuilt := by
  induction spec using Specification.induction with
  | step spec ihNested ihParent =>
    obtain ⟨d, hd, rfl⟩ := h.exists_partsBuilt
    refine everywhere_iff.mpr ⟨h, fun e he nested hnested ↦ ?_, fun parent hparent ↦ ?_⟩
    · exact ihNested e he nested hnested (hd.nested e he nested hnested)
    · exact ihParent parent hparent (hd.parent parent hparent)

end Specification

/-! ### Definitions -/

theorem Declaration.othersAll_append (cs cs' : List Declaration) :
    othersAll (cs ++ cs') = othersAll cs ++ othersAll cs' := by
  induction cs with
  | nil => rfl
  | cons c cs ih => rw [List.cons_append, othersAll, othersAll, ih, List.append_assoc]

namespace Mapping

mutual

/-- The declaration of a mapping uses no other specification. -/
theorem others_declaration : ∀ m : Mapping, m.declaration.others = []
  | ⟨kind, selector, key, afterMap, attributeName, mappings, mode⟩ => by
    rw [declaration]
    split
    · rw [Declaration.others, Declaration.othersAll, othersAll_declarations mappings]
      rfl
    · rfl

theorem othersAll_declarations : ∀ ms : List Mapping,
    Declaration.othersAll (declarations ms) = []
  | [] => rfl
  | m :: ms => by
    rw [declarations, Declaration.othersAll, others_declaration m, othersAll_declarations ms]
    rfl

end

end Mapping

namespace Scope

mutual

theorem others_declaration : ∀ s : Scope, s.declaration.others = []
  | ⟨selector, mappings, scopes⟩ => by
    rw [declaration, Declaration.others, Declaration.othersAll_append,
      Mapping.othersAll_declarations, othersAll_declarations scopes]
    rfl

theorem othersAll_declarations : ∀ ss : List Scope,
    Declaration.othersAll (declarations ss) = []
  | [] => rfl
  | s :: ss => by
    rw [declarations, Declaration.othersAll, others_declaration s, othersAll_declarations ss]
    rfl

end

end Scope

namespace Definition

theorem othersAll_declarations (d : Definition) : Declaration.othersAll d.declarations = [] := by
  rw [declarations, Declaration.othersAll_append, Declaration.othersAll,
    Mapping.othersAll_declarations, Scope.othersAll_declarations]
  rfl

/-- A definition compiles to a specification that has been built, if the further declarations use
only such specifications. -/
theorem isBuilt_of_compileWith {d : Definition} {further : List Declaration} {spec : Specification}
    (hothers : ∀ other ∈ Declaration.othersAll further, other.IsBuilt)
    (hspec : d.compileWith further = .ok spec) : spec.IsBuilt := by
  refine .build (fun other hother ↦ hothers other ?_) hspec
  rwa [Declaration.othersAll_append, othersAll_declarations, List.nil_append] at hother

end Definition

end MarkupRecords
