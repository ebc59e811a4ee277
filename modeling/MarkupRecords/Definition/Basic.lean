import MarkupRecords.Specification.Declaration

/-!
Specifications as data. A `Definition` lists mappings and scopes, a `Mapping` is one entry, a
`Scope` puts a selector in front of mappings and further scopes. `Definition.declarations` turns a
definition into declarations: first its mappings, then each scope, in which again mappings come
first. Hence an entry in a scope comes after, and overrides, an entry with the same key outside.
-/

set_option autoImplicit false
set_option relaxedAutoImplicit false

namespace MarkupRecords

/-- One entry of a definition. -/
structure Mapping where
  kind : Kind
  selector : String
  key : Option OutputKey
  afterMap : List String
  attributeName : Option String
  /-- The entries for each match, for the kind `many`. -/
  mappings : List Mapping
  /-- How the entries for each match look for their own matches. -/
  mode : Option Selector.Mode

/-- A selector for all mappings and scopes in it. -/
structure Scope where
  selector : String
  mappings : List Mapping
  scopes : List Scope

/-- A specification as data. -/
structure Definition where
  mode : Selector.Mode
  mappings : List Mapping
  scopes : List Scope

namespace Mapping

/-- The selector that is declared. That of an attribute ends in the attribute's name, after `/@` if
there is a path to it. -/
def declaredSelector (kind : Kind) (selector : String) (attributeName : Option String) : String :=
  match kind, attributeName with
  | .attribute, some name => if selector = "" then name else selector ++ "/@" ++ name
  | _, _ => selector

/-- The key that is declared: the selector, or the name of an attribute, unless a key is given. -/
def declaredKey (kind : Kind) (selector : String) (attributeName : Option String)
    (key : Option OutputKey) : OutputKey :=
  match key, kind, attributeName with
  | some key, _, _ => key
  | none, .attribute, some name => .ofKey name
  | none, _, _ => .ofKey selector

mutual

/-- The declaration of a mapping. -/
def declaration : Mapping → Declaration
  | ⟨kind, selector, key, afterMap, attributeName, mappings, mode⟩ =>
    let target : Target :=
      ⟨declaredSelector kind selector attributeName, declaredKey kind selector attributeName key⟩
    if kind = .many then .many [target] (.mode (mode.getD .search) :: declarations mappings)
    else .scalar kind [target] { afterMap }

/-- The declarations of mappings. -/
def declarations : List Mapping → List Declaration
  | [] => []
  | m :: ms => m.declaration :: declarations ms

end

end Mapping

namespace Scope

mutual

/-- The declaration of a scope. -/
def declaration : Scope → Declaration
  | ⟨selector, mappings, scopes⟩ =>
    .within selector (Mapping.declarations mappings ++ declarations scopes)

/-- The declarations of scopes. -/
def declarations : List Scope → List Declaration
  | [] => []
  | s :: ss => s.declaration :: declarations ss

end

end Scope

namespace Definition

/-- The declarations of a definition. -/
def declarations (d : Definition) : List Declaration :=
  .mode d.mode :: Mapping.declarations d.mappings ++ Scope.declarations d.scopes

/-- The specification of a definition and further declarations after it. -/
def compileWith (d : Definition) (further : List Declaration) :
    Except (List Defect) Specification :=
  Specification.build (d.declarations ++ further)

/-- The specification of a definition. -/
def compile (d : Definition) : Except (List Defect) Specification := d.compileWith []

end Definition

end MarkupRecords
