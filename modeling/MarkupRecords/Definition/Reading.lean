import MarkupRecords.Definition.Basic
import MarkupRecords.Json.Decoding
import MarkupRecords.Json.Reading

/-!
Reading definitions from JSON. Each kind of record is decoded from the values of its fields; all
fields but the kind of a mapping and the selector of a scope have defaults. `Definition.ofJson?`
reads a whole definition.
-/

set_option autoImplicit false
set_option relaxedAutoImplicit false

namespace MarkupRecords

/-- The mode with a name in definitions. -/
def Selector.Mode.ofWord? (s : String) : Option Selector.Mode :=
  match s with
  | "search" => some .search
  | "strict" => some .strict
  | _ => none

namespace Definition

/-- Decodes a mode; `depth` more objects and arrays may be nested. -/
def decodeMode (depth : Nat) (v : Json) : Option Selector.Mode :=
  (v.asName? depth).bind Selector.Mode.ofWord?

/-- Decodes a kind. -/
def decodeKind (depth : Nat) (v : Json) : Option Kind := (v.asName? depth).bind Kind.ofWord?

/-- Decodes one key or a path of keys. -/
def decodeKey (depth : Nat) (v : Json) : Option OutputKey :=
  match v with
  | .text key => some (.ofKey key)
  | v => if depth = 0 then none else v.asTexts?.map (⟨·⟩)

/-- Decodes a name, a list of names, or null for none. -/
def decodeNames (depth : Nat) (v : Json) : Option (List String) :=
  match v with
  | .null => some []
  | .text name => some [name]
  | v => if depth = 0 then none else v.asTexts?

/-- Decodes a list of records, each of which nests two levels deeper. -/
def decodeList {α : Type} (decode : Json → Option α) : Json → Option (List α)
  | .array items => items.mapM decode
  | _ => none

/-- The fields of a mapping, in order. -/
def mappingFields : List String :=
  ["kind", "selector", "key", "after_map", "attribute", "mappings", "mode"]

/-- Decodes a mapping. Its own object is one level, and a list of mappings in it another. -/
def decodeMapping : (depth : Nat) → Json → Option Mapping
  | 0, _ => none
  | depth + 1, v => do
    match ← v.fields? mappingFields with
    | [some kind, selector, key, afterMap, attributeName, mappings, mode] =>
      let decodeMappings : Json → Option (List Mapping) :=
        match depth with
        | 0 => fun _ ↦ none
        | depth + 1 => decodeList (decodeMapping depth)
      return {
        kind := ← decodeKind depth kind
        selector := ← Json.orDefault "" Json.asText? selector
        key := ← Json.orDefault none (Json.nullOr (decodeKey depth)) key
        afterMap := ← Json.orDefault [] (decodeNames depth) afterMap
        attributeName := ← Json.orDefault none (Json.nullOr Json.asText?) attributeName
        mappings := ← Json.orDefault [] decodeMappings mappings
        mode := ← Json.orDefault none (Json.nullOr (decodeMode depth)) mode }
    | _ => none

/-- Decodes a list of mappings. -/
def decodeMappings : (depth : Nat) → Json → Option (List Mapping)
  | 0, _ => none
  | depth + 1, v => decodeList (decodeMapping depth) v

/-- The fields of a scope, in order. -/
def scopeFields : List String := ["selector", "mappings", "within"]

/-- Decodes a scope. -/
def decodeScope : (depth : Nat) → Json → Option Scope
  | 0, _ => none
  | depth + 1, v => do
    match ← v.fields? scopeFields with
    | [some selector, mappings, scopes] =>
      let decodeScopes : Json → Option (List Scope) :=
        match depth with
        | 0 => fun _ ↦ none
        | depth + 1 => decodeList (decodeScope depth)
      return {
        selector := ← selector.asText?
        mappings := ← Json.orDefault [] (decodeMappings depth) mappings
        scopes := ← Json.orDefault [] decodeScopes scopes }
    | _ => none

/-- Decodes a list of scopes. -/
def decodeScopes : (depth : Nat) → Json → Option (List Scope)
  | 0, _ => none
  | depth + 1, v => decodeList (decodeScope depth) v

/-- The fields of a definition, in order. -/
def definitionFields : List String := ["mode", "mappings", "within"]

/-- Decodes a definition. -/
def decode : (depth : Nat) → Json → Option Definition
  | 0, _ => none
  | depth + 1, v => do
    match ← v.fields? definitionFields with
    | [mode, mappings, scopes] =>
      return {
        mode := ← Json.orDefault .search (decodeMode depth) mode
        mappings := ← Json.orDefault [] (decodeMappings depth) mappings
        scopes := ← Json.orDefault [] (decodeScopes depth) scopes }
    | _ => none

/-- The definition in a JSON text. -/
def ofJson? (s : String) : Option Definition := (Json.ofText? s).bind (decode Json.depthLimit)

end Definition

end MarkupRecords
