import MarkupRecords.Json.Decoding
import MarkupRecords.Json.Reading
import MarkupRecords.Markup

/-!
Settings of an extraction. `Config.default` is what holds if nothing is said, `Config.ofJson?` reads
settings from JSON, and `Config.parse` parses a text as they demand.
-/

set_option autoImplicit false
set_option relaxedAutoImplicit false

namespace MarkupRecords

/-- Settings of an extraction. -/
structure Config where
  /-- The key under which an extraction from a file puts the file's path. -/
  sourcePathKey : Option String
  markup : Markup
  /-- Whether names lose their prefixes. -/
  stripNamespaces : Bool
deriving DecidableEq, Repr

namespace Config

/-- The settings that hold if nothing else is said. -/
def default : Config := ⟨some "xml_path", .auto, true⟩

/-- How names are taken over. -/
def naming (c : Config) : Xml.Naming := if c.stripNamespaces then .plain else .qualified

/-- The document of a text. -/
def parse (c : Config) (text : String) : Except MarkupFault Document :=
  Document.parse c.markup c.naming text

/-- The flavour with a name in settings. -/
def markupOfWord? (s : String) : Option Markup :=
  match s with
  | "auto" => some .auto
  | "xml" => some .xml
  | "html" => some .html
  | _ => none

/-- The fields of the settings, in order. -/
def fieldNames : List String := ["source_path_key", "markup", "strip_namespaces"]

/-- Decodes settings; a missing field keeps its default. -/
def decode (v : Json) : Option Config := do
  match ← v.fields? fieldNames with
  | [sourcePathKey, markup, stripNamespaces] =>
    return {
      sourcePathKey := ← Json.orDefault default.sourcePathKey (Json.nullOr Json.asText?)
        sourcePathKey
      markup := ← Json.orDefault default.markup
        (fun v ↦ (v.asName? (Json.depthLimit - 1)).bind markupOfWord?) markup
      stripNamespaces := ← Json.orDefault default.stripNamespaces Json.asBool? stripNamespaces }
  | _ => none

/-- The settings in a JSON text. -/
def ofJson? (s : String) : Option Config := (Json.ofText? s).bind decode

end Config

end MarkupRecords
