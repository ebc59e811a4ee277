import MarkupRecords.Selector.Join
import MarkupRecords.Selector.Reading
import MarkupRecords.Specification.Defect

/-!
Building specifications. A `Declaration` is one step of a description: an entry for each of its
targets, a scope or a block with declarations of its own, or something that concerns the whole. A
`Draft` collects what has been declared and what is wrong with it; `Draft.declareAll` adds
declarations under the scopes around them, and `Specification.build` gives the specification if
nothing is wrong.
-/

set_option autoImplicit false
set_option relaxedAutoImplicit false

namespace MarkupRecords

/-- Where an entry looks, and where its value goes. -/
structure Target where
  selector : String
  key : OutputKey
deriving DecidableEq, Repr

/-- The target whose key is its selector. -/
def Target.ofName (name : String) : Target := ⟨name, .ofKey name⟩

/-- One step in the description of a specification. -/
inductive Declaration where
  /-- An entry for each target. -/
  | scalar (kind : Kind) (targets : List Target) (options : Options)
  /-- Puts a selector in front of the selectors in the body. -/
  | within (selector : String) (body : List Declaration)
  /-- An entry of kind `many` for each target; the body describes the nested specification. -/
  | many (targets : List Target) (body : List Declaration)
  /-- An entry of kind `many` for each target, with the given nested specification. -/
  | manyOf (targets : List Target) (nested : Specification)
  /-- Takes over the entries of another specification, and its transforms whose names are free. -/
  | splice (other : Specification)
  /-- Extends another specification. -/
  | extend (parent : Specification)
  | mode (mode : Selector.Mode)
  | hook (hook : Hook)
  | transform (name : String) (f : Value → Value)

/-- A specification under construction. -/
structure Draft where
  entries : List Entry := []
  hook : Option Hook := none
  mode : Selector.Mode := .search
  parent : Option Specification := none
  transforms : TransformTable := .empty
  defects : List Defect := []

/-- Splits the selector of an attribute at its last `@`: the path, without slashes at its end, and
the name of the attribute. Without an `@` the path is empty. -/
def splitAttribute (selector : String) : String × String :=
  let cs := selector.toList.reverse
  match cs.dropWhile (· ≠ '@') with
  | [] => ("", selector)
  | _ :: path =>
    (.ofList (Text.dropEnd Selector.isSlash path.reverse),
      .ofList (cs.takeWhile (· ≠ '@')).reverse)

namespace Draft

/-- Records a defect. -/
def fail (d : Draft) (defect : Defect) : Draft := { d with defects := d.defects ++ [defect] }

/-- What is wrong with a target by itself. -/
def targetDefect? (kind : Kind) (t : Target) : Option Defect :=
  if !t.key.isValid then some (.emptyKey kind t.selector)
  else if kind = .attribute ∧ (splitAttribute t.selector).2 = "" then
    some (.noAttributeName t.key)
  else none

/-- Records what is wrong with targets, before any entry is made of them. -/
def checkTargets (d : Draft) (kind : Kind) (targets : List Target) : Draft :=
  if targets.isEmpty then d.fail (.noTargets kind)
  else { d with defects := d.defects ++ targets.filterMap (targetDefect? kind) }

/-- The targets with which nothing is wrong by themselves. -/
def soundTargets (kind : Kind) (targets : List Target) : List Target :=
  targets.filter fun t ↦ (targetDefect? kind t).isNone

/-- The selector of an entry under the scopes around it, outermost first. -/
def underScopes (scopes : List String) (selector : String) : String :=
  if scopes.isEmpty then selector else Selector.join (scopes ++ [selector])

/-- Adds an entry, if its selector is understood. -/
def push (d : Draft) (kind : Kind) (selector : String) (key : OutputKey) (options : Options)
    (nested : Option Specification) : Draft :=
  match Selector.ofText? selector with
  | .ok s => { d with entries := d.entries ++ [⟨kind, s, key, options, nested⟩] }
  | .error fault => d.fail (.badSelector (Text.trimmed selector) fault)

/-- Adds the entry for a target of any kind but `many`. -/
def pushScalar (scopes : List String) (kind : Kind) (options : Options) (d : Draft) (t : Target) :
    Draft :=
  if kind = .attribute then
    let (path, name) := splitAttribute t.selector
    d.push kind (underScopes scopes path) t.key { options with attributeName := some name } none
  else d.push kind (underScopes scopes t.selector) t.key options none

/-- Adds the entry for a target of kind `many`. -/
def pushMany (scopes : List String) (nested : Specification) (d : Draft) (t : Target) : Draft :=
  if Text.isBlankText t.selector then d.fail (.blankCollection t.key)
  else d.push .many (underScopes scopes t.selector) t.key { } (some nested)

/-- Adds an entry for each target of any kind but `many`. -/
def declareScalar (scopes : List String) (d : Draft) (kind : Kind) (targets : List Target)
    (options : Options) : Draft :=
  if kind = .many then d.fail .noNested
  else
    (soundTargets kind targets).foldl (pushScalar scopes kind options)
      (d.checkTargets kind targets)

/-- Adds an entry of kind `many` for each target. -/
def declareMany (scopes : List String) (d : Draft) (targets : List Target)
    (nested : Specification) : Draft :=
  (soundTargets .many targets).foldl (pushMany scopes nested) (d.checkTargets .many targets)

/-- The specification as it has been drafted. -/
def toSpecification (d : Draft) : Specification :=
  .mk d.entries d.hook d.mode d.parent d.transforms

mutual

/-- Adds one declaration under the scopes around it, outermost first. -/
def declare (scopes : List String) (d : Draft) : Declaration → Draft
  | .scalar kind targets options => d.declareScalar scopes kind targets options
  | .within selector body =>
    if Text.isBlankText selector then d.fail .blankScope
    else declareAll (scopes ++ [selector]) d body
  | .many targets body =>
    let nested := declareAll [] { } body
    if nested.defects.isEmpty then d.declareMany scopes targets nested.toSpecification
    else { d with defects := d.defects ++ nested.defects.map .inMany }
  | .manyOf targets nested => d.declareMany scopes targets nested
  | .splice other =>
    { d with
      entries := d.entries ++ other.entries
      transforms := d.transforms.mergeMissing other.transforms }
  | .extend parent => { d with parent := some parent }
  | .mode mode => { d with mode }
  | .hook hook => { d with hook := some hook }
  | .transform name f => { d with transforms := d.transforms.register name f }

/-- Adds declarations from first to last. -/
def declareAll (scopes : List String) (d : Draft) : List Declaration → Draft
  | [] => d
  | declaration :: rest => declareAll scopes (declare scopes d declaration) rest

end

end Draft

/-- The specification that declarations describe, or everything that is wrong with them. -/
def Specification.build (declarations : List Declaration) : Except (List Defect) Specification :=
  let d := Draft.declareAll [] { } declarations
  if d.defects.isEmpty then .ok d.toSpecification else .error d.defects

end MarkupRecords
