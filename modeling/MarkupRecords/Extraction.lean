import MarkupRecords.Config
import MarkupRecords.Error
import MarkupRecords.Selector.Matching
import MarkupRecords.Selector.Reading
import MarkupRecords.Specification.Basic

/-!
Extraction. `Specification.extractIn` applies a specification to a node: its entries fill a
container, the path of the file is added if it is asked for, the hook edits the container, and all
this is merged over what the parent gives. An entry of kind `many` does the same with its nested
specification at each match. Transforms are looked up in the tables of the specifications around,
the innermost first. The public functions start from a node, a document, a text or a file.
-/

set_option autoImplicit false
set_option relaxedAutoImplicit false

namespace MarkupRecords

/-- Where an extraction reads from, if it is a file, and the key that the outermost container gets
for the file's path. -/
structure Source where
  path : Option String
  key : Option String

namespace Source

/-- Not a file. -/
def none : Source := ⟨.none, .none⟩

/-- The same file, without a key for its path. -/
def nested (s : Source) : Source := { s with key := .none }

/-- Puts the path under its key, if there are both. -/
def record (s : Source) (c : Container) : Container :=
  match s.key, s.path with
  | some key, some path => c.insert key (.text path)
  | _, _ => c

/-- Takes the key for the path out. -/
def forget (s : Source) (c : Container) : Container :=
  match s.key with
  | some key => c.erase key
  | _ => c

end Source

namespace Entry

/-- The text of the first match, or nil if there is none or it is empty. -/
def readText (selector : Selector) (n : Node) : Value :=
  match selector.first? n with
  | some found => if found.innerText = "" then .nil else .text found.innerText
  | none => .nil

/-- An attribute of the first match, or nil. The document node has the attributes of its element. -/
def readAttribute (selector : Selector) (name : String) (n : Node) : Value :=
  .ofText? ((selector.first? n).bind fun found ↦ found.unwrapDocument.attribute? name)

/-- The value that an entry of any kind but `many` derives, before it is coerced. -/
def read (kind : Kind) (selector : Selector) (options : Options) (n : Node) : Value :=
  match kind with
  | .exists => .bool (selector.first? n).isSome
  | .notExists => .bool (selector.first? n).isNone
  | .nodeName => .text n.name
  | .innerText => .text n.innerText
  | .node => ((selector.first? n).map Value.node).getD .nil
  | .attribute => readAttribute selector (options.attributeName.getD "") n
  | .text | .integer | .boolean => readText selector n
  | .many => .nil

/-- Whether the values of a kind are coerced and go through the entry's transforms. -/
def isMapped : Kind → Bool
  | .text | .integer | .boolean | .node | .attribute => true
  | .exists | .notExists | .nodeName | .innerText | .many => false

/-- The finished value of an entry of any kind but `many`. -/
def scalarValue (kind : Kind) (selector : Selector) (options : Options)
    (tables : List TransformTable) (n : Node) : Value :=
  let raw := read kind selector options n
  if isMapped kind then (raw.coerce kind).applyChain tables options.afterMap else raw

end Entry

mutual

/-- Applies a specification, and its parent before it. `outer` are the tables of the specifications
around this one, the innermost first. -/
def Specification.extractIn (spec : Specification) (outer : List TransformTable) (source : Source)
    (n : Node) : Container :=
  match spec with
  | ⟨entries, hook, mode, parent, transforms⟩ =>
    let filled := Entry.fillAll entries mode (transforms :: outer) source n
      (Container.ofSource source.path (some n))
    let recorded := source.record filled
    let edited := match hook with
      | some hook => hook recorded
      | none => recorded
    Specification.mergeOver parent outer source n { edited with sourceNode := none }

/-- Merges a container over what the parent gives, if there is one. -/
def Specification.mergeOver (parent : Option Specification) (outer : List TransformTable)
    (source : Source) (n : Node) (own : Container) : Container :=
  match parent with
  | none => own
  | some parent => (source.forget (parent.extractIn outer source n)).merge own

/-- Puts the values of entries into a container, from first to last. -/
def Entry.fillAll (entries : List Entry) (mode : Selector.Mode) (tables : List TransformTable)
    (source : Source) (n : Node) (c : Container) : Container :=
  match entries with
  | [] => c
  | ⟨kind, selector, key, options, nested⟩ :: rest =>
    let value := if kind = .many then
        .list (Specification.extractEach nested tables source.nested (selector.select mode n))
      else Entry.scalarValue kind selector options tables n
    Entry.fillAll rest mode tables source n (c.insertPath key.segments value)

/-- Applies a nested specification to each of the matches. -/
def Specification.extractEach (nested : Option Specification) (tables : List TransformTable)
    (source : Source) (ms : List Node) : List Value :=
  match nested with
  | none => []
  | some nested => ms.map fun m ↦ .map (nested.extractIn tables source m)

end

namespace Specification

/-- Extracts from a node. -/
def extract (spec : Specification) (n : Node) : Container := spec.extractIn [] .none n

/-- Extracts from a whole document. -/
def extractDocument (spec : Specification) (d : Document) : Container := spec.extract d.root

/-- Extracts from each node. -/
def extractAll (spec : Specification) (ns : List Node) : List Container := ns.map spec.extract

/-- Parses a text and extracts from its document. -/
def extractText (spec : Specification) (config : Config) (text : String) :
    Except Error Container :=
  match config.parse text with
  | .ok d => .ok (spec.extractDocument d)
  | .error fault => .error (.markup fault)

/-- Parses what reading a file gave and extracts from its document. All containers carry the path;
the outermost one also gets it under the key that the settings name. -/
def extractFile (spec : Specification) (config : Config) (path : String)
    (content : Except ReadFault String) : Except Error Container :=
  match content with
  | .error fault => .error (.unreadable path fault)
  | .ok text =>
    match config.parse text with
    | .error fault => .error (.markup fault)
    | .ok d => .ok (spec.extractIn [] ⟨some path, config.sourcePathKey⟩ d.root)

end Specification

/-! ### Selecting by text -/

namespace Node

/-- All matches of the selector that a text denotes. -/
def findAll (n : Node) (mode : Selector.Mode) (source : String) : Except Error (List Node) :=
  match Selector.ofText? source with
  | .ok s => .ok (s.select mode n)
  | .error fault => .error (.selector (Text.trimmed source) fault)

/-- The first match of the selector that a text denotes. -/
def findFirst (n : Node) (source : String) : Except Error (Option Node) :=
  match Selector.ofText? source with
  | .ok s => .ok (s.first? n)
  | .error fault => .error (.selector (Text.trimmed source) fault)

end Node

end MarkupRecords
