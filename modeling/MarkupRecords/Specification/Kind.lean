/-!
What an entry of a specification derives from a document. `Kind.name` is the name that messages
show, `Kind.word` the one that definitions use.
-/

set_option autoImplicit false
set_option relaxedAutoImplicit false

namespace MarkupRecords

/-- What an entry derives from the document. -/
inductive Kind where
  /-- The inner text of the first match. -/
  | text
  /-- The inner text of the first match, as a whole number. -/
  | integer
  /-- The inner text of the first match, as a truth value. -/
  | boolean
  /-- Whether there is a match. -/
  | exists
  /-- Whether there is no match. -/
  | notExists
  /-- The name of the context node. -/
  | nodeName
  /-- The inner text of the context node. -/
  | innerText
  /-- The first match itself. -/
  | node
  /-- An attribute of the first match. -/
  | attribute
  /-- A container for each match. -/
  | many
deriving DecidableEq, Repr

namespace Kind

/-- All kinds. -/
def all : List Kind :=
  [.text, .integer, .boolean, .exists, .notExists, .nodeName, .innerText, .node, .attribute, .many]

/-- The name of a kind in messages. -/
def name : Kind → String
  | .text => "Text"
  | .integer => "Integer"
  | .boolean => "Boolean"
  | .exists => "Exists"
  | .notExists => "NotExists"
  | .nodeName => "NodeName"
  | .innerText => "InnerText"
  | .node => "Node"
  | .attribute => "Attribute"
  | .many => "Many"

/-- The name of a kind in definitions. -/
def word : Kind → String
  | .text => "text"
  | .integer => "integer"
  | .boolean => "boolean"
  | .exists => "exists"
  | .notExists => "not_exists"
  | .nodeName => "node_name"
  | .innerText => "inner_text"
  | .node => "node"
  | .attribute => "attribute"
  | .many => "many"

/-- The kind with a name in definitions. -/
def ofWord? (s : String) : Option Kind := all.find? (·.word == s)

end Kind

end MarkupRecords
