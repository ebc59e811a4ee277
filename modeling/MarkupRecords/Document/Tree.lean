/-!
Trees of markup. A `Tree` is the document node, an element or a text, with everything below it.
`Tree.children` are the trees directly below, `Tree.flatten` lists a tree and everything below it in
document order, `Tree.size` counts that list, and `Tree.innerText` joins the texts in it.
-/

set_option autoImplicit false
set_option relaxedAutoImplicit false

namespace MarkupRecords

/-- A node of a document with everything below it. -/
inductive Tree where
  /-- The document itself, above the outermost element. -/
  | document (children : List Tree)
  | element (name : String) (attributes : List (String × String)) (children : List Tree)
  | text (content : String)

namespace Tree

mutual

/-- Whether two trees have the same shape, names, attributes and texts. -/
def beq : Tree → Tree → Bool
  | document kids, document kids' => beqAll kids kids'
  | element n as kids, element n' as' kids' => n == n' && as == as' && beqAll kids kids'
  | text s, text s' => s == s'
  | _, _ => false

/-- `beq` on lists of trees. -/
def beqAll : List Tree → List Tree → Bool
  | [], [] => true
  | t :: ts, t' :: ts' => beq t t' && beqAll ts ts'
  | _, _ => false

end

instance : BEq Tree := ⟨beq⟩

/-- The trees directly below. -/
def children : Tree → List Tree
  | document kids => kids
  | element _ _ kids => kids
  | text _ => []

/-- The tree is an element. -/
def isElement : Tree → Bool
  | element .. => true
  | _ => false

/-- The tree is a text. -/
def isText : Tree → Bool
  | text _ => true
  | _ => false

/-- The tree is a whole document. -/
def isDocument : Tree → Bool
  | document _ => true
  | _ => false

/-- The name of an element; the document and texts have fixed names. -/
def name : Tree → String
  | document _ => "document"
  | element n _ _ => n
  | text _ => "text"

/-- The attributes of an element, in order; nothing else has any. -/
def attributes : Tree → List (String × String)
  | element _ as _ => as
  | _ => []

/-- The value of an attribute. -/
def attribute? (t : Tree) (name : String) : Option String := t.attributes.lookup name

mutual

/-- The number of nodes, this one included. -/
def size : Tree → Nat
  | document kids => sizeAll kids + 1
  | element _ _ kids => sizeAll kids + 1
  | text _ => 1

/-- The number of nodes in a list of trees. -/
def sizeAll : List Tree → Nat
  | [] => 0
  | t :: ts => size t + sizeAll ts

end

mutual

/-- This tree and everything below it, in document order. -/
def flatten : Tree → List Tree
  | document kids => document kids :: flattenAll kids
  | element n as kids => element n as kids :: flattenAll kids
  | text s => [text s]

/-- The trees of a list and everything below them, in document order. -/
def flattenAll : List Tree → List Tree
  | [] => []
  | t :: ts => flatten t ++ flattenAll ts

end

mutual

/-- All text in the tree, joined in document order. -/
def innerText : Tree → String
  | document kids => innerTextAll kids
  | element _ _ kids => innerTextAll kids
  | text s => s

/-- All text in a list of trees. -/
def innerTextAll : List Tree → String
  | [] => ""
  | t :: ts => innerText t ++ innerTextAll ts

end

/-- The places at which consecutive trees begin, if the first begins at `start` and each takes up
its size. -/
def starts (start : Nat) : List Tree → List Nat
  | [] => []
  | t :: ts => start :: starts (start + t.size) ts

mutual

/-- The places of the parents of the nodes of a tree, in document order, if the tree itself begins
at `start` below `parent`. -/
def parents (parent : Option Nat) (start : Nat) : Tree → List (Option Nat)
  | document kids => parent :: parentsAll start (start + 1) kids
  | element _ _ kids => parent :: parentsAll start (start + 1) kids
  | text _ => [parent]

/-- `parents` for consecutive trees below the node at `parent`. -/
def parentsAll (parent start : Nat) : List Tree → List (Option Nat)
  | [] => []
  | t :: ts => parents (some parent) start t ++ parentsAll parent (start + t.size) ts

end

mutual

theorem length_flatten : (t : Tree) → t.flatten.length = t.size
  | document kids => by simp [flatten, size, length_flattenAll kids]
  | element _ _ kids => by simp [flatten, size, length_flattenAll kids]
  | text _ => rfl

theorem length_flattenAll : (ts : List Tree) → (flattenAll ts).length = sizeAll ts
  | [] => rfl
  | t :: ts => by simp [flattenAll, sizeAll, length_flatten t, length_flattenAll ts]

end

end Tree

end MarkupRecords
