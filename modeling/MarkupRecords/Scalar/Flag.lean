import MarkupRecords.Text.Casing

/-!
Truth values in words. `Flag.ofText?` knows `true`, `yes`, `y` and `1`, and `false`, `no`, `n` and
`0`, in upper or lower case; the word has to be the whole text.
-/

set_option autoImplicit false
set_option relaxedAutoImplicit false

namespace MarkupRecords.Flag

/-- The words for true. -/
def yesWords : List String := ["true", "yes", "y", "1"]

/-- The words for false. -/
def noWords : List String := ["false", "no", "n", "0"]

/-- The truth value that a text names. -/
def ofText? (s : String) : Option Bool :=
  let word := Text.downcase s
  if word ∈ yesWords then some true else if word ∈ noWords then some false else none

/-- The word that a truth value is written as. -/
def text (b : Bool) : String := if b then "true" else "false"

end MarkupRecords.Flag
