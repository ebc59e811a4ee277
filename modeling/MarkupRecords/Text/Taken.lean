/-!
Reading from the front of a text. A `Taken` value comes with the rest of the text and the proof that
the rest is shorter than a bound, so that functions that read one thing after another can be seen to
end. A reader that may use up nothing of a text `cs` has the bound `cs.length + 1`; `Taken.andThen`
puts such readers one after the other. `after?` takes a fixed token off the front.
-/

set_option autoImplicit false
set_option relaxedAutoImplicit false

namespace MarkupRecords.Text

/-- A value that was read, and the rest of the text, which has fewer than `bound` characters. -/
structure Taken (α : Type) (bound : Nat) where
  value : α
  rest : List Char
  shorter : rest.length < bound

namespace Taken

variable {α β : Type} {m n : Nat}

/-- The same with a larger bound. -/
def widen (t : Taken α m) (h : m ≤ n) : Taken α n :=
  ⟨t.value, t.rest, Nat.lt_of_lt_of_le t.shorter h⟩

/-- The same rest with another value. -/
def map (f : α → β) (t : Taken α n) : Taken β n := ⟨f t.value, t.rest, t.shorter⟩

/-- The same as read from a text with one more character at its start. -/
def later (t : Taken α n) : Taken α (n + 1) := t.widen (Nat.le_succ n)

theorem drop_shorter (k : Nat) (cs : List Char) : (cs.drop k).length < cs.length + 1 := by
  rw [List.length_drop]
  omega

theorem dropWhile_shorter (p : Char → Bool) (cs : List Char) :
    (cs.dropWhile p).length < cs.length + 1 :=
  Nat.lt_succ_of_le (List.dropWhile_sublist p).length_le

/-- A value that uses up the first `k` characters. -/
def ofDrop (value : α) (k : Nat) (cs : List Char) : Taken α (cs.length + 1) :=
  ⟨value, cs.drop k, drop_shorter k cs⟩

/-- A value that uses up the characters at the start that satisfy `p`. -/
def ofDropWhile (value : α) (p : Char → Bool) (cs : List Char) : Taken α (cs.length + 1) :=
  ⟨value, cs.dropWhile p, dropWhile_shorter p cs⟩

/-- A value that uses up nothing. -/
def untouched (value : α) (cs : List Char) : Taken α (cs.length + 1) := ofDrop value 0 cs

/-- A value that uses up everything. -/
def exhausted (value : α) (cs : List Char) : Taken α (cs.length + 1) :=
  ⟨value, [], Nat.succ_pos cs.length⟩

/-- Reads on in the rest. -/
def andThen (t : Taken α (n + 1)) (f : (cs : List Char) → Taken β (cs.length + 1)) :
    Taken β (n + 1) :=
  let u := f t.rest
  ⟨u.value, u.rest, Nat.lt_of_lt_of_le u.shorter t.shorter⟩

/-- A value that uses up the first `c` and everything before it. -/
def ofDropPast (value : α) (c : Char) (cs : List Char) : Taken α (cs.length + 1) :=
  (ofDropWhile () (· ≠ c) cs).andThen (ofDrop value 1)

end Taken

/-- A text has fewer characters than itself with one before it. -/
theorem length_lt_succ (cs : List Char) : cs.length < cs.length + 1 := Nat.lt_succ_self _

/-- What follows `token` at the start of a text, which is that much shorter. -/
def after? : (token cs : List Char) →
    Option {rest : List Char // rest.length + token.length = cs.length}
  | [], cs => some ⟨cs, rfl⟩
  | _ :: _, [] => none
  | t :: token, c :: cs =>
    if t = c then
      (after? token cs).map fun r ↦ ⟨r.1, by have := r.2; simp only [List.length_cons]; omega⟩
    else none

end MarkupRecords.Text
