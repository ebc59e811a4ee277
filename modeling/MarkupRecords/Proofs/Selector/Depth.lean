import MarkupRecords.Proofs.Selector.Cursor

/-!
How deep a scan may go decides only whether it has an outcome. A scan that is cut short has none,
and nothing catches that; so where a scan is made of parts each of which keeps its outcomes when it
may go deeper (`Scan.Keeps`), it keeps its own (`Scan.Keeps.bind`). Every scan of the grammar is
made so, hence reading a whole text has the same outcome at each depth at which it has one
(`Scan.whole_eq_of_le`).
-/

set_option autoImplicit false
set_option relaxedAutoImplicit false

namespace MarkupRecords.Selector.Scan

variable {α β : Type}

/-- Every outcome of the first scan is one of the second. -/
def Keeps (m m' : Scan α) : Prop := ∀ c outcome, m c = some outcome → m' c = some outcome

namespace Keeps

variable {m m' : Scan α} {f f' : α → Scan β}

theorem refl (m : Scan α) : Keeps m m := fun _ _ h ↦ h

theorem tooDeep (m : Scan α) : Keeps tooDeep m := nofun

theorem bind (h : Keeps m m') (hf : ∀ a, Keeps (f a) (f' a)) : Keeps (m >>= f) (m' >>= f') := by
  intro c outcome houtcome
  cases hm : m c with
  | none =>
    rw [bind_of_none hm] at houtcome
    cases houtcome
  | some t =>
    obtain ⟨r, c'⟩ := t
    cases r with
    | error e =>
      rw [bind_of_error hm] at houtcome
      rw [bind_of_error (h c _ hm), houtcome]
    | ok a =>
      rw [bind_of_ok hm] at houtcome
      rw [bind_of_ok (h c _ hm)]
      exact hf a c' outcome houtcome

theorem ite {p : Prop} [Decidable p] {yes yes' no no' : Scan α} (hyes : Keeps yes yes')
    (hno : Keeps no no') : Keeps (if p then yes else no) (if p then yes' else no') := by
  split_ifs
  · exact hyes
  · exact hno

end Keeps

variable (text : List Char)

/-! ### Tokens -/

theorem keeps_passWhile (p : Char → Bool) (depth : Nat) :
    Keeps (passWhile text p depth) (passWhile text p (depth + 1)) := by
  induction depth with
  | zero => exact .tooDeep _
  | succ depth ih =>
    rw [passWhile, passWhile]
    exact .bind (.refl _) fun _ ↦ .ite (.bind (.refl _) fun _ ↦ ih) (.refl _)

section Tokens

variable (depth : Nat)

theorem keeps_expect (c : Char) : Keeps (expect text depth c) (expect text (depth + 1) c) :=
  .bind (keeps_passWhile text _ depth) fun _ ↦ .refl _

theorem keeps_eatWord (word : List Char) :
    Keeps (eatWord text depth word) (eatWord text (depth + 1) word) :=
  .bind (keeps_passWhile text _ depth) fun _ ↦ .refl _

theorem keeps_name? : Keeps (name? text depth) (name? text (depth + 1)) :=
  .bind (.refl _) fun _ ↦ .bind (.refl _) fun _ ↦
    .ite (.bind (keeps_passWhile text _ depth) fun _ ↦ .refl _) (.refl _)

theorem keeps_numberText : Keeps (numberText text depth) (numberText text (depth + 1)) :=
  .bind (.refl _) fun _ ↦ .bind (.refl _) fun _ ↦
    .bind (keeps_passWhile text _ depth) fun _ ↦ .refl _

theorem keeps_quotedText (q : Char) :
    Keeps (quotedText text depth q) (quotedText text (depth + 1) q) :=
  .bind (.refl _) fun _ ↦ .bind (.refl _) fun _ ↦
    .bind (keeps_passWhile text _ depth) fun _ ↦ .refl _

theorem keeps_number : Keeps (number text depth) (number text (depth + 1)) :=
  .bind (keeps_numberText text depth) fun _ ↦ .refl _

theorem keeps_literal : Keeps (literal text depth) (literal text (depth + 1)) := by
  refine .bind (keeps_passWhile text _ depth) fun _ ↦ .bind (.refl _) fun next ↦ ?_
  cases next with
  | none => exact .refl _
  | some c =>
    exact .ite (keeps_quotedText text depth c) (.ite (keeps_number text depth) (.refl _))

theorem keeps_named (axis : Axis) (name : String) :
    Keeps (named text depth axis name) (named text (depth + 1) axis name) :=
  .bind (.refl _) fun _ ↦ .ite (.bind (keeps_expect text depth _) fun _ ↦ .refl _) (.refl _)

theorem keeps_test (axis : Axis) : Keeps (test text depth axis) (test text (depth + 1) axis) := by
  refine .bind (.refl _) fun _ ↦ .ite (.refl _) (.bind (.refl _) fun _ ↦ .ite (.refl _)
    (.bind (.refl _) fun _ ↦ .ite (.refl _) (.bind (keeps_name? text depth) fun name ↦ ?_)))
  cases name with
  | none => exact .refl _
  | some name => exact keeps_named text depth axis name

theorem keeps_compared (operand : Operand) :
    Keeps (compared text depth operand) (compared text (depth + 1) operand) := by
  have hliteral := keeps_literal text depth
  exact .bind (keeps_passWhile text _ depth) fun _ ↦ .bind (.refl _) fun _ ↦
    .ite (.bind hliteral fun _ ↦ .refl _) (.bind (.refl _) fun _ ↦
      .ite (.bind hliteral fun _ ↦ .refl _) (.refl _))

end Tokens

/-! ### The grammar -/

mutual

theorem keeps_path (depth : Nat) : Keeps (path text depth) (path text (depth + 1)) := by
  cases depth with
  | zero => exact .tooDeep _
  | succ depth =>
    rw [path, path]
    have hsteps (axis : Axis) := keeps_steps axis depth
    exact .bind (.refl _) fun _ ↦ .bind (keeps_passWhile text _ depth) fun _ ↦
      .bind (.refl _) fun _ ↦ .ite (.bind (hsteps _) fun _ ↦ .refl _) (.bind (.refl _) fun _ ↦
        .ite (.bind (.refl _) fun _ ↦ .ite (.refl _) (.bind (hsteps _) fun _ ↦ .refl _))
          (.bind (.refl _) fun _ ↦ .bind (hsteps _) fun _ ↦ .refl _))
termination_by depth

theorem keeps_steps (axis : Axis) (depth : Nat) :
    Keeps (steps text axis depth) (steps text axis (depth + 1)) := by
  cases depth with
  | zero => exact .tooDeep _
  | succ depth =>
    rw [steps, steps]
    have hsteps (axis : Axis) := keeps_steps axis depth
    exact .bind (.refl _) fun _ ↦ .bind (keeps_step axis depth) fun _ ↦ .bind (.refl _) fun _ ↦
      .ite (.bind (hsteps _) fun _ ↦ .refl _) (.bind (.refl _) fun _ ↦
        .ite (.bind (hsteps _) fun _ ↦ .refl _) (.refl _))
termination_by depth

theorem keeps_step (axis : Axis) (depth : Nat) :
    Keeps (step text axis depth) (step text axis (depth + 1)) := by
  cases depth with
  | zero => exact .tooDeep _
  | succ depth =>
    rw [step, step]
    exact .bind (keeps_test text depth axis) fun _ ↦
      .bind (keeps_predicates depth) fun _ ↦ .refl _
termination_by depth

theorem keeps_predicates (depth : Nat) :
    Keeps (predicates text depth) (predicates text (depth + 1)) := by
  cases depth with
  | zero => exact .tooDeep _
  | succ depth =>
    rw [predicates, predicates]
    exact .bind (.refl _) fun _ ↦ .ite (.bind (.refl _) fun _ ↦
      .bind (keeps_predicate depth) fun _ ↦ .bind (keeps_expect text depth _) fun _ ↦
        .bind (keeps_predicates depth) fun _ ↦ .refl _) (.refl _)
termination_by depth

theorem keeps_predicate (depth : Nat) :
    Keeps (predicate text depth) (predicate text (depth + 1)) := by
  cases depth with
  | zero => exact .tooDeep _
  | succ depth =>
    rw [predicate, predicate]
    exact .bind (keeps_passWhile text _ depth) fun _ ↦ .bind (.refl _) fun _ ↦
      .ite (.bind (keeps_numberText text depth) fun _ ↦ .refl _) (.bind (.refl _) fun _ ↦
        .ite (.refl _) (.bind (keeps_disjunction depth) fun _ ↦ .refl _))
termination_by depth

theorem keeps_disjunction (depth : Nat) :
    Keeps (disjunction text depth) (disjunction text (depth + 1)) := by
  cases depth with
  | zero => exact .tooDeep _
  | succ depth =>
    rw [disjunction, disjunction]
    exact .bind (keeps_conjunction depth) fun first ↦ keeps_alternatives first depth
termination_by depth

theorem keeps_alternatives (left : Expr) (depth : Nat) :
    Keeps (alternatives text left depth) (alternatives text left (depth + 1)) := by
  cases depth with
  | zero => exact .tooDeep _
  | succ depth =>
    rw [alternatives, alternatives]
    exact .bind (keeps_eatWord text depth _) fun _ ↦ .ite (.bind (.refl _) fun _ ↦
      .bind (keeps_conjunction depth) fun right ↦ keeps_alternatives (.or left right) depth)
        (.refl _)
termination_by depth

theorem keeps_conjunction (depth : Nat) :
    Keeps (conjunction text depth) (conjunction text (depth + 1)) := by
  cases depth with
  | zero => exact .tooDeep _
  | succ depth =>
    rw [conjunction, conjunction]
    exact .bind (keeps_comparison depth) fun first ↦ keeps_members first depth
termination_by depth

theorem keeps_members (left : Expr) (depth : Nat) :
    Keeps (members text left depth) (members text left (depth + 1)) := by
  cases depth with
  | zero => exact .tooDeep _
  | succ depth =>
    rw [members, members]
    exact .bind (keeps_eatWord text depth _) fun _ ↦ .ite (.bind (.refl _) fun _ ↦
      .bind (keeps_comparison depth) fun right ↦ keeps_members (.and left right) depth) (.refl _)
termination_by depth

theorem keeps_comparison (depth : Nat) :
    Keeps (comparison text depth) (comparison text (depth + 1)) := by
  cases depth with
  | zero => exact .tooDeep _
  | succ depth =>
    rw [comparison, comparison]
    exact .bind (keeps_passWhile text _ depth) fun _ ↦ .bind (.refl _) fun _ ↦
      .ite (.bind (keeps_disjunction depth) fun _ ↦ .bind (keeps_expect text depth _) fun _ ↦
        .refl _) (.bind (keeps_operand depth) fun found ↦ keeps_compared text depth found)
termination_by depth

theorem keeps_operand (depth : Nat) : Keeps (operand text depth) (operand text (depth + 1)) := by
  cases depth with
  | zero => exact .tooDeep _
  | succ depth =>
    rw [operand, operand]
    exact .bind (.refl _) fun _ ↦ .ite (.bind (keeps_name? text depth) fun _ ↦ .refl _)
      (.bind (.refl _) fun _ ↦ .ite (.refl _) (.bind (.refl _) fun _ ↦ .bind (.refl _) fun _ ↦
        .bind (.refl _) fun _ ↦ .ite (.refl _) (.bind (keeps_path depth) fun _ ↦ .refl _)))
termination_by depth

end

theorem keeps_whole (depth : Nat) : Keeps (whole text depth) (whole text (depth + 1)) :=
  .bind (.bind (.refl _) fun _ ↦ .ite (.refl _) (keeps_path text depth)) fun _ ↦
    .bind (keeps_passWhile text _ depth) fun _ ↦ .refl _

/-- Reading may go deeper than it has to. -/
theorem whole_eq_of_le {depth depth' : Nat} (h : depth ≤ depth') {c : Cursor}
    {outcome : Except Complaint Path × Cursor} (houtcome : whole text depth c = some outcome) :
    whole text depth' c = some outcome := by
  induction h with
  | refl => exact houtcome
  | step _ ih => exact keeps_whole text _ c outcome ih

end MarkupRecords.Selector.Scan
