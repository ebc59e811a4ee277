import MarkupRecords.Selector.Reading
import Mathlib.Tactic.SplitIfs

/-!
The grammar of selectors as equations. `plain` forgets the bound that a reader keeps on what is left
of a text, so that reading becomes a function to a value and a rest, and each reader of the grammar
gets one equation between plain outcomes (`plain_readPath`, `plain_readSteps`, …). What comes after
a step is read by `moreSteps`. All further statements about reading start from these equations; no
other module opens a reader.
-/

set_option autoImplicit false
set_option relaxedAutoImplicit false

namespace MarkupRecords.Selector

open Text (Taken after?)

/-! ### Outcomes without bounds -/

section Outcomes

variable {α β : Type} {m n : Nat}

/-- What was read and what is left. -/
def taken (t : Taken α n) : α × List Char := (t.value, t.rest)

/-- The outcome of reading, without the bound on what is left. -/
def plain (r : Reading α n) : Except Stuck (α × List Char) := r.map taken

theorem plain_ok (t : Taken α n) : plain (.ok t) = .ok (t.value, t.rest) := rfl

theorem ok_bind (a : α) (f : α → Except Stuck β) : (Except.ok a >>= f) = f a := rfl

/-- What is left obeys the bound. -/
theorem length_lt_of_plain_eq_ok {r : Reading α n} {a : α} {rest : List Char}
    (h : plain r = .ok (a, rest)) : rest.length < n := by
  cases r with
  | error e => cases h
  | ok t =>
    cases h
    exact t.shorter

theorem plain_widen (r : Reading α m) (h : m ≤ n) :
    plain (do return (← r).widen h : Reading α n) = plain r := by
  cases r <;> rfl

theorem plain_map_widen (r : Reading α m) (f : α → β) (h : m ≤ n) :
    plain (do return ((← r).map f).widen h : Reading β n) =
      (plain r).map fun s ↦ (f s.1, s.2) := by
  cases r <;> rfl

theorem bind_eq_ok_iff {x : Except Stuck α} {f : α → Except Stuck β} {b : β} :
    x.bind f = .ok b ↔ ∃ a, x = .ok a ∧ f a = .ok b := by
  cases x with
  | error e => simp [Except.bind]
  | ok a => simp [Except.bind]

theorem map_eq_ok_iff {x : Except Stuck α} {f : α → β} {b : β} :
    x.map f = .ok b ↔ ∃ a, x = .ok a ∧ f a = b := by
  cases x with
  | error e => simp [Except.map]
  | ok a => simp [Except.map]

end Outcomes

/-! ### Tokens -/

/-- What follows a fixed token. -/
def restAfter? (token cs : List Char) : Option (List Char) := (after? token cs).map Subtype.val

/-- What follows a word that comes next after blanks and that no name goes on after. -/
def restAfterWord? (word cs : List Char) : Option (List Char) :=
  (afterWord? word cs).map Subtype.val

theorem restAfterWord?_eq (word cs : List Char) :
    restAfterWord? word cs =
      (restAfter? word (skipBlanks cs)).filter fun rest ↦ !rest.head?.any isNameChar := by
  unfold restAfterWord? restAfter? afterWord?
  cases after? word (skipBlanks cs) with
  | none => rfl
  | some rest =>
    cases hname : rest.1.head?.any isNameChar <;> simp [Option.filter, hname]

theorem length_restAfterWord? {word cs rest : List Char} (h : restAfterWord? word cs = some rest) :
    rest.length + word.length ≤ cs.length := by
  obtain ⟨r, -, rfl⟩ := Option.map_eq_some_iff.mp h
  exact r.2

theorem restAfter?_nil (cs : List Char) : restAfter? [] cs = some cs := rfl

theorem restAfter?_cons_cons (t c : Char) (token cs : List Char) :
    restAfter? (t :: token) (c :: cs) = if t = c then restAfter? token cs else none := by
  unfold restAfter?
  rw [after?]
  split_ifs
  · rw [Option.map_map]
    rfl
  · rfl

theorem restAfter?_cons_nil (t : Char) (token : List Char) :
    restAfter? (t :: token) [] = none := rfl

theorem plain_expect (c : Char) (cs : List Char) :
    plain (expect c cs) =
      match skipBlanks cs with
      | d :: rest =>
        if c = d then .ok ((), rest) else .error ⟨.missing (.singleton c), (d :: rest).length⟩
      | [] => .error ⟨.missing (.singleton c), 0⟩ := by
  unfold expect
  split <;> rename_i h <;> simp only [h]
  · split_ifs <;> rfl
  · rfl

theorem map_readName?_cons (c : Char) (cs : List Char) :
    (readName? (c :: cs)).map taken =
      if isNameStart c then
        some (.ofList (c :: cs.takeWhile isNameChar), cs.dropWhile isNameChar)
      else none := by
  rw [readName?]
  split_ifs <;> rfl

theorem map_readNumberText?_cons (c : Char) (cs : List Char) :
    (readNumberText? (c :: cs)).map taken =
      if c.isDigit || c == '-' then
        some (c :: cs.takeWhile isNumberChar, cs.dropWhile isNumberChar)
      else none := by
  rw [readNumberText?]
  split_ifs <;> rfl

theorem map_readQuoted? (q : Char) (cs : List Char) :
    (readQuoted? q cs).map taken =
      match cs.dropWhile (· ≠ q) with
      | [] => none
      | _ :: rest => some (.ofList (cs.takeWhile (· ≠ q)), rest) := by
  unfold readQuoted?
  split <;> rename_i h <;> simp only [h]
  · rfl
  · rfl

theorem plain_readLiteral (cs : List Char) :
    plain (readLiteral cs) = plain (readLiteralHere (skipBlanks cs)) := by
  unfold readLiteral
  cases readLiteralHere (skipBlanks cs) <;> rfl

theorem plain_readLiteralHere (cs : List Char) :
    plain (readLiteralHere cs) =
      match (readNumberText? cs).map taken with
      | some (text, rest) =>
        match Decimal.ofText? text with
        | some d => .ok (.number (.ofList text) d.toFloat, rest)
        | none => .error ⟨.badNumber, rest.length⟩
      | none =>
        match cs with
        | [] => .error ⟨.noLiteral, 0⟩
        | c :: rest =>
          if c = '\'' ∨ c = '"' then
            match (readQuoted? c rest).map taken with
            | some (content, rest') => .ok (.text content, rest')
            | none => .error ⟨.openString, 0⟩
          else .error ⟨.noLiteral, (c :: rest).length⟩ := by
  unfold readLiteralHere
  cases readNumberText? cs with
  | some text =>
    dsimp only [Option.map_some, taken]
    cases Decimal.ofText? text.value <;> rfl
  | none =>
    cases cs with
    | nil => rfl
    | cons c rest =>
      dsimp only [Option.map_none]
      split_ifs
      · cases readQuoted? c rest <;> rfl
      · rfl

theorem map_afterContext?_cons (c : Char) (rest : List Char) :
    (afterContext? (c :: rest)).map taken =
      if c = '.' ∧ rest.head? ≠ some '.' ∧ rest.head? ≠ some '/' then some ((), rest)
      else none := by
  by_cases hpoint : c = '.'
  · subst hpoint
    rw [afterContext?]
    split_ifs with hdots hcontext hcontext
    · exact absurd hdots (by simpa [not_or] using hcontext.2)
    · rfl
    · rfl
    · exact absurd ⟨rfl, not_or.mp hdots⟩ hcontext
  · rw [if_neg fun h ↦ hpoint h.1]
    rw [afterContext?]
    · rfl
    · intro rest' hcons
      exact hpoint (List.cons.inj hcons).1

theorem plain_readTest_parent (axis : Axis) (cs : List Char) :
    plain (readTest axis ('.' :: '.' :: cs)) = .ok ((.parent, .anyNode), cs) := rfl

theorem plain_readTest_self (axis : Axis) {cs : List Char} (h : cs.head? ≠ some '.') :
    plain (readTest axis ('.' :: cs)) = .ok ((.self, .anyNode), cs) := by
  rw [readTest]
  · rfl
  · rintro rest rfl
    exact h rfl

theorem plain_readTest_star (axis : Axis) (cs : List Char) :
    plain (readTest axis ('*' :: cs)) = .ok ((axis, .anyElement), cs) := rfl

/-- What is read after the name with which a test begins: nothing, or the rest of a function. -/
def namedTest (axis : Axis) (name : String) (cs : List Char) :
    Except Stuck ((Axis × NodeTest) × List Char) :=
  match cs with
  | '(' :: rest =>
    (plain (expect ')' rest)).bind fun close ↦
      if name = "text" then .ok ((axis, .text), close.2)
      else if name = "node" then .ok ((axis, .anyNode), close.2)
      else .error ⟨.unknownFunction name, close.2.length⟩
  | cs => .ok ((axis, .name name), cs)

theorem namedTest_call (axis : Axis) (name : String) (cs : List Char) :
    namedTest axis name ('(' :: cs) =
      (plain (expect ')' cs)).bind fun close ↦
        if name = "text" then .ok ((axis, .text), close.2)
        else if name = "node" then .ok ((axis, .anyNode), close.2)
        else .error ⟨.unknownFunction name, close.2.length⟩ := rfl

theorem namedTest_of_head? (axis : Axis) (name : String) {cs : List Char}
    (h : cs.head? ≠ some '(') : namedTest axis name cs = .ok ((axis, .name name), cs) := by
  rw [namedTest]
  rintro rest rfl
  exact h rfl

theorem plain_readTest_of_head? (axis : Axis) {cs : List Char} (hpoint : cs.head? ≠ some '.')
    (hstar : cs.head? ≠ some '*') :
    plain (readTest axis cs) =
      match (readName? cs).map taken with
      | none => .error ⟨.noStep, cs.length⟩
      | some (name, rest) => namedTest axis name rest := by
  unfold readTest
  split
  · exact absurd rfl hpoint
  · exact absurd rfl hpoint
  · exact absurd rfl hstar
  · cases readName? cs with
    | none => rfl
    | some name =>
      dsimp only [Option.map_some, taken, namedTest]
      split <;> rename_i h <;> simp only [h]
      · cases expect ')' _ with
        | error e => rfl
        | ok close =>
          rw [ok_bind, plain_ok, Except.bind]
          split_ifs <;> rfl
      · rfl

/-! ### The grammar -/

/-- What is read after a step: further steps, each with its separator before it. -/
def moreSteps (cs : List Char) : Except Stuck (List Step × List Char) :=
  match cs with
  | '/' :: '/' :: rest => plain (readSteps .descendant rest)
  | '/' :: rest => plain (readSteps .child rest)
  | cs => .ok ([], cs)

theorem plain_readPath (cs : List Char) :
    plain (readPath cs) =
      match skipBlanks cs with
      | '/' :: '/' :: rest =>
        (plain (readSteps .descendant rest)).map fun s ↦ (⟨true, false, s.1⟩, s.2)
      | '/' :: rest =>
        if rest = [] ∨ rest.head? = some ']' then .ok (⟨true, false, []⟩, rest)
        else (plain (readSteps .child rest)).map fun s ↦ (⟨true, false, s.1⟩, s.2)
      | rest =>
        (plain (readSteps .child rest)).map fun s ↦ (⟨false, rest.head? ≠ some '.', s.1⟩, s.2) := by
  rw [readPath]
  split <;> rename_i h <;> simp only [h]
  · exact plain_map_widen _ _ _
  · split_ifs
    · rfl
    · exact plain_map_widen _ _ _
  · exact plain_map_widen _ _ _

theorem plain_readPath_descendant {cs rest : List Char} (h : skipBlanks cs = '/' :: '/' :: rest) :
    plain (readPath cs) =
      (plain (readSteps .descendant rest)).map fun s ↦ (⟨true, false, s.1⟩, s.2) := by
  rw [plain_readPath, h]
  rfl

theorem plain_readPath_child {cs rest : List Char} (h : skipBlanks cs = '/' :: rest)
    (hslash : rest.head? ≠ some '/') (hnil : rest ≠ []) (hclose : rest.head? ≠ some ']') :
    plain (readPath cs) =
      (plain (readSteps .child rest)).map fun s ↦ (⟨true, false, s.1⟩, s.2) := by
  rw [plain_readPath, h]
  split <;> rename_i hcs
  · exact absurd (by rw [(List.cons.inj hcs).2]; rfl) hslash
  · obtain rfl := (List.cons.inj hcs).2
    rw [if_neg (not_or.mpr ⟨hnil, hclose⟩)]
  · exact absurd rfl (hcs rest)

theorem plain_readPath_root {cs rest : List Char} (h : skipBlanks cs = '/' :: rest)
    (hend : rest = [] ∨ rest.head? = some ']') :
    plain (readPath cs) = .ok (⟨true, false, []⟩, rest) := by
  rw [plain_readPath, h]
  rcases hend with rfl | hclose
  · rfl
  · obtain ⟨more, rfl⟩ := List.head?_eq_some_iff.mp hclose
    rfl

theorem plain_readPath_of_head? {cs : List Char} (h : (skipBlanks cs).head? ≠ some '/') :
    plain (readPath cs) =
      (plain (readSteps .child (skipBlanks cs))).map fun s ↦
        (⟨false, (skipBlanks cs).head? ≠ some '.', s.1⟩, s.2) := by
  rw [plain_readPath]
  split <;> rename_i hcs
  · exact absurd (by rw [hcs]; rfl) h
  · exact absurd (by rw [hcs]; rfl) h
  · rfl

theorem moreSteps_descendant (cs : List Char) :
    moreSteps ('/' :: '/' :: cs) = plain (readSteps .descendant cs) := rfl

theorem moreSteps_child {cs : List Char} (h : cs.head? ≠ some '/') :
    moreSteps ('/' :: cs) = plain (readSteps .child cs) := by
  rw [moreSteps]
  rintro rest rfl
  exact h rfl

theorem moreSteps_of_head? {cs : List Char} (h : cs.head? ≠ some '/') :
    moreSteps cs = .ok ([], cs) := by
  rw [moreSteps]
  · rintro rest rfl
    exact h rfl
  · rintro rest rfl
    exact h rfl

theorem plain_readSteps (axis : Axis) (cs : List Char) :
    plain (readSteps axis cs) =
      (plain (readStep axis cs)).bind fun s ↦ (moreSteps s.2).map fun more ↦
        (s.1 :: more.1, more.2) := by
  rw [readSteps]
  cases readStep axis cs with
  | error e => rfl
  | ok step =>
    rw [ok_bind, plain_ok, Except.bind]
    dsimp only [moreSteps]
    split <;> rename_i h <;> simp only [h]
    · exact plain_map_widen _ _ _
    · exact plain_map_widen _ _ _
    · rfl

theorem readSteps_eq_ok_iff {axis : Axis} {cs rest : List Char} {steps : List Step} :
    plain (readSteps axis cs) = .ok (steps, rest) ↔
      ∃ step after more, plain (readStep axis cs) = .ok (step, after) ∧
        moreSteps after = .ok (more, rest) ∧ steps = step :: more := by
  rw [plain_readSteps, bind_eq_ok_iff]
  constructor
  · rintro ⟨⟨step, after⟩, hstep, h⟩
    obtain ⟨⟨more, _⟩, hmore, heq⟩ := map_eq_ok_iff.mp h
    cases heq
    exact ⟨step, after, more, hstep, hmore, rfl⟩
  · rintro ⟨step, after, more, hstep, hmore, rfl⟩
    exact ⟨(step, after), hstep, map_eq_ok_iff.mpr ⟨(more, rest), hmore, rfl⟩⟩

theorem ne_nil_of_readSteps {axis : Axis} {cs : List Char} {s : List Step × List Char}
    (h : plain (readSteps axis cs) = .ok s) : cs ≠ [] := by
  rintro rfl
  exact absurd (length_lt_of_plain_eq_ok h) (Nat.not_lt_zero _)

theorem plain_readStep (axis : Axis) (cs : List Char) :
    plain (readStep axis cs) =
      (plain (readTest axis cs)).bind fun test ↦ (plain (readPredicates test.2)).map fun s ↦
        (⟨test.1.1, test.1.2, s.1⟩, s.2) := by
  rw [readStep]
  cases readTest axis cs with
  | error e => rfl
  | ok test => exact plain_map_widen _ _ _

theorem plain_readPredicates_bracket (cs : List Char) :
    plain (readPredicates ('[' :: cs)) =
      (plain (readPredicate cs)).bind fun predicate ↦
        (plain (expect ']' predicate.2)).bind fun close ↦
          (plain (readPredicates close.2)).map fun more ↦ (predicate.1 :: more.1, more.2) := by
  rw [readPredicates]
  cases readPredicate cs with
  | error e => rfl
  | ok predicate =>
    rw [ok_bind, plain_ok, Except.bind]
    dsimp only
    cases expect ']' predicate.rest with
    | error e => rfl
    | ok close => exact plain_map_widen _ _ _

theorem plain_readPredicates_of_head? {cs : List Char} (h : cs.head? ≠ some '[') :
    plain (readPredicates cs) = .ok ([], cs) := by
  rw [readPredicates]
  · rfl
  · rintro rest rfl
    exact h rfl

/-- What is read where no position stands in a predicate. -/
def lastOrCondition (cs : List Char) : Except Stuck (Predicate × List Char) :=
  match restAfter? ['l', 'a', 's', 't', '(', ')'] cs with
  | some rest => .ok (.last, rest)
  | none => (plain (readOr cs)).map fun e ↦ (.condition e.1, e.2)

theorem plain_readPredicate (cs : List Char) :
    plain (readPredicate cs) =
      match (skipBlanks cs).head?.any Char.isDigit,
        (readNumberText? (skipBlanks cs)).map taken with
      | true, some (text, rest) =>
        match position? text with
        | some n => .ok (.position n, rest)
        | none => .error ⟨.badPosition, rest.length⟩
      | _, _ => lastOrCondition (skipBlanks cs) := by
  rw [readPredicate]
  cases (skipBlanks cs).head?.any Char.isDigit <;> cases readNumberText? (skipBlanks cs)
  case true.some text =>
    dsimp only [Option.map_some, taken]
    cases position? text.value <;> rfl
  all_goals
    unfold lastOrCondition restAfter?
    cases after? ['l', 'a', 's', 't', '(', ')'] (skipBlanks cs) with
    | some rest => rfl
    | none => exact plain_map_widen _ _ _

theorem plain_readPredicate_digit {c : Char} {cs rest : List Char} (h : skipBlanks cs = c :: rest)
    (hc : c.isDigit = true) :
    plain (readPredicate cs) =
      match position? (c :: rest.takeWhile isNumberChar) with
      | some n => .ok (.position n, rest.dropWhile isNumberChar)
      | none => .error ⟨.badPosition, (rest.dropWhile isNumberChar).length⟩ := by
  rw [plain_readPredicate, h, map_readNumberText?_cons, if_pos (by simp [hc])]
  simp only [List.head?_cons, Option.any_some, hc]

theorem plain_readPredicate_of_head? {cs : List Char}
    (h : (skipBlanks cs).head?.any Char.isDigit = false) :
    plain (readPredicate cs) = lastOrCondition (skipBlanks cs) := by
  rw [plain_readPredicate, h]

theorem plain_readOr (cs : List Char) :
    plain (readOr cs) = (plain (readAnd cs)).bind fun first ↦ plain (readOrs first.1 first.2) := by
  rw [readOr]
  cases readAnd cs with
  | error e => rfl
  | ok first => exact plain_widen _ _

theorem plain_readOrs (left : Expr) (cs : List Char) :
    plain (readOrs left cs) =
      match restAfterWord? ['o', 'r'] cs with
      | none => .ok (left, cs)
      | some rest =>
        (plain (readAnd rest)).bind fun right ↦ plain (readOrs (.or left right.1) right.2) := by
  rw [readOrs]
  unfold restAfterWord?
  split <;> rename_i h <;> simp only [h, Option.map_some, Option.map_none]
  · rfl
  · cases readAnd _ with
    | error e => rfl
    | ok right => exact plain_widen _ _

theorem plain_readAnd (cs : List Char) :
    plain (readAnd cs) =
      (plain (readComparison cs)).bind fun first ↦ plain (readAnds first.1 first.2) := by
  rw [readAnd]
  cases readComparison cs with
  | error e => rfl
  | ok first => exact plain_widen _ _

theorem plain_readAnds (left : Expr) (cs : List Char) :
    plain (readAnds left cs) =
      match restAfterWord? ['a', 'n', 'd'] cs with
      | none => .ok (left, cs)
      | some rest =>
        (plain (readComparison rest)).bind fun right ↦
          plain (readAnds (.and left right.1) right.2) := by
  rw [readAnds]
  unfold restAfterWord?
  split <;> rename_i h <;> simp only [h, Option.map_some, Option.map_none]
  · rfl
  · cases readComparison _ with
    | error e => rfl
    | ok right => exact plain_widen _ _

/-- What is read after an operand: what it is compared with, if anything. -/
def compared (operand : Operand) (cs : List Char) : Except Stuck (Expr × List Char) :=
  match skipBlanks cs with
  | '!' :: '=' :: rest => (plain (readLiteral rest)).map fun l ↦ (.compare operand true l.1, l.2)
  | '=' :: rest => (plain (readLiteral rest)).map fun l ↦ (.compare operand false l.1, l.2)
  | _ => .ok (.exists operand, cs)

theorem compared_exists {operand : Operand} {cs : List Char}
    (hnegated : restAfter? ['!', '='] (skipBlanks cs) = none)
    (hequal : (skipBlanks cs).head? ≠ some '=') :
    compared operand cs = .ok (.exists operand, cs) := by
  unfold compared
  split <;> rename_i hcs
  · exact absurd hnegated (by simp [hcs, restAfter?_cons_cons, restAfter?_nil])
  · exact absurd (by rw [hcs]; rfl) hequal
  · rfl

theorem plain_readComparison (cs : List Char) :
    plain (readComparison cs) =
      match skipBlanks cs with
      | '(' :: rest =>
        (plain (readOr rest)).bind fun inner ↦
          (plain (expect ')' inner.2)).map fun close ↦ (inner.1, close.2)
      | start => (plain (readOperand start)).bind fun operand ↦ compared operand.1 operand.2 := by
  rw [readComparison]
  split <;> rename_i h <;> simp only [h]
  · cases readOr _ with
    | error e => rfl
    | ok inner =>
      rw [ok_bind, plain_ok, Except.bind]
      dsimp only
      cases expect ')' inner.rest <;> rfl
  · cases readOperand _ with
    | error e => rfl
    | ok operand =>
      rw [ok_bind, plain_ok, Except.bind]
      dsimp only [compared]
      split <;> rename_i h' <;> simp only [h']
      · cases readLiteral _ <;> rfl
      · cases readLiteral _ <;> rfl
      · rfl

theorem plain_readComparison_of_head? {cs : List Char} (h : (skipBlanks cs).head? ≠ some '(') :
    plain (readComparison cs) =
      (plain (readOperand (skipBlanks cs))).bind fun operand ↦ compared operand.1 operand.2 := by
  rw [plain_readComparison]
  split <;> rename_i hcs
  · exact absurd (by rw [hcs]; rfl) h
  · rfl

theorem plain_readOperand_attribute (cs : List Char) :
    plain (readOperand ('@' :: cs)) =
      match (readName? cs).map taken with
      | some (name, rest) => .ok (.attribute name, rest)
      | none => .error ⟨.noAttributeName, cs.length⟩ := by
  rw [readOperand]
  cases readName? cs <;> rfl

theorem plain_readOperand_of_head? {cs : List Char} (h : cs.head? ≠ some '@') :
    plain (readOperand cs) =
      match restAfter? ['t', 'e', 'x', 't', '(', ')'] cs with
      | some rest => .ok (.text, rest)
      | none =>
        match (afterContext? cs).map taken with
        | some (_, rest) => .ok (.context, rest)
        | none => (plain (readPath cs)).map fun p ↦ (.path { p.1 with bare := false }, p.2) := by
  rw [readOperand]
  · unfold restAfter?
    cases after? ['t', 'e', 'x', 't', '(', ')'] cs with
    | some rest => rfl
    | none =>
      cases afterContext? cs with
      | some rest => rfl
      | none => cases readPath cs <;> rfl
  · rintro rest rfl
    exact h rfl

end MarkupRecords.Selector
