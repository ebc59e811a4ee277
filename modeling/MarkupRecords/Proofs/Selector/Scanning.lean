import MarkupRecords.Extraction
import MarkupRecords.Proofs.Selector.Depth
import MarkupRecords.Proofs.Selector.Lexeme
import MarkupRecords.Specification.Declaration

/-!
Scans of selectors stay inside of the text and come to an end.

Each scan of a part of the grammar follows the reader of that part (`Scan.follows_path` and those
around it), provided that it may go deep enough for the characters that are left. At most eight
scans are entered one inside the other before the next character is gone over: those of a predicate,
a disjunction, a conjunction, a comparison, an operand, a path, its steps and a step. So eight times
the number of characters that are left, and as many as there are scans from this one down to a
step, is deep enough, and the induction is on the depth. What a scan asks of its cursor is that it
stands before these characters and that the parts which begin there have not begun there before; it
leaves all parts new, because it goes over something. Only where neither `or` nor `and` comes next,
nor a sign that compares an operand, does the cursor stay elsewhere than the reader stops, namely
after the blanks that it has gone over to see this (`Cursor.NearlyLeaves`).

From the scan of a whole text (`Scan.follows_whole`) it follows for every text that reading with a
cursor ends, with a sound record and with the outcome of reading (`scan_within_bounds`).
-/

set_option autoImplicit false
set_option relaxedAutoImplicit false

namespace MarkupRecords.Selector

namespace Scan

open Cursor (Admits Leaves NearlyLeaves Stands)

variable {α β : Type} {text cs rest : List Char} {c c' : Cursor} {depth : Nat}
  {At : Cursor → List Char → Prop}

/-! ### Tokens -/

theorem restAfter?_singleton_eq_none {t : Char} (h : restAfter? [t] cs = none) :
    cs.head? ≠ some t := by
  intro hhead
  obtain ⟨rest, rfl⟩ := List.head?_eq_some_iff.mp hhead
  rw [restAfter?_cons_cons, if_pos rfl] at h
  cases h

theorem head?_ne_of_restAfter? {s t : Char} (h : restAfter? [s, t] (s :: cs) = none) :
    cs.head? ≠ some t := by
  rw [restAfter?_cons_cons, if_pos rfl] at h
  exact restAfter?_singleton_eq_none h

/-- A cursor that nearly stands before a text is brought right before it by going over blanks. -/
theorem run_skipBlanks (h : c.NearlyLeaves text cs) (hdepth : cs.length < depth) :
    ∃ c', passWhile text Text.isBlank depth c = some (.ok (), c') ∧
      c'.Leaves text (skipBlanks cs) := by
  have hstands := h.sound.stands
  obtain ⟨c', hrun, hpasses⟩ :=
    run_passWhile Text.isBlank hstands (Nat.lt_of_le_of_lt h.length_le hdepth)
  have hc' : c'.Stands text (skipBlanks (text.drop c.pos)) :=
    (hstands.takeWhile_append Text.isBlank).passes hpasses
  rw [h.skipBlanks_eq] at hc'
  exact ⟨c', hrun, hc', fun part ↦ hpasses.isNew (h.fresh part)⟩

theorem follows_expect {t : Char} (h : c.NearlyLeaves text cs) (hdepth : cs.length < depth) :
    Follows text (Leaves text) (expect text depth t) c (plain (Selector.expect t cs)) := by
  obtain ⟨c', hrun, hc'⟩ := run_skipBlanks h hdepth
  rw [plain_expect, expect]
  refine follows_of_run hrun ?_
  refine follows_eat hc'.toStands (List.cons_ne_nil t []) (fun rest c'' hrest hc'' ↦ ?_)
    fun hno ↦ ?_
  · rw [hrest, List.singleton_append]
    dsimp only
    rw [if_pos rfl]
    exact follows_pure hc''
  · have hhead := restAfter?_singleton_eq_none hno
    have hthrow : Follows text (Leaves text) (throw (.missing (.singleton t)) : Scan Unit) c'
        (.error ⟨.missing (.singleton t), (skipBlanks cs).length⟩) := follows_throw hc'.toStands
    revert hthrow hhead
    cases skipBlanks cs with
    | nil => exact fun _ hthrow ↦ hthrow
    | cons d rest =>
      intro hhead hthrow
      have hne : ¬t = d := fun heq ↦ hhead (congrArg some heq.symm)
      dsimp only
      rwa [if_neg hne]

/-- A scan that goes on from a word if it comes next, and otherwise goes on without it. -/
theorem follows_eatWord {word : List Char} {yes no : Scan α} {r : Except Stuck (α × List Char)}
    (h : c.NearlyLeaves text cs) (hdepth : cs.length < depth) (hne : word ≠ [])
    (hyes : ∀ rest c', restAfterWord? word cs = some rest → c'.Leaves text rest →
      Follows text At yes c' r)
    (hno : ∀ c', restAfterWord? word cs = none → c'.NearlyLeaves text cs →
      Follows text At no c' r) :
    Follows text At (eatWord text depth word >>= fun found ↦ if found = true then yes else no)
      c r := by
  obtain ⟨c', hrun, hc'⟩ := run_skipBlanks h hdepth
  have hnear := hc'.nearly_of_skipBlanks
  have hword := restAfterWord?_eq word cs
  have hstarts := run_startsWith hc'.toStands word
  cases htoken : restAfter? word (skipBlanks cs) with
  | none =>
    rw [htoken] at hword hstarts
    have heat : eatWord text depth word c = some (.ok false, c') :=
      (bind_of_ok hrun _).trans (bind_of_ok hstarts _)
    refine follows_of_run heat ?_
    rw [if_neg Bool.false_ne_true]
    exact hno c' hword hnear
  | some rest =>
    rw [htoken] at hword hstarts
    have hcs := eq_append_of_restAfter? htoken
    have hnext : text[c'.pos + word.length]? = rest.head? := by
      rw [hc'.getElem?_pos_add, hcs, List.getElem?_append_right (Nat.le_refl _), Nat.sub_self,
        List.head?_eq_getElem?]
    have heat : eatWord text depth word c =
        if rest.head?.any isNameChar then some (.ok false, c')
        else some (.ok true, c'.move word.length) := by
      refine (bind_of_ok hrun _).trans ((bind_of_ok hstarts _).trans ?_)
      rw [Option.isSome_some, if_pos rfl, bind_of_ok (run_here c'), hnext]
      split_ifs <;> rfl
    cases hname : rest.head?.any isNameChar with
    | true =>
      rw [hname, if_pos rfl] at heat
      refine follows_of_run heat ?_
      rw [if_neg Bool.false_ne_true]
      exact hno c' (by simp [hword, Option.filter, hname]) hnear
    | false =>
      rw [hname, if_neg Bool.false_ne_true] at heat
      refine follows_of_run heat ?_
      rw [if_pos rfl]
      have hstands : c'.Stands text (word ++ rest) := hcs ▸ hc'.toStands
      exact hyes rest _ (by simp [hword, Option.filter, hname])
        (hstands.leaves hstands.passes_move hne)

/-- A scan that goes on from a name if it comes next, and otherwise goes on without it. -/
theorem follows_name {f : Option String → Scan α} {r : Except Stuck (α × List Char)}
    (h : c.Stands text cs) (hdepth : cs.length < depth)
    (hsome : ∀ name rest c', (readName? cs).map taken = some (name, rest) → c'.Leaves text rest →
      Follows text At (f (some name)) c' r)
    (hnone : (readName? cs).map taken = none → Follows text At (f none) c r) :
    Follows text At (name? text depth >>= f) c r := by
  have hpeek := run_peek h
  cases cs with
  | nil => exact follows_of_run ((bind_of_ok (run_here c) _).trans (bind_of_ok hpeek _)) (hnone rfl)
  | cons d cs =>
    rw [map_readName?_cons] at hsome hnone
    by_cases hd : isNameStart d = true
    · have hsplit : d :: cs = (d :: cs.takeWhile isNameChar) ++ cs.dropWhile isNameChar := by
        rw [List.cons_append, List.takeWhile_append_dropWhile]
      have htake : (d :: cs).takeWhile isNameChar = d :: cs.takeWhile isNameChar :=
        List.takeWhile_cons_of_pos (isNameChar_of_isNameStart hd)
      obtain ⟨c', hrun, hpasses⟩ := run_passWhile isNameChar h hdepth
      rw [htake] at hpasses
      rw [hsplit] at h
      have hname : name? text depth c =
          some (.ok (some (.ofList (d :: cs.takeWhile isNameChar))), c'.cut c.pos) := by
        refine (bind_of_ok (run_here c) _).trans ((bind_of_ok hpeek _).trans ?_)
        rw [List.head?_cons, Option.any_some, if_pos hd, bind_of_ok hrun]
        exact bind_of_ok (run_cut h hpasses) _
      refine follows_of_run hname (hsome _ _ _ (if_pos hd) ?_)
      exact h.leaves hpasses.cut (List.cons_ne_nil d _)
    · have hname : name? text depth c = some (.ok none, c) := by
        refine (bind_of_ok (run_here c) _).trans ((bind_of_ok hpeek _).trans ?_)
        rw [List.head?_cons, Option.any_some, if_neg hd]
        rfl
      exact follows_of_run hname (hnone (if_neg hd))

/-- The text of a number is a digit or a minus sign, and all digits and points after it. -/
theorem run_numberText {written : List Char} (h : c.Stands text cs) (hdepth : cs.length < depth)
    (hread : (readNumberText? cs).map taken = some (written, rest)) :
    ∃ c', numberText text depth c = some (.ok written, c') ∧ c'.Leaves text rest := by
  have hpeek := run_peek h
  cases cs with
  | nil => cases hread
  | cons d cs =>
    rw [map_readNumberText?_cons] at hread
    split_ifs at hread with hd
    obtain ⟨rfl, rfl⟩ := Prod.mk.inj (Option.some.inj hread)
    have hsplit : d :: cs = (d :: cs.takeWhile isNumberChar) ++ cs.dropWhile isNumberChar := by
      rw [List.cons_append, List.takeWhile_append_dropWhile]
    -- A digit is gone over by the loop already, a minus sign is not.
    have hloop : ∃ c₁ c₂, passMinus text c = some (.ok (), c₁) ∧
        passWhile text isNumberChar depth c₁ = some (.ok (), c₂) ∧
        c.Passes text (d :: cs.takeWhile isNumberChar) c₂ := by
      by_cases hminus : d = '-'
      · have hd' : c.Stands text ([d] ++ cs) := h
        have hstep := hd'.passes_move
        obtain ⟨c₂, hrun, hpasses⟩ :=
          run_passWhile isNumberChar (hd'.passes hstep) (Nat.lt_of_succ_lt hdepth)
        refine ⟨c.move 1, c₂, (bind_of_ok hpeek _).trans ?_, hrun, hstep.trans hpasses⟩
        rw [List.head?_cons, hminus, if_pos rfl]
        exact run_move c 1
      · have hdigit : isNumberChar d = true := by
          simp only [Bool.or_eq_true, beq_iff_eq, hminus, or_false] at hd
          simp [isNumberChar, hd]
        obtain ⟨c₂, hrun, hpasses⟩ := run_passWhile isNumberChar h hdepth
        rw [List.takeWhile_cons_of_pos hdigit] at hpasses
        refine ⟨c, c₂, (bind_of_ok hpeek _).trans ?_, hrun, hpasses⟩
        rw [List.head?_cons, if_neg fun heq ↦ hminus (Option.some.inj heq)]
        rfl
    obtain ⟨c₁, c₂, hminus, hrun, hpasses⟩ := hloop
    rw [hsplit] at h
    refine ⟨c₂.cut c.pos, ?_, h.leaves hpasses.cut (List.cons_ne_nil d _)⟩
    exact (bind_of_ok (run_here c) _).trans ((bind_of_ok hminus _).trans
      ((bind_of_ok hrun _).trans (run_cut h hpasses)))

/-- A text in quotes is read up to the next quote, which has to be there. -/
theorem follows_quotedText {q : Char} (h : c.Stands text ([q] ++ cs)) (hdepth : cs.length < depth) :
    Follows text (Leaves text) (quotedText text depth q) c
      (match (readQuoted? q cs).map taken with
        | some (content, rest) => .ok (.text content, rest)
        | none => .error ⟨.openString, 0⟩) := by
  have hstart := h.passes h.passes_move
  obtain ⟨c', hrun, hpasses⟩ := run_passWhile (· ≠ q) hstart hdepth
  have hsplit := hstart.takeWhile_append (· ≠ q)
  have hend := hsplit.passes hpasses
  refine follows_of_run (run_move c 1) ?_
  refine follows_of_run (run_here _) (follows_of_run hrun ?_)
  refine follows_of_run (run_atEnd hend) ?_
  rw [map_readQuoted?]
  revert hend hsplit
  cases hafter : cs.dropWhile (· ≠ q) with
  | nil =>
    intro hsplit hend
    exact follows_throw hend
  | cons d after =>
    intro hsplit hend
    have hclose : (c'.cut (c.move 1).pos).Stands text ([d] ++ after) :=
      hsplit.passes hpasses.cut
    have hend' := hclose.leaves hclose.passes_move (List.cons_ne_nil d [])
    refine follows_of_run (run_cut hsplit hpasses) ?_
    exact follows_of_run (run_move _ 1) (follows_pure hend')

theorem follows_number {written : List Char} (h : c.Stands text cs) (hdepth : cs.length < depth)
    (hread : (readNumberText? cs).map taken = some (written, rest)) :
    Follows text (Leaves text) (number text depth) c
      (match Decimal.ofText? written with
        | some d => .ok (.number (.ofList written) d.toFloat, rest)
        | none => .error ⟨.badNumber, rest.length⟩) := by
  obtain ⟨c', hrun, hc'⟩ := run_numberText h hdepth hread
  refine follows_of_run hrun ?_
  cases Decimal.ofText? written with
  | none => exact follows_throw hc'.toStands
  | some d => exact follows_pure hc'

theorem follows_literal (h : c.Stands text cs) (hdepth : cs.length < depth) :
    Follows text (Leaves text) (literal text depth) c (plain (readLiteral cs)) := by
  rw [plain_readLiteral, plain_readLiteralHere]
  refine follows_passBlanks h hdepth fun c' hpasses hc' ↦ follows_of_run (run_peek hc') ?_
  have hblanks := length_skipBlanks_le cs
  cases hcs : skipBlanks cs with
  | nil =>
    rw [hcs] at hc'
    exact follows_throw hc'
  | cons d after =>
    rw [hcs] at hc' hblanks
    have hlength : (d :: after).length < depth := Nat.lt_of_le_of_lt hblanks hdepth
    rw [map_readNumberText?_cons, List.head?_cons]
    dsimp only
    by_cases hquote : d = '\'' ∨ d = '"'
    · have hdigit : (d.isDigit || d == '-') = false := by
        rcases hquote with rfl | rfl <;> decide
      rw [if_pos hquote, hdigit, if_neg Bool.false_ne_true]
      dsimp only
      rw [if_pos hquote]
      exact follows_quotedText hc' (Nat.lt_of_succ_lt hlength)
    · rw [if_neg hquote]
      by_cases hdigit : (d.isDigit || d == '-') = true
      · rw [if_pos hdigit, if_pos hdigit]
        exact follows_number hc' hlength (by rw [map_readNumberText?_cons, if_pos hdigit])
      · rw [if_neg hdigit, if_neg hdigit]
        dsimp only
        rw [if_neg hquote]
        exact follows_throw hc'

theorem follows_named {axis : Axis} {name : String} (h : c.Leaves text cs)
    (hdepth : cs.length < depth) :
    Follows text (Leaves text) (named text depth axis name) c (namedTest axis name cs) := by
  refine follows_eat h.toStands (List.cons_ne_nil _ []) (fun after c' hcs hc' ↦ ?_) fun hno ↦ ?_
  · obtain rfl := hcs
    rw [List.singleton_append, List.length_cons] at hdepth
    rw [List.singleton_append, namedTest_call]
    refine (follows_expect hc'.nearly (Nat.lt_of_succ_lt hdepth)).bind fun _ rest c'' _ hc'' ↦ ?_
    by_cases htext : name = "text"
    · rw [if_pos htext, if_pos htext]
      exact follows_pure hc''
    rw [if_neg htext, if_neg htext]
    by_cases hnode : name = "node"
    · rw [if_pos hnode, if_pos hnode]
      exact follows_pure hc''
    rw [if_neg hnode, if_neg hnode]
    exact follows_throw hc''.toStands
  · rw [namedTest_of_head? axis name (restAfter?_singleton_eq_none hno)]
    exact follows_pure h

/-- Something is gone over for a test. -/
theorem follows_test {axis : Axis} (h : c.Stands text cs) (hdepth : cs.length < depth) :
    Follows text (Leaves text) (test text depth axis) c (plain (readTest axis cs)) := by
  refine follows_eat h (List.cons_ne_nil _ _) (fun rest c' hcs hc' ↦ ?_) fun hpoints ↦ ?_
  · rw [hcs]
    exact follows_pure hc'
  refine follows_eat h (List.cons_ne_nil _ []) (fun rest c' hcs hc' ↦ ?_) fun hpoint ↦ ?_
  · obtain rfl := hcs
    rw [List.singleton_append] at hpoints ⊢
    rw [plain_readTest_self axis (head?_ne_of_restAfter? hpoints)]
    exact follows_pure hc'
  refine follows_eat h (List.cons_ne_nil _ []) (fun rest c' hcs hc' ↦ ?_) fun hstar ↦ ?_
  · rw [hcs]
    exact follows_pure hc'
  rw [plain_readTest_of_head? axis (restAfter?_singleton_eq_none hpoint)
    (restAfter?_singleton_eq_none hstar)]
  refine follows_name h hdepth (fun name rest c' hname hc' ↦ ?_) fun hname ↦ ?_
  · rw [hname]
    have hlength := (readName?_suffix hname).length_le
    exact follows_named hc' (Nat.lt_of_le_of_lt hlength hdepth)
  · rw [hname]
    exact follows_throw h

theorem follows_compared {operand : Operand} (h : c.Leaves text cs) (hdepth : cs.length < depth) :
    Follows text (NearlyLeaves text) (compared text depth operand) c
      (Selector.compared operand cs) := by
  obtain ⟨c', hrun, hc'⟩ := run_skipBlanks h.nearly hdepth
  refine follows_of_run hrun ?_
  have hblanks := length_skipBlanks_le cs
  have hnear := hc'.nearly_of_skipBlanks
  refine follows_eat hc'.toStands (List.cons_ne_nil _ _) (fun rest c'' hcs hc'' ↦ ?_) fun hno ↦ ?_
  · rw [Selector.compared, hcs]
    rw [hcs, List.length_append] at hblanks
    have hlength : rest.length < depth := by omega
    exact ((follows_literal hc''.toStands hlength).map _).imp fun _ _ ↦ Leaves.nearly
  refine follows_eat hc'.toStands (List.cons_ne_nil _ []) (fun rest c'' hcs hc'' ↦ ?_) fun hno' ↦ ?_
  · rw [Selector.compared, hcs]
    rw [hcs, List.length_append] at hblanks
    have hlength : rest.length < depth := by omega
    exact ((follows_literal hc''.toStands hlength).map _).imp fun _ _ ↦ Leaves.nearly
  · rw [compared_exists hno (restAfter?_singleton_eq_none hno')]
    exact follows_pure hnear

theorem isSome_afterContext? (cs : List Char) :
    ((afterContext? cs).map taken).isSome =
      ((restAfter? ['.'] cs).isSome && !(restAfter? ['.', '.'] cs).isSome &&
        !(restAfter? ['.', '/'] cs).isSome) := by
  cases cs with
  | nil => rfl
  | cons d after =>
    rw [map_afterContext?_cons]
    by_cases hd : d = '.'
    · cases after with
      | nil => simp [hd, restAfter?_cons_cons, restAfter?_nil, restAfter?_cons_nil]
      | cons next after =>
        by_cases hpoint : next = '.'
        · simp [hd, hpoint, restAfter?_cons_cons, restAfter?_nil]
        · by_cases hslash : next = '/'
          · simp [hd, hslash, restAfter?_cons_cons, restAfter?_nil]
          · simp [hd, hpoint, hslash, Ne.symm hpoint, Ne.symm hslash, restAfter?_cons_cons,
              restAfter?_nil]
    · simp [hd, Ne.symm hd, restAfter?_cons_cons]

theorem eq_cons_of_afterContext? {found : Unit × List Char}
    (h : (afterContext? cs).map taken = some found) : cs = '.' :: found.2 := by
  cases cs with
  | nil => cases h
  | cons d after =>
    rw [map_afterContext?_cons] at h
    split_ifs at h with hd
    cases h
    rw [hd.1]

/-! ### The grammar -/

mutual

theorem follows_path (depth : Nat) {c : Cursor} {cs : List Char} (h : c.Admits text cs)
    (hdepth : 8 * cs.length + 3 < depth) :
    Follows text (Leaves text) (path text depth) c (plain (readPath cs)) := by
  cases depth with
  | zero => exact absurd hdepth (Nat.not_lt_zero _)
  | succ depth =>
    have hblanks := length_skipBlanks_le cs
    rw [path]
    refine follows_of_run (run_mark c .path) ?_
    refine follows_passBlanks (h.mark h.path) (by omega) fun c₁ hpasses hc₁ ↦ ?_
    -- Perhaps there were no blanks, so that the first step has to be new without them.
    have hstep : c₁.IsNew .step := hpasses.isNew (h.step.mark_of_ne nofun)
    refine follows_eat hc₁ (List.cons_ne_nil _ _) (fun rest c₂ hcs hc₂ ↦ ?_) fun hslashes ↦ ?_
    · rw [plain_readPath_descendant hcs]
      rw [hcs, List.length_append] at hblanks
      exact (follows_steps .descendant depth hc₂.toStands (hc₂.fresh _) (by omega)).map _
    refine follows_eat hc₁ (List.cons_ne_nil _ _) (fun rest c₂ hcs hc₂ ↦ ?_) fun hslash ↦ ?_
    · rw [hcs] at hslashes hblanks
      refine follows_of_run (run_peek hc₂.toStands) ?_
      by_cases hend : rest.head? = none ∨ rest.head? = some ']'
      · rw [if_pos hend, plain_readPath_root hcs (hend.imp_left List.head?_eq_none_iff.mp)]
        exact follows_pure hc₂
      · have hnil : rest ≠ [] := fun hnil ↦ hend (.inl (List.head?_eq_none_iff.mpr hnil))
        rw [if_neg hend, plain_readPath_child hcs (head?_ne_of_restAfter? hslashes) hnil
          fun hclose ↦ hend (.inr hclose)]
        rw [List.length_append] at hblanks
        exact (follows_steps .child depth hc₂.toStands (hc₂.fresh _) (by omega)).map _
    · refine follows_of_run (run_peek hc₁) ?_
      rw [plain_readPath_of_head? (restAfter?_singleton_eq_none hslash)]
      exact (follows_steps .child depth hc₁ hstep (by omega)).map _
termination_by depth

theorem follows_steps (axis : Axis) (depth : Nat) {c : Cursor} {cs : List Char}
    (h : c.Stands text cs) (hstep : c.IsNew .step) (hdepth : 8 * cs.length + 2 < depth) :
    Follows text (Leaves text) (steps text axis depth) c (plain (readSteps axis cs)) := by
  cases depth with
  | zero => exact absurd hdepth (Nat.not_lt_zero _)
  | succ depth =>
    rw [steps, plain_readSteps]
    refine follows_of_run (run_mark c .step) ?_
    refine (follows_step axis depth (h.mark hstep) (by omega)).bind
      fun first after c₁ hread hc₁ ↦ ?_
    have hshorter := length_lt_of_plain_eq_ok hread
    refine follows_eat hc₁.toStands (List.cons_ne_nil _ _) (fun rest c₂ hcs hc₂ ↦ ?_)
      fun hslashes ↦ ?_
    · obtain rfl := hcs
      rw [List.length_append] at hshorter
      exact (follows_steps .descendant depth hc₂.toStands (hc₂.fresh _) (by omega)).map _
    refine follows_eat hc₁.toStands (List.cons_ne_nil _ _) (fun rest c₂ hcs hc₂ ↦ ?_)
      fun hslash ↦ ?_
    · obtain rfl := hcs
      rw [List.length_append] at hshorter
      rw [List.singleton_append] at hslashes ⊢
      rw [moreSteps_child (head?_ne_of_restAfter? hslashes)]
      exact (follows_steps .child depth hc₂.toStands (hc₂.fresh _) (by omega)).map _
    · rw [moreSteps_of_head? (restAfter?_singleton_eq_none hslash)]
      exact follows_pure hc₁
termination_by depth

theorem follows_step (axis : Axis) (depth : Nat) {c : Cursor} {cs : List Char}
    (h : c.Stands text cs) (hdepth : 8 * cs.length + 1 < depth) :
    Follows text (Leaves text) (step text axis depth) c (plain (readStep axis cs)) := by
  cases depth with
  | zero => exact absurd hdepth (Nat.not_lt_zero _)
  | succ depth =>
    rw [step, plain_readStep]
    refine (follows_test h (by omega)).bind fun found after c₁ hread hc₁ ↦ ?_
    have hshorter := length_lt_of_plain_eq_ok hread
    exact (follows_predicates depth hc₁ (by omega)).map _
termination_by depth

theorem follows_predicates (depth : Nat) {c : Cursor} {cs : List Char} (h : c.Leaves text cs)
    (hdepth : 8 * cs.length + 1 < depth) :
    Follows text (Leaves text) (predicates text depth) c (plain (readPredicates cs)) := by
  cases depth with
  | zero => exact absurd hdepth (Nat.not_lt_zero _)
  | succ depth =>
    rw [predicates]
    refine follows_eat h.toStands (List.cons_ne_nil _ _) (fun inner c₁ hcs hc₁ ↦ ?_) fun hno ↦ ?_
    · obtain rfl := hcs
      rw [List.length_append, List.length_singleton] at hdepth
      rw [List.singleton_append, plain_readPredicates_bracket]
      refine follows_of_run (run_mark c₁ .predicate) ?_
      refine (follows_predicate depth (hc₁.admits_mark .predicate nofun nofun) (by omega)).bind
        fun first after c₂ hread hc₂ ↦ ?_
      have hshorter := length_lt_of_plain_eq_ok hread
      refine (follows_expect hc₂ (by omega)).bind fun _ close c₃ hclose hc₃ ↦ ?_
      have hshorter' := length_lt_of_plain_eq_ok hclose
      exact (follows_predicates depth hc₃ (by omega)).map _
    · rw [plain_readPredicates_of_head? (restAfter?_singleton_eq_none hno)]
      exact follows_pure h
termination_by depth

theorem follows_predicate (depth : Nat) {c : Cursor} {cs : List Char} (h : c.Admits text cs)
    (hdepth : 8 * cs.length + 8 < depth) :
    Follows text (NearlyLeaves text) (predicate text depth) c (plain (readPredicate cs)) := by
  cases depth with
  | zero => exact absurd hdepth (Nat.not_lt_zero _)
  | succ depth =>
    have hblanks := length_skipBlanks_le cs
    rw [predicate]
    refine follows_passBlanks h.toStands (by omega) fun c₁ hpasses hc₁ ↦ ?_
    refine follows_of_run (run_peek hc₁) ?_
    by_cases hdigit : (skipBlanks cs).head?.any Char.isDigit = true
    · rw [if_pos hdigit]
      cases hcs : skipBlanks cs with
      | nil =>
        rw [hcs] at hdigit
        cases hdigit
      | cons d after =>
        rw [hcs] at hc₁ hdigit hblanks
        rw [List.head?_cons, Option.any_some] at hdigit
        have hlength : (d :: after).length < depth := by omega
        have hread : (readNumberText? (d :: after)).map taken =
            some (d :: after.takeWhile isNumberChar, after.dropWhile isNumberChar) := by
          rw [map_readNumberText?_cons, if_pos (Bool.or_eq_true_iff.mpr (.inl hdigit))]
        obtain ⟨c₂, hrun, hc₂⟩ := run_numberText hc₁ hlength hread
        rw [plain_readPredicate_digit hcs hdigit]
        refine follows_of_run hrun ?_
        cases position? (d :: after.takeWhile isNumberChar) with
        | none => exact follows_throw hc₂.toStands
        | some n => exact follows_pure hc₂.nearly
    · rw [if_neg hdigit, plain_readPredicate_of_head? (Bool.eq_false_iff.mpr hdigit)]
      refine follows_eat hc₁ (List.cons_ne_nil _ _) (fun rest c₂ hcs hc₂ ↦ ?_) fun hlast ↦ ?_
      · rw [lastOrCondition, hcs, restAfter?_append_self]
        exact follows_pure hc₂.nearly
      · rw [lastOrCondition, hlast]
        exact (follows_disjunction depth (h.passes hpasses hc₁) (by omega)).map _
termination_by depth

theorem follows_disjunction (depth : Nat) {c : Cursor} {cs : List Char} (h : c.Admits text cs)
    (hdepth : 8 * cs.length + 7 < depth) :
    Follows text (NearlyLeaves text) (disjunction text depth) c (plain (readOr cs)) := by
  cases depth with
  | zero => exact absurd hdepth (Nat.not_lt_zero _)
  | succ depth =>
    rw [disjunction, plain_readOr]
    refine (follows_conjunction depth h (by omega)).bind fun first after c₁ hread hc₁ ↦ ?_
    have hshorter := length_lt_of_plain_eq_ok hread
    have hless : 8 * after.length + 1 < depth := by omega
    exact follows_alternatives first depth hc₁ hless
termination_by depth

theorem follows_alternatives (left : Expr) (depth : Nat) {c : Cursor} {cs : List Char}
    (h : c.NearlyLeaves text cs) (hdepth : 8 * cs.length + 1 < depth) :
    Follows text (NearlyLeaves text) (alternatives text left depth) c
      (plain (readOrs left cs)) := by
  cases depth with
  | zero => exact absurd hdepth (Nat.not_lt_zero _)
  | succ depth =>
    rw [alternatives, plain_readOrs]
    refine follows_eatWord h (by omega) (List.cons_ne_nil _ _) (fun rest c₁ hword hc₁ ↦ ?_)
      fun c₁ hword hc₁ ↦ ?_
    · have hrest : rest.length + 2 ≤ cs.length := length_restAfterWord? hword
      rw [hword]
      refine follows_of_run (run_mark c₁ .alternative) ?_
      refine (follows_conjunction depth (hc₁.admits_mark .alternative nofun nofun) (by omega)).bind
        fun right after c₂ hread hc₂ ↦ ?_
      have hshorter := length_lt_of_plain_eq_ok hread
      have hless : 8 * after.length + 1 < depth := by omega
      exact follows_alternatives (.or left right) depth hc₂ hless
    · rw [hword]
      exact follows_pure hc₁
termination_by depth

theorem follows_conjunction (depth : Nat) {c : Cursor} {cs : List Char} (h : c.Admits text cs)
    (hdepth : 8 * cs.length + 6 < depth) :
    Follows text (NearlyLeaves text) (conjunction text depth) c (plain (readAnd cs)) := by
  cases depth with
  | zero => exact absurd hdepth (Nat.not_lt_zero _)
  | succ depth =>
    rw [conjunction, plain_readAnd]
    refine (follows_comparison depth h (by omega)).bind fun first after c₁ hread hc₁ ↦ ?_
    have hshorter := length_lt_of_plain_eq_ok hread
    have hless : 8 * after.length + 1 < depth := by omega
    exact follows_members first depth hc₁ hless
termination_by depth

theorem follows_members (left : Expr) (depth : Nat) {c : Cursor} {cs : List Char}
    (h : c.NearlyLeaves text cs) (hdepth : 8 * cs.length + 1 < depth) :
    Follows text (NearlyLeaves text) (members text left depth) c (plain (readAnds left cs)) := by
  cases depth with
  | zero => exact absurd hdepth (Nat.not_lt_zero _)
  | succ depth =>
    rw [members, plain_readAnds]
    refine follows_eatWord h (by omega) (List.cons_ne_nil _ _) (fun rest c₁ hword hc₁ ↦ ?_)
      fun c₁ hword hc₁ ↦ ?_
    · have hrest : rest.length + 3 ≤ cs.length := length_restAfterWord? hword
      rw [hword]
      refine follows_of_run (run_mark c₁ .member) ?_
      refine (follows_comparison depth (hc₁.admits_mark .member nofun nofun) (by omega)).bind
        fun right after c₂ hread hc₂ ↦ ?_
      have hshorter := length_lt_of_plain_eq_ok hread
      have hless : 8 * after.length + 1 < depth := by omega
      exact follows_members (.and left right) depth hc₂ hless
    · rw [hword]
      exact follows_pure hc₁
termination_by depth

theorem follows_comparison (depth : Nat) {c : Cursor} {cs : List Char} (h : c.Admits text cs)
    (hdepth : 8 * cs.length + 5 < depth) :
    Follows text (NearlyLeaves text) (comparison text depth) c (plain (readComparison cs)) := by
  cases depth with
  | zero => exact absurd hdepth (Nat.not_lt_zero _)
  | succ depth =>
    have hblanks := length_skipBlanks_le cs
    rw [comparison]
    refine follows_passBlanks h.toStands (by omega) fun c₁ hpasses hc₁ ↦ ?_
    refine follows_eat hc₁ (List.cons_ne_nil _ _) (fun inner c₂ hcs hc₂ ↦ ?_) fun hno ↦ ?_
    · rw [hcs, List.length_append, List.length_singleton] at hblanks
      rw [plain_readComparison, hcs]
      refine (follows_disjunction depth hc₂.admits (by omega)).bind
        fun found after c₃ hread hc₃ ↦ ?_
      have hshorter := length_lt_of_plain_eq_ok hread
      exact ((follows_expect hc₃ (by omega)).map fun _ ↦ found).imp fun _ _ ↦ Leaves.nearly
    · rw [plain_readComparison_of_head? (restAfter?_singleton_eq_none hno)]
      refine (follows_operand depth (h.passes hpasses hc₁) (by omega)).bind
        fun found after c₂ hread hc₂ ↦ ?_
      have hshorter := length_lt_of_plain_eq_ok hread
      have hless : after.length < depth := by omega
      exact follows_compared hc₂ hless
termination_by depth

theorem follows_operand (depth : Nat) {c : Cursor} {cs : List Char} (h : c.Admits text cs)
    (hdepth : 8 * cs.length + 4 < depth) :
    Follows text (Leaves text) (operand text depth) c (plain (readOperand cs)) := by
  cases depth with
  | zero => exact absurd hdepth (Nat.not_lt_zero _)
  | succ depth =>
    rw [operand]
    refine follows_eat h.toStands (List.cons_ne_nil _ _) (fun rest c₁ hcs hc₁ ↦ ?_) fun hat ↦ ?_
    · obtain rfl := hcs
      rw [List.length_append] at hdepth
      rw [List.singleton_append, plain_readOperand_attribute]
      refine follows_name hc₁.toStands (by omega) (fun name after c₂ hname hc₂ ↦ ?_) fun hname ↦ ?_
      · rw [hname]
        exact follows_pure hc₂
      · rw [hname]
        exact follows_throw hc₁.toStands
    rw [plain_readOperand_of_head? (restAfter?_singleton_eq_none hat)]
    refine follows_eat h.toStands (List.cons_ne_nil _ _) (fun rest c₁ hcs hc₁ ↦ ?_) fun htext ↦ ?_
    · rw [hcs, restAfter?_append_self]
      exact follows_pure hc₁
    rw [htext]
    -- The scan looks for a point and for two longer tokens, the reader splits by characters.
    refine follows_of_run (run_startsWith h.toStands _) ?_
    refine follows_of_run (run_startsWith h.toStands _) ?_
    refine follows_of_run (run_startsWith h.toStands _) ?_
    rw [← isSome_afterContext?]
    cases hcontext : (afterContext? cs).map taken with
    | some found =>
      obtain rfl := eq_cons_of_afterContext? hcontext
      have hpoint : c.Stands text (['.'] ++ found.2) := h.toStands
      rw [Option.isSome_some, if_pos rfl]
      refine follows_of_run (run_move c 1) (follows_pure ?_)
      exact hpoint.leaves hpoint.passes_move (List.cons_ne_nil _ _)
    | none =>
      rw [Option.isSome_none, if_neg Bool.false_ne_true]
      exact (follows_path depth h (by omega)).map _
termination_by depth

end

/-! ### Whole texts -/

theorem follows_pathOrEmpty (hdepth : 8 * text.length + 3 < depth) :
    Follows text (Stands text) (pathOrEmpty text depth) .start
      (if text = [] then .ok (⟨false, false, []⟩, []) else plain (readPath text)) := by
  have hstart : Cursor.start.Stands text text := ⟨.start, rfl⟩
  refine follows_of_run (run_atEnd hstart) ?_
  by_cases hnil : text = []
  · rw [if_pos hnil, if_pos (List.isEmpty_iff.mpr hnil)]
    exact follows_pure (hnil ▸ hstart)
  · rw [if_neg hnil, if_neg fun hempty ↦ hnil (List.isEmpty_iff.mp hempty)]
    exact (follows_path depth ⟨hstart, nofun, nofun⟩ hdepth).imp fun _ _ ↦ Leaves.toStands

theorem readWhole_map (cs : List Char) :
    (readWhole cs).map (fun path ↦ (path, ([] : List Char))) =
      (if cs = [] then .ok (⟨false, false, []⟩, []) else plain (readPath cs)).bind fun s ↦
        if skipBlanks s.2 = [] then .ok (s.1, [])
        else .error ⟨.trailing, (skipBlanks s.2).length⟩ := by
  cases cs with
  | nil => rfl
  | cons d cs =>
    rw [if_neg (List.cons_ne_nil d cs)]
    unfold readWhole
    dsimp only
    cases readPath (d :: cs) with
    | error s => rfl
    | ok path =>
      rw [plain_ok, Except.bind]
      dsimp only
      cases skipBlanks path.rest <;> rfl

theorem follows_whole (hdepth : 8 * text.length + 3 < depth) :
    Follows text (Stands text) (whole text depth) .start
      ((readWhole text).map fun path ↦ (path, [])) := by
  rw [readWhole_map]
  refine (follows_pathOrEmpty hdepth).bind fun found rest c _ hc ↦ ?_
  have hlength := hc.pos_add_length
  refine follows_passBlanks hc (by omega) fun c' hpasses hc' ↦ ?_
  refine follows_of_run (run_atEnd hc') ?_
  by_cases hnil : skipBlanks rest = []
  · rw [if_pos (List.isEmpty_iff.mpr hnil)]
    dsimp only
    rw [if_pos hnil]
    exact follows_pure (hnil ▸ hc')
  · rw [if_neg fun hempty ↦ hnil (List.isEmpty_iff.mp hempty)]
    dsimp only
    rw [if_neg hnil]
    exact follows_throw hc'

end Scan

/-- What is wrong with the text of a selector is reported wherever the selector is asked for: when
nodes are looked for, and when an entry is declared. The trimmed text is quoted. -/
structure IsReported (source : String) (fault : Fault) : Prop where
  findAll : ∀ (n : Node) (mode : Mode),
    n.findAll mode source = .error (.selector (Text.trimmed source) fault)
  findFirst : ∀ n : Node, n.findFirst source = .error (.selector (Text.trimmed source) fault)
  push : ∀ (d : Draft) (kind : Kind) (key : OutputKey) (options : Options)
    (nested : Option Specification),
    d.push kind source key options nested = d.fail (.badSelector (Text.trimmed source) fault)

theorem isReported_of_ofText? {source : String} {fault : Fault}
    (h : ofText? source = .error fault) : IsReported source fault where
  findAll n mode := by rw [Node.findAll, h]
  findFirst n := by rw [Node.findFirst, h]
  push d kind key options nested := by rw [Draft.push, h]

/-- Reading a text with a cursor comes to the same end at every depth beyond a bound that is linear
in the length of the trimmed text. Its record is sound: the cursor keeps inside of the text and
never goes back, what it cuts out lies inside of the text, and it goes on between any two paths that
it begins, and between any two rounds of the same loop. The outcome is that of reading. If it is a
selector, the cursor has come to the end of the text; if not, the fault is where the cursor stands,
and it is reported with the trimmed text. -/
theorem scan_within_bounds (source : String) :
    let text := (Text.trimmed source).toList
    ∃ (outcome : Except Complaint Path) (c : Cursor),
      (∀ depth, 8 * text.length + 3 < depth →
        Scan.whole text depth .start = some (outcome, c)) ∧
      (∀ e ∈ c.events, e.pos ≤ text.length) ∧
      (c.events.Pairwise fun later earlier ↦ earlier.pos ≤ later.pos) ∧
      (∀ start stop, .cut start stop ∈ c.events → start ≤ stop ∧ stop ≤ text.length) ∧
      (∀ part, (c.beginnings part).Pairwise fun later earlier ↦ earlier < later) ∧
      match outcome with
      | .ok path => ofText? source = .ok ⟨source, path⟩ ∧ c.pos = text.length
      | .error complaint =>
        ofText? source = .error ⟨complaint, c.pos⟩ ∧ c.pos ≤ text.length ∧
          IsReported source ⟨complaint, c.pos⟩ := by
  intro text
  have htext : Text.trim source.toList = text := (Text.trimmed_toList source).symm
  have hscan := Scan.follows_whole (Nat.lt_succ_self (8 * text.length + 3))
  cases hread : readWhole text with
  | ok path =>
    rw [hread] at hscan
    obtain ⟨c, hrun, hc⟩ := hscan
    have hparsed : ofText? source = .ok ⟨source, path⟩ := by rw [ofText?, htext, hread]
    exact ⟨.ok path, c, fun _ hdepth ↦ Scan.whole_eq_of_le text hdepth hrun, hc.sound.pos_le,
      hc.sound.ascending, hc.sound.cut_le, hc.sound.apart, hparsed, hc.pos_add_length⟩
  | error s =>
    rw [hread] at hscan
    obtain ⟨c, hrun, hsound, hleft⟩ := hscan
    have hpos : text.length - s.left = c.pos := by
      rw [← hleft, List.length_drop, Nat.sub_sub_self hsound.le]
    have hfault : ofText? source = .error ⟨s.complaint, c.pos⟩ := by
      rw [ofText?, htext, hread, ← hpos]
    exact ⟨.error s.complaint, c, fun _ hdepth ↦ Scan.whole_eq_of_le text hdepth hrun,
      hsound.pos_le, hsound.ascending, hsound.cut_le, hsound.apart, hfault, hsound.le,
      isReported_of_ofText? hfault⟩

-- The text ends before the bracket of the predicate is closed.
example : Scan.whole "..[last()".toList 76 .start = some (.error (.missing "]"), ⟨.moved 9,
    [.begun .predicate 3, .moved 3, .moved 2, .begun .step 0, .begun .path 0, .moved 0]⟩) := by
  rfl

end MarkupRecords.Selector
