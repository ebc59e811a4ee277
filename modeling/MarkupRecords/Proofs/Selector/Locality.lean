import MarkupRecords.Proofs.Selector.Remainder
import Mathlib.Data.List.Basic

/-!
What reading a selector depends on. A reader looks only at what it reads and at the character after
it, so a text that begins with a slash may be put after the one that is read without changing the
outcome, as long as something is left there (`readPath_append_slash`, …); a step may even end where
the slash begins (`readStep_append_slash`). Steps that use up their text are therefore gone on by
whatever begins with a slash (`readPath_append_slash_of_end`).
-/

set_option autoImplicit false
set_option relaxedAutoImplicit false

namespace MarkupRecords.Selector

open Text (Taken after?)

/-! ### Tokens -/

section Tokens

variable {cs rest k : List Char} {p : Char → Bool}

theorem takeWhile_append_slash (hp : p '/' = false) :
    (cs ++ '/' :: k).takeWhile p = cs.takeWhile p := by
  rw [List.takeWhile_append]
  split_ifs with hall
  · rw [List.takeWhile_cons_of_neg (by simp [hp]), List.append_nil]
    exact (List.IsPrefix.eq_of_length (List.takeWhile_prefix p) hall).symm
  · rfl

theorem dropWhile_append_slash (hp : p '/' = false) :
    (cs ++ '/' :: k).dropWhile p = cs.dropWhile p ++ '/' :: k := by
  rw [List.dropWhile_append]
  split_ifs with hall
  · rw [List.isEmpty_iff.mp hall, List.dropWhile_cons_of_neg (by simp [hp]), List.nil_append]
  · rfl

theorem skipBlanks_append_slash : skipBlanks (cs ++ '/' :: k) = skipBlanks cs ++ '/' :: k :=
  dropWhile_append_slash Text.isBlank_slash

theorem any_head?_append_slash (hp : p '/' = false) :
    (cs ++ '/' :: k).head?.any p = cs.head?.any p := by
  cases cs with
  | nil => simp [hp]
  | cons c cs => rfl

theorem head?_append_slash_ne {c : Char} (hc : c ≠ '/') (h : cs.head? ≠ some c) :
    (cs ++ '/' :: k).head? ≠ some c := by
  cases cs with
  | nil => simpa using hc.symm
  | cons d cs => exact h

theorem restAfter?_append_slash {token : List Char} (htoken : '/' ∉ token) :
    restAfter? token (cs ++ '/' :: k) = (restAfter? token cs).map (· ++ '/' :: k) := by
  induction token generalizing cs with
  | nil => rfl
  | cons t token ih =>
    have ht : t ≠ '/' := fun h ↦ htoken (h ▸ List.mem_cons_self)
    cases cs with
    | nil => rw [List.nil_append, restAfter?_cons_cons, if_neg ht, restAfter?_cons_nil]; rfl
    | cons c cs =>
      rw [List.cons_append, restAfter?_cons_cons, restAfter?_cons_cons]
      split_ifs
      · exact ih fun h ↦ htoken (List.mem_cons_of_mem t h)
      · rfl

theorem restAfterWord?_append_slash {word : List Char} (hword : '/' ∉ word) :
    restAfterWord? word (cs ++ '/' :: k) = (restAfterWord? word cs).map (· ++ '/' :: k) := by
  rw [restAfterWord?_eq, restAfterWord?_eq, skipBlanks_append_slash,
    restAfter?_append_slash hword]
  cases restAfter? word (skipBlanks cs) with
  | none => rfl
  | some rest =>
    rw [Option.map_some, Option.filter_some, Option.filter_some,
      any_head?_append_slash not_isNameChar_slash]
    split_ifs <;> rfl

theorem expect_append_slash {c : Char} {u : Unit} (h : plain (expect c cs) = .ok (u, rest)) :
    plain (expect c (cs ++ '/' :: k)) = .ok (u, rest ++ '/' :: k) := by
  rw [plain_expect_eq_ok_iff, skipBlanks_append_slash, plain_expect_eq_ok_iff.mp h,
    List.cons_append]

theorem readName?_append_slash :
    (readName? (cs ++ '/' :: k)).map taken =
      ((readName? cs).map taken).map fun s ↦ (s.1, s.2 ++ '/' :: k) := by
  cases cs with
  | nil =>
    rw [List.nil_append, map_readName?_cons, if_neg (by decide +kernel)]
    rfl
  | cons c cs =>
    rw [List.cons_append, map_readName?_cons, map_readName?_cons,
      takeWhile_append_slash not_isNameChar_slash, dropWhile_append_slash not_isNameChar_slash]
    split_ifs <;> rfl

theorem readNumberText?_append_slash :
    (readNumberText? (cs ++ '/' :: k)).map taken =
      ((readNumberText? cs).map taken).map fun s ↦ (s.1, s.2 ++ '/' :: k) := by
  have hslash : isNumberChar '/' = false := by decide
  cases cs with
  | nil =>
    rw [List.nil_append, map_readNumberText?_cons, if_neg (by decide)]
    rfl
  | cons c cs =>
    rw [List.cons_append, map_readNumberText?_cons, map_readNumberText?_cons,
      takeWhile_append_slash hslash, dropWhile_append_slash hslash]
    split_ifs <;> rfl

theorem readQuoted?_append {q : Char} {content : String} (more : List Char)
    (h : (readQuoted? q cs).map taken = some (content, rest)) :
    (readQuoted? q (cs ++ more)).map taken = some (content, rest ++ more) := by
  rw [map_readQuoted?] at h ⊢
  split at h
  · cases h
  · rename_i c after hdrop
    obtain ⟨rfl, rfl⟩ := Prod.mk.inj (Option.some.inj h)
    have hnot : cs.takeWhile (· ≠ q) ≠ cs := by
      intro hall
      have happend := List.takeWhile_append_dropWhile (p := (· ≠ q)) (l := cs)
      rw [hall, hdrop] at happend
      cases List.append_right_eq_self.mp happend
    have hlength : (cs.takeWhile (· ≠ q)).length ≠ cs.length := fun hlength ↦
      hnot (List.IsPrefix.eq_of_length (List.takeWhile_prefix _) hlength)
    rw [List.dropWhile_append, hdrop, List.takeWhile_append, if_neg hlength]
    rfl

theorem readLiteral_append_slash {l : Literal} (h : plain (readLiteral cs) = .ok (l, rest)) :
    plain (readLiteral (cs ++ '/' :: k)) = .ok (l, rest ++ '/' :: k) := by
  rw [plain_readLiteral, plain_readLiteralHere] at h ⊢
  rw [skipBlanks_append_slash, readNumberText?_append_slash]
  split at h
  · rename_i text after htext
    rw [htext]
    dsimp only [Option.map_some]
    split at h
    · cases h
      rfl
    · cases h
  · rename_i hnone
    rw [hnone]
    dsimp only [Option.map_none]
    split at h
    · cases h
    · rename_i c after hcs
      rw [hcs, List.cons_append]
      dsimp only
      split_ifs at h ⊢
      split at h
      · rename_i content rest' hquoted
        cases h
        rw [readQuoted?_append _ hquoted]
      · cases h

theorem compared_append_slash {operand : Operand} {e : Expr}
    (h : compared operand cs = .ok (e, rest)) :
    compared operand (cs ++ '/' :: k) = .ok (e, rest ++ '/' :: k) := by
  unfold compared at h
  split at h
  · rename_i after hcs
    obtain ⟨_, hliteral, heq⟩ := map_eq_ok_iff.mp h
    cases heq
    rw [compared, skipBlanks_append_slash, hcs, List.cons_append, List.cons_append]
    exact map_eq_ok_iff.mpr ⟨_, readLiteral_append_slash hliteral, rfl⟩
  · rename_i after hcs
    obtain ⟨_, hliteral, heq⟩ := map_eq_ok_iff.mp h
    cases heq
    rw [compared, skipBlanks_append_slash, hcs, List.cons_append]
    exact map_eq_ok_iff.mpr ⟨_, readLiteral_append_slash hliteral, rfl⟩
  · rename_i hnegated hequal
    cases h
    refine compared_exists ?_ ?_
    · rw [skipBlanks_append_slash, restAfter?_append_slash (by decide), Option.map_eq_none_iff]
      exact Option.eq_none_iff_forall_ne_some.mpr fun after hafter ↦
        hnegated after (eq_append_of_restAfter? hafter)
    · rw [skipBlanks_append_slash]
      refine head?_append_slash_ne (by decide) fun hhead ↦ ?_
      obtain ⟨after, hafter⟩ := List.head?_eq_some_iff.mp hhead
      exact hequal after hafter

/-- A point stays the context node if something was left after it. -/
theorem afterContext?_append_slash
    (hleft : ∀ u, (afterContext? cs).map taken ≠ some (u, [])) :
    (afterContext? (cs ++ '/' :: k)).map taken =
      ((afterContext? cs).map taken).map fun s ↦ (s.1, s.2 ++ '/' :: k) := by
  cases cs with
  | nil => rfl
  | cons c cs =>
    rw [List.cons_append, map_afterContext?_cons]
    rw [map_afterContext?_cons] at hleft ⊢
    cases cs with
    | nil =>
      by_cases hc : c = '.'
      · exact absurd (if_pos (by simp [hc])) (hleft ())
      · rw [if_neg fun h ↦ hc h.1, if_neg fun h ↦ hc h.1]
        rfl
    | cons d cs =>
      rw [List.cons_append, List.head?_cons, List.head?_cons]
      split_ifs <;> rfl

theorem readTest_append_slash {axis : Axis} {t : Axis × NodeTest}
    (h : plain (readTest axis cs) = .ok (t, rest)) :
    plain (readTest axis (cs ++ '/' :: k)) = .ok (t, rest ++ '/' :: k) := by
  by_cases hpoint : cs.head? = some '.'
  · obtain ⟨after, rfl⟩ := List.head?_eq_some_iff.mp hpoint
    rw [List.cons_append]
    by_cases hpoints : after.head? = some '.'
    · obtain ⟨after, rfl⟩ := List.head?_eq_some_iff.mp hpoints
      cases h
      rfl
    · rw [plain_readTest_self axis hpoints] at h
      rw [plain_readTest_self axis (head?_append_slash_ne (by decide) hpoints)]
      cases h
      rfl
  by_cases hstar : cs.head? = some '*'
  · obtain ⟨after, rfl⟩ := List.head?_eq_some_iff.mp hstar
    cases h
    rfl
  rw [plain_readTest_of_head? axis hpoint hstar] at h
  rw [plain_readTest_of_head? axis (head?_append_slash_ne (by decide) hpoint)
    (head?_append_slash_ne (by decide) hstar), readName?_append_slash]
  split at h
  · cases h
  · rename_i name after hname
    rw [hname]
    dsimp only [Option.map_some]
    unfold namedTest at h ⊢
    split at h
    · obtain ⟨⟨_, close⟩, hclose, h⟩ := bind_eq_ok_iff.mp h
      rw [List.cons_append]
      refine bind_eq_ok_iff.mpr ⟨_, expect_append_slash hclose, ?_⟩
      dsimp only at h ⊢
      split_ifs at h ⊢ <;> cases h <;> rfl
    · rename_i hopen
      cases h
      refine namedTest_of_head? axis name (head?_append_slash_ne (by decide) ?_)
      intro hhead
      obtain ⟨after, rfl⟩ := List.head?_eq_some_iff.mp hhead
      exact hopen after rfl

end Tokens

/-! ### The grammar -/

theorem ne_nil_of_expect {c : Char} {cs rest : List Char} {u : Unit}
    (h : plain (expect c cs) = .ok (u, rest)) : cs ≠ [] :=
  (expect_suffix h).ne_nil (List.cons_ne_nil c rest)

section Grammar

variable {k : List Char}

mutual

theorem readPath_append_slash (cs : List Char) {path : Path} {rest : List Char}
    (h : plain (readPath cs) = .ok (path, rest)) (hleft : rest ≠ []) :
    plain (readPath (cs ++ '/' :: k)) = .ok (path, rest ++ '/' :: k) := by
  have hblanks := length_skipBlanks_le cs
  by_cases hslash : (skipBlanks cs).head? = some '/'
  · obtain ⟨after, hcs⟩ := List.head?_eq_some_iff.mp hslash
    have hshorter : after.length < cs.length := length_lt_of_skipBlanks_eq_cons hcs
    have hcs' : skipBlanks (cs ++ '/' :: k) = '/' :: (after ++ '/' :: k) := by
      rw [skipBlanks_append_slash, hcs, List.cons_append]
    by_cases hend : after = [] ∨ after.head? = some ']'
    · rw [plain_readPath_root hcs hend] at h
      cases h
      have hclose := hend.resolve_left hleft
      rw [plain_readPath_root hcs' (.inr (by rw [List.head?_append_of_ne_nil _ hleft, hclose]))]
    obtain ⟨hnil, hclose⟩ := not_or.mp hend
    by_cases hslashes : after.head? = some '/'
    · obtain ⟨inner, rfl⟩ := List.head?_eq_some_iff.mp hslashes
      have hinner : inner.length < cs.length := Nat.lt_of_succ_lt hshorter
      rw [plain_readPath_descendant hcs] at h
      obtain ⟨_, hsteps, heq⟩ := map_eq_ok_iff.mp h
      cases heq
      rw [plain_readPath_descendant hcs']
      exact map_eq_ok_iff.mpr ⟨_, readSteps_append_slash .descendant inner hsteps hleft, rfl⟩
    · rw [plain_readPath_child hcs hslashes hnil hclose] at h
      obtain ⟨_, hsteps, heq⟩ := map_eq_ok_iff.mp h
      cases heq
      rw [plain_readPath_child hcs' (by rwa [List.head?_append_of_ne_nil _ hnil])
        (List.append_ne_nil_of_left_ne_nil hnil _) (by rwa [List.head?_append_of_ne_nil _ hnil])]
      exact map_eq_ok_iff.mpr ⟨_, readSteps_append_slash .child after hsteps hleft, rfl⟩
  · rw [plain_readPath_of_head? hslash] at h
    obtain ⟨_, hsteps, heq⟩ := map_eq_ok_iff.mp h
    cases heq
    have hnil := ne_nil_of_readSteps hsteps
    have hhead : (skipBlanks cs ++ '/' :: k).head? = (skipBlanks cs).head? :=
      List.head?_append_of_ne_nil _ hnil
    rw [plain_readPath_of_head? (by rwa [skipBlanks_append_slash, hhead]),
      skipBlanks_append_slash, hhead]
    exact map_eq_ok_iff.mpr ⟨_, readSteps_append_slash .child _ hsteps hleft, rfl⟩
termination_by 8 * cs.length + 2

theorem readSteps_append_slash (axis : Axis) (cs : List Char) {steps : List Step}
    {rest : List Char} (h : plain (readSteps axis cs) = .ok (steps, rest)) (hleft : rest ≠ []) :
    plain (readSteps axis (cs ++ '/' :: k)) = .ok (steps, rest ++ '/' :: k) := by
  obtain ⟨step, after, more, hstep, hmore, rfl⟩ := readSteps_eq_ok_iff.mp h
  have hshorter := length_lt_of_plain_eq_ok hstep
  exact readSteps_eq_ok_iff.mpr ⟨step, after ++ '/' :: k, more, readStep_append_slash axis cs hstep,
    moreSteps_append_slash after hmore hleft, rfl⟩
termination_by 8 * cs.length + 1

theorem moreSteps_append_slash (cs : List Char) {steps : List Step} {rest : List Char}
    (h : moreSteps cs = .ok (steps, rest)) (hleft : rest ≠ []) :
    moreSteps (cs ++ '/' :: k) = .ok (steps, rest ++ '/' :: k) := by
  by_cases hslash : cs.head? = some '/'
  · obtain ⟨after, hcs⟩ := List.head?_eq_some_iff.mp hslash
    have hshorter : after.length < cs.length := hcs ▸ Nat.lt_succ_self after.length
    rw [hcs] at h ⊢
    by_cases hslashes : after.head? = some '/'
    · obtain ⟨inner, rfl⟩ := List.head?_eq_some_iff.mp hslashes
      have hinner : inner.length < cs.length := Nat.lt_of_succ_lt hshorter
      exact readSteps_append_slash .descendant inner h hleft
    · rw [moreSteps_child hslashes] at h
      have hnil := ne_nil_of_readSteps h
      rw [List.cons_append, moreSteps_child (by rwa [List.head?_append_of_ne_nil _ hnil])]
      exact readSteps_append_slash .child after h hleft
  · rw [moreSteps_of_head? hslash] at h
    cases h
    rw [moreSteps_of_head? (by rwa [List.head?_append_of_ne_nil _ hleft])]
termination_by 8 * cs.length

/-- Other than a path, a step may end where the slash begins. -/
theorem readStep_append_slash (axis : Axis) (cs : List Char) {step : Step} {rest : List Char}
    (h : plain (readStep axis cs) = .ok (step, rest)) :
    plain (readStep axis (cs ++ '/' :: k)) = .ok (step, rest ++ '/' :: k) := by
  rw [plain_readStep] at h ⊢
  obtain ⟨⟨test, after⟩, htest, h⟩ := bind_eq_ok_iff.mp h
  obtain ⟨_, hpredicates, heq⟩ := map_eq_ok_iff.mp h
  cases heq
  have hshorter := length_lt_of_plain_eq_ok htest
  refine bind_eq_ok_iff.mpr ⟨_, readTest_append_slash htest, ?_⟩
  exact map_eq_ok_iff.mpr ⟨_, readPredicates_append_slash after hpredicates, rfl⟩
termination_by 8 * cs.length

theorem readPredicates_append_slash (cs : List Char) {predicates : List Predicate}
    {rest : List Char} (h : plain (readPredicates cs) = .ok (predicates, rest)) :
    plain (readPredicates (cs ++ '/' :: k)) = .ok (predicates, rest ++ '/' :: k) := by
  by_cases hbracket : cs.head? = some '['
  · obtain ⟨inner, hcs⟩ := List.head?_eq_some_iff.mp hbracket
    have hinner : inner.length < cs.length := hcs ▸ Nat.lt_succ_self inner.length
    rw [hcs, plain_readPredicates_bracket] at h
    obtain ⟨⟨predicate, after⟩, hpredicate, h⟩ := bind_eq_ok_iff.mp h
    obtain ⟨⟨_, close⟩, hclose, h⟩ := bind_eq_ok_iff.mp h
    obtain ⟨_, hmore, heq⟩ := map_eq_ok_iff.mp h
    cases heq
    have hshorter : after.length < inner.length := length_lt_of_plain_eq_ok hpredicate
    have hshorter' : close.length < after.length := length_lt_of_plain_eq_ok hclose
    have hpredicate' := readPredicate_append_slash inner hpredicate (ne_nil_of_expect hclose)
    rw [hcs, List.cons_append, plain_readPredicates_bracket]
    refine bind_eq_ok_iff.mpr ⟨_, hpredicate', ?_⟩
    refine bind_eq_ok_iff.mpr ⟨_, expect_append_slash hclose, ?_⟩
    exact map_eq_ok_iff.mpr ⟨_, readPredicates_append_slash close hmore, rfl⟩
  · rw [plain_readPredicates_of_head? hbracket] at h
    cases h
    rw [plain_readPredicates_of_head? (head?_append_slash_ne (by decide) hbracket)]
termination_by 8 * cs.length

theorem readPredicate_append_slash (cs : List Char) {predicate : Predicate} {rest : List Char}
    (h : plain (readPredicate cs) = .ok (predicate, rest)) (hleft : rest ≠ []) :
    plain (readPredicate (cs ++ '/' :: k)) = .ok (predicate, rest ++ '/' :: k) := by
  have hblanks := length_skipBlanks_le cs
  cases hdigit : (skipBlanks cs).head?.any Char.isDigit with
  | true =>
    obtain ⟨c, hhead, hc⟩ := (Option.any_eq_true _ _).mp hdigit
    obtain ⟨after, hcs⟩ := List.head?_eq_some_iff.mp hhead
    have hcs' : skipBlanks (cs ++ '/' :: k) = c :: (after ++ '/' :: k) := by
      rw [skipBlanks_append_slash, hcs, List.cons_append]
    rw [plain_readPredicate_digit hcs hc] at h
    rw [plain_readPredicate_digit hcs' hc, takeWhile_append_slash (by decide),
      dropWhile_append_slash (by decide)]
    split at h
    · cases h
      rfl
    · cases h
  | false =>
    rw [plain_readPredicate_of_head? hdigit, lastOrCondition] at h
    rw [plain_readPredicate_of_head? (by
      rwa [skipBlanks_append_slash, any_head?_append_slash (by decide)]), lastOrCondition,
      skipBlanks_append_slash, restAfter?_append_slash (by decide)]
    split at h
    · rename_i hlast
      cases h
      rw [hlast]
      rfl
    · rename_i hlast
      obtain ⟨_, hcondition, heq⟩ := map_eq_ok_iff.mp h
      cases heq
      rw [hlast]
      exact map_eq_ok_iff.mpr ⟨_, readOr_append_slash _ hcondition hleft, rfl⟩
termination_by 8 * cs.length + 7

theorem readOr_append_slash (cs : List Char) {e : Expr} {rest : List Char}
    (h : plain (readOr cs) = .ok (e, rest)) (hleft : rest ≠ []) :
    plain (readOr (cs ++ '/' :: k)) = .ok (e, rest ++ '/' :: k) := by
  rw [plain_readOr] at h ⊢
  obtain ⟨⟨first, after⟩, hfirst, h⟩ := bind_eq_ok_iff.mp h
  have hshorter := length_lt_of_plain_eq_ok hfirst
  have hafter := (readOrs_suffix first after h).ne_nil hleft
  refine bind_eq_ok_iff.mpr ⟨_, readAnd_append_slash cs hfirst hafter, ?_⟩
  exact readOrs_append_slash first after h hleft
termination_by 8 * cs.length + 6

theorem readOrs_append_slash (left : Expr) (cs : List Char) {e : Expr} {rest : List Char}
    (h : plain (readOrs left cs) = .ok (e, rest)) (hleft : rest ≠ []) :
    plain (readOrs left (cs ++ '/' :: k)) = .ok (e, rest ++ '/' :: k) := by
  rw [plain_readOrs] at h ⊢
  rw [restAfterWord?_append_slash (by decide)]
  split at h
  · rename_i hword
    cases h
    rw [hword]
    rfl
  · rename_i start hword
    obtain ⟨⟨right, after⟩, hright, h⟩ := bind_eq_ok_iff.mp h
    have hstart : start.length + 2 ≤ cs.length := length_restAfterWord? hword
    have hshorter := length_lt_of_plain_eq_ok hright
    have hafter := (readOrs_suffix (.or left right) after h).ne_nil hleft
    rw [hword]
    refine bind_eq_ok_iff.mpr ⟨_, readAnd_append_slash start hright hafter, ?_⟩
    exact readOrs_append_slash (.or left right) after h hleft
termination_by 8 * cs.length

theorem readAnd_append_slash (cs : List Char) {e : Expr} {rest : List Char}
    (h : plain (readAnd cs) = .ok (e, rest)) (hleft : rest ≠ []) :
    plain (readAnd (cs ++ '/' :: k)) = .ok (e, rest ++ '/' :: k) := by
  rw [plain_readAnd] at h ⊢
  obtain ⟨⟨first, after⟩, hfirst, h⟩ := bind_eq_ok_iff.mp h
  have hshorter := length_lt_of_plain_eq_ok hfirst
  have hafter := (readAnds_suffix first after h).ne_nil hleft
  refine bind_eq_ok_iff.mpr ⟨_, readComparison_append_slash cs hfirst hafter, ?_⟩
  exact readAnds_append_slash first after h hleft
termination_by 8 * cs.length + 5

theorem readAnds_append_slash (left : Expr) (cs : List Char) {e : Expr} {rest : List Char}
    (h : plain (readAnds left cs) = .ok (e, rest)) (hleft : rest ≠ []) :
    plain (readAnds left (cs ++ '/' :: k)) = .ok (e, rest ++ '/' :: k) := by
  rw [plain_readAnds] at h ⊢
  rw [restAfterWord?_append_slash (by decide)]
  split at h
  · rename_i hword
    cases h
    rw [hword]
    rfl
  · rename_i start hword
    obtain ⟨⟨right, after⟩, hright, h⟩ := bind_eq_ok_iff.mp h
    have hstart : start.length + 3 ≤ cs.length := length_restAfterWord? hword
    have hshorter := length_lt_of_plain_eq_ok hright
    have hafter := (readAnds_suffix (.and left right) after h).ne_nil hleft
    rw [hword]
    refine bind_eq_ok_iff.mpr ⟨_, readComparison_append_slash start hright hafter, ?_⟩
    exact readAnds_append_slash (.and left right) after h hleft
termination_by 8 * cs.length

theorem readComparison_append_slash (cs : List Char) {e : Expr} {rest : List Char}
    (h : plain (readComparison cs) = .ok (e, rest)) (hleft : rest ≠ []) :
    plain (readComparison (cs ++ '/' :: k)) = .ok (e, rest ++ '/' :: k) := by
  have hblanks := length_skipBlanks_le cs
  by_cases hopen : (skipBlanks cs).head? = some '('
  · obtain ⟨start, hcs⟩ := List.head?_eq_some_iff.mp hopen
    have hshorter : start.length < cs.length := length_lt_of_skipBlanks_eq_cons hcs
    rw [plain_readComparison, hcs] at h
    obtain ⟨⟨inner, after⟩, hinner, h⟩ := bind_eq_ok_iff.mp h
    obtain ⟨⟨_, close⟩, hclose, heq⟩ := map_eq_ok_iff.mp h
    cases heq
    have hinner' := readOr_append_slash start hinner (ne_nil_of_expect hclose)
    rw [plain_readComparison, skipBlanks_append_slash, hcs, List.cons_append]
    refine bind_eq_ok_iff.mpr ⟨_, hinner', ?_⟩
    exact map_eq_ok_iff.mpr ⟨_, expect_append_slash hclose, rfl⟩
  · rw [plain_readComparison_of_head? hopen] at h
    obtain ⟨⟨operand, after⟩, hoperand, h⟩ := bind_eq_ok_iff.mp h
    have hafter := (compared_suffix h).ne_nil hleft
    rw [plain_readComparison_of_head? (by
      rw [skipBlanks_append_slash]
      exact head?_append_slash_ne (by decide) hopen), skipBlanks_append_slash]
    refine bind_eq_ok_iff.mpr ⟨_, readOperand_append_slash _ hoperand hafter, ?_⟩
    exact compared_append_slash h
termination_by 8 * cs.length + 4

theorem readOperand_append_slash (cs : List Char) {operand : Operand} {rest : List Char}
    (h : plain (readOperand cs) = .ok (operand, rest)) (hleft : rest ≠ []) :
    plain (readOperand (cs ++ '/' :: k)) = .ok (operand, rest ++ '/' :: k) := by
  by_cases hat : cs.head? = some '@'
  · obtain ⟨start, rfl⟩ := List.head?_eq_some_iff.mp hat
    rw [plain_readOperand_attribute] at h
    rw [List.cons_append, plain_readOperand_attribute, readName?_append_slash]
    split at h
    · rename_i hname
      cases h
      rw [hname]
      rfl
    · cases h
  rw [plain_readOperand_of_head? hat] at h
  rw [plain_readOperand_of_head? (head?_append_slash_ne (by decide) hat),
    restAfter?_append_slash (by decide)]
  split at h
  · rename_i htext
    cases h
    rw [htext]
    rfl
  · rename_i htext
    rw [htext]
    dsimp only [Option.map_none]
    rw [afterContext?_append_slash fun u hcontext ↦ ?_]
    · split at h
      · rename_i hcontext
        cases h
        rw [hcontext]
        rfl
      · rename_i hcontext
        obtain ⟨_, hpath, heq⟩ := map_eq_ok_iff.mp h
        cases heq
        rw [hcontext]
        exact map_eq_ok_iff.mpr ⟨_, readPath_append_slash cs hpath hleft, rfl⟩
    · rw [hcontext] at h
      cases h
      exact hleft rfl
termination_by 8 * cs.length + 3

end

/-- What follows steps that use up their text is read as further steps. -/
theorem readSteps_append_slash_of_end (axis : Axis) (cs : List Char) {steps : List Step}
    (h : plain (readSteps axis cs) = .ok (steps, [])) :
    plain (readSteps axis (cs ++ '/' :: k)) =
      (moreSteps ('/' :: k)).map fun more ↦ (steps ++ more.1, more.2) := by
  obtain ⟨step, after, more, hstep, hmore, rfl⟩ := readSteps_eq_ok_iff.mp h
  have hshorter : after.length < cs.length := length_lt_of_plain_eq_ok hstep
  rw [plain_readSteps, readStep_append_slash axis cs hstep, Except.bind]
  unfold moreSteps at hmore
  split at hmore
  · rename_i inner
    have hinner : inner.length < cs.length := Nat.lt_of_succ_lt (Nat.lt_of_succ_lt hshorter)
    rw [List.cons_append, List.cons_append, moreSteps_descendant,
      readSteps_append_slash_of_end .descendant inner hmore]
    cases moreSteps ('/' :: k) <;> rfl
  · rename_i inner hslash
    have hinner : inner.length < cs.length := Nat.lt_of_succ_lt hshorter
    have hnil := ne_nil_of_readSteps hmore
    have hhead : (inner ++ '/' :: k).head? ≠ some '/' := by
      rw [List.head?_append_of_ne_nil _ hnil]
      intro hhead
      obtain ⟨rest, rfl⟩ := List.head?_eq_some_iff.mp hhead
      exact hslash rest rfl
    rw [List.cons_append, moreSteps_child hhead, readSteps_append_slash_of_end .child inner hmore]
    cases moreSteps ('/' :: k) <;> rfl
  · cases hmore
    rfl
termination_by cs.length

/-- What follows a path that uses up its text is read as further steps. -/
theorem readPath_append_slash_of_end {cs : List Char} {path : Path}
    (h : plain (readPath cs) = .ok (path, [])) (hsteps : path.steps ≠ []) :
    plain (readPath (cs ++ '/' :: k)) =
      (moreSteps ('/' :: k)).map fun more ↦
        ({ path with steps := path.steps ++ more.1 }, more.2) := by
  by_cases hslash : (skipBlanks cs).head? = some '/'
  · obtain ⟨after, hcs⟩ := List.head?_eq_some_iff.mp hslash
    have hcs' : skipBlanks (cs ++ '/' :: k) = '/' :: (after ++ '/' :: k) := by
      rw [skipBlanks_append_slash, hcs, List.cons_append]
    by_cases hend : after = [] ∨ after.head? = some ']'
    · rw [plain_readPath_root hcs hend] at h
      cases h
      exact absurd rfl hsteps
    obtain ⟨hnil, hclose⟩ := not_or.mp hend
    by_cases hslashes : after.head? = some '/'
    · obtain ⟨inner, rfl⟩ := List.head?_eq_some_iff.mp hslashes
      rw [plain_readPath_descendant hcs] at h
      obtain ⟨⟨steps, _⟩, hread, heq⟩ := map_eq_ok_iff.mp h
      cases heq
      rw [List.cons_append] at hcs'
      rw [plain_readPath_descendant hcs', readSteps_append_slash_of_end .descendant inner hread]
      cases moreSteps ('/' :: k) <;> rfl
    · rw [plain_readPath_child hcs hslashes hnil hclose] at h
      obtain ⟨⟨steps, _⟩, hread, heq⟩ := map_eq_ok_iff.mp h
      cases heq
      rw [plain_readPath_child hcs' (by rwa [List.head?_append_of_ne_nil _ hnil])
        (List.append_ne_nil_of_left_ne_nil hnil _) (by rwa [List.head?_append_of_ne_nil _ hnil]),
        readSteps_append_slash_of_end .child after hread]
      cases moreSteps ('/' :: k) <;> rfl
  · rw [plain_readPath_of_head? hslash] at h
    obtain ⟨⟨steps, _⟩, hread, heq⟩ := map_eq_ok_iff.mp h
    cases heq
    have hhead : (skipBlanks cs ++ '/' :: k).head? = (skipBlanks cs).head? :=
      List.head?_append_of_ne_nil _ (ne_nil_of_readSteps hread)
    rw [plain_readPath_of_head? (by rwa [skipBlanks_append_slash, hhead]),
      skipBlanks_append_slash, hhead, readSteps_append_slash_of_end .child _ hread]
    cases moreSteps ('/' :: k) <;> rfl

end Grammar

end MarkupRecords.Selector
