import MarkupRecords.Proofs.Selector.Character
import MarkupRecords.Proofs.Selector.Grammar
import MarkupRecords.Proofs.Text.Ends

/-!
What reading a selector leaves. Every token and every part of the grammar leaves an end of the text
that it is read from (`readPath_suffix`, …). A name is read exactly where no character after it goes
on it (`map_readName?_eq_some_iff`), and what is read for steps ends neither in a slash nor in a
blank (`readSteps_ends`). So a text without blanks around it denotes a selector if and only if its
path is read from all of it (`ofText?_eq_ok_iff_readPath`).
-/

set_option autoImplicit false
set_option relaxedAutoImplicit false

namespace MarkupRecords.Selector

open Text (Taken after? Stops stops_dropWhile takeWhile_append_of_stops dropWhile_append_of_stops)

/-! ### What tokens leave -/

theorem skipBlanks_suffix (cs : List Char) : skipBlanks cs <:+ cs := List.dropWhile_suffix _

theorem skipBlanks_eq_self_of_trim {cs : List Char} (htrim : Text.trim cs = cs) :
    skipBlanks cs = cs :=
  Text.dropStart_eq_self_iff.mpr (Text.trim_eq_self_iff.mp htrim).1

theorem length_lt_of_skipBlanks_eq_cons {c : Char} {cs rest : List Char}
    (h : skipBlanks cs = c :: rest) : rest.length < cs.length := by
  have hblanks := length_skipBlanks_le cs
  rw [h] at hblanks
  exact hblanks

theorem eq_append_of_restAfter? {token cs rest : List Char} (h : restAfter? token cs = some rest) :
    cs = token ++ rest := by
  induction token generalizing cs with
  | nil =>
    rw [restAfter?_nil] at h
    exact Option.some.inj h
  | cons t token ih =>
    cases cs with
    | nil => exact absurd h (by simp [restAfter?_cons_nil])
    | cons c cs =>
      rw [restAfter?_cons_cons] at h
      split_ifs at h with htc
      rw [htc, ih h, List.cons_append]

theorem restAfter?_suffix {token cs rest : List Char} (h : restAfter? token cs = some rest) :
    rest <:+ cs := by
  rw [eq_append_of_restAfter? h]
  exact List.suffix_append token rest

theorem restAfterWord?_suffix {word cs rest : List Char} (h : restAfterWord? word cs = some rest) :
    rest <:+ cs := by
  rw [restAfterWord?_eq] at h
  have hrest := (Option.filter_eq_some_iff.mp h).1
  exact (restAfter?_suffix hrest).trans (skipBlanks_suffix cs)

/-- A character is found exactly if it comes next after blanks. -/
theorem plain_expect_eq_ok_iff {c : Char} {cs rest : List Char} {u : Unit} :
    plain (expect c cs) = .ok (u, rest) ↔ skipBlanks cs = c :: rest := by
  rw [plain_expect]
  cases skipBlanks cs with
  | nil => simp
  | cons d ds =>
    by_cases hcd : c = d
    · subst hcd
      simp
    · simp [hcd, Ne.symm hcd]

theorem expect_suffix {c : Char} {cs rest : List Char} {u : Unit}
    (h : plain (expect c cs) = .ok (u, rest)) : c :: rest <:+ cs := by
  rw [← plain_expect_eq_ok_iff.mp h]
  exact skipBlanks_suffix cs

/-- A name is read off the front of a text exactly if no character after it goes on it. -/
theorem map_readName?_eq_some_iff {cs rest : List Char} {name : String} :
    (readName? cs).map taken = some (name, rest) ↔
      cs = name.toList ++ rest ∧ isName name = true ∧ Stops isNameChar rest := by
  cases cs with
  | nil =>
    constructor
    · intro h
      cases h
    · rintro ⟨hempty, hname, -⟩
      have hnil : name.toList = [] := (List.append_eq_nil_iff.mp hempty.symm).1
      simp [isName, hnil] at hname
  | cons c cs =>
    rw [map_readName?_cons]
    constructor
    · intro h
      split_ifs at h with hstart
      obtain ⟨rfl, rfl⟩ := Prod.mk.inj (Option.some.inj h)
      refine ⟨?_, ?_, stops_dropWhile isNameChar cs⟩
      · rw [String.toList_ofList, List.cons_append, List.takeWhile_append_dropWhile]
      · rw [isName, String.toList_ofList]
        exact Bool.and_eq_true_iff.mpr ⟨hstart, List.all_takeWhile⟩
    · rintro ⟨hcs, hname, hstops⟩
      unfold isName at hname
      split at hname
      · cases hname
      · rename_i d ds hds
        rw [hds, List.cons_append] at hcs
        obtain ⟨rfl, rfl⟩ := List.cons.inj hcs
        obtain ⟨hstart, hall⟩ := Bool.and_eq_true_iff.mp hname
        have hds' := List.all_eq_true.mp hall
        rw [if_pos hstart, takeWhile_append_of_stops hds' hstops,
          dropWhile_append_of_stops hds' hstops, ← hds, String.ofList_toList]

theorem readName?_suffix {cs rest : List Char} {name : String}
    (h : (readName? cs).map taken = some (name, rest)) : rest <:+ cs := by
  rw [(map_readName?_eq_some_iff.mp h).1]
  exact List.suffix_append _ rest

theorem readNumberText?_suffix {cs text rest : List Char}
    (h : (readNumberText? cs).map taken = some (text, rest)) : rest <:+ cs := by
  cases cs with
  | nil => cases h
  | cons c cs =>
    rw [map_readNumberText?_cons] at h
    split_ifs at h
    obtain ⟨rfl, rfl⟩ := Prod.mk.inj (Option.some.inj h)
    exact (List.dropWhile_suffix _).trans (List.suffix_cons c cs)

theorem readQuoted?_suffix {q : Char} {cs rest : List Char} {content : String}
    (h : (readQuoted? q cs).map taken = some (content, rest)) : rest <:+ cs := by
  rw [map_readQuoted?] at h
  split at h
  · cases h
  · rename_i c after hdrop
    obtain ⟨-, rfl⟩ := Prod.mk.inj (Option.some.inj h)
    exact (List.suffix_cons c after).trans (hdrop ▸ List.dropWhile_suffix _)

theorem readLiteral_suffix {cs rest : List Char} {l : Literal}
    (h : plain (readLiteral cs) = .ok (l, rest)) : rest <:+ cs := by
  refine List.IsSuffix.trans ?_ (skipBlanks_suffix cs)
  rw [plain_readLiteral, plain_readLiteralHere] at h
  split at h
  · rename_i text after htext
    split at h
    · cases h
      exact readNumberText?_suffix htext
    · cases h
  · split at h
    · cases h
    · rename_i c after hcs
      split_ifs at h
      split at h
      · rename_i content rest' hquoted
        cases h
        rw [hcs]
        exact (readQuoted?_suffix hquoted).trans (List.suffix_cons c after)
      · cases h

theorem compared_suffix {operand : Operand} {cs rest : List Char} {e : Expr}
    (h : compared operand cs = .ok (e, rest)) : rest <:+ cs := by
  unfold compared at h
  split at h
  · rename_i after hcs
    obtain ⟨_, hliteral, heq⟩ := map_eq_ok_iff.mp h
    cases heq
    have hafter := (List.suffix_append ['!', '='] after).trans (hcs ▸ skipBlanks_suffix cs)
    exact (readLiteral_suffix hliteral).trans hafter
  · rename_i after hcs
    obtain ⟨_, hliteral, heq⟩ := map_eq_ok_iff.mp h
    cases heq
    have hafter := (List.suffix_cons '=' after).trans (hcs ▸ skipBlanks_suffix cs)
    exact (readLiteral_suffix hliteral).trans hafter
  · cases h
    exact List.suffix_rfl

theorem afterContext?_suffix {cs rest : List Char} {u : Unit}
    (h : (afterContext? cs).map taken = some (u, rest)) : rest <:+ cs := by
  cases cs with
  | nil => cases h
  | cons c after =>
    rw [map_afterContext?_cons] at h
    split_ifs at h
    cases h
    exact List.suffix_cons c _

/-- A text leaves `rest`, and what was read of it ends in a character that is neither a slash nor
blank. -/
def EndsBefore (rest cs : List Char) : Prop :=
  ∃ c, c ≠ '/' ∧ Text.isBlank c = false ∧ c :: rest <:+ cs

theorem EndsBefore.trans {rest after cs : List Char} (h : EndsBefore rest after)
    (hafter : after <:+ cs) : EndsBefore rest cs := by
  obtain ⟨c, hslash, hblank, hsuffix⟩ := h
  exact ⟨c, hslash, hblank, hsuffix.trans hafter⟩

theorem EndsBefore.suffix {rest cs : List Char} (h : EndsBefore rest cs) : rest <:+ cs := by
  obtain ⟨c, -, -, hsuffix⟩ := h
  exact (List.suffix_cons c rest).trans hsuffix

/-- Something is read for a test. -/
theorem readTest_ends {axis : Axis} {cs rest : List Char} {t : Axis × NodeTest}
    (h : plain (readTest axis cs) = .ok (t, rest)) : EndsBefore rest cs := by
  by_cases hpoint : cs.head? = some '.'
  · obtain ⟨cs, rfl⟩ := List.head?_eq_some_iff.mp hpoint
    refine ⟨'.', by decide, by decide +kernel, ?_⟩
    by_cases hpoints : cs.head? = some '.'
    · obtain ⟨cs, rfl⟩ := List.head?_eq_some_iff.mp hpoints
      cases h
      exact List.suffix_cons _ _
    · rw [plain_readTest_self axis hpoints] at h
      cases h
      exact List.suffix_rfl
  by_cases hstar : cs.head? = some '*'
  · obtain ⟨cs, rfl⟩ := List.head?_eq_some_iff.mp hstar
    cases h
    exact ⟨'*', by decide, by decide +kernel, List.suffix_rfl⟩
  rw [plain_readTest_of_head? axis hpoint hstar] at h
  split at h
  · cases h
  · rename_i name after hname
    obtain ⟨rfl, hisName, -⟩ := map_readName?_eq_some_iff.mp hname
    unfold namedTest at h
    split at h
    · obtain ⟨⟨_, close⟩, hclose, h⟩ := bind_eq_ok_iff.mp h
      have hrest : close = rest := by
        split_ifs at h <;> cases h <;> rfl
      refine ⟨')', by decide, by decide +kernel, ?_⟩
      have hsuffix := (expect_suffix (hrest ▸ hclose)).trans (List.suffix_cons '(' _)
      exact hsuffix.trans (List.suffix_append _ _)
    · cases h
      rcases List.eq_nil_or_concat name.toList with hnil | ⟨front, c, hconcat⟩
      · simp [isName, hnil] at hisName
      · have hc : c ∈ name.toList := by
          rw [hconcat, List.concat_eq_append]
          exact List.mem_append_right front List.mem_cons_self
        have hnameChar := isNameChar_of_mem hisName hc
        refine ⟨c, ?_, isBlank_eq_false_of_isNameChar hnameChar, front, ?_⟩
        · rintro rfl
          rw [not_isNameChar_slash] at hnameChar
          cases hnameChar
        · rw [hconcat, List.concat_eq_append, List.append_assoc, List.singleton_append]

/-! ### What the grammar leaves -/

mutual

theorem readPath_suffix (cs : List Char) {path : Path} {rest : List Char}
    (h : plain (readPath cs) = .ok (path, rest)) : rest <:+ cs := by
  refine List.IsSuffix.trans ?_ (skipBlanks_suffix cs)
  have hblanks := length_skipBlanks_le cs
  rw [plain_readPath] at h
  split at h
  · rename_i after hcs
    have hshorter : after.length + 1 < cs.length := length_lt_of_skipBlanks_eq_cons hcs
    rw [hcs]
    obtain ⟨_, hsteps, heq⟩ := map_eq_ok_iff.mp h
    cases heq
    exact (readSteps_suffix .descendant _ hsteps).trans (List.suffix_append ['/', '/'] _)
  · rename_i after _ hcs
    have hshorter : after.length < cs.length := length_lt_of_skipBlanks_eq_cons hcs
    rw [hcs]
    split_ifs at h
    · cases h
      exact List.suffix_cons '/' _
    · obtain ⟨_, hsteps, heq⟩ := map_eq_ok_iff.mp h
      cases heq
      exact (readSteps_suffix .child _ hsteps).trans (List.suffix_cons '/' _)
  · obtain ⟨_, hsteps, heq⟩ := map_eq_ok_iff.mp h
    cases heq
    exact readSteps_suffix .child _ hsteps
termination_by 8 * cs.length + 2

theorem readSteps_suffix (axis : Axis) (cs : List Char) {steps : List Step} {rest : List Char}
    (h : plain (readSteps axis cs) = .ok (steps, rest)) : rest <:+ cs := by
  obtain ⟨step, after, more, hstep, hmore, -⟩ := readSteps_eq_ok_iff.mp h
  have hshorter := length_lt_of_plain_eq_ok hstep
  exact (moreSteps_suffix after hmore).trans (readStep_suffix axis cs hstep)
termination_by 8 * cs.length + 1

theorem moreSteps_suffix (cs : List Char) {steps : List Step} {rest : List Char}
    (h : moreSteps cs = .ok (steps, rest)) : rest <:+ cs := by
  unfold moreSteps at h
  split at h
  · exact (readSteps_suffix .descendant _ h).trans (List.suffix_append ['/', '/'] _)
  · exact (readSteps_suffix .child _ h).trans (List.suffix_cons '/' _)
  · cases h
    exact List.suffix_rfl
termination_by 8 * cs.length

theorem readStep_suffix (axis : Axis) (cs : List Char) {step : Step} {rest : List Char}
    (h : plain (readStep axis cs) = .ok (step, rest)) : rest <:+ cs := by
  rw [plain_readStep] at h
  obtain ⟨⟨test, after⟩, htest, h⟩ := bind_eq_ok_iff.mp h
  obtain ⟨_, hpredicates, heq⟩ := map_eq_ok_iff.mp h
  cases heq
  have hshorter := length_lt_of_plain_eq_ok htest
  exact (readPredicates_suffix after hpredicates).trans (readTest_ends htest).suffix
termination_by 8 * cs.length

theorem readPredicates_suffix (cs : List Char) {predicates : List Predicate} {rest : List Char}
    (h : plain (readPredicates cs) = .ok (predicates, rest)) : rest <:+ cs := by
  by_cases hbracket : cs.head? = some '['
  · obtain ⟨inner, hcs⟩ := List.head?_eq_some_iff.mp hbracket
    have hinner : inner.length < cs.length := hcs ▸ Nat.lt_succ_self inner.length
    rw [hcs, plain_readPredicates_bracket] at h
    obtain ⟨⟨predicate, after⟩, hpredicate, h⟩ := bind_eq_ok_iff.mp h
    obtain ⟨⟨_, close⟩, hclose, h⟩ := bind_eq_ok_iff.mp h
    obtain ⟨_, hmore, heq⟩ := map_eq_ok_iff.mp h
    cases heq
    have hshorter : after.length < inner.length := length_lt_of_plain_eq_ok hpredicate
    have hshorter' : close.length < after.length := length_lt_of_plain_eq_ok hclose
    have hafter := (readPredicate_suffix inner hpredicate).trans (List.suffix_cons '[' inner)
    have hclose := (List.suffix_cons ']' close).trans (expect_suffix hclose)
    rw [hcs]
    exact (readPredicates_suffix close hmore).trans (hclose.trans hafter)
  · rw [plain_readPredicates_of_head? hbracket] at h
    cases h
    exact List.suffix_rfl
termination_by 8 * cs.length

theorem readPredicate_suffix (cs : List Char) {predicate : Predicate} {rest : List Char}
    (h : plain (readPredicate cs) = .ok (predicate, rest)) : rest <:+ cs := by
  have hblanks := length_skipBlanks_le cs
  refine List.IsSuffix.trans ?_ (skipBlanks_suffix cs)
  rw [plain_readPredicate] at h
  split at h
  · rename_i htext
    split at h
    · cases h
      exact readNumberText?_suffix htext
    · cases h
  · unfold lastOrCondition at h
    split at h
    · rename_i hlast
      cases h
      exact restAfter?_suffix hlast
    · obtain ⟨_, hcondition, heq⟩ := map_eq_ok_iff.mp h
      cases heq
      exact readOr_suffix _ hcondition
termination_by 8 * cs.length + 7

theorem readOr_suffix (cs : List Char) {e : Expr} {rest : List Char}
    (h : plain (readOr cs) = .ok (e, rest)) : rest <:+ cs := by
  rw [plain_readOr] at h
  obtain ⟨⟨first, after⟩, hfirst, h⟩ := bind_eq_ok_iff.mp h
  have hshorter := length_lt_of_plain_eq_ok hfirst
  exact (readOrs_suffix first after h).trans (readAnd_suffix cs hfirst)
termination_by 8 * cs.length + 6

theorem readOrs_suffix (left : Expr) (cs : List Char) {e : Expr} {rest : List Char}
    (h : plain (readOrs left cs) = .ok (e, rest)) : rest <:+ cs := by
  rw [plain_readOrs] at h
  split at h
  · cases h
    exact List.suffix_rfl
  · rename_i start hword
    obtain ⟨⟨right, after⟩, hright, h⟩ := bind_eq_ok_iff.mp h
    have hstart : start.length + 2 ≤ cs.length := length_restAfterWord? hword
    have hshorter := length_lt_of_plain_eq_ok hright
    have hafter := (readAnd_suffix start hright).trans (restAfterWord?_suffix hword)
    exact (readOrs_suffix (.or left right) after h).trans hafter
termination_by 8 * cs.length

theorem readAnd_suffix (cs : List Char) {e : Expr} {rest : List Char}
    (h : plain (readAnd cs) = .ok (e, rest)) : rest <:+ cs := by
  rw [plain_readAnd] at h
  obtain ⟨⟨first, after⟩, hfirst, h⟩ := bind_eq_ok_iff.mp h
  have hshorter := length_lt_of_plain_eq_ok hfirst
  exact (readAnds_suffix first after h).trans (readComparison_suffix cs hfirst)
termination_by 8 * cs.length + 5

theorem readAnds_suffix (left : Expr) (cs : List Char) {e : Expr} {rest : List Char}
    (h : plain (readAnds left cs) = .ok (e, rest)) : rest <:+ cs := by
  rw [plain_readAnds] at h
  split at h
  · cases h
    exact List.suffix_rfl
  · rename_i start hword
    obtain ⟨⟨right, after⟩, hright, h⟩ := bind_eq_ok_iff.mp h
    have hstart : start.length + 3 ≤ cs.length := length_restAfterWord? hword
    have hshorter := length_lt_of_plain_eq_ok hright
    have hafter := (readComparison_suffix start hright).trans (restAfterWord?_suffix hword)
    exact (readAnds_suffix (.and left right) after h).trans hafter
termination_by 8 * cs.length

theorem readComparison_suffix (cs : List Char) {e : Expr} {rest : List Char}
    (h : plain (readComparison cs) = .ok (e, rest)) : rest <:+ cs := by
  have hblanks := length_skipBlanks_le cs
  refine List.IsSuffix.trans ?_ (skipBlanks_suffix cs)
  rw [plain_readComparison] at h
  split at h
  · rename_i start hcs
    have hshorter : start.length < cs.length := length_lt_of_skipBlanks_eq_cons hcs
    rw [hcs]
    obtain ⟨⟨inner, after⟩, hinner, h⟩ := bind_eq_ok_iff.mp h
    obtain ⟨⟨_, close⟩, hclose, heq⟩ := map_eq_ok_iff.mp h
    cases heq
    have hafter := (readOr_suffix _ hinner).trans (List.suffix_cons '(' _)
    exact ((List.suffix_cons ')' close).trans (expect_suffix hclose)).trans hafter
  · obtain ⟨⟨operand, after⟩, hoperand, h⟩ := bind_eq_ok_iff.mp h
    exact (compared_suffix h).trans (readOperand_suffix _ hoperand)
termination_by 8 * cs.length + 4

theorem readOperand_suffix (cs : List Char) {operand : Operand} {rest : List Char}
    (h : plain (readOperand cs) = .ok (operand, rest)) : rest <:+ cs := by
  by_cases hat : cs.head? = some '@'
  · obtain ⟨cs, rfl⟩ := List.head?_eq_some_iff.mp hat
    rw [plain_readOperand_attribute] at h
    split at h
    · rename_i hname
      cases h
      exact (readName?_suffix hname).trans (List.suffix_cons '@' cs)
    · cases h
  · rw [plain_readOperand_of_head? hat] at h
    split at h
    · rename_i htext
      cases h
      exact restAfter?_suffix htext
    · split at h
      · rename_i hcontext
        cases h
        exact afterContext?_suffix hcontext
      · obtain ⟨_, hpath, heq⟩ := map_eq_ok_iff.mp h
        cases heq
        exact readPath_suffix cs hpath
termination_by 8 * cs.length + 3

end

/-! ### Where steps end -/

/-- Predicates end in a bracket, if there are any. -/
theorem readPredicates_ends (cs : List Char) {predicates : List Predicate} {rest : List Char}
    (h : plain (readPredicates cs) = .ok (predicates, rest)) : rest = cs ∨ ']' :: rest <:+ cs := by
  by_cases hbracket : cs.head? = some '['
  · obtain ⟨inner, hcs⟩ := List.head?_eq_some_iff.mp hbracket
    have hinner : inner.length < cs.length := hcs ▸ Nat.lt_succ_self inner.length
    rw [hcs, plain_readPredicates_bracket] at h
    obtain ⟨⟨predicate, after⟩, hpredicate, h⟩ := bind_eq_ok_iff.mp h
    obtain ⟨⟨_, close⟩, hclose, h⟩ := bind_eq_ok_iff.mp h
    obtain ⟨_, hmore, heq⟩ := map_eq_ok_iff.mp h
    cases heq
    have hshorter : after.length < inner.length := length_lt_of_plain_eq_ok hpredicate
    have hshorter' : close.length < after.length := length_lt_of_plain_eq_ok hclose
    have hafter := (readPredicate_suffix inner hpredicate).trans (List.suffix_cons '[' inner)
    have hclosed := (expect_suffix hclose).trans hafter
    rw [hcs]
    refine .inr ?_
    rcases readPredicates_ends close hmore with heq | hend
    · rwa [heq]
    · exact hend.trans ((List.suffix_cons ']' close).trans hclosed)
  · rw [plain_readPredicates_of_head? hbracket] at h
    cases h
    exact .inl rfl
termination_by cs.length

theorem readStep_ends {axis : Axis} {cs rest : List Char} {step : Step}
    (h : plain (readStep axis cs) = .ok (step, rest)) : EndsBefore rest cs := by
  rw [plain_readStep] at h
  obtain ⟨⟨test, after⟩, htest, h⟩ := bind_eq_ok_iff.mp h
  obtain ⟨_, hpredicates, heq⟩ := map_eq_ok_iff.mp h
  cases heq
  have hafter := readTest_ends htest
  rcases readPredicates_ends after hpredicates with heq | hend
  · rwa [heq]
  · exact ⟨']', by decide, by decide +kernel, hend.trans hafter.suffix⟩

theorem readSteps_ends (axis : Axis) (cs : List Char) {steps : List Step} {rest : List Char}
    (h : plain (readSteps axis cs) = .ok (steps, rest)) : EndsBefore rest cs := by
  obtain ⟨step, after, more, hstep, hmore, -⟩ := readSteps_eq_ok_iff.mp h
  have hshorter : after.length < cs.length := length_lt_of_plain_eq_ok hstep
  have hafter := readStep_suffix axis cs hstep
  unfold moreSteps at hmore
  split at hmore
  · rename_i inner
    have hinner : inner.length < cs.length := Nat.lt_of_succ_lt (Nat.lt_of_succ_lt hshorter)
    have hend := readSteps_ends .descendant inner hmore
    exact hend.trans ((List.suffix_append ['/', '/'] inner).trans hafter)
  · rename_i inner _
    have hinner : inner.length < cs.length := Nat.lt_of_succ_lt hshorter
    have hend := readSteps_ends .child inner hmore
    exact hend.trans ((List.suffix_cons '/' inner).trans hafter)
  · cases hmore
    exact readStep_ends hstep
termination_by cs.length

theorem readPath_ends {cs rest : List Char} {path : Path}
    (h : plain (readPath cs) = .ok (path, rest)) (hsteps : path.steps ≠ []) :
    EndsBefore rest cs := by
  have hblanks := skipBlanks_suffix cs
  rw [plain_readPath] at h
  split at h
  · rename_i after hcs
    obtain ⟨_, hread, heq⟩ := map_eq_ok_iff.mp h
    cases heq
    rw [hcs] at hblanks
    have hafter := (List.suffix_append ['/', '/'] after).trans hblanks
    exact (readSteps_ends .descendant after hread).trans hafter
  · rename_i after _ hcs
    split_ifs at h
    · cases h
      exact absurd rfl hsteps
    · obtain ⟨_, hread, heq⟩ := map_eq_ok_iff.mp h
      cases heq
      rw [hcs] at hblanks
      exact (readSteps_ends .child after hread).trans ((List.suffix_cons '/' after).trans hblanks)
  · obtain ⟨_, hread, heq⟩ := map_eq_ok_iff.mp h
    cases heq
    exact (readSteps_ends .child _ hread).trans hblanks

theorem ne_nil_of_readSteps_eq_ok {axis : Axis} {cs rest : List Char} {steps : List Step}
    (h : plain (readSteps axis cs) = .ok (steps, rest)) : steps ≠ [] := by
  obtain ⟨step, after, more, -, -, rfl⟩ := readSteps_eq_ok_iff.mp h
  exact List.cons_ne_nil step more

/-- Only the lone slash denotes a path without steps. -/
theorem steps_ne_nil_of_readPath {cs : List Char} {path : Path}
    (h : plain (readPath cs) = .ok (path, [])) (hroot : skipBlanks cs ≠ ['/']) :
    path.steps ≠ [] := by
  rw [plain_readPath] at h
  split at h
  · obtain ⟨⟨_, _⟩, hread, heq⟩ := map_eq_ok_iff.mp h
    cases heq
    exact ne_nil_of_readSteps_eq_ok hread
  · rename_i hcs
    split_ifs at h
    · cases h
      exact absurd hcs hroot
    · obtain ⟨⟨_, _⟩, hread, heq⟩ := map_eq_ok_iff.mp h
      cases heq
      exact ne_nil_of_readSteps_eq_ok hread
  · obtain ⟨⟨_, _⟩, hread, heq⟩ := map_eq_ok_iff.mp h
    cases heq
    exact ne_nil_of_readSteps_eq_ok hread

/-- An absolute path is never a bare one. -/
theorem absolute_of_readPath {cs rest : List Char} {path : Path}
    (h : plain (readPath cs) = .ok (path, rest)) (hslash : (skipBlanks cs).head? = some '/') :
    path.absolute = true ∧ path.bare = false := by
  rw [plain_readPath] at h
  split at h
  · obtain ⟨_, -, heq⟩ := map_eq_ok_iff.mp h
    cases heq
    exact ⟨rfl, rfl⟩
  · split_ifs at h
    · cases h
      exact ⟨rfl, rfl⟩
    · obtain ⟨_, -, heq⟩ := map_eq_ok_iff.mp h
      cases heq
      exact ⟨rfl, rfl⟩
  · rename_i hroot
    obtain ⟨tail, htail⟩ := List.head?_eq_some_iff.mp hslash
    exact absurd htail (hroot tail)

/-! ### Whole texts -/

theorem readWhole_nil : readWhole [] = .ok ⟨false, false, []⟩ := rfl

/-- Nothing is left of a text without blanks around it. -/
theorem readWhole_eq_ok_iff {cs : List Char} {path : Path} (hne : cs ≠ [])
    (htrim : Text.trim cs = cs) :
    readWhole cs = .ok path ↔ plain (readPath cs) = .ok (path, []) := by
  obtain ⟨c, tail, rfl⟩ := List.exists_cons_of_ne_nil hne
  unfold readWhole
  dsimp only
  cases hread : readPath (c :: tail) with
  | error e => exact ⟨nofun, nofun⟩
  | ok t =>
    have hsuffix : t.rest <:+ c :: tail := readPath_suffix (c :: tail) (by rw [hread]; rfl)
    rw [plain_ok]
    constructor
    · intro h
      dsimp only at h
      split at h
      · rename_i hblank
        cases h
        have hend := (Text.trim_eq_self_iff.mp htrim).2
        rw [Text.eq_nil_of_suffix_of_dropWhile hend hsuffix hblank]
      · cases h
    · intro h
      obtain ⟨rfl, hrest⟩ := Prod.mk.inj (Except.ok.inj h)
      simp only [hrest]
      rfl

/-- What is left of a text without the blanks around it is read as a path, if anything is left. -/
theorem readPath_of_ofText? {source : String} {s : Selector} (h : ofText? source = .ok s)
    (hne : Text.trim source.toList ≠ []) :
    plain (readPath (Text.trim source.toList)) = .ok (s.path, []) := by
  refine (readWhole_eq_ok_iff hne (Text.trim_trim _)).mp ?_
  rw [ofText?] at h
  split at h
  · next hread =>
    cases h
    exact hread
  · cases h

theorem ofText?_eq_ok_iff {source : String} {s : Selector}
    (htrim : Text.trimmed source = source) :
    ofText? source = .ok s ↔ readWhole source.toList = .ok s.path ∧ s.source = source := by
  unfold ofText?
  dsimp only
  rw [Text.trimmed_eq_self_iff.mp htrim]
  obtain ⟨text, path⟩ := s
  cases readWhole source.toList with
  | error e => simp
  | ok p =>
    simp only [Except.ok.injEq, Selector.mk.injEq]
    constructor
    · rintro ⟨rfl, rfl⟩
      exact ⟨rfl, rfl⟩
    · rintro ⟨rfl, rfl⟩
      exact ⟨rfl, rfl⟩

/-- A text that is not empty and has no blanks around it denotes the path that is read from all of
it. -/
theorem ofText?_eq_ok_iff_readPath {source : String} {s : Selector}
    (htrim : Text.trimmed source = source) (hne : source ≠ "") :
    ofText? source = .ok s ↔
      plain (readPath source.toList) = .ok (s.path, []) ∧ s.source = source := by
  rw [ofText?_eq_ok_iff htrim, readWhole_eq_ok_iff (fun hnil ↦ hne (String.toList_inj.mp hnil))
    (Text.trimmed_eq_self_iff.mp htrim)]

/-- Such a text has steps, unless it is the root. -/
theorem steps_ne_nil_of_ofText? {source : String} {s : Selector} (hread : ofText? source = .ok s)
    (htrim : Text.trimmed source = source) (hne : source ≠ "") (hroot : source ≠ "/") :
    s.path.steps ≠ [] := by
  refine steps_ne_nil_of_readPath ((ofText?_eq_ok_iff_readPath htrim hne).mp hread).1 ?_
  rw [skipBlanks_eq_self_of_trim (Text.trimmed_eq_self_iff.mp htrim)]
  exact fun hslash ↦ hroot (String.toList_inj.mp hslash)

end MarkupRecords.Selector
