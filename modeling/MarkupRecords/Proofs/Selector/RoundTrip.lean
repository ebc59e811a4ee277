import MarkupRecords.Proofs.Selector.Lexeme

/-!
Reading what was written. A written path is read back as it is, with all that stands in its
predicates. The proof follows the data: `StepsRead` and `Expr.Reads` say what it means for steps and
conditions to be read back off the front of a text, and there is one lemma for each way to build a
condition. A condition is read back in three ways, one for each binding: as an alternative it may be
gone on by ` or `, as a conjunct by ` and ` as well, and as a member it stands by itself.

The result for whole texts is `Selector.ofText?_render`.
-/

set_option autoImplicit false
set_option relaxedAutoImplicit false

namespace MarkupRecords

namespace Selector

open Text (Stops)

/-! ### Steps -/

theorem nextIn_predicatesChars (predicates : List Predicate) {marks cs : List Char}
    (hbracket : '[' ∈ marks) (hcs : NextIn marks cs) :
    NextIn marks (predicatesChars predicates ++ cs) := by
  cases predicates with
  | nil =>
    rw [predicatesChars]
    exact hcs
  | cons predicate predicates =>
    rw [predicatesChars]
    exact nextIn_cons hbracket _

theorem nextIn_stepsChars (steps : List Step) {cs : List Char} (hcs : NextIn afterOperand cs) :
    NextIn ('/' :: afterOperand) (stepsChars steps ++ cs) := by
  cases steps with
  | nil =>
    rw [stepsChars]
    exact hcs.mono (List.subset_cons_self _ _)
  | cons step steps =>
    obtain ⟨axis, test, predicates⟩ := step
    rw [stepsChars]
    cases axis <;> exact nextIn_cons List.mem_cons_self _

theorem separator_eq_slash {axis : Axis} (h : axis ≠ .descendant) : axis.separator = ['/'] := by
  cases axis with
  | descendant => exact absurd rfl h
  | child | self | parent => rfl

theorem asked_eq_child {axis : Axis} (h : axis ≠ .descendant) : axis.asked = .child := by
  cases axis with
  | descendant => exact absurd rfl h
  | child | self | parent => rfl

/-- The steps of a path are read back, the first of them without its separator. -/
def StepsRead (steps : List Step) : Prop :=
  ∀ first more, steps = first :: more → ∀ cs, NextIn afterOperand cs →
    plain (readSteps first.axis.asked (first.chars ++ (stepsChars more ++ cs))) =
      .ok (first :: more, cs)

theorem isWritable_of_stepsWritable {step : Step} {steps : List Step}
    (h : stepsWritable (step :: steps) = true) : step.test.isWritable step.axis = true := by
  obtain ⟨axis, test, predicates⟩ := step
  rw [stepsWritable, Bool.and_eq_true, Bool.and_eq_true] at h
  exact h.1.1

/-- A written step begins with neither a slash nor a bracket. -/
theorem head?_step_append_ne {step : Step} (hstep : step.test.isWritable step.axis = true)
    (cs : List Char) {c : Char} (hc : c ∈ ['/', '@', '(', ']', '[']) :
    (step.chars ++ cs).head? ≠ some c := by
  obtain ⟨axis, test, predicates⟩ := step
  obtain ⟨d, rest, hrest, hd⟩ := exists_cons_of_isWritable hstep
  rw [Step.chars, hrest, List.cons_append, List.cons_append, List.head?_cons]
  rintro ⟨⟩
  rcases hd with ⟨rfl, -⟩ | ⟨rfl | hstart, -⟩
  · revert hc
    decide
  · revert hc
    decide
  · rw [isNameStart_eq_false_of_mem (List.mem_cons_of_mem _ (List.mem_cons_of_mem _ hc))] at hstart
    cases hstart

/-- A written step begins with a point exactly on the axes that are written so. -/
theorem head?_step_append_eq_point_iff {step : Step} (hstep : step.test.isWritable step.axis = true)
    (cs : List Char) :
    (step.chars ++ cs).head? = some '.' ↔ step.axis = .self ∨ step.axis = .parent := by
  obtain ⟨axis, test, predicates⟩ := step
  obtain ⟨d, rest, hrest, hd⟩ := exists_cons_of_isWritable hstep
  rw [Step.chars, hrest, List.cons_append, List.cons_append, List.head?_cons]
  rcases hd with ⟨rfl, haxis⟩ | ⟨hforward, hself, hparent⟩
  · exact ⟨fun _ ↦ haxis, fun _ ↦ rfl⟩
  · refine ⟨?_, fun haxis ↦ (haxis.elim hself hparent).elim⟩
    rintro ⟨⟩
    rcases hforward with heq | hstart
    · exact absurd heq (by decide)
    · rw [isNameStart_eq_false_of_mem (by decide)] at hstart
      cases hstart

theorem skipBlanks_step_append {step : Step} (hstep : step.test.isWritable step.axis = true)
    (cs : List Char) : skipBlanks (step.chars ++ cs) = step.chars ++ cs := by
  obtain ⟨axis, test, predicates⟩ := step
  obtain ⟨d, rest, hrest, hd⟩ := exists_cons_of_isWritable hstep
  rw [Step.chars, hrest, List.cons_append, List.cons_append]
  refine skipBlanks_cons ?_ _
  rcases hd with ⟨rfl, -⟩ | ⟨rfl | hstart, -⟩
  · decide +kernel
  · decide +kernel
  · exact isBlank_eq_false_of_isNameChar (isNameChar_of_isNameStart hstart)

theorem moreSteps_stepsChars {steps : List Step} (h : StepsRead steps)
    (hwritable : stepsWritable steps = true) {cs : List Char} (hcs : NextIn afterOperand cs) :
    moreSteps (stepsChars steps ++ cs) = .ok (steps, cs) := by
  cases steps with
  | nil =>
    rw [stepsChars]
    exact moreSteps_of_head? (hcs.head?_ne (by decide))
  | cons step steps =>
    have hread := h step steps rfl cs hcs
    have hslash := head?_step_append_ne (isWritable_of_stepsWritable hwritable)
      (stepsChars steps ++ cs) (c := '/') (by decide)
    obtain ⟨axis, test, predicates⟩ := step
    rw [Step.chars, List.append_assoc] at hread hslash
    rw [stepsChars, List.append_assoc, List.append_assoc, List.append_assoc]
    cases axis with
    | descendant => exact hread
    | child => exact (moreSteps_child hslash).trans hread
    | self => exact (moreSteps_child hslash).trans hread
    | parent => exact (moreSteps_child hslash).trans hread

theorem stepsRead_nil : StepsRead [] := nofun

/-- A step is read back with the steps after it, if its predicates are. -/
theorem stepsRead_cons {step : Step} {steps : List Step}
    (htest : step.test.isWritable step.axis = true)
    (hpredicates : ∀ cs : List Char, cs.head? ≠ some '[' →
      plain (readPredicates (predicatesChars step.predicates ++ cs)) = .ok (step.predicates, cs))
    (hsteps : StepsRead steps) (hwritable : stepsWritable steps = true) :
    StepsRead (step :: steps) := by
  rintro _ _ ⟨⟩ cs hcs
  obtain ⟨axis, test, predicates⟩ := step
  have hnext := nextIn_stepsChars steps hcs
  refine readSteps_eq_ok_iff.mpr
    ⟨_, stepsChars steps ++ cs, steps, ?_, moreSteps_stepsChars hsteps hwritable hcs, rfl⟩
  have hafter : NextIn afterStep (predicatesChars predicates ++ (stepsChars steps ++ cs)) :=
    nextIn_predicatesChars predicates (by decide) (hnext.mono (by decide))
  rw [Step.chars, List.append_assoc, plain_readStep, plain_readTest_chars htest hafter, Except.bind]
  dsimp only
  rw [hpredicates _ (hnext.head?_ne (by decide))]
  rfl

/-! ### Paths -/

theorem chars_absolute (bare : Bool) (first : Step) (more : List Step) :
    Path.chars ⟨true, bare, first :: more⟩ =
      first.axis.separator ++ (first.chars ++ stepsChars more) := by
  obtain ⟨axis, test, predicates⟩ := first
  rw [Path.chars, stepsChars, Step.chars]
  · simp only [List.append_assoc]
  · exact nofun

theorem exists_cons_separator (axis : Axis) : ∃ cs, axis.separator = '/' :: cs := by
  cases axis with
  | descendant => exact ⟨['/'], rfl⟩
  | child | self | parent => exact ⟨[], rfl⟩

/-- A path that begins with a step, or at the document node, is read back. It is read as bare if it
begins at the context node, and there with neither of the points. -/
theorem plain_readPath_chars {absolute : Bool} (bare : Bool) {first : Step} {more : List Step}
    (hsteps : StepsRead (first :: more)) (htest : first.test.isWritable first.axis = true)
    (hleads : absolute = true ∨ first.leads = true) {cs : List Char}
    (hcs : NextIn afterOperand cs) :
    plain (readPath (Path.chars ⟨absolute, bare, first :: more⟩ ++ cs)) =
      .ok (⟨absolute, !absolute && first.axis ≠ .self && first.axis ≠ .parent, first :: more⟩,
        cs) := by
  have hread := hsteps first more rfl cs hcs
  have hslash := head?_step_append_ne htest (stepsChars more ++ cs) (c := '/') (by decide)
  have hclose := head?_step_append_ne htest (stepsChars more ++ cs) (c := ']') (by decide)
  have hnil := ne_nil_of_readSteps hread
  cases absolute with
  | true =>
    rw [chars_absolute, List.append_assoc, List.append_assoc]
    by_cases haxis : first.axis = .descendant
    · have hskip := skipBlanks_cons Text.isBlank_slash
        ('/' :: (first.chars ++ (stepsChars more ++ cs)))
      rw [haxis] at hread
      rw [haxis, Axis.separator, List.cons_append, List.singleton_append,
        plain_readPath_descendant hskip]
      exact map_eq_ok_iff.mpr ⟨_, hread, rfl⟩
    · have hskip := skipBlanks_cons Text.isBlank_slash (first.chars ++ (stepsChars more ++ cs))
      rw [asked_eq_child haxis] at hread
      rw [separator_eq_slash haxis, List.singleton_append,
        plain_readPath_child hskip hslash hnil hclose]
      exact map_eq_ok_iff.mpr ⟨_, hread, rfl⟩
  | false =>
    have haxis : first.axis ≠ .descendant := by
      simpa [Step.leads] using hleads
    have hblanks := skipBlanks_step_append htest (stepsChars more ++ cs)
    have hpoint := head?_step_append_eq_point_iff htest (stepsChars more ++ cs)
    have hbare : decide ((first.chars ++ (stepsChars more ++ cs)).head? ≠ some '.') =
        (decide (first.axis ≠ .self) && decide (first.axis ≠ .parent)) := by
      rw [← Bool.decide_and, decide_eq_decide, ne_eq, hpoint, not_or]
    rw [asked_eq_child haxis] at hread
    rw [Path.chars, List.append_assoc, plain_readPath_of_head? (by rwa [hblanks]), hblanks, hbare]
    exact map_eq_ok_iff.mpr ⟨_, hread, rfl⟩

/-! ### Operands -/

/-- How the text of a path begins that is an operand. -/
inductive OpensPath : List Char → Prop
  | name {name : String} {cs : List Char} (hname : isName name = true)
      (hcs : NextIn afterStep cs) : OpensPath (name.toList ++ cs)
  | root (cs : List Char) : OpensPath ('/' :: cs)
  | anyElement (cs : List Char) : OpensPath ('*' :: cs)
  | parent (cs : List Char) : OpensPath ('.' :: '.' :: cs)

namespace OpensPath

variable {cs : List Char}

theorem opens (h : OpensPath cs) : Opens operandMarks cs := by
  cases h with
  | name hname hcs => exact .name hname hcs
  | root cs => exact .mark (by decide) cs
  | anyElement cs => exact .mark (by decide) cs
  | parent cs => exact .mark (by decide) ('.' :: cs)

/-- No other operand is read where a path begins. -/
theorem plain_readOperand (h : OpensPath cs) :
    plain (readOperand cs) =
      (plain (readPath cs)).map fun p ↦ (.path { p.1 with bare := false }, p.2) := by
  have hpath : ∀ ds : List Char, ds.head? ≠ some '@' →
      restAfter? ['t', 'e', 'x', 't', '(', ')'] ds = none →
        (afterContext? ds).map taken = none →
          plain (readOperand ds) =
            (plain (readPath ds)).map fun p ↦ (.path { p.1 with bare := false }, p.2) := by
    intro ds hat htext hcontext
    rw [plain_readOperand_of_head? hat, htext, hcontext]
  cases h with
  | @name name cs hname hcs =>
    have hword : ∀ c ∈ ['t', 'e', 'x', 't'], isNameChar c = true := eq_of_all (by decide +kernel)
    have hat := head?_name_append_ne hname cs (isNameStart_eq_false_of_mem (c := '@') (by decide))
    refine hpath _ hat
      (restAfter?_call_eq_none hname hword hcs.stops (hcs.head?_ne (by decide))) ?_
    obtain ⟨c, rest, hrest, hstart, -⟩ := exists_cons_of_isName hname
    rw [hrest, List.cons_append, map_afterContext?_cons, if_neg]
    rintro ⟨rfl, -⟩
    rw [isNameStart_eq_false_of_mem (by decide)] at hstart
    cases hstart
  | root cs => exact hpath _ (by simp) rfl rfl
  | anyElement cs => exact hpath _ (by simp) rfl rfl
  | parent cs => exact hpath _ (by simp) rfl rfl

end OpensPath

theorem opensPath_chars {absolute : Bool} {first : Step} {more : List Step}
    (htest : first.test.isWritable first.axis = true)
    (hleads : absolute = true ∨ first.leadsOperand = true) {cs : List Char}
    (hcs : NextIn afterOperand cs) :
    OpensPath (Path.chars ⟨absolute, false, first :: more⟩ ++ cs) := by
  cases absolute with
  | true =>
    obtain ⟨rest, hrest⟩ := exists_cons_separator first.axis
    rw [chars_absolute, hrest]
    exact .root _
  | false =>
    obtain ⟨axis, test, predicates⟩ := first
    have hafter : NextIn afterStep (predicatesChars predicates ++ (stepsChars more ++ cs)) :=
      nextIn_predicatesChars predicates (by decide) ((nextIn_stepsChars more hcs).mono (by decide))
    rw [Path.chars, Step.chars, List.append_assoc, List.append_assoc]
    have hleads := hleads.resolve_left Bool.false_ne_true
    unfold Step.leadsOperand at hleads
    dsimp only at hleads
    split at hleads
    · exact .name htest hafter
    · exact .anyElement _
    · exact .parent _
    · cases hleads

/-- How the text of an operand begins. -/
theorem opens_operand {operand : Operand} (h : operand.isWritable = true) {cs : List Char}
    (hcs : NextIn afterOperand cs) : Opens operandMarks (operand.chars ++ cs) := by
  cases operand with
  | «attribute» name =>
    rw [Operand.chars]
    exact .mark (by decide) _
  | text =>
    rw [Operand.chars]
    exact .text cs
  | context =>
    rw [Operand.chars]
    exact .mark (by decide) cs
  | path path =>
    obtain ⟨absolute, bare, steps⟩ := path
    simp only [Operand.isWritable, Bool.and_eq_true, Bool.not_eq_true', Bool.or_eq_true] at h
    obtain ⟨⟨⟨rfl, hne⟩, hleads⟩, hwritable⟩ := h
    cases steps with
    | nil => cases hne
    | cons first more =>
      rw [Operand.chars]
      have htest := isWritable_of_stepsWritable hwritable
      exact (opensPath_chars htest (by simpa using hleads) hcs).opens

/-- An operand is read back. -/
def OperandRead (operand : Operand) : Prop :=
  ∀ cs, NextIn afterOperand cs → plain (readOperand (operand.chars ++ cs)) = .ok (operand, cs)

theorem operandRead_attribute {name : String} (hname : isName name = true) :
    OperandRead (.attribute name) := by
  intro cs hcs
  rw [Operand.chars, List.cons_append, plain_readOperand_attribute,
    map_readName?_eq_some_iff.mpr ⟨rfl, hname, (hcs.mono (by decide)).stops⟩]

theorem operandRead_text : OperandRead .text := by
  intro cs _
  rw [Operand.chars, plain_readOperand_of_head? (by simp), restAfter?_append_self]

theorem operandRead_context : OperandRead .context := by
  intro cs hcs
  have hcontext : (afterContext? ('.' :: cs)).map taken = some ((), cs) := by
    rw [map_afterContext?_cons,
      if_pos ⟨rfl, hcs.head?_ne (by decide), hcs.head?_ne (by decide)⟩]
  have htext : restAfter? ['t', 'e', 'x', 't', '(', ')'] ('.' :: cs) = none := rfl
  rw [Operand.chars, List.singleton_append, plain_readOperand_of_head? (by simp), htext, hcontext]

theorem operandRead_path {absolute : Bool} {first : Step} {more : List Step}
    (hsteps : StepsRead (first :: more)) (htest : first.test.isWritable first.axis = true)
    (hleads : absolute = true ∨ first.leadsOperand = true) :
    OperandRead (.path ⟨absolute, false, first :: more⟩) := by
  intro cs hcs
  have hforward : absolute = true ∨ first.leads = true := by
    refine hleads.imp_right fun h ↦ ?_
    unfold Step.leadsOperand at h
    unfold Step.leads
    split at h
    · simp [*]
    · simp [*]
    · simp [*]
    · cases h
  rw [Operand.chars, (opensPath_chars htest hleads hcs).plain_readOperand,
    plain_readPath_chars false hsteps htest hforward hcs]
  rfl

/-! ### What follows a condition -/

/-- What can follow a condition that is written for a binding: its end, or a word that binds
less. -/
inductive Follows : Expr.Binding → List Char → Prop
  | close {binding : Expr.Binding} {c : Char} (hc : c = ']' ∨ c = ')') (cs : List Char) :
      Follows binding (c :: cs)
  | or {binding : Expr.Binding} (cs : List Char) : Follows binding ([' ', 'o', 'r', ' '] ++ cs)
  | and {binding : Expr.Binding} (hbinding : binding ≠ .alternative) (cs : List Char) :
      Follows binding ([' ', 'a', 'n', 'd', ' '] ++ cs)

theorem skipBlanks_space (cs : List Char) : skipBlanks (' ' :: cs) = skipBlanks cs := by
  have hblank : Text.isBlank ' ' = true := by decide +kernel
  exact List.dropWhile_cons_of_pos hblank

theorem restAfterWord?_space_word {word : List Char} {w : Char}
    (hword : ∀ c ∈ w :: word, isNameChar c = true) (cs : List Char) :
    restAfterWord? (w :: word) (' ' :: (w :: word) ++ ' ' :: cs) = some (' ' :: cs) := by
  have hblank := isBlank_eq_false_of_isNameChar (hword w List.mem_cons_self)
  have hspace : isNameChar ' ' = false := isNameChar_eq_false_of_mem (by decide)
  have hskip : skipBlanks (' ' :: (w :: word) ++ ' ' :: cs) = (w :: word) ++ ' ' :: cs := by
    rw [List.cons_append, skipBlanks_space, List.cons_append]
    exact skipBlanks_cons hblank _
  rw [restAfterWord?_eq, hskip, restAfter?_append_self, Option.filter_some, List.head?_cons,
    Option.any_some, hspace]
  rfl

theorem restAfterWord?_or (cs : List Char) :
    restAfterWord? ['o', 'r'] ([' ', 'o', 'r', ' '] ++ cs) = some (' ' :: cs) :=
  restAfterWord?_space_word (eq_of_all (by decide +kernel)) cs

theorem restAfterWord?_and (cs : List Char) :
    restAfterWord? ['a', 'n', 'd'] ([' ', 'a', 'n', 'd', ' '] ++ cs) = some (' ' :: cs) :=
  restAfterWord?_space_word (eq_of_all (by decide +kernel)) cs

theorem restAfterWord?_close {word : List Char} {w c : Char} (hc : c = ']' ∨ c = ')')
    (hw : isNameChar w = true) (cs : List Char) : restAfterWord? (w :: word) (c :: cs) = none := by
  have hmark : c ∈ '(' :: afterStep := by
    rcases hc with rfl | rfl <;> decide
  have hblank : Text.isBlank c = false := by
    rcases hc with rfl | rfl <;> decide +kernel
  rw [restAfterWord?_eq, skipBlanks_cons hblank, restAfter?_cons_cons, if_neg]
  · rfl
  · rintro rfl
    rw [isNameChar_eq_false_of_mem hmark] at hw
    cases hw

namespace Follows

variable {binding : Expr.Binding} {cs : List Char}

theorem nextIn (h : Follows binding cs) : NextIn afterOperand cs := by
  cases h with
  | close hc cs => exact nextIn_cons (by rcases hc with rfl | rfl <;> decide) cs
  | or cs => exact nextIn_cons (by decide) _
  | and _ cs => exact nextIn_cons (by decide) _

theorem member (h : Follows binding cs) : Follows .member cs := by
  cases h with
  | close hc cs => exact .close hc cs
  | or cs => exact .or cs
  | and _ cs => exact .and (by decide) cs

/-- An operand before what can follow is not compared. -/
theorem compared_eq (h : Follows binding cs) (operand : Operand) :
    compared operand cs = .ok (.exists operand, cs) := by
  have hletter : ∀ {c : Char} (ds : List Char), c = 'o' ∨ c = 'a' → skipBlanks cs = c :: ds →
      compared operand cs = .ok (.exists operand, cs) := by
    intro c ds hc hskip
    refine compared_exists ?_ ?_
    · rw [hskip, restAfter?_cons_cons, if_neg]
      rcases hc with rfl | rfl <;> decide
    · rw [hskip, List.head?_cons]
      rcases hc with rfl | rfl <;> simp
  cases h with
  | @close c hc cs =>
    have hblank : Text.isBlank c = false := by
      rcases hc with rfl | rfl <;> decide +kernel
    refine compared_exists ?_ ?_
    · rw [skipBlanks_cons hblank, restAfter?_cons_cons, if_neg]
      rcases hc with rfl | rfl <;> decide
    · rw [skipBlanks_cons hblank, List.head?_cons]
      rcases hc with rfl | rfl <;> simp
  | or cs =>
    refine hletter (['r', ' '] ++ cs) (.inl rfl) ?_
    exact (skipBlanks_space _).trans (skipBlanks_cons (by decide +kernel) _)
  | and _ cs =>
    refine hletter (['n', 'd', ' '] ++ cs) (.inr rfl) ?_
    exact (skipBlanks_space _).trans (skipBlanks_cons (by decide +kernel) _)

/-- A conjunction ends before what can follow an alternative. -/
theorem plain_readAnds (h : Follows .alternative cs) (e : Expr) :
    plain (readAnds e cs) = .ok (e, cs) := by
  have hnone : restAfterWord? ['a', 'n', 'd'] cs = none := by
    cases h with
    | close hc cs => exact restAfterWord?_close hc (by decide +kernel) cs
    | or cs =>
      have hskip : skipBlanks ([' ', 'o', 'r', ' '] ++ cs) = ['o', 'r', ' '] ++ cs :=
        (skipBlanks_space _).trans (skipBlanks_cons (by decide +kernel) _)
      rw [restAfterWord?_eq, hskip]
      rfl
    | and hbinding cs => exact absurd rfl hbinding
  rw [Selector.plain_readAnds, hnone]

end Follows

theorem plain_readOrs_close (e : Expr) {c : Char} (hc : c = ']' ∨ c = ')') (cs : List Char) :
    plain (readOrs e (c :: cs)) = .ok (e, c :: cs) := by
  rw [plain_readOrs, restAfterWord?_close hc (by decide +kernel)]

/-! ### Conditions -/

theorem plain_readComparison_space (cs : List Char) :
    plain (readComparison (' ' :: cs)) = plain (readComparison cs) := by
  rw [plain_readComparison, skipBlanks_space, ← plain_readComparison]

theorem plain_readAnd_space (cs : List Char) :
    plain (readAnd (' ' :: cs)) = plain (readAnd cs) := by
  rw [plain_readAnd, plain_readComparison_space, ← plain_readAnd]

end Selector

namespace Expr

open Selector

theorem chars_or_alternative (left right : Expr) :
    (Expr.or left right).chars .alternative =
      left.chars .alternative ++ ([' ', 'o', 'r', ' '] ++ right.chars .conjunct) := by
  rw [chars, ← List.append_assoc]
  rfl

theorem chars_or_of_ne (left right : Expr) {binding : Binding} (h : binding ≠ .alternative) :
    (Expr.or left right).chars binding =
      '(' :: ((Expr.or left right).chars .alternative ++ [')']) := by
  rw [chars, chars, parenthesized, if_pos (decide_eq_true h)]
  rfl

theorem chars_and_of_ne (left right : Expr) {binding : Binding} (h : binding ≠ .member) :
    (Expr.and left right).chars binding =
      left.chars .conjunct ++ ([' ', 'a', 'n', 'd', ' '] ++ right.chars .member) := by
  rw [chars, parenthesized, if_neg (by simpa using h), List.append_assoc]

theorem chars_and_alternative (left right : Expr) :
    (Expr.and left right).chars .alternative = (Expr.and left right).chars .conjunct := by
  have hconjunct : Binding.conjunct ≠ .member := by decide
  rw [chars_and_of_ne left right (by decide), chars_and_of_ne left right hconjunct]

theorem chars_and_member (left right : Expr) :
    (Expr.and left right).chars .member =
      '(' :: ((Expr.and left right).chars .conjunct ++ [')']) := by
  rw [chars, chars]
  rfl

/-- A condition is read back, for whichever binding it is written. As an alternative or a conjunct
it is the first part of what is read. -/
structure Reads (e : Expr) : Prop where
  alternative : ∀ cs, Follows .alternative cs →
    plain (readOr (e.chars .alternative ++ cs)) = plain (readOrs e cs)
  conjunct : ∀ cs, Follows .conjunct cs →
    plain (readAnd (e.chars .conjunct ++ cs)) = plain (readAnds e cs)
  member : ∀ cs, Follows .member cs →
    plain (readComparison (e.chars .member ++ cs)) = .ok (e, cs)

/-- What is read back at its end in parentheses is read back with them. -/
theorem plain_readComparison_parenthesized {e : Expr} {inner cs : List Char}
    (h : plain (readOr (inner ++ ')' :: cs)) = .ok (e, ')' :: cs)) :
    plain (readComparison ('(' :: (inner ++ [')']) ++ cs)) = .ok (e, cs) := by
  have hclose := plain_expect_cons (c := ')') (by decide +kernel) cs
  rw [List.cons_append, List.append_assoc, List.singleton_append, plain_readComparison,
    skipBlanks_cons (by decide +kernel)]
  exact bind_eq_ok_iff.mpr ⟨_, h, map_eq_ok_iff.mpr ⟨_, hclose, rfl⟩⟩

/-- A condition that is written in one way for all bindings is read back if it is so as a member. -/
theorem Reads.of_member {e : Expr} (hchars : ∀ binding, e.chars binding = e.chars .member)
    (hmember : ∀ cs, Follows .member cs →
      plain (readComparison (e.chars .member ++ cs)) = .ok (e, cs)) : Reads e := by
  have hconjunct : ∀ cs, Follows .member cs →
      plain (readAnd (e.chars .member ++ cs)) = plain (readAnds e cs) := by
    intro cs hcs
    rw [plain_readAnd, hmember cs hcs, Except.bind]
  refine ⟨fun cs hcs ↦ ?_, fun cs hcs ↦ ?_, hmember⟩
  · rw [hchars, plain_readOr, hconjunct cs hcs.member, hcs.plain_readAnds, Except.bind]
  · rw [hchars, hconjunct cs hcs.member]

theorem Reads.or {left right : Expr} (hleft : left.Reads) (hright : right.Reads) :
    (Expr.or left right).Reads := by
  have halternative : ∀ cs, Follows .alternative cs →
      plain (readOr ((Expr.or left right).chars .alternative ++ cs)) =
        plain (readOrs (.or left right) cs) := by
    intro cs hcs
    have hread : plain (readAnd (' ' :: (right.chars .conjunct ++ cs))) = .ok (right, cs) := by
      have hconjunct : Follows .conjunct cs := by
        cases hcs with
        | close hc cs => exact .close hc cs
        | or cs => exact .or cs
        | and hbinding cs => exact absurd rfl hbinding
      rw [plain_readAnd_space, hright.conjunct cs hconjunct, hcs.plain_readAnds]
    rw [chars_or_alternative, List.append_assoc, List.append_assoc, hleft.alternative _ (.or _),
      plain_readOrs, restAfterWord?_or]
    dsimp only
    rw [hread, Except.bind]
  have hmember : ∀ cs, plain (readComparison
      ('(' :: ((Expr.or left right).chars .alternative ++ [')']) ++ cs)) =
        .ok (.or left right, cs) := by
    intro cs
    refine plain_readComparison_parenthesized ?_
    rw [halternative _ (.close (.inr rfl) cs), plain_readOrs_close _ (.inr rfl)]
  refine ⟨halternative, fun cs _ ↦ ?_, fun cs _ ↦ ?_⟩
  · rw [chars_or_of_ne left right (by decide), plain_readAnd, hmember, Except.bind]
  · rw [chars_or_of_ne left right (by decide), hmember]

theorem Reads.and {left right : Expr} (hleft : left.Reads) (hright : right.Reads) :
    (Expr.and left right).Reads := by
  have hconjunct : ∀ cs, Follows .conjunct cs →
      plain (readAnd ((Expr.and left right).chars .conjunct ++ cs)) =
        plain (readAnds (.and left right) cs) := by
    intro cs hcs
    have hread : plain (readComparison (' ' :: (right.chars .member ++ cs))) = .ok (right, cs) := by
      rw [plain_readComparison_space, hright.member cs hcs.member]
    rw [chars_and_of_ne left right (by decide), List.append_assoc, List.append_assoc,
      hleft.conjunct _ (.and (by decide) _), plain_readAnds, restAfterWord?_and]
    dsimp only
    rw [hread, Except.bind]
  have halternative : ∀ cs, Follows .alternative cs →
      plain (readOr ((Expr.and left right).chars .conjunct ++ cs)) =
        plain (readOrs (.and left right) cs) := by
    intro cs hcs
    have hfollows : Follows .conjunct cs := by
      cases hcs with
      | close hc cs => exact .close hc cs
      | or cs => exact .or cs
      | and hbinding cs => exact absurd rfl hbinding
    rw [plain_readOr, hconjunct cs hfollows, hcs.plain_readAnds, Except.bind]
  refine ⟨fun cs hcs ↦ ?_, hconjunct, fun cs _ ↦ ?_⟩
  · rw [chars_and_alternative]
    exact halternative cs hcs
  · rw [chars_and_member]
    refine plain_readComparison_parenthesized ?_
    rw [halternative _ (.close (.inr rfl) cs), plain_readOrs_close _ (.inr rfl)]

/-- How the text of a condition begins. -/
theorem opens : ∀ (e : Expr), e.isWritable = true → ∀ (binding : Binding) (cs : List Char),
    NextIn afterOperand cs → Opens ('(' :: operandMarks) (e.chars binding ++ cs)
  | .or left right, h, binding, cs, _ => by
    rw [isWritable, Bool.and_eq_true] at h
    by_cases hbinding : binding = .alternative
    · subst hbinding
      rw [chars_or_alternative, List.append_assoc]
      exact opens left h.1 _ _ (nextIn_cons (by decide) _)
    · rw [chars_or_of_ne left right hbinding]
      exact .mark List.mem_cons_self _
  | .and left right, h, binding, cs, _ => by
    rw [isWritable, Bool.and_eq_true] at h
    by_cases hbinding : binding = .member
    · subst hbinding
      rw [chars_and_member]
      exact .mark List.mem_cons_self _
    · rw [chars_and_of_ne left right hbinding, List.append_assoc]
      exact opens left h.1 _ _ (nextIn_cons (by decide) _)
  | .exists operand, h, _, cs, hcs => by
    rw [isWritable] at h
    rw [chars]
    exact (opens_operand h hcs).mono (List.subset_cons_self _ _)
  | .compare operand negated literal, h, _, cs, _ => by
    rw [isWritable, Bool.and_eq_true] at h
    rw [chars, List.append_assoc, List.append_assoc]
    refine (opens_operand h.1 ?_).mono (List.subset_cons_self _ _)
    cases negated <;> exact nextIn_cons (by decide) _

/-- A comparison is read operand first. -/
theorem plain_readComparison_operand {operand : Operand} (hwritable : operand.isWritable = true)
    (hread : OperandRead operand) {cs : List Char} (hcs : NextIn afterOperand cs) :
    plain (readComparison (operand.chars ++ cs)) = compared operand cs := by
  have hopens := opens_operand hwritable hcs
  have hskip := (hopens.mono (List.subset_cons_self '(' _)).skipBlanks_eq
  rw [plain_readComparison_of_head?, hskip, hread cs hcs, Except.bind]
  rw [hskip]
  exact hopens.head?_ne_paren

theorem compared_literal {l : Literal} (h : l.isWritable = true) (operand : Operand)
    (negated : Bool) (cs : List Char) :
    compared operand ((if negated then ['!', '='] else ['=']) ++ (l.chars ++ cs)) =
      .ok (.compare operand negated l, cs) := by
  have hread := plain_readLiteral_chars h cs
  cases negated with
  | false =>
    have hskip : skipBlanks ('=' :: (l.chars ++ cs)) = '=' :: (l.chars ++ cs) :=
      skipBlanks_cons (by decide +kernel) _
    rw [if_neg Bool.false_ne_true, List.singleton_append, compared, hskip]
    exact map_eq_ok_iff.mpr ⟨_, hread, rfl⟩
  | true =>
    have hskip : skipBlanks ('!' :: '=' :: (l.chars ++ cs)) = '!' :: '=' :: (l.chars ++ cs) :=
      skipBlanks_cons (by decide +kernel) _
    rw [if_pos rfl, List.cons_append, List.singleton_append, compared, hskip]
    exact map_eq_ok_iff.mpr ⟨_, hread, rfl⟩

theorem Reads.exists {operand : Operand} (hwritable : operand.isWritable = true)
    (hread : OperandRead operand) : (Expr.exists operand).Reads := by
  refine .of_member (fun binding ↦ ?_) (fun cs hcs ↦ ?_)
  · rw [chars, chars]
  · rw [chars, plain_readComparison_operand hwritable hread hcs.nextIn, hcs.compared_eq]

theorem Reads.compare {operand : Operand} (hwritable : operand.isWritable = true)
    (hread : OperandRead operand) (negated : Bool) {l : Literal} (hl : l.isWritable = true) :
    (Expr.compare operand negated l).Reads := by
  refine .of_member (fun binding ↦ ?_) (fun cs _ ↦ ?_)
  · rw [chars, chars]
  · have hnext : NextIn afterOperand
        ((if negated then ['!', '='] else ['=']) ++ (l.chars ++ cs)) := by
      cases negated <;> exact nextIn_cons (by decide) _
    rw [chars, List.append_assoc, List.append_assoc,
      plain_readComparison_operand hwritable hread hnext, compared_literal hl]

/-- A condition is read back as a predicate. -/
theorem Reads.plain_readPredicate {e : Expr} (hread : e.Reads) (h : e.isWritable = true)
    (cs : List Char) :
    plain (readPredicate (e.chars .alternative ++ ']' :: cs)) = .ok (.condition e, ']' :: cs) := by
  have hopens := opens e h .alternative (']' :: cs) (nextIn_cons (by decide) cs)
  have hskip := hopens.skipBlanks_eq
  have hor : plain (readOr (e.chars .alternative ++ ']' :: cs)) = .ok (e, ']' :: cs) := by
    rw [hread.alternative _ (.close (.inl rfl) cs), plain_readOrs_close e (.inl rfl)]
  rw [plain_readPredicate_of_head? (by rw [hskip]; exact hopens.not_digit), hskip, lastOrCondition,
    hopens.not_last]
  exact map_eq_ok_iff.mpr ⟨_, hor, rfl⟩

end Expr

/-! ### All that can be written -/

namespace Selector

theorem plain_readPredicate_last (cs : List Char) :
    plain (readPredicate (['l', 'a', 's', 't', '(', ')'] ++ cs)) = .ok (.last, cs) := by
  have hskip : skipBlanks (['l', 'a', 's', 't', '(', ')'] ++ cs) =
      ['l', 'a', 's', 't', '(', ')'] ++ cs :=
    skipBlanks_cons (by decide +kernel) _
  rw [plain_readPredicate_of_head? (by rw [hskip]; rfl), hskip, lastOrCondition,
    restAfter?_append_self]

end Selector

open Selector

mutual

theorem Step.stepsRead : ∀ steps : List Step, stepsWritable steps = true → StepsRead steps
  | [], _ => stepsRead_nil
  | ⟨axis, test, predicates⟩ :: steps, h => by
    rw [stepsWritable, Bool.and_eq_true, Bool.and_eq_true] at h
    obtain ⟨⟨htest, hpredicates⟩, hsteps⟩ := h
    exact stepsRead_cons htest (Predicate.readAll predicates hpredicates)
      (Step.stepsRead steps hsteps) hsteps

theorem Predicate.readAll : ∀ predicates : List Predicate, predicatesWritable predicates = true →
    ∀ cs : List Char, cs.head? ≠ some '[' →
      plain (readPredicates (predicatesChars predicates ++ cs)) = .ok (predicates, cs)
  | [], _, cs, hcs => by
    rw [predicatesChars]
    exact plain_readPredicates_of_head? hcs
  | predicate :: predicates, h, cs, hcs => by
    rw [predicatesWritable, Bool.and_eq_true] at h
    have hpredicate := Predicate.read predicate h.1 (predicatesChars predicates ++ cs)
    have hpredicates := Predicate.readAll predicates h.2 cs hcs
    have hclose := plain_expect_cons (c := ']') (by decide +kernel)
      (predicatesChars predicates ++ cs)
    rw [predicatesChars, List.cons_append, List.cons_append, List.append_assoc, List.cons_append,
      plain_readPredicates_bracket]
    refine bind_eq_ok_iff.mpr ⟨_, hpredicate, bind_eq_ok_iff.mpr ⟨_, hclose, ?_⟩⟩
    exact map_eq_ok_iff.mpr ⟨_, hpredicates, rfl⟩

theorem Predicate.read : ∀ predicate : Predicate, predicate.isWritable = true →
    ∀ cs : List Char,
      plain (readPredicate (predicate.chars ++ ']' :: cs)) = .ok (predicate, ']' :: cs)
  | .position n, h, cs => by
    rw [Predicate.isWritable, Bool.and_eq_true] at h
    rw [Predicate.chars]
    exact plain_readPredicate_toDigits ⟨of_decide_eq_true h.1, of_decide_eq_true h.2⟩ cs
  | .last, _, cs => by
    rw [Predicate.chars]
    exact plain_readPredicate_last (']' :: cs)
  | .condition e, h, cs => by
    rw [Predicate.isWritable] at h
    rw [Predicate.chars]
    exact (Expr.reads e h).plain_readPredicate h cs

theorem Expr.reads : ∀ e : Expr, e.isWritable = true → e.Reads
  | .or left right, h => by
    rw [Expr.isWritable, Bool.and_eq_true] at h
    exact .or (Expr.reads left h.1) (Expr.reads right h.2)
  | .and left right, h => by
    rw [Expr.isWritable, Bool.and_eq_true] at h
    exact .and (Expr.reads left h.1) (Expr.reads right h.2)
  | .exists operand, h => by
    rw [Expr.isWritable] at h
    exact .exists h (Operand.read operand h)
  | .compare operand negated l, h => by
    rw [Expr.isWritable, Bool.and_eq_true] at h
    exact .compare h.1 (Operand.read operand h.1) negated h.2

theorem Operand.read : ∀ operand : Operand, operand.isWritable = true → OperandRead operand
  | .attribute name, h => by
    rw [Operand.isWritable] at h
    exact operandRead_attribute h
  | .text, _ => operandRead_text
  | .context, _ => operandRead_context
  | .path ⟨absolute, bare, steps⟩, h => by
    rw [Operand.isWritable] at h
    simp only [Bool.and_eq_true, Bool.not_eq_true', Bool.or_eq_true] at h
    obtain ⟨⟨⟨rfl, hne⟩, hleads⟩, hwritable⟩ := h
    have hsteps := Step.stepsRead steps hwritable
    cases steps with
    | nil => cases hne
    | cons first more =>
      have htest := isWritable_of_stepsWritable hwritable
      exact operandRead_path hsteps htest (by simpa using hleads)

end

namespace Selector

theorem plain_readPath_of_isWritable {p : Path} (h : p.isWritable = true) :
    plain (readPath p.chars) = .ok (p, []) := by
  obtain ⟨absolute, bare, steps⟩ := p
  cases steps with
  | nil => cases h
  | cons first more =>
    rw [Path.isWritable] at h
    simp only [Bool.and_eq_true, Bool.or_eq_true, beq_iff_eq] at h
    obtain ⟨⟨hleads, hwritable⟩, rfl⟩ := h
    have hread := plain_readPath_chars (!absolute && first.axis ≠ .self && first.axis ≠ .parent)
      (Step.stepsRead _ hwritable) (isWritable_of_stepsWritable hwritable) hleads
      (nextIn_nil afterOperand)
    rwa [List.append_nil] at hread

/-- There is no blank around a written path. -/
theorem trim_chars {p : Path} (h : p.isWritable = true) : Text.trim p.chars = p.chars := by
  have hread := plain_readPath_of_isWritable h
  obtain ⟨absolute, bare, steps⟩ := p
  cases steps with
  | nil => cases h
  | cons first more =>
    obtain ⟨c, -, hblank, hend⟩ := readPath_ends hread (List.cons_ne_nil first more)
    refine Text.trim_eq_self_iff.mpr ⟨?_, Text.stops_reverse_of_suffix hblank hend⟩
    cases absolute with
    | true =>
      obtain ⟨rest, hrest⟩ := exists_cons_separator first.axis
      rw [chars_absolute, hrest]
      rintro d ⟨⟩
      decide +kernel
    | false =>
      rw [Path.isWritable] at h
      simp only [Bool.and_eq_true] at h
      have htest := isWritable_of_stepsWritable h.1.2
      rw [Path.chars]
      exact Text.dropStart_eq_self_iff.mp (skipBlanks_step_append htest (stepsChars more))

theorem ofText?_of_eq_render {p : Path} (h : p.isWritable = true) {text : String}
    (htext : text = p.render) : ofText? text = .ok ⟨text, p⟩ := by
  have hread := plain_readPath_of_isWritable h
  have htrim : Text.trim p.chars = p.chars := trim_chars h
  have hne : p.chars ≠ [] := by
    intro hnil
    rw [hnil] at hread
    exact absurd (length_lt_of_plain_eq_ok hread) (Nat.not_lt_zero _)
  have hchars : text.toList = p.chars := htext ▸ String.toList_ofList
  have htrimmed : Text.trimmed text = text := by
    rw [Text.trimmed, hchars, htrim, htext, Path.render]
  refine (ofText?_eq_ok_iff htrimmed).mpr ⟨?_, rfl⟩
  rw [hchars]
  exact (readWhole_eq_ok_iff hne htrim).mpr hread

/-- A written path is read back as it is: with its steps, their axes and tests, and all that stands
in their predicates, grouped as it was. -/
theorem ofText?_render {p : Path} (h : p.isWritable = true) :
    ofText? p.render = .ok ⟨p.render, p⟩ :=
  ofText?_of_eq_render h rfl

/-- A path with a name that is also a word of the grammar, a condition with forced parentheses and a
text that needs double quotes. -/
theorem ofText?_render_grouped :
    let condition : Expr := .and (.compare (.attribute "n") false (.text "2"))
      (.or (.exists (.path ⟨false, false,
          [⟨.child, .name "or", []⟩, ⟨.descendant, .anyElement, [.last]⟩]⟩))
        (.compare .context true (.text "it's")))
    let p : Path := ⟨true, false, [⟨.descendant, .name "disc", [.condition condition]⟩,
      ⟨.child, .name "track", [.position 3]⟩, ⟨.parent, .anyNode, []⟩, ⟨.child, .text, []⟩]⟩
    p.render = "//disc[@n='2' and (or//*[last()] or .!=\"it's\")]/track[3]/../text()" ∧
      p.isWritable = true ∧ ofText? p.render = .ok ⟨p.render, p⟩ :=
  ⟨by decide +kernel, by decide +kernel, ofText?_render (by decide +kernel)⟩

end Selector

end MarkupRecords
