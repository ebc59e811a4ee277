import MarkupRecords.Proofs.Selector.Remainder

/-!
How written tests, literals and positions are read back. Each is read off the front of a text if
what comes next is one of the characters that may follow it there (`NextIn`); `Opens` says how the
text of a condition can begin, which keeps it apart from the predicates that are no conditions.
-/

set_option autoImplicit false
set_option relaxedAutoImplicit false

namespace MarkupRecords

/-- The axis that the separator before a step asks for. -/
def Axis.asked : Axis → Axis
  | .descendant => .descendant
  | _ => .child

namespace Selector

open Text (Stops)

/-! ### What comes next -/

/-- What comes next, if anything, is one of the given characters. -/
def NextIn (marks cs : List Char) : Prop := ∀ c ∈ cs.head?, c ∈ marks

/-- The characters that can stand right after an operand. -/
def afterOperand : List Char := [']', ')', ' ', '=', '!']

section NextIn

variable {marks more cs : List Char}

theorem nextIn_nil (marks : List Char) : NextIn marks [] := nofun

theorem nextIn_cons {c : Char} (hc : c ∈ marks) (cs : List Char) : NextIn marks (c :: cs) := by
  rintro d ⟨⟩
  exact hc

theorem NextIn.mono (h : NextIn marks cs) (hmore : marks ⊆ more) : NextIn more cs :=
  fun c hc ↦ hmore (h c hc)

theorem NextIn.head?_ne (h : NextIn marks cs) {c : Char} (hc : c ∉ marks) :
    cs.head? ≠ some c :=
  fun hhead ↦ hc (h c hhead)

/-- No name goes on after a step. -/
theorem NextIn.stops (h : NextIn afterStep cs) : Stops isNameChar cs :=
  fun c hc ↦ isNameChar_eq_false_of_mem (List.mem_cons_of_mem _ (h c hc))

end NextIn

theorem skipBlanks_cons {c : Char} (hc : Text.isBlank c = false) (cs : List Char) :
    skipBlanks (c :: cs) = c :: cs :=
  List.dropWhile_cons_of_neg (by rw [hc]; exact Bool.false_ne_true)

theorem plain_expect_cons {c : Char} (hc : Text.isBlank c = false) (cs : List Char) :
    plain (expect c (c :: cs)) = .ok ((), cs) :=
  plain_expect_eq_ok_iff.mpr (skipBlanks_cons hc cs)

theorem restAfter?_append_self (token cs : List Char) :
    restAfter? token (token ++ cs) = some cs := by
  induction token with
  | nil => rfl
  | cons t token ih => rw [List.cons_append, restAfter?_cons_cons, if_pos rfl, ih]

/-- A name that is not followed by parentheses is no function. -/
theorem restAfter?_call_eq_none {name : String} (hname : isName name = true) {word cs : List Char}
    (hword : ∀ c ∈ word, isNameChar c = true) (hcs : Stops isNameChar cs)
    (hcall : cs.head? ≠ some '(') : restAfter? (word ++ ['(', ')']) (name.toList ++ cs) = none := by
  refine Option.eq_none_iff_forall_ne_some.mpr fun rest hrest ↦ hcall ?_
  have happend := eq_append_of_restAfter? hrest
  rw [List.append_assoc] at happend
  have hparen : Stops isNameChar (['(', ')'] ++ rest) := by
    rintro c ⟨⟩
    exact isNameChar_eq_false_of_mem (by decide)
  -- both texts begin with as many characters of names
  have hdrop := congrArg (List.dropWhile isNameChar) happend
  rw [Text.dropWhile_append_of_stops (fun c hc ↦ isNameChar_of_mem hname hc) hcs,
    Text.dropWhile_append_of_stops hword hparen] at hdrop
  rw [hdrop]
  rfl

/-! ### Tests -/

theorem head?_name_append_ne {name : String} (hname : isName name = true) (cs : List Char)
    {c : Char} (hc : isNameStart c = false) : (name.toList ++ cs).head? ≠ some c := by
  obtain ⟨d, rest, hrest, hstart, -⟩ := exists_cons_of_isName hname
  rw [hrest, List.cons_append, List.head?_cons]
  rintro ⟨⟩
  rw [hstart] at hc
  cases hc

theorem plain_readTest_name (axis : Axis) {name : String} (hname : isName name = true)
    {cs : List Char} (hcs : NextIn afterStep cs) :
    plain (readTest axis (name.toList ++ cs)) = .ok ((axis, .name name), cs) := by
  have hpoint := head?_name_append_ne hname cs (isNameStart_eq_false_of_mem (c := '.') (by decide))
  have hstar := head?_name_append_ne hname cs (isNameStart_eq_false_of_mem (c := '*') (by decide))
  rw [plain_readTest_of_head? axis hpoint hstar,
    map_readName?_eq_some_iff.mpr ⟨rfl, hname, hcs.stops⟩]
  exact namedTest_of_head? axis name (hcs.head?_ne (by decide))

theorem plain_readTest_call (axis : Axis) {name : String} (hname : isName name = true)
    (cs : List Char) :
    plain (readTest axis (name.toList ++ '(' :: ')' :: cs)) =
      if name = "text" then .ok ((axis, .text), cs)
      else if name = "node" then .ok ((axis, .anyNode), cs)
      else .error ⟨.unknownFunction name, cs.length⟩ := by
  have hpoint := head?_name_append_ne hname ('(' :: ')' :: cs)
    (isNameStart_eq_false_of_mem (c := '.') (by decide))
  have hstar := head?_name_append_ne hname ('(' :: ')' :: cs)
    (isNameStart_eq_false_of_mem (c := '*') (by decide))
  have hparen : Stops isNameChar ('(' :: ')' :: cs) := by
    rintro d ⟨⟩
    exact isNameChar_eq_false_of_mem (by decide)
  rw [plain_readTest_of_head? axis hpoint hstar,
    map_readName?_eq_some_iff.mpr ⟨rfl, hname, hparen⟩]
  dsimp only
  rw [namedTest_call, plain_expect_cons (by decide +kernel), Except.bind]

/-- A written test is read back along the axis that its separator asks for. -/
theorem plain_readTest_chars {axis : Axis} {test : NodeTest} (h : test.isWritable axis = true)
    {cs : List Char} (hcs : NextIn afterStep cs) :
    plain (readTest axis.asked (test.chars axis ++ cs)) = .ok ((axis, test), cs) := by
  have hforward : ∀ axis' : Axis, axis' = .child ∨ axis' = .descendant →
      test.isWritable axis' = true →
        plain (readTest axis' (test.chars axis' ++ cs)) = .ok ((axis', test), cs) := by
    intro axis' haxis hwritable
    cases test with
    | name name =>
      have hname : isName name = true := by
        rcases haxis with rfl | rfl <;> exact hwritable
      have hchars : (NodeTest.name name).chars axis' = name.toList := by
        rcases haxis with rfl | rfl <;> rfl
      rw [hchars]
      exact plain_readTest_name axis' hname hcs
    | anyElement =>
      rcases haxis with rfl | rfl
      · exact plain_readTest_star .child cs
      · exact plain_readTest_star .descendant cs
    | text =>
      have hcall := plain_readTest_call axis' (show isName "text" = true by decide +kernel) cs
      rcases haxis with rfl | rfl <;> exact hcall
    | anyNode =>
      have hcall := plain_readTest_call axis' (show isName "node" = true by decide +kernel) cs
      rcases haxis with rfl | rfl <;> exact hcall
  cases axis with
  | child => exact hforward .child (.inl rfl) h
  | descendant => exact hforward .descendant (.inr rfl) h
  | self =>
    have htest : test = .anyNode := by simpa [NodeTest.isWritable] using h
    subst htest
    exact plain_readTest_self .child (hcs.head?_ne (by decide))
  | parent =>
    have htest : test = .anyNode := by simpa [NodeTest.isWritable] using h
    subst htest
    exact plain_readTest_parent .child cs

/-- How a written test begins. -/
theorem exists_cons_of_isWritable {axis : Axis} {test : NodeTest}
    (h : test.isWritable axis = true) :
    ∃ c cs, test.chars axis = c :: cs ∧
      (c = '.' ∧ (axis = .self ∨ axis = .parent) ∨
        (c = '*' ∨ isNameStart c = true) ∧ axis ≠ .self ∧ axis ≠ .parent) := by
  have hforward : ∀ axis' : Axis, axis' = .child ∨ axis' = .descendant →
      test.isWritable axis' = true →
        ∃ c cs, test.chars axis' = c :: cs ∧ (c = '*' ∨ isNameStart c = true) := by
    intro axis' haxis hwritable
    cases test with
    | name name =>
      have hname : isName name = true := by
        rcases haxis with rfl | rfl <;> exact hwritable
      obtain ⟨c, cs, hcs, hstart, -⟩ := exists_cons_of_isName hname
      rcases haxis with rfl | rfl <;> exact ⟨c, cs, hcs, .inr hstart⟩
    | anyElement =>
      rcases haxis with rfl | rfl <;> exact ⟨'*', [], rfl, .inl rfl⟩
    | text =>
      have hstart : isNameStart 't' = true := by decide +kernel
      rcases haxis with rfl | rfl <;> exact ⟨'t', _, rfl, .inr hstart⟩
    | anyNode =>
      have hstart : isNameStart 'n' = true := by decide +kernel
      rcases haxis with rfl | rfl <;> exact ⟨'n', _, rfl, .inr hstart⟩
  cases axis with
  | child =>
    obtain ⟨c, cs, hcs, hc⟩ := hforward .child (.inl rfl) h
    exact ⟨c, cs, hcs, .inr ⟨hc, by simp, by simp⟩⟩
  | descendant =>
    obtain ⟨c, cs, hcs, hc⟩ := hforward .descendant (.inr rfl) h
    exact ⟨c, cs, hcs, .inr ⟨hc, by simp, by simp⟩⟩
  | self => exact ⟨'.', [], rfl, .inl ⟨rfl, .inl rfl⟩⟩
  | parent => exact ⟨'.', ['.'], rfl, .inl ⟨rfl, .inr rfl⟩⟩

/-! ### Literals and positions -/

theorem readQuoted?_content {q : Char} {content : String} (hq : q ∉ content.toList)
    (cs : List Char) :
    (readQuoted? q (content.toList ++ q :: cs)).map taken = some (content, cs) := by
  have hne : ∀ c ∈ content.toList, decide (c ≠ q) = true := by
    intro c hc
    simp only [ne_eq, decide_eq_true_eq]
    rintro rfl
    exact hq hc
  have hstops : Stops (fun c ↦ decide (c ≠ q)) (q :: cs) := by
    rintro c ⟨⟩
    simp
  rw [map_readQuoted?, Text.dropWhile_append_of_stops hne hstops,
    Text.takeWhile_append_of_stops hne hstops, String.ofList_toList]

theorem plain_readLiteral_quoted {q : Char} (hquote : q = '\'' ∨ q = '"') {content : String}
    (hq : q ∉ content.toList) (cs : List Char) :
    plain (readLiteral (q :: content.toList ++ [q] ++ cs)) = .ok (.text content, cs) := by
  have hblank : Text.isBlank q = false := by
    rcases hquote with rfl | rfl <;> decide +kernel
  have hnumber : ¬(q.isDigit || q == '-') = true := by
    rcases hquote with rfl | rfl <;> decide
  rw [List.append_assoc, List.cons_append, List.singleton_append, plain_readLiteral,
    skipBlanks_cons hblank, plain_readLiteralHere, map_readNumberText?_cons, if_neg hnumber]
  dsimp only
  rw [if_pos hquote, readQuoted?_content hq]

/-- A written literal is read back. -/
theorem plain_readLiteral_chars {l : Literal} (h : l.isWritable = true) (cs : List Char) :
    plain (readLiteral (l.chars ++ cs)) = .ok (l, cs) := by
  cases l with
  | number written value => cases h
  | text content =>
    simp only [Literal.isWritable, Bool.not_eq_true', Bool.and_eq_false_iff] at h
    by_cases hsingle : content.toList.contains '\'' = true
    · have hdouble := h.resolve_left (by rw [hsingle]; exact Bool.noConfusion)
      rw [Literal.chars, if_pos hsingle]
      exact plain_readLiteral_quoted (.inr rfl) (by simpa using hdouble) cs
    · rw [Literal.chars, if_neg hsingle]
      exact plain_readLiteral_quoted (.inl rfl) (by simpa using hsingle) cs

/-- A written position is read back. -/
theorem plain_readPredicate_toDigits {n : Nat} (hn : 1 ≤ n ∧ n < UInt64.size) (cs : List Char) :
    plain (readPredicate (Nat.toDigits 10 n ++ ']' :: cs)) = .ok (.position n, ']' :: cs) := by
  have hdigits : ∀ c ∈ Nat.toDigits 10 n, c.isDigit = true := fun c hc ↦
    Nat.isDigit_of_mem_toDigits (by decide) (by decide) hc
  have hposition : position? (Nat.toDigits 10 n) = some n := by
    unfold position?
    rw [if_pos (List.all_eq_true.mpr hdigits), Nat.ofDigitChars_ten_toDigits, if_pos hn]
  obtain ⟨c, ds, hcs⟩ := List.exists_cons_of_ne_nil (Nat.toDigits_ne_nil (n := n) (b := 10))
  rw [hcs] at hdigits hposition ⊢
  obtain ⟨hc, hds⟩ := List.forall_mem_cons.mp hdigits
  have hnumber : ∀ d ∈ ds, isNumberChar d = true := fun d hd ↦ by
    rw [isNumberChar, hds d hd, Bool.true_or]
  have hstops : Stops isNumberChar (']' :: cs) := by
    rintro d ⟨⟩
    decide
  have hblank := isBlank_eq_false_of_isDigit hc
  rw [List.cons_append, plain_readPredicate_digit (skipBlanks_cons hblank _) hc,
    Text.takeWhile_append_of_stops hnumber hstops, Text.dropWhile_append_of_stops hnumber hstops,
    hposition]

/-! ### How conditions begin -/

/-- A text begins with a name that is no function, with one of the given marks, or with the function
for texts. -/
inductive Opens (marks : List Char) : List Char → Prop
  | name {name : String} {cs : List Char} (hname : isName name = true)
      (hcs : NextIn afterStep cs) : Opens marks (name.toList ++ cs)
  | mark {c : Char} (hc : c ∈ marks) (cs : List Char) : Opens marks (c :: cs)
  | text (cs : List Char) : Opens marks (['t', 'e', 'x', 't', '(', ')'] ++ cs)

/-- The marks with which the text of an operand can begin. -/
def operandMarks : List Char := ['@', '.', '/', '*']

namespace Opens

variable {marks cs : List Char}

theorem mono {more : List Char} (h : Opens marks cs) (hmore : marks ⊆ more) : Opens more cs := by
  cases h with
  | name hname hcs => exact .name hname hcs
  | mark hc cs => exact .mark (hmore hc) cs
  | text cs => exact .text cs

theorem exists_cons (h : Opens marks cs) :
    ∃ c rest, cs = c :: rest ∧ (isNameStart c = true ∨ c ∈ marks) := by
  cases h with
  | name hname hcs =>
    obtain ⟨c, rest, hrest, hstart, -⟩ := exists_cons_of_isName hname
    rw [hrest]
    exact ⟨c, _, rfl, .inl hstart⟩
  | mark hc cs => exact ⟨_, cs, rfl, .inr hc⟩
  | text cs => exact ⟨'t', _, rfl, .inl (by decide +kernel)⟩

theorem skipBlanks_eq (h : Opens ('(' :: operandMarks) cs) : skipBlanks cs = cs := by
  obtain ⟨c, rest, rfl, hstart | hmark⟩ := h.exists_cons
  · exact skipBlanks_cons (isBlank_eq_false_of_isNameChar (isNameChar_of_isNameStart hstart)) rest
  · have hblanks : ∀ d ∈ '(' :: operandMarks, Text.isBlank d = false :=
      eq_of_all (by decide +kernel)
    exact skipBlanks_cons (hblanks c hmark) rest

theorem head?_ne_paren (h : Opens operandMarks cs) : cs.head? ≠ some '(' := by
  obtain ⟨c, rest, rfl, hstart | hmark⟩ := h.exists_cons
  · rintro ⟨⟩
    rw [isNameStart_eq_false_of_mem (by decide)] at hstart
    cases hstart
  · rintro ⟨⟩
    revert hmark
    decide

theorem not_digit (h : Opens ('(' :: operandMarks) cs) : cs.head?.any Char.isDigit = false := by
  obtain ⟨c, rest, rfl, hstart | hmark⟩ := h.exists_cons
  · exact isDigit_eq_false_of_isNameStart hstart
  · have hdigits : ∀ d ∈ '(' :: operandMarks, d.isDigit = false := eq_of_all (by decide)
    exact hdigits c hmark

theorem not_last (h : Opens ('(' :: operandMarks) cs) :
    restAfter? ['l', 'a', 's', 't', '(', ')'] cs = none := by
  cases h with
  | name hname hcs =>
    have hword : ∀ c ∈ ['l', 'a', 's', 't'], isNameChar c = true := eq_of_all (by decide +kernel)
    exact restAfter?_call_eq_none hname hword hcs.stops (hcs.head?_ne (by decide))
  | mark hc cs =>
    rw [restAfter?_cons_cons, if_neg]
    rintro rfl
    revert hc
    decide
  | text cs => rfl

end Opens

end Selector

end MarkupRecords
