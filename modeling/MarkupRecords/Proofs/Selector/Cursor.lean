import MarkupRecords.Proofs.Selector.Remainder
import MarkupRecords.Selector.Scanning

/-!
How a cursor moves, and how scans are followed.

The record of a cursor is sound for a text (`Cursor.IsSound`) if all that happened in it happened
inside of the text, at places that do not go back, and if each part begins after the last place
where it began. A cursor may always be moved on to a place inside of the text and may always cut out
what it has gone over; a part may begin if it has not begun at the same place before
(`Cursor.IsNew`). Going over at least one character makes all parts new (`Cursor.Passes.isFresh`).

Scans are compared with readers, which know the characters that are left and no places.
`Scan.Follows` says that a scan comes to an end as a reader does: with the same value, and with the
cursor before what the reader leaves; or with the same complaint, and with the cursor where the
reader got stuck. A scan in steps follows a reader in steps (`Scan.Follows.bind`); the scans of
tokens come in the form in which a longer scan goes on from them.
-/

set_option autoImplicit false
set_option relaxedAutoImplicit false

namespace MarkupRecords.Selector

/-! ### Records -/

namespace Cursor

variable {n : Nat} {c c' c'' : Cursor} {part other : Part} {e : Event}

theorem beginnings_move (c : Cursor) (count : Nat) (part : Part) :
    (c.move count).beginnings part = c.beginnings part :=
  List.filterMap_cons_none rfl

theorem beginnings_cut (c : Cursor) (start : Nat) (part : Part) :
    (c.cut start).beginnings part = c.beginnings part :=
  List.filterMap_cons_none rfl

theorem beginnings_mark_self (c : Cursor) (part : Part) :
    (c.mark part).beginnings part = c.pos :: c.beginnings part :=
  List.filterMap_cons_some (if_pos rfl)

theorem beginnings_mark_of_ne (c : Cursor) (h : part ≠ other) :
    (c.mark part).beginnings other = c.beginnings other :=
  List.filterMap_cons_none (if_neg h)

/-- The given part has begun before the cursor only. -/
def IsNew (c : Cursor) (part : Part) : Prop := ∀ pos ∈ c.beginnings part, pos < c.pos

/-- All parts have begun before the cursor only. -/
def IsFresh (c : Cursor) : Prop := ∀ part, c.IsNew part

theorem IsNew.mark_of_ne (h : c.IsNew other) (hne : part ≠ other) : (c.mark part).IsNew other := by
  unfold IsNew
  rw [beginnings_mark_of_ne c hne]
  exact h

/-- The record is that of a cursor that keeps inside of a text of `n` characters, never goes back,
and goes on between any two beginnings of the same part. -/
structure IsSound (n : Nat) (c : Cursor) : Prop where
  pos_le : ∀ e ∈ c.events, e.pos ≤ n
  ascending : c.events.Pairwise fun later earlier ↦ earlier.pos ≤ later.pos
  cut_le : ∀ start stop, .cut start stop ∈ c.events → start ≤ stop ∧ stop ≤ n
  apart : ∀ part, (c.beginnings part).Pairwise fun later earlier ↦ earlier < later

namespace IsSound

theorem start : IsSound n start where
  pos_le := List.forall_mem_singleton.mpr (Nat.zero_le n)
  ascending := List.pairwise_singleton _ _
  cut_le _ _ h := by cases List.mem_singleton.mp h
  apart _ := List.Pairwise.nil

theorem le (h : IsSound n c) : c.pos ≤ n := h.pos_le c.latest List.mem_cons_self

theorem le_pos (h : IsSound n c) (he : e ∈ c.events) : e.pos ≤ c.pos := by
  rcases List.mem_cons.mp he with rfl | he
  · exact Nat.le_refl _
  · exact (List.pairwise_cons.mp h.ascending).1 e he

theorem le_pos_of_mem_beginnings (h : IsSound n c) {pos : Nat} (hpos : pos ∈ c.beginnings part) :
    pos ≤ c.pos := by
  obtain ⟨e, he, hbegun⟩ := List.mem_filterMap.mp hpos
  cases e with
  | begun p q =>
    simp only [Event.beginning?, Option.ite_none_right_eq_some, Option.some.injEq] at hbegun
    rw [← hbegun.2]
    exact h.le_pos he
  | _ => cases hbegun

/-- What keeps to the text and to the order of places, and begins no part, may happen. -/
theorem record (h : IsSound n c) (hpos : c.pos ≤ e.pos) (hle : e.pos ≤ n)
    (hcut : ∀ start stop, e = .cut start stop → start ≤ stop ∧ stop ≤ n)
    (hapart : ∀ part, ((c.record e).beginnings part).Pairwise fun later earlier ↦ earlier < later) :
    IsSound n (c.record e) where
  pos_le := List.forall_mem_cons.mpr ⟨hle, h.pos_le⟩
  ascending := List.pairwise_cons.mpr ⟨fun _ hearlier ↦ (h.le_pos hearlier).trans hpos, h.ascending⟩
  cut_le start stop hmem := by
    rcases List.mem_cons.mp hmem with heq | hmem
    · exact hcut start stop heq.symm
    · exact h.cut_le start stop hmem
  apart := hapart

theorem move (h : IsSound n c) {count : Nat} (hle : c.pos + count ≤ n) :
    IsSound n (c.move count) :=
  h.record (Nat.le_add_right _ _) hle nofun fun part ↦ by
    rw [← Cursor.move, beginnings_move]
    exact h.apart part

theorem cut (h : IsSound n c) {start : Nat} (hstart : start ≤ c.pos) : IsSound n (c.cut start) :=
  h.record (Nat.le_refl _) h.le (fun _ _ heq ↦ by cases heq; exact ⟨hstart, h.le⟩) fun part ↦ by
    rw [← Cursor.cut, beginnings_cut]
    exact h.apart part

theorem mark (h : IsSound n c) (hnew : c.IsNew part) : IsSound n (c.mark part) :=
  h.record (Nat.le_refl _) h.le nofun fun other ↦ by
    rw [← Cursor.mark]
    by_cases heq : part = other
    · rw [← heq, beginnings_mark_self]
      exact List.pairwise_cons.mpr ⟨hnew, h.apart part⟩
    · rw [beginnings_mark_of_ne c heq]
      exact h.apart other

end IsSound

/-! ### Places in a text -/

variable {text cs passed more rest : List Char}

/-- The cursor `c'` has gone on from `c` over the characters `passed`. No part has begun. -/
structure Passes (text : List Char) (c : Cursor) (passed : List Char) (c' : Cursor) : Prop where
  sound : c'.IsSound text.length
  pos : c'.pos = c.pos + passed.length
  beginnings : ∀ part, c'.beginnings part = c.beginnings part

namespace Passes

theorem refl (h : c.IsSound text.length) : c.Passes text [] c := ⟨h, rfl, fun _ ↦ rfl⟩

theorem trans (h : c.Passes text passed c') (h' : c'.Passes text more c'') :
    c.Passes text (passed ++ more) c'' where
  sound := h'.sound
  pos := by rw [h'.pos, h.pos, List.length_append, Nat.add_assoc]
  beginnings part := (h'.beginnings part).trans (h.beginnings part)

theorem move (h : c.IsSound text.length) (hle : c.pos + passed.length ≤ text.length) :
    c.Passes text passed (c.move passed.length) :=
  ⟨h.move hle, rfl, c.beginnings_move _⟩

/-- Cutting out what has been gone over does not move the cursor. -/
theorem cut (h : c.Passes text passed c') : c.Passes text passed (c'.cut c.pos) where
  sound := h.sound.cut (by rw [h.pos]; exact Nat.le_add_right _ _)
  pos := h.pos
  beginnings part := (c'.beginnings_cut c.pos part).trans (h.beginnings part)

theorem isNew (h : c.Passes text passed c') (hnew : c.IsNew part) : c'.IsNew part := by
  intro pos hpos
  rw [h.beginnings] at hpos
  rw [h.pos]
  exact Nat.lt_add_right _ (hnew pos hpos)

/-- After at least one character, all parts are new. -/
theorem isFresh (h : c.Passes text passed c') (hsound : c.IsSound text.length)
    (hne : passed ≠ []) : c'.IsFresh := by
  intro part pos hpos
  rw [h.beginnings] at hpos
  rw [h.pos]
  exact Nat.lt_of_le_of_lt (hsound.le_pos_of_mem_beginnings hpos)
    (Nat.lt_add_of_pos_right (List.length_pos_iff.mpr hne))

end Passes

/-- The cursor stands right before `cs`, which is the rest of the text. -/
structure Stands (text : List Char) (c : Cursor) (cs : List Char) : Prop where
  sound : c.IsSound text.length
  drop_pos : text.drop c.pos = cs

/-- The cursor stands before `rest`, and all parts are new there. -/
structure Leaves (text : List Char) (c : Cursor) (rest : List Char) : Prop
    extends Stands text c rest where
  fresh : c.IsFresh

/-- The cursor stands before `cs`, and a path with its first step may begin there. -/
structure Admits (text : List Char) (c : Cursor) (cs : List Char) : Prop
    extends Stands text c cs where
  path : c.IsNew .path
  step : c.IsNew .step

/-- The cursor stands before `rest` or has gone on over blanks, and all parts are new there. -/
structure NearlyLeaves (text : List Char) (c : Cursor) (rest : List Char) : Prop where
  sound : c.IsSound text.length
  fresh : c.IsFresh
  skipBlanks_eq : skipBlanks (text.drop c.pos) = skipBlanks rest
  length_le : (text.drop c.pos).length ≤ rest.length

theorem Leaves.admits (h : c.Leaves text rest) : c.Admits text rest :=
  ⟨h.toStands, h.fresh .path, h.fresh .step⟩

theorem IsSound.stands (h : c.IsSound text.length) : c.Stands text (text.drop c.pos) := ⟨h, rfl⟩

theorem Leaves.nearly (h : c.Leaves text rest) : c.NearlyLeaves text rest :=
  ⟨h.sound, h.fresh, by rw [h.drop_pos], by rw [h.drop_pos]⟩

/-- A cursor that has gone on over blanks nearly stands where it did before. -/
theorem Leaves.nearly_of_skipBlanks (h : c.Leaves text (skipBlanks rest)) :
    c.NearlyLeaves text rest := by
  refine ⟨h.sound, h.fresh, ?_, ?_⟩
  · rw [h.drop_pos]
    exact Text.dropStart_eq_self_iff.mpr (Text.stops_dropWhile _ rest)
  · rw [h.drop_pos]
    exact length_skipBlanks_le rest

namespace Stands

theorem pos_add_length (h : c.Stands text cs) : c.pos + cs.length = text.length := by
  rw [← h.drop_pos, List.length_drop]
  exact Nat.add_sub_cancel' h.sound.le

theorem takeWhile_append (h : c.Stands text cs) (p : Char → Bool) :
    c.Stands text (cs.takeWhile p ++ cs.dropWhile p) := by
  rwa [List.takeWhile_append_dropWhile]

theorem getElem?_pos_add (h : c.Stands text cs) (i : Nat) : text[c.pos + i]? = cs[i]? := by
  rw [← h.drop_pos, List.getElem?_drop]

/-- A cursor before `passed` can go on over it. -/
theorem passes_move (h : c.Stands text (passed ++ rest)) :
    c.Passes text passed (c.move passed.length) := by
  have hlength := h.pos_add_length
  rw [List.length_append] at hlength
  exact .move h.sound (by omega)

/-- After what it has gone over, the cursor stands before the rest. -/
theorem passes (h : c.Stands text (passed ++ rest)) (hpasses : c.Passes text passed c') :
    c'.Stands text rest where
  sound := hpasses.sound
  drop_pos := by rw [hpasses.pos, ← List.drop_drop, h.drop_pos, List.drop_left]

theorem leaves (h : c.Stands text (passed ++ rest)) (hpasses : c.Passes text passed c')
    (hne : passed ≠ []) : c'.Leaves text rest :=
  ⟨h.passes hpasses, hpasses.isFresh h.sound hne⟩

theorem mark (h : c.Stands text cs) (hnew : c.IsNew part) : (c.mark part).Stands text cs :=
  ⟨h.sound.mark hnew, h.drop_pos⟩

end Stands

/-- Where a round of a loop begins, a path may begin as well. -/
theorem Leaves.admits_mark (h : c.Leaves text cs) (part : Part) (hpath : part ≠ .path)
    (hstep : part ≠ .step) : (c.mark part).Admits text cs :=
  ⟨h.mark (h.fresh part), (h.fresh .path).mark_of_ne hpath, (h.fresh .step).mark_of_ne hstep⟩

theorem Admits.passes (h : c.Admits text cs) (hpasses : c.Passes text passed c')
    (hc' : c'.Stands text rest) : c'.Admits text rest :=
  ⟨hc', hpasses.isNew h.path, hpasses.isNew h.step⟩

end Cursor

/-! ### Runs of scans -/

namespace Scan

variable {α β : Type} {text cs rest token : List Char} {c c' : Cursor} {depth : Nat}

theorem bind_of_ok {m : Scan α} {a : α} (h : m c = some (.ok a, c')) (f : α → Scan β) :
    (m >>= f) c = f a c' := by
  simp only [bind, ExceptT.bind, ExceptT.mk, StateT.bind, h, Option.bind_some, ExceptT.bindCont]

theorem bind_of_error {m : Scan α} {e : Complaint} (h : m c = some (.error e, c'))
    (f : α → Scan β) : (m >>= f) c = some (.error e, c') := by
  simp only [bind, ExceptT.bind, ExceptT.mk, StateT.bind, h, Option.bind_some, ExceptT.bindCont]
  rfl

theorem bind_of_none {m : Scan α} (h : m c = none) (f : α → Scan β) : (m >>= f) c = none := by
  simp only [bind, ExceptT.bind, ExceptT.mk, StateT.bind, h, Option.bind_none]

theorem run_here (c : Cursor) : here c = some (.ok c.pos, c) := rfl

theorem run_move (c : Cursor) (count : Nat) : move count c = some (.ok (), c.move count) := rfl

theorem run_mark (c : Cursor) (part : Cursor.Part) : mark part c = some (.ok (), c.mark part) := rfl

theorem run_peek (h : c.Stands text cs) : peek text c = some (.ok cs.head?, c) := by
  rw [List.head?_eq_getElem?, ← h.getElem?_pos_add]
  rfl

theorem run_atEnd (h : c.Stands text cs) : atEnd text c = some (.ok cs.isEmpty, c) := by
  have hlength := h.pos_add_length
  have hempty : cs.isEmpty = decide (text.length ≤ c.pos) := by
    rw [Bool.eq_iff_iff, List.isEmpty_iff_length_eq_zero, decide_eq_true_eq]
    omega
  rw [hempty]
  rfl

theorem isPrefixOf_eq (token cs : List Char) :
    token.isPrefixOf cs = (restAfter? token cs).isSome := by
  induction token generalizing cs with
  | nil => rfl
  | cons t token ih =>
    cases cs with
    | nil => rfl
    | cons d cs =>
      rw [restAfter?_cons_cons, List.isPrefixOf, ih]
      split_ifs with htd
      · simp [htd]
      · simp [htd]

theorem run_startsWith (h : c.Stands text cs) (token : List Char) :
    startsWith text token c = some (.ok (restAfter? token cs).isSome, c) := by
  rw [← isPrefixOf_eq, ← h.drop_pos]
  rfl

theorem run_eat_of_some (h : c.Stands text cs) (htoken : restAfter? token cs = some rest) :
    eat text token c = some (.ok true, c.move token.length) := by
  have hstarts := run_startsWith h token
  rw [htoken, Option.isSome_some] at hstarts
  exact bind_of_ok hstarts _

theorem run_eat_of_none (h : c.Stands text cs) (htoken : restAfter? token cs = none) :
    eat text token c = some (.ok false, c) := by
  have hstarts := run_startsWith h token
  rw [htoken, Option.isSome_none] at hstarts
  exact bind_of_ok hstarts _

/-- The loop over characters ends, after the characters it is to go over. -/
theorem run_passWhile (p : Char → Bool) (h : c.Stands text cs) (hdepth : cs.length < depth) :
    ∃ c', passWhile text p depth c = some (.ok (), c') ∧
      c.Passes text (cs.takeWhile p) c' := by
  induction depth generalizing c cs with
  | zero => exact absurd hdepth (Nat.not_lt_zero _)
  | succ depth ih =>
    rw [passWhile, bind_of_ok (run_peek h)]
    cases cs with
    | nil => exact ⟨c, rfl, .refl h.sound⟩
    | cons d cs =>
      rw [List.head?_cons, Option.any_some]
      by_cases hd : p d = true
      · rw [List.takeWhile_cons_of_pos hd]
        have hd' : c.Stands text ([d] ++ cs) := h
        have hstep := hd'.passes_move
        obtain ⟨c', hrun, hpasses⟩ := ih (hd'.passes hstep) (Nat.lt_of_succ_lt_succ hdepth)
        refine ⟨c', ?_, hstep.trans hpasses⟩
        rw [if_pos hd, bind_of_ok (run_move c 1)]
        exact hrun
      · rw [List.takeWhile_cons_of_neg hd, if_neg hd]
        exact ⟨c, rfl, .refl h.sound⟩

/-- What is cut out is what the cursor has gone over. -/
theorem run_cut {passed : List Char} (h : c.Stands text (passed ++ rest))
    (hpasses : c.Passes text passed c') :
    cut text c.pos c' = some (.ok passed, c'.cut c.pos) := by
  have hcut : (text.drop c.pos).take (c'.pos - c.pos) = passed := by
    rw [h.drop_pos, hpasses.pos, Nat.add_sub_cancel_left, List.take_left]
  rw [← hcut]
  rfl

/-! ### Following a reader -/

variable {At At' : Cursor → List Char → Prop} {m : Scan α} {f : α → Scan β}
  {r : Except Stuck (α × List Char)}

/-- A scan from the cursor `c` ends as reading does: with the value that is read, and a cursor in
the relation `At` to what is left, or with the same complaint, and a cursor where reading is
stuck. -/
def Follows (text : List Char) (At : Cursor → List Char → Prop) (m : Scan α) (c : Cursor) :
    Except Stuck (α × List Char) → Prop
  | .ok (a, rest) => ∃ c', m c = some (.ok a, c') ∧ At c' rest
  | .error s => ∃ c', m c = some (.error s.complaint, c') ∧ c'.IsSound text.length ∧
      (text.drop c'.pos).length = s.left

theorem follows_pure {a : α} (h : At c rest) : Follows text At (pure a) c (.ok (a, rest)) :=
  ⟨c, rfl, h⟩

theorem follows_throw {e : Complaint} (h : c.Stands text cs) :
    Follows text At (throw e : Scan α) c (.error ⟨e, cs.length⟩) :=
  ⟨c, rfl, h.sound, by rw [h.drop_pos]⟩

theorem follows_of_run {a : α} {r : Except Stuck (β × List Char)}
    (h : m c = some (.ok a, c')) (hf : Follows text At (f a) c' r) :
    Follows text At (m >>= f) c r := by
  have hrun := bind_of_ok h f
  cases r with
  | error s =>
    obtain ⟨last, hlast, hstuck⟩ := hf
    exact ⟨last, hrun.trans hlast, hstuck⟩
  | ok t =>
    obtain ⟨last, hlast, hat⟩ := hf
    exact ⟨last, hrun.trans hlast, hat⟩

/-- A scan of two steps follows a reader of two steps. -/
theorem Follows.bind {g : α × List Char → Except Stuck (β × List Char)}
    (h : Follows text At m c r)
    (hf : ∀ a rest c', r = .ok (a, rest) → At c' rest →
      Follows text At' (f a) c' (g (a, rest))) :
    Follows text At' (m >>= f) c (r.bind g) := by
  cases r with
  | error s =>
    obtain ⟨last, hlast, hstuck⟩ := h
    exact ⟨last, bind_of_error hlast f, hstuck⟩
  | ok t =>
    obtain ⟨c', hrun, hat⟩ := h
    exact follows_of_run hrun (hf t.1 t.2 c' rfl hat)

theorem Follows.map (h : Follows text At m c r) (k : α → β) :
    Follows text At (m >>= fun a ↦ pure (k a)) c (r.map fun s ↦ (k s.1, s.2)) := by
  cases r with
  | error s =>
    obtain ⟨last, hlast, hstuck⟩ := h
    exact ⟨last, bind_of_error hlast _, hstuck⟩
  | ok t =>
    obtain ⟨c', hrun, hat⟩ := h
    exact follows_of_run hrun (follows_pure hat)

theorem Follows.imp (h : Follows text At m c r) (hat : ∀ c' rest, At c' rest → At' c' rest) :
    Follows text At' m c r := by
  cases r with
  | error s => exact h
  | ok t =>
    obtain ⟨c', hrun, hc'⟩ := h
    exact ⟨c', hrun, hat c' t.2 hc'⟩

/-- A scan that goes on from a token if it comes next, and otherwise goes on without it. -/
theorem follows_eat {yes no : Scan α} (h : c.Stands text cs) (hne : token ≠ [])
    (hyes : ∀ rest c', cs = token ++ rest → c'.Leaves text rest → Follows text At yes c' r)
    (hno : restAfter? token cs = none → Follows text At no c r) :
    Follows text At (eat text token >>= fun found ↦ if found = true then yes else no) c r := by
  cases htoken : restAfter? token cs with
  | none =>
    refine follows_of_run (run_eat_of_none h htoken) ?_
    rw [if_neg Bool.false_ne_true]
    exact hno htoken
  | some rest =>
    refine follows_of_run (run_eat_of_some h htoken) ?_
    rw [if_pos rfl]
    have hcs := eq_append_of_restAfter? htoken
    rw [hcs] at h
    exact hyes rest _ hcs (h.leaves h.passes_move hne)

/-- A scan that goes on after blanks. -/
theorem follows_passBlanks {next : Scan α} (h : c.Stands text cs) (hdepth : cs.length < depth)
    (hnext : ∀ c', c.Passes text (cs.takeWhile Text.isBlank) c' →
      c'.Stands text (skipBlanks cs) → Follows text At next c' r) :
    Follows text At (passWhile text Text.isBlank depth >>= fun _ ↦ next) c r := by
  obtain ⟨c', hrun, hpasses⟩ := run_passWhile Text.isBlank h hdepth
  exact follows_of_run hrun (hnext c' hpasses ((h.takeWhile_append Text.isBlank).passes hpasses))

end Scan

end MarkupRecords.Selector
