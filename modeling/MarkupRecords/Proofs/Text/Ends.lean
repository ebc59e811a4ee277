import MarkupRecords.Text.Blank
import Mathlib.Data.List.TakeWhile

/-!
The ends of texts. A run of characters that satisfy `p` ends where the text goes on with one that
does not, or is over; `Stops p` says that a text begins so. A text that begins and ends with
characters that are not dropped is left as it is by `dropStart`, `dropEnd` and `trim`.
-/

set_option autoImplicit false
set_option relaxedAutoImplicit false

namespace MarkupRecords.Text

variable {p : Char → Bool} {cs : List Char}

/-- No character at the start of a text satisfies `p`. -/
def Stops (p : Char → Bool) (cs : List Char) : Prop := ∀ c ∈ cs.head?, p c = false

theorem stops_of_head? {c : Char} (h : cs.head? = some c) (hc : p c = false) : Stops p cs := by
  intro d hd
  rwa [← Option.some.inj (h.symm.trans hd)]

theorem stops_dropWhile (p : Char → Bool) (cs : List Char) : Stops p (cs.dropWhile p) := by
  intro c hc
  have hnot := List.head?_dropWhile_not p cs
  rw [Option.mem_def.mp hc] at hnot
  simpa using hnot

theorem takeWhile_append_of_stops {xs rest : List Char} (hxs : ∀ c ∈ xs, p c = true)
    (hrest : Stops p rest) : (xs ++ rest).takeWhile p = xs := by
  rw [List.takeWhile_append_of_pos hxs]
  cases rest with
  | nil => simp
  | cons c rest =>
    have hc : p c = false := hrest c rfl
    simp [hc]

theorem dropWhile_append_of_stops {xs rest : List Char} (hxs : ∀ c ∈ xs, p c = true)
    (hrest : Stops p rest) : (xs ++ rest).dropWhile p = rest := by
  rw [List.dropWhile_append_of_pos hxs]
  cases rest with
  | nil => rfl
  | cons c rest =>
    have hc : p c = false := hrest c rfl
    simp [hc]

theorem dropStart_eq_self_iff : dropStart p cs = cs ↔ Stops p cs := by
  constructor
  · intro h
    rw [← h]
    exact stops_dropWhile p cs
  · intro h
    exact dropWhile_append_of_stops (List.forall_mem_nil _) h

theorem dropEnd_eq_self_iff : dropEnd p cs = cs ↔ Stops p cs.reverse := by
  rw [dropEnd, List.reverse_eq_iff]
  exact dropStart_eq_self_iff

theorem dropEnd_append_of_stops {run : List Char} (hcs : Stops p cs.reverse)
    (hrun : ∀ c ∈ run, p c = true) : dropEnd p (cs ++ run) = cs := by
  rw [dropEnd, List.reverse_append, dropWhile_append_of_stops _ hcs, List.reverse_reverse]
  intro c hc
  exact hrun c (List.mem_reverse.mp hc)

/-- What is dropped from the end of a text are the characters there that satisfy `p`. -/
theorem exists_eq_dropEnd_append (p : Char → Bool) (cs : List Char) :
    Stops p (dropEnd p cs).reverse ∧
      ∃ run, cs = dropEnd p cs ++ run ∧ ∀ c ∈ run, p c = true := by
  rw [dropEnd, List.reverse_reverse]
  refine ⟨stops_dropWhile p _, (cs.reverse.takeWhile p).reverse, ?_, fun c hc ↦ ?_⟩
  · rw [← List.reverse_append, List.takeWhile_append_dropWhile, List.reverse_reverse]
  · exact List.mem_takeWhile_imp (List.mem_reverse.mp hc)

/-- What is dropped from the end leaves the start alone, if it is not the whole text. -/
theorem head?_dropEnd (h : ∃ c ∈ cs, p c = false) : (dropEnd p cs).head? = cs.head? := by
  obtain ⟨c, hc, hpc⟩ := h
  obtain ⟨-, run, hcs, hrun⟩ := exists_eq_dropEnd_append p cs
  have hne : dropEnd p cs ≠ [] := by
    intro hnil
    rw [hnil, List.nil_append] at hcs
    rw [hrun c (hcs ▸ hc)] at hpc
    cases hpc
  obtain ⟨d, kept, hkept⟩ := List.exists_cons_of_ne_nil hne
  rw [hkept] at hcs ⊢
  rw [hcs]
  rfl

/-- What is left of a text begins as the text does. -/
theorem mem_head?_of_dropEnd {c : Char} (h : c ∈ (dropEnd p cs).head?) : c ∈ cs.head? := by
  obtain ⟨-, run, hcs, -⟩ := exists_eq_dropEnd_append p cs
  rw [hcs, List.head?_append, Option.mem_def.mp h]
  rfl

/-- A text ends with a character that does not satisfy `p`. -/
theorem stops_reverse_of_suffix {c : Char} (hc : p c = false) (h : [c] <:+ cs) :
    Stops p cs.reverse := by
  obtain ⟨front, rfl⟩ := h
  intro d hd
  rw [List.reverse_append, List.reverse_singleton, List.singleton_append, List.head?_cons] at hd
  rwa [← Option.some.inj hd]

theorem stops_append_left {more : List Char} (hne : cs ≠ []) (h : Stops p cs) :
    Stops p (cs ++ more) := by
  obtain ⟨c, cs, rfl⟩ := List.exists_cons_of_ne_nil hne
  exact h

/-- Only the empty end of a text can consist of characters that the text does not end with. -/
theorem eq_nil_of_suffix_of_dropWhile {rest : List Char} (h : Stops p cs.reverse)
    (hsuffix : rest <:+ cs) (hrest : rest.dropWhile p = []) : rest = [] := by
  rcases List.eq_nil_or_concat rest with hnil | ⟨front, c, rfl⟩
  · exact hnil
  · have hall := List.dropWhile_eq_nil_iff.mp hrest c (by simp)
    obtain ⟨before, rfl⟩ := hsuffix
    have hc := h c (by simp)
    rw [hc] at hall
    cases hall

theorem trim_eq_self_iff : trim cs = cs ↔ Stops isBlank cs ∧ Stops isBlank cs.reverse := by
  constructor
  · intro h
    have hstart : dropStart isBlank cs = cs := by
      have hsuffix : dropStart isBlank cs <:+ cs := List.dropWhile_suffix isBlank
      have hlength : (trim cs).length ≤ (dropStart isBlank cs).length := by
        have hsublist := List.dropWhile_sublist (l := (dropStart isBlank cs).reverse) isBlank
        have hdrop := hsublist.length_le
        rw [List.length_reverse] at hdrop
        rwa [trim, trimEnd, dropEnd, List.length_reverse]
      rw [h] at hlength
      exact hsuffix.eq_of_length_le hlength
    rw [trim, trimEnd, trimStart, hstart] at h
    exact ⟨dropStart_eq_self_iff.mp hstart, dropEnd_eq_self_iff.mp h⟩
  · rintro ⟨hstart, hend⟩
    rw [trim, trimEnd, trimStart, dropStart_eq_self_iff.mpr hstart, dropEnd_eq_self_iff.mpr hend]

/-- A text is trimmed if its front part does not begin, and its back part does not end, with a
blank. -/
theorem trim_append {front back : List Char} (hfront : front ≠ []) (hstart : Stops isBlank front)
    (hback : back ≠ []) (hend : Stops isBlank back.reverse) :
    trim (front ++ back) = front ++ back := by
  refine trim_eq_self_iff.mpr ⟨stops_append_left hfront hstart, ?_⟩
  rw [List.reverse_append]
  exact stops_append_left (List.reverse_ne_nil_iff.mpr hback) hend

theorem trimmed_eq_self_iff {s : String} : trimmed s = s ↔ trim s.toList = s.toList := by
  rw [← String.toList_inj, trimmed_toList]

theorem isBlank_slash : isBlank '/' = false := by decide +kernel

theorem dropEnd_append (hcs : Stops p cs.reverse) (more : List Char) :
    dropEnd p (cs ++ more) = cs ++ dropEnd p more := by
  rw [dropEnd, dropEnd, List.reverse_append, List.dropWhile_append]
  split
  · next hnil =>
    have hkept : cs.reverse.dropWhile p = cs.reverse := dropStart_eq_self_iff.mpr hcs
    rw [List.isEmpty_iff.mp hnil, hkept, List.reverse_reverse, List.reverse_nil, List.append_nil]
  · rw [List.reverse_append, List.reverse_reverse]

/-- What surrounds a text that neither begins nor ends with a blank is trimmed on its own: the
blanks before it, and whatever comes after it. -/
theorem trim_append_append {front more : List Char} (hfront : ∀ c ∈ front, isBlank c = true)
    (hne : cs ≠ []) (hstart : Stops isBlank cs) (hend : Stops isBlank cs.reverse) :
    trim (front ++ (cs ++ more)) = cs ++ trimEnd more := by
  have htrim : trimStart (front ++ (cs ++ more)) = cs ++ more :=
    dropWhile_append_of_stops hfront (stops_append_left hne hstart)
  rw [trim, htrim]
  exact dropEnd_append hend more

theorem trimEnd_eq_nil (h : ∀ c ∈ cs, isBlank c = true) : trimEnd cs = [] := by
  have hnil : Stops isBlank ([] : List Char).reverse := nofun
  exact dropEnd_append_of_stops hnil h

/-! ### Trimmed texts -/

/-- The second text is the first one without the blanks at its ends. -/
structure IsTrim (cs ds : List Char) : Prop where
  surrounded : ∃ front back, cs = front ++ (ds ++ back) ∧ (∀ c ∈ front, isBlank c = true) ∧
    ∀ c ∈ back, isBlank c = true
  starts : Stops isBlank ds
  ends : Stops isBlank ds.reverse

theorem isTrim_trim (cs : List Char) : IsTrim cs (trim cs) := by
  obtain ⟨hend, back, hback, hblank⟩ := exists_eq_dropEnd_append isBlank (trimStart cs)
  change trimStart cs = trim cs ++ back at hback
  have hstart : Stops isBlank (trimStart cs) := stops_dropWhile isBlank cs
  refine ⟨⟨cs.takeWhile isBlank, back, ?_, fun c hc ↦ List.mem_takeWhile_imp hc, hblank⟩, ?_, hend⟩
  · calc cs = cs.takeWhile isBlank ++ trimStart cs := List.takeWhile_append_dropWhile.symm
      _ = cs.takeWhile isBlank ++ (trim cs ++ back) := congrArg _ hback
  · intro c hc
    refine hstart c ?_
    rw [hback, List.head?_append, Option.mem_def.mp hc]
    rfl

theorem trim_trim (cs : List Char) : trim (trim cs) = trim cs :=
  trim_eq_self_iff.mpr ⟨(isTrim_trim cs).starts, (isTrim_trim cs).ends⟩

/-- There is one text that is another without the blanks at its ends. -/
theorem IsTrim.eq_trim {ds : List Char} (h : IsTrim cs ds) : ds = trim cs := by
  obtain ⟨⟨front, back, rfl, hfront, hback⟩, hstart, hend⟩ := h
  by_cases hnil : ds = []
  · subst hnil
    have hblank : ∀ c ∈ front ++ ([] ++ back), isBlank c = true := by
      intro c hc
      rcases List.mem_append.mp hc with hc | hc
      · exact hfront c hc
      · exact hback c hc
    have htrim : trimStart (front ++ ([] ++ back)) = [] := List.dropWhile_eq_nil_iff.mpr hblank
    rw [trim, htrim]
    rfl
  · rw [trim_append_append hfront hnil hstart hend, trimEnd_eq_nil hback, List.append_nil]

/-- Trimming leaves nothing of a text if it has only blanks. -/
theorem trimmed_eq_empty_iff {s : String} :
    trimmed s = "" ↔ ∀ c ∈ s.toList, isBlank c = true := by
  rw [← String.toList_inj, trimmed_toList, String.toList_empty]
  constructor
  · intro h
    obtain ⟨front, back, hs, hfront, hback⟩ := (isTrim_trim s.toList).surrounded
    rw [h, List.nil_append] at hs
    intro c hc
    rw [hs] at hc
    exact (List.mem_append.mp hc).elim (hfront c) (hback c)
  · intro h
    have hblank : IsTrim s.toList [] :=
      ⟨⟨s.toList, [], (List.append_nil _).symm, h, nofun⟩, nofun, nofun⟩
    exact hblank.eq_trim.symm

end MarkupRecords.Text
