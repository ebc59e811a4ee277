import MarkupRecords.Proofs.Selector.Scoping

/-!
Joining texts in groups. Joining one more part to a text that does not end with a slash is
associative (`Selector.joinPart_assoc`), and the empty text is neutral (`Selector.joinPart_nil`,
`Selector.joinPart_empty`). So parts may be joined in groups first (`Selector.join_flatten`), and
what scopes within scopes put in front of a selector may be joined at any depth. What comes out are
the segments of the parts with single slashes between them (`Selector.join_eq_intercalate`).
-/

set_option autoImplicit false
set_option relaxedAutoImplicit false

namespace MarkupRecords

/-! ### Dropping at both ends -/

namespace Text

variable {p : Char → Bool} {cs : List Char}

theorem dropEnd_eq_nil_iff : dropEnd p cs = [] ↔ ∀ c ∈ cs, p c = true := by
  rw [dropEnd, List.reverse_eq_nil_iff, List.dropWhile_eq_nil_iff]
  simp

/-- What is dropped at the start leaves the end alone. -/
theorem stops_reverse_dropStart (h : Stops p cs.reverse) : Stops p (dropStart p cs).reverse := by
  intro c hc
  obtain ⟨front, hfront⟩ : dropStart p cs <:+ cs := List.dropWhile_suffix p
  refine h c ?_
  rw [← hfront, List.reverse_append, List.head?_append, Option.mem_def.mp hc]
  rfl

/-- It does not matter at which end one begins. -/
theorem dropEnd_dropStart (p : Char → Bool) (cs : List Char) :
    dropEnd p (dropStart p cs) = dropStart p (dropEnd p cs) := by
  obtain ⟨hend, run, hcs, hrun⟩ := exists_eq_dropEnd_append p cs
  by_cases hall : ∀ c ∈ cs, p c = true
  · have hstart : dropStart p cs = [] := List.dropWhile_eq_nil_iff.mpr hall
    rw [hstart, dropEnd_eq_nil_iff.mpr hall]
    rfl
  · have hkept : dropStart p (dropEnd p cs) ≠ [] := by
      intro hnil
      refine hall fun c hc ↦ ?_
      rw [hcs] at hc
      exact (List.mem_append.mp hc).elim (List.dropWhile_eq_nil_iff.mp hnil c) (hrun c)
    have hstart : dropStart p cs = dropStart p (dropEnd p cs) ++ run := by
      conv_lhs => rw [hcs, dropStart, List.dropWhile_append]
      exact if_neg (mt List.isEmpty_iff.mp hkept)
    rw [hstart]
    exact dropEnd_append_of_stops (stops_reverse_dropStart hend) hrun

end Text

namespace Selector

/-! ### One part after the other -/

/-- A part without the slashes at its ends. -/
def trimSlashes (part : List Char) : List Char := Text.dropEnd isSlash (Text.dropStart isSlash part)

variable {joined part : List Char}

theorem trimSlashes_eq_nil_iff : trimSlashes part = [] ↔ ∀ c ∈ part, isSlash c = true := by
  rw [trimSlashes, Text.dropEnd_dropStart, Text.dropStart, List.dropWhile_eq_nil_iff]
  constructor
  · intro h
    obtain ⟨-, run, hpart, hrun⟩ := Text.exists_eq_dropEnd_append isSlash part
    intro c hc
    rw [hpart] at hc
    exact (List.mem_append.mp hc).elim (h c) (hrun c)
  · intro h c hc
    rw [Text.dropEnd_eq_nil_iff.mpr h] at hc
    cases hc

theorem trimSlashes_dropEnd (part : List Char) :
    trimSlashes (Text.dropEnd isSlash part) = trimSlashes part := by
  have hend := (Text.exists_eq_dropEnd_append isSlash part).1
  rw [trimSlashes, trimSlashes, Text.dropEnd_dropStart, Text.dropEnd_dropStart,
    Text.dropEnd_eq_self_iff.mpr hend]

theorem joinPart_nil_eq (part : List Char) : joinPart [] part = Text.dropEnd isSlash part :=
  if_pos rfl

theorem joinPart_of_ne_nil (hjoined : joined ≠ []) (part : List Char) :
    joinPart joined part =
      if trimSlashes part = [] then joined else joined ++ '/' :: trimSlashes part :=
  if_neg hjoined

/-- A part that has nothing but slashes is left out. -/
theorem joinPart_of_slashes (joined : List Char) (hpart : ∀ c ∈ part, isSlash c = true) :
    joinPart joined part = joined := by
  by_cases hjoined : joined = []
  · rw [hjoined, joinPart_nil_eq, Text.dropEnd_eq_nil_iff.mpr hpart]
  · rw [joinPart_of_ne_nil hjoined, if_pos (trimSlashes_eq_nil_iff.mpr hpart)]

/-- What has been joined so far does not end with a slash. -/
theorem stops_reverse_joinPart (hjoined : Text.Stops isSlash joined.reverse) (part : List Char) :
    Text.Stops isSlash (joinPart joined part).reverse := by
  by_cases hnil : joined = []
  · rw [hnil, joinPart_nil_eq]
    exact (Text.exists_eq_dropEnd_append isSlash part).1
  · rw [joinPart_of_ne_nil hnil]
    split_ifs with hpart
    · exact hjoined
    · rw [List.reverse_append, List.reverse_cons, List.append_assoc]
      exact Text.stops_append_left (List.reverse_ne_nil_iff.mpr hpart)
        (Text.exists_eq_dropEnd_append isSlash _).1

/-- A text that goes on with a part has the ends of both. -/
theorem trimSlashes_append {more : List Char} (hjoined : joined ≠ [])
    (hend : Text.Stops isSlash joined.reverse) (hmore : more ≠ [])
    (hmoreEnd : Text.Stops isSlash more.reverse) :
    trimSlashes (joined ++ more) = trimSlashes joined ++ more := by
  have hkept : Text.dropStart isSlash joined ≠ [] := by
    intro hnil
    exact hjoined (Text.eq_nil_of_suffix_of_dropWhile hend List.suffix_rfl hnil)
  have hstart :
      Text.dropStart isSlash (joined ++ more) = Text.dropStart isSlash joined ++ more := by
    rw [Text.dropStart, List.dropWhile_append]
    exact if_neg (mt List.isEmpty_iff.mp hkept)
  have hstops : Text.Stops isSlash (Text.dropStart isSlash joined ++ more).reverse := by
    rw [List.reverse_append]
    exact Text.stops_append_left (List.reverse_ne_nil_iff.mpr hmore) hmoreEnd
  rw [trimSlashes, hstart, Text.dropEnd_eq_self_iff.mpr hstops, trimSlashes,
    Text.dropEnd_eq_self_iff.mpr (Text.stops_reverse_dropStart hend)]

/-- A part may be joined to a text before or after the text is joined to what stands in front. -/
theorem joinPart_assoc (front : List Char) (hjoined : Text.Stops isSlash joined.reverse)
    (part : List Char) :
    joinPart (joinPart front joined) part = joinPart front (joinPart joined part) := by
  by_cases hnil : front = []
  · have hstops := stops_reverse_joinPart hjoined part
    rw [hnil, joinPart_nil hjoined, joinPart_nil hstops]
  by_cases hempty : joined = []
  · rw [hempty, joinPart_empty, joinPart_nil_eq, joinPart_of_ne_nil hnil, joinPart_of_ne_nil hnil,
      trimSlashes_dropEnd]
  have hinner : trimSlashes joined ≠ [] := by
    rw [trimSlashes, Text.dropEnd_eq_self_iff.mpr (Text.stops_reverse_dropStart hjoined)]
    intro hslashes
    exact hempty (Text.eq_nil_of_suffix_of_dropWhile hjoined List.suffix_rfl hslashes)
  have hfirst : joinPart front joined = front ++ '/' :: trimSlashes joined := by
    rw [joinPart_of_ne_nil hnil, if_neg hinner]
  have hfirst_ne : joinPart front joined ≠ [] := by
    rw [hfirst]
    exact List.append_ne_nil_of_left_ne_nil hnil _
  by_cases hpart : trimSlashes part = []
  · rw [joinPart_of_ne_nil hfirst_ne, if_pos hpart, joinPart_of_ne_nil hempty, if_pos hpart]
  · have hmoreEnd : Text.Stops isSlash ('/' :: trimSlashes part).reverse := by
      rw [List.reverse_cons]
      exact Text.stops_append_left (List.reverse_ne_nil_iff.mpr hpart)
        (Text.exists_eq_dropEnd_append isSlash _).1
    have hmore := trimSlashes_append hempty hjoined (List.cons_ne_nil '/' _) hmoreEnd
    rw [joinPart_of_ne_nil hfirst_ne, if_neg hpart, hfirst, joinPart_of_ne_nil hempty, if_neg hpart,
      joinPart_of_ne_nil hnil, hmore, if_neg (List.append_ne_nil_of_left_ne_nil hinner _),
      List.append_assoc, List.cons_append]

/-! ### All parts -/

theorem stops_reverse_foldl_joinPart (hjoined : Text.Stops isSlash joined.reverse)
    (parts : List (List Char)) : Text.Stops isSlash (parts.foldl joinPart joined).reverse :=
  List.foldlRecOn (motive := fun cs ↦ Text.Stops isSlash cs.reverse) parts joinPart hjoined
    fun _ hcs part _ ↦ stops_reverse_joinPart hcs part

theorem stops_reverse_nil : Text.Stops isSlash ([] : List Char).reverse := nofun

/-- Joining parts to a text is joining the text with what the parts are joined to. -/
theorem foldl_joinPart_eq (joined : List Char) (parts : List (List Char)) :
    parts.foldl joinPart joined = joinPart joined (parts.foldl joinPart []) := by
  induction parts using List.reverseRecOn with
  | nil => rw [List.foldl_nil, List.foldl_nil, joinPart_empty]
  | append_singleton parts part ih =>
    have hstops := stops_reverse_foldl_joinPart stops_reverse_nil parts
    rw [List.foldl_concat, List.foldl_concat, ih, joinPart_assoc joined hstops]

@[simp] theorem toList_join (parts : List String) :
    (join parts).toList = (parts.map String.toList).foldl joinPart [] := by
  rw [join, String.toList_ofList]

theorem stops_reverse_join (parts : List String) :
    Text.Stops isSlash (join parts).toList.reverse := by
  rw [toList_join]
  exact stops_reverse_foldl_joinPart stops_reverse_nil _

/-- What has been joined stays as it is when it is joined by itself. -/
theorem join_join_singleton (parts : List String) : join [join parts] = join parts := by
  rw [← String.toList_inj, toList_join, List.map_singleton, List.foldl_cons, List.foldl_nil]
  exact joinPart_nil (stops_reverse_join parts)

theorem toList_join_cons_join (parts texts : List String) :
    (join (join parts :: texts)).toList =
      (texts.map String.toList).foldl joinPart (join parts).toList := by
  rw [toList_join, List.map_cons, List.foldl_cons, joinPart_nil (stops_reverse_join parts)]

theorem join_append (xs ys : List String) : join (xs ++ ys) = join [join xs, join ys] := by
  rw [← String.toList_inj, toList_join_cons_join, toList_join, List.map_append, List.foldl_append,
    ← toList_join, foldl_joinPart_eq, List.map_singleton, List.foldl_cons,
    List.foldl_nil, toList_join ys]

theorem join_flatten (groups : List (List String)) :
    join groups.flatten = join (groups.map join) := by
  induction groups using List.reverseRecOn with
  | nil => rfl
  | append_singleton groups group ih =>
    rw [List.flatten_append, List.flatten_singleton, join_append, ih, List.map_append,
      join_append (groups.map join), List.map_singleton, join_join_singleton]

/-! ### Segments -/

/-- A part has more than slashes. -/
def isSegment (part : String) : Bool := part.toList.any fun c ↦ !isSlash c

/-- The parts that have more than slashes, each without the slashes at its ends, apart from those at
the start of the first one. -/
def segments (parts : List String) : List String :=
  match parts.filter isSegment with
  | [] => []
  | first :: rest =>
    .ofList (Text.dropEnd isSlash first.toList) ::
      rest.map fun part ↦ .ofList (trimSlashes part.toList)

theorem isSegment_eq_false_iff {part : String} :
    isSegment part = false ↔ ∀ c ∈ part.toList, isSlash c = true := by
  simp [isSegment]

theorem intercalate_cons_eq_append_flatMap (separator first : List Char) (rest : List (List Char)) :
    separator.intercalate (first :: rest) = first ++ rest.flatMap (separator ++ ·) := by
  induction rest generalizing first with
  | nil => simp
  | cons second rest ih =>
    rw [List.intercalate_cons_cons, ih, List.flatMap_cons, List.append_assoc, List.append_assoc]

/-- To a text that is not empty each part with more than slashes is added after a slash. -/
theorem foldl_joinPart_of_ne_nil (hjoined : joined ≠ []) (parts : List String) :
    (parts.map String.toList).foldl joinPart joined = joined ++
      ((parts.filter isSegment).map fun part ↦ trimSlashes part.toList).flatMap ('/' :: ·) := by
  induction parts generalizing joined with
  | nil => simp
  | cons part parts ih =>
    rw [List.map_cons, List.foldl_cons]
    cases hpart : isSegment part with
    | false =>
      rw [joinPart_of_slashes joined (isSegment_eq_false_iff.mp hpart), ih hjoined,
        List.filter_cons_of_neg (Bool.eq_false_iff.mp hpart)]
    | true =>
      have hinner : trimSlashes part.toList ≠ [] := by
        rw [Ne, trimSlashes_eq_nil_iff, ← isSegment_eq_false_iff, hpart]
        exact Bool.true_eq_false_eq_False
      rw [joinPart_of_ne_nil hjoined, if_neg hinner,
        ih (List.append_ne_nil_of_left_ne_nil hjoined _), List.filter_cons_of_pos hpart,
        List.map_cons, List.flatMap_cons, List.append_assoc]

/-- Joining puts single slashes between the segments. -/
theorem join_eq_intercalate (parts : List String) :
    join parts = "/".intercalate (segments parts) := by
  rw [← String.toList_inj, toList_join, String.toList_intercalate]
  induction parts with
  | nil => rfl
  | cons part parts ih =>
    rw [List.map_cons, List.foldl_cons]
    cases hpart : isSegment part with
    | false =>
      have hsegments : segments (part :: parts) = segments parts := by
        rw [segments, List.filter_cons_of_neg (Bool.eq_false_iff.mp hpart), segments]
      rw [joinPart_of_slashes [] (isSegment_eq_false_iff.mp hpart), ih, hsegments]
    | true =>
      have hfirst : Text.dropEnd isSlash part.toList ≠ [] := by
        rw [Ne, Text.dropEnd_eq_nil_iff, ← isSegment_eq_false_iff, hpart]
        exact Bool.true_eq_false_eq_False
      rw [joinPart_nil_eq, foldl_joinPart_of_ne_nil hfirst, segments, List.filter_cons_of_pos hpart,
        List.map_cons, intercalate_cons_eq_append_flatMap, List.map_map]
      simp only [Function.comp_def, String.toList_ofList]
      rfl

/-- Joining normalises. Parts may be joined in any grouping, and so may scopes within scopes; what
has been joined does not end with a slash and stays as it is when it is joined again; and it is made
of the segments of the parts, with single slashes between them. -/
theorem join_regroups (xs ys : List String) :
    join (xs ++ ys) = join [join xs, join ys] ∧
      (∀ groups : List (List String), join groups.flatten = join (groups.map join)) ∧
      (∀ (outer inner : List String) (scope selector : String),
        Draft.underScopes (outer ++ scope :: inner) selector =
          join [join outer, Draft.underScopes (scope :: inner) selector]) ∧
      (join xs).toList.getLast? ≠ some '/' ∧ join [join xs] = join xs ∧
      join xs = "/".intercalate (segments xs) := by
  refine ⟨join_append xs ys, join_flatten, fun outer inner scope selector ↦ ?_, fun hslash ↦ ?_,
    join_join_singleton xs, join_eq_intercalate xs⟩
  · have hjoined := join_append outer (scope :: inner ++ [selector])
    rw [Draft.underScopes, if_neg (by simp), List.append_assoc, hjoined, Draft.underScopes,
      if_neg (by simp)]
  · rw [← List.head?_reverse] at hslash
    exact absurd (stops_reverse_join xs '/' hslash) (by decide)

example : join ["", "//tracks/", "/", "/track//"] = "//tracks/track" := by decide +kernel

end Selector

end MarkupRecords
