import MarkupRecords.Proofs.Selector.Scoping
import MarkupRecords.Proofs.Specification.Built
import MarkupRecords.Proofs.Text.Ends

/-!
What a call makes of its targets. A call checks all of its targets before it reads the selectors of
those that are sound, so defects come in two rounds (`Draft.targetsDefects`). There is none if and
only if no target fails (`Draft.targetsDefects_eq_nil_iff`), and then each target has an entry of
its own (`Entry.IsFor`). `Draft.Pushes` says what a single target does to a draft, and
`Draft.Pushes.defects_foldl` and `Draft.Pushes.exists_entries_foldl` what all of them do.
-/

set_option autoImplicit false
set_option relaxedAutoImplicit false

namespace MarkupRecords

/-! ### The selectors of attributes -/

/-- The selector of an attribute falls into the path to an element and the name of the attribute.
The name stands after the last `@`, and the path before it, up to the slashes there; a selector
without an `@` is the name alone. -/
inductive AttributeParts (selector : String) : String → String → Prop
  | bare (hselector : '@' ∉ selector.toList) : AttributeParts selector "" selector
  | parted {path name : String} {slashes : List Char}
    (hselector : selector.toList = path.toList ++ slashes ++ '@' :: name.toList)
    (hname : '@' ∉ name.toList) (hslashes : ∀ c ∈ slashes, c = '/')
    (hpath : path.toList.getLast? ≠ some '/') : AttributeParts selector path name

theorem Selector.stops_reverse_iff {cs : List Char} :
    Text.Stops isSlash cs.reverse ↔ cs.getLast? ≠ some '/' := by
  rw [Text.Stops, List.head?_reverse]
  cases cs.getLast? with
  | none => simp
  | some c => simp [isSlash]

theorem AttributeParts.splitAttribute {selector path name : String}
    (h : AttributeParts selector path name) : splitAttribute selector = (path, name) := by
  cases h with
  | bare hselector =>
    have hdrop : selector.toList.reverse.dropWhile (· ≠ '@') = [] := by
      refine List.dropWhile_eq_nil_iff.mpr fun c hc ↦ decide_eq_true ?_
      rintro rfl
      exact hselector (List.mem_reverse.mp hc)
    rw [MarkupRecords.splitAttribute, hdrop]
  | @parted _ _ slashes hselector hname hslashes hpath =>
    have hreverse : selector.toList.reverse =
        name.toList.reverse ++ '@' :: (path.toList ++ slashes).reverse := by
      simp [hselector]
    have hname' : ∀ c ∈ name.toList.reverse, decide (c ≠ '@') = true := by
      refine fun c hc ↦ decide_eq_true ?_
      rintro rfl
      exact hname (List.mem_reverse.mp hc)
    have hat : Text.Stops (fun c ↦ decide (c ≠ '@')) ('@' :: (path.toList ++ slashes).reverse) := by
      simp [Text.Stops]
    have hdropped : Text.dropEnd Selector.isSlash (path.toList ++ slashes) = path.toList := by
      refine Text.dropEnd_append_of_stops (Selector.stops_reverse_iff.mpr hpath) fun c hc ↦ ?_
      rw [hslashes c hc]
      rfl
    rw [MarkupRecords.splitAttribute, hreverse, Text.dropWhile_append_of_stops hname' hat,
      Text.takeWhile_append_of_stops hname' hat]
    simp [hdropped]

theorem attributeParts_splitAttribute (selector : String) :
    AttributeParts selector (splitAttribute selector).1 (splitAttribute selector).2 := by
  have hsplit := List.takeWhile_append_dropWhile (p := fun c ↦ decide (c ≠ '@'))
    (l := selector.toList.reverse)
  have hstops := Text.stops_dropWhile (fun c ↦ decide (c ≠ '@')) selector.toList.reverse
  have hname : '@' ∉ selector.toList.reverse.takeWhile fun c ↦ decide (c ≠ '@') :=
    fun hmem ↦ by simpa using List.mem_takeWhile_imp hmem
  unfold splitAttribute
  dsimp only
  cases hdrop : selector.toList.reverse.dropWhile (fun c ↦ decide (c ≠ '@')) with
  | nil =>
    rw [hdrop, List.append_nil] at hsplit
    rw [hsplit] at hname
    exact .bare fun hmem ↦ hname (List.mem_reverse.mpr hmem)
  | cons c path =>
    rw [hdrop] at hsplit hstops
    obtain rfl : c = '@' := by simpa using hstops c rfl
    obtain ⟨hpath, slashes, hslashed, hslashes⟩ :=
      Text.exists_eq_dropEnd_append Selector.isSlash path.reverse
    refine @AttributeParts.parted selector _ _ slashes ?_ ?_ ?_ ?_
    · have hselector := congrArg List.reverse hsplit
      simp only [List.reverse_append, List.reverse_cons, List.reverse_reverse] at hselector
      rw [hslashed] at hselector
      simpa using hselector.symm
    · simpa using hname
    · intro c hc
      simpa [Selector.isSlash] using hslashes c hc
    · simpa using Selector.stops_reverse_iff.mp hpath

theorem splitAttribute_eq_iff {selector path name : String} :
    splitAttribute selector = (path, name) ↔ AttributeParts selector path name := by
  refine ⟨fun h ↦ ?_, AttributeParts.splitAttribute⟩
  have hparts := attributeParts_splitAttribute selector
  rwa [h] at hparts

/-! ### Defects of targets -/

/-- No entry can be made of the target: its key has no segment or an empty one, it names no
attribute, it is a collection without a selector, or its selector under the scopes is not
understood. -/
inductive Target.Fails (scopes : List String) (kind : Kind) (t : Target) : Prop
  | key (hkey : t.key.isValid = false)
  | noAttributeName {path : String} (hkind : kind = .attribute)
    (hparts : AttributeParts t.selector path "")
  | blank (hkind : kind = .many) (hselector : Text.isBlankText t.selector = true)
  | selector {fault : Selector.Fault}
    (hread : Selector.ofText? (Draft.underScopes scopes (t.ownSelector kind)) = .error fault)

/-- The entry is the one for the target under the scopes. -/
structure Entry.IsFor (scopes : List String) (kind : Kind) (options : Options)
    (nested : Option Specification) (t : Target) (e : Entry) : Prop where
  kind_eq : e.kind = kind
  key_eq : e.key = t.key
  options_eq : e.options = t.ownOptions kind options
  nested_eq : e.nested? = nested
  source_eq : e.selector.source = Draft.underScopes scopes (t.ownSelector kind)
  read_source : Selector.ofText? e.selector.source = .ok e.selector

namespace Draft

/-- What is wrong with the selector of a target. -/
def selectorDefect? (scopes : List String) (kind : Kind) (t : Target) : Option Defect :=
  if kind = .many ∧ Text.isBlankText t.selector then some (.blankCollection t.key)
  else
    match Selector.ofText? (underScopes scopes (t.ownSelector kind)) with
    | .ok _ => none
    | .error fault =>
      some (.badSelector (Text.trimmed (underScopes scopes (t.ownSelector kind))) fault)

/-- What is wrong with the targets of a call, in the order in which it is found: first what is wrong
with targets by themselves, and then with the selectors of the others. -/
def targetsDefects (scopes : List String) (kind : Kind) (targets : List Target) : List Defect :=
  if targets.isEmpty then [.noTargets kind]
  else
    targets.filterMap (targetDefect? kind) ++
      (soundTargets kind targets).filterMap (selectorDefect? scopes kind)

variable {scopes : List String} {kind : Kind} {t : Target} {targets : List Target}

theorem selectorDefect?_eq_none_iff : selectorDefect? scopes kind t = none ↔
    ¬ (kind = .many ∧ Text.isBlankText t.selector = true) ∧
      ∃ s, Selector.ofText? (underScopes scopes (t.ownSelector kind)) = .ok s := by
  unfold selectorDefect?
  split_ifs with hblank
  · simp [hblank]
  · cases Selector.ofText? (underScopes scopes (t.ownSelector kind)) with
    | error fault => simp
    | ok s => simp [hblank]

theorem not_fails_iff : ¬ t.Fails scopes kind ↔
    targetDefect? kind t = none ∧ selectorDefect? scopes kind t = none := by
  rw [targetDefect?_eq_none_iff, selectorDefect?_eq_none_iff]
  constructor
  · intro h
    refine ⟨⟨?_, fun hkind hname ↦ h ?_⟩, fun hblank ↦ h (.blank hblank.1 hblank.2), ?_⟩
    · cases hkey : t.key.isValid with
      | true => rfl
      | false => exact absurd (.key hkey) h
    · have hparts := attributeParts_splitAttribute t.selector
      rw [hname] at hparts
      exact .noAttributeName hkind hparts
    · cases hread : Selector.ofText? (underScopes scopes (t.ownSelector kind)) with
      | ok s => exact ⟨s, rfl⟩
      | error fault => exact absurd (.selector hread) h
  · rintro ⟨⟨hkey, hname⟩, hblank, s, hread⟩ hfails
    cases hfails with
    | key hkey' => simp [hkey] at hkey'
    | noAttributeName hkind hparts => exact hname hkind (congrArg Prod.snd hparts.splitAttribute)
    | blank hkind hselector => exact hblank ⟨hkind, hselector⟩
    | selector hread' => simp [hread] at hread'

theorem targetsDefects_eq_nil_iff : targetsDefects scopes kind targets = [] ↔
    targets ≠ [] ∧ ∀ t ∈ targets, ¬ t.Fails scopes kind := by
  unfold targetsDefects
  split_ifs with hempty
  · simp [List.isEmpty_iff.mp hempty]
  · simp only [List.append_eq_nil_iff, List.filterMap_eq_nil_iff, mem_soundTargets_iff,
      not_fails_iff]
    rw [List.isEmpty_iff] at hempty
    constructor
    · rintro ⟨hsound, hread⟩
      exact ⟨hempty, fun t ht ↦ ⟨hsound t ht, hread t ⟨ht, hsound t ht⟩⟩⟩
    · rintro ⟨-, hall⟩
      exact ⟨fun t ht ↦ (hall t ht).1, fun t ht ↦ (hall t ht.1).2⟩

/-! ### One target after the other -/

/-- Adding a target to a draft records its defect, if there is one, and adds its entry if not. -/
structure Pushes (push : Draft → Target → Draft) (defect? : Target → Option Defect)
    (IsFor : Target → Entry → Prop) : Prop where
  defects : ∀ d t, (push d t).defects = d.defects ++ (defect? t).toList
  entries : ∀ d t, defect? t = none → ∃ e, (push d t).entries = d.entries ++ [e] ∧ IsFor t e

namespace Pushes

variable {push : Draft → Target → Draft} {defect? : Target → Option Defect}
  {IsFor : Target → Entry → Prop}

theorem defects_foldl (h : Pushes push defect? IsFor) (d : Draft) (targets : List Target) :
    (targets.foldl push d).defects = d.defects ++ targets.filterMap defect? := by
  induction targets generalizing d with
  | nil => simp
  | cons t targets ih =>
    rw [List.foldl_cons, ih, h.defects, List.append_assoc]
    cases hdefect : defect? t with
    | none => simp [hdefect]
    | some defect => simp [hdefect]

theorem exists_entries_foldl (h : Pushes push defect? IsFor) (d : Draft) {targets : List Target}
    (hsound : ∀ t ∈ targets, defect? t = none) :
    ∃ es, (targets.foldl push d).entries = d.entries ++ es ∧ List.Forall₂ IsFor targets es := by
  induction targets generalizing d with
  | nil => exact ⟨[], by simp, .nil⟩
  | cons t targets ih =>
    obtain ⟨ht, hsound⟩ := List.forall_mem_cons.mp hsound
    obtain ⟨e, hentries, he⟩ := h.entries d t ht
    obtain ⟨es, hmore, hes⟩ := ih (push d t) hsound
    refine ⟨e :: es, ?_, .cons he hes⟩
    rw [List.foldl_cons, hmore, hentries, List.append_assoc, List.singleton_append]

end Pushes

theorem pushes_push (scopes : List String) (kind : Kind) (options : Options)
    (nested : Option Specification) :
    Pushes
      (fun d t ↦
        if kind = .many ∧ Text.isBlankText t.selector then d.fail (.blankCollection t.key)
        else d.push kind (underScopes scopes (t.ownSelector kind)) t.key (t.ownOptions kind options)
          nested)
      (selectorDefect? scopes kind) (Entry.IsFor scopes kind options nested) where
  defects d t := by
    unfold selectorDefect?
    split_ifs
    · rfl
    · rw [push]
      cases Selector.ofText? (underScopes scopes (t.ownSelector kind)) with
      | error fault => rfl
      | ok s => simp
  entries d t ht := by
    obtain ⟨hblank, s, hread⟩ := selectorDefect?_eq_none_iff.mp ht
    have hsource := Selector.source_of_ofText? hread
    rw [if_neg hblank, push, hread]
    exact ⟨_, rfl, rfl, rfl, rfl, rfl, hsource, (congrArg Selector.ofText? hsource).trans hread⟩

theorem pushes_pushScalar (scopes : List String) {kind : Kind} (hkind : kind ≠ .many)
    (options : Options) :
    Pushes (pushScalar scopes kind options) (selectorDefect? scopes kind)
      (Entry.IsFor scopes kind options none) := by
  have hpushes := pushes_push scopes kind options none
  simp only [hkind, false_and, if_false, ← pushScalar_eq] at hpushes
  exact hpushes

theorem pushes_pushMany (scopes : List String) (nested : Specification) :
    Pushes (pushMany scopes nested) (selectorDefect? scopes .many)
      (Entry.IsFor scopes .many { } (some nested)) := by
  have hpushes := pushes_push scopes .many { } (some nested)
  simp only [true_and] at hpushes
  exact hpushes

/-! ### All targets of a call -/

theorem defects_checkTargets (d : Draft) (kind : Kind) (targets : List Target) :
    (d.checkTargets kind targets).defects = d.defects ++
      if targets.isEmpty then [.noTargets kind] else targets.filterMap (targetDefect? kind) := by
  unfold checkTargets
  split_ifs
  · rfl
  · rfl

theorem entries_checkTargets (d : Draft) (kind : Kind) (targets : List Target) :
    (d.checkTargets kind targets).entries = d.entries := by
  unfold checkTargets
  split_ifs
  · rfl
  · rfl

section Declaring

variable {push : Draft → Target → Draft} {IsFor : Target → Entry → Prop}

theorem defects_declareTargets (h : Pushes push (selectorDefect? scopes kind) IsFor) (d : Draft)
    (targets : List Target) :
    ((soundTargets kind targets).foldl push (d.checkTargets kind targets)).defects =
      d.defects ++ targetsDefects scopes kind targets := by
  rw [h.defects_foldl, defects_checkTargets, targetsDefects, List.append_assoc]
  cases targets with
  | nil => simp [soundTargets]
  | cons t targets => simp

theorem exists_entries_declareTargets (h : Pushes push (selectorDefect? scopes kind) IsFor)
    (d : Draft) (hdefects : targetsDefects scopes kind targets = []) :
    ∃ es, ((soundTargets kind targets).foldl push (d.checkTargets kind targets)).entries =
      d.entries ++ es ∧ List.Forall₂ IsFor targets es := by
  obtain ⟨-, hsound⟩ := targetsDefects_eq_nil_iff.mp hdefects
  have htargets : soundTargets kind targets = targets := by
    refine List.filter_eq_self.mpr fun t ht ↦ ?_
    rw [(not_fails_iff.mp (hsound t ht)).1]
    rfl
  rw [htargets, ← entries_checkTargets d kind targets]
  exact h.exists_entries_foldl _ fun t ht ↦ (not_fails_iff.mp (hsound t ht)).2

end Declaring

end Draft

end MarkupRecords
