import MarkupRecords.Proofs.Selector.Locality
import MarkupRecords.Proofs.Selector.Meaning
import MarkupRecords.Proofs.Selector.RoundTrip
import MarkupRecords.Selector.Join
import MarkupRecords.Specification.Declaration

/-!
Selecting inside a scope. Scopes are put in front of a selector as text, with slashes between, and
the whole is read again. `Selector.Reaches` is what this stands for: the selectors are followed one
after the other, each from the matches of the one before. Joining one more part goes on the path
that was read so far (`Denotes.joinPart`), so that the joined text denotes a selector that selects
in document order what the parts reach (`Selector.join_selects`), and so does the entry of a scalar
that is declared inside the scopes.
-/

set_option autoImplicit false
set_option relaxedAutoImplicit false

namespace MarkupRecords

/-! ### One path after the other -/

namespace Step

theorem chain_nil {deep : Bool} {n m : Node} : Chain [] deep n m ↔ m = n := by
  rw [Chain]

/-- A chain along steps that follow others goes through a node where the others end. -/
theorem chain_append (first : List Step) {second : List Step} (hfirst : first ≠ []) (deep : Bool)
    (n m : Node) :
    Chain (first ++ second) deep n m ↔ ∃ k, Chain first deep n k ∧ Chain second false k m := by
  induction first generalizing deep n with
  | nil => exact absurd rfl hfirst
  | cons step rest ih =>
    obtain ⟨axis, test, predicates⟩ := step
    simp only [List.cons_append, Chain]
    have hrest : ∀ l : Node, Chain (rest ++ second) false l m ↔
        ∃ k, Chain rest false l k ∧ Chain second false k m := by
      intro l
      by_cases hnil : rest = []
      · subst hnil
        simp [chain_nil]
      · exact ih hnil false l
    constructor
    · rintro ⟨l, hl, hchain⟩
      obtain ⟨k, hk, hm⟩ := (hrest l).mp hchain
      exact ⟨k, ⟨l, hl, hk⟩, hm⟩
    · rintro ⟨k, ⟨l, hl, hk⟩, hm⟩
      exact ⟨l, hl, (hrest l).mpr ⟨k, hk, hm⟩⟩

end Step

/-- A path with the steps of a relative one added leads to where the other leads from its ends. -/
theorem Path.leads_append {first second : Path} (hfirst : first.steps ≠ [])
    (hsecond : second.absolute = false) (search : Bool) (n m : Node) :
    Leads { first with steps := first.steps ++ second.steps } search n m ↔
      ∃ k, first.Leads search n k ∧ second.Leads false k m := by
  obtain ⟨absolute, bare, steps⟩ := first
  obtain ⟨_, bare', steps'⟩ := second
  subst hsecond
  simp only [Leads, Bool.and_false]
  exact Step.chain_append steps hfirst _ _ m

namespace Selector

/-- One selector after the other leads from a node to another one: the first selects in the given
mode at the node itself, and each of the others in strict mode at a match of the one before. -/
def Reaches (mode : Mode) (selectors : List Selector) (n m : Node) : Prop :=
  match selectors with
  | [] => m = n
  | s :: rest => ∃ k ∈ s.select mode n, Reaches .strict rest k m

theorem mem_select_iff {s : Selector} {mode : Mode} {n m : Node} :
    m ∈ s.select mode n ↔ s.path.Leads (mode == .search) n m :=
  Path.mem_evaluate s.path (mode == .search) n m

theorem reaches_singleton {s : Selector} {mode : Mode} {n m : Node} :
    Reaches mode [s] n m ↔ m ∈ s.select mode n := by
  constructor
  · rintro ⟨k, hk, rfl⟩
    exact hk
  · intro hm
    exact ⟨m, hm, rfl⟩

theorem reaches_concat {selectors : List Selector} (hne : selectors ≠ []) (s : Selector)
    (mode : Mode) (n m : Node) :
    Reaches mode (selectors ++ [s]) n m ↔
      ∃ k, Reaches mode selectors n k ∧ m ∈ s.select .strict k := by
  induction selectors generalizing mode n with
  | nil => exact absurd rfl hne
  | cons first rest ih =>
    have hrest : ∀ l : Node, Reaches .strict (rest ++ [s]) l m ↔
        ∃ k, Reaches .strict rest l k ∧ m ∈ s.select .strict k := by
      intro l
      by_cases hnil : rest = []
      · subst hnil
        rw [List.nil_append, reaches_singleton]
        exact ⟨fun hm ↦ ⟨l, rfl, hm⟩, fun ⟨k, hk, hm⟩ ↦ hk ▸ hm⟩
      · exact ih hnil .strict l
    constructor
    · rintro ⟨l, hl, hreaches⟩
      obtain ⟨k, hk, hm⟩ := (hrest l).mp hreaches
      exact ⟨k, ⟨l, hl, hk⟩, hm⟩
    · rintro ⟨k, ⟨l, hl, hk⟩, hm⟩
      exact ⟨l, hl, (hrest l).mpr ⟨k, hk, hm⟩⟩

/-! ### Joining texts -/

theorem isSlash_eq_false_iff {c : Char} : isSlash c = false ↔ c ≠ '/' := by
  simp [isSlash]

theorem joinPart_empty (joined : List Char) : joinPart joined [] = joined := by
  unfold joinPart
  split_ifs with hnil
  · rw [hnil]
    rfl
  · rfl

theorem joinPart_nil {part : List Char} (hend : Text.Stops isSlash part.reverse) :
    joinPart [] part = part := by
  rw [joinPart, if_pos rfl, Text.dropEnd_eq_self_iff.mpr hend]

theorem joinPart_of_stops {joined part : List Char} (hjoined : joined ≠ []) (hpart : part ≠ [])
    (hstart : Text.Stops isSlash part) (hend : Text.Stops isSlash part.reverse) :
    joinPart joined part = joined ++ '/' :: part := by
  unfold joinPart
  rw [if_neg hjoined, Text.dropStart_eq_self_iff.mpr hstart, Text.dropEnd_eq_self_iff.mpr hend]
  exact if_neg hpart

/-- A text denotes a path with steps, and this path leads to where the selectors reach. -/
structure Denotes (cs : List Char) (path : Path) (selectors : List Selector) : Prop where
  reads : plain (readPath cs) = .ok (path, [])
  steps : path.steps ≠ []
  trim : Text.trim cs = cs
  leads : ∀ (mode : Mode) (n m : Node),
    path.Leads (mode == .search) n m ↔ Reaches mode selectors n m

namespace Denotes

variable {cs : List Char} {path : Path} {selectors : List Selector}

theorem ne_nil (h : Denotes cs path selectors) : cs ≠ [] := by
  rintro rfl
  exact absurd (length_lt_of_plain_eq_ok h.reads) (Nat.not_lt_zero _)

theorem stops_reverse (h : Denotes cs path selectors) : Text.Stops isSlash cs.reverse := by
  obtain ⟨c, hslash, -, hend⟩ := readPath_ends h.reads h.steps
  exact Text.stops_reverse_of_suffix (isSlash_eq_false_iff.mpr hslash) hend

/-- The first part denotes itself. -/
theorem of_read {s : Selector} (hne : cs ≠ []) (hroot : cs ≠ ['/']) (htrim : Text.trim cs = cs)
    (hread : readWhole cs = .ok s.path) : Denotes cs s.path [s] := by
  have hreads := (readWhole_eq_ok_iff hne htrim).mp hread
  have hblanks := skipBlanks_eq_self_of_trim htrim
  refine ⟨hreads, steps_ne_nil_of_readPath hreads (by rwa [hblanks]), htrim, fun mode n m ↦ ?_⟩
  rw [reaches_singleton, mem_select_iff]

/-- A further part goes on the path. -/
theorem joinPart {part : List Char} {s : Selector} (h : Denotes cs path selectors)
    (hselectors : selectors ≠ []) (hslash : part.head? ≠ some '/') (htrim : Text.trim part = part)
    (hread : readWhole part = .ok s.path) :
    ∃ path', Denotes (joinPart cs part) path' (selectors ++ [s]) := by
  by_cases hpart : part = []
  · subst hpart
    rw [readWhole_nil] at hread
    rw [joinPart_empty]
    refine ⟨path, h.reads, h.steps, h.trim, fun mode n m ↦ ?_⟩
    rw [reaches_concat hselectors, h.leads]
    simp [mem_select_iff, ← Except.ok.inj hread, Path.Leads, Step.chain_nil]
  · have hreads := (readWhole_eq_ok_iff hpart htrim).mp hread
    have hend := (Text.trim_eq_self_iff.mp htrim).2
    have hblanks := skipBlanks_eq_self_of_trim htrim
    have hsteps : s.path.steps ≠ [] := by
      refine steps_ne_nil_of_readPath hreads ?_
      rw [hblanks]
      rintro rfl
      exact hslash rfl
    have hslashless : Text.Stops isSlash part := by
      intro c hc
      rw [isSlash_eq_false_iff]
      rintro rfl
      exact hslash hc
    obtain ⟨c, hc, -, hsuffix⟩ := readPath_ends hreads hsteps
    rw [joinPart_of_stops h.ne_nil hpart hslashless
      (Text.stops_reverse_of_suffix (isSlash_eq_false_iff.mpr hc) hsuffix)]
    have hmore : moreSteps ('/' :: part) = .ok (s.path.steps, []) ∧ s.path.absolute = false := by
      rw [plain_readPath_of_head? (by rwa [hblanks]), hblanks] at hreads
      obtain ⟨⟨steps, rest⟩, hsteps, heq⟩ := map_eq_ok_iff.mp hreads
      obtain ⟨hpath, rfl⟩ := Prod.mk.inj heq
      rw [moreSteps_child hslash, ← hpath]
      exact ⟨hsteps, rfl⟩
    refine ⟨{ path with steps := path.steps ++ s.path.steps }, ?_, ?_, ?_, fun mode n m ↦ ?_⟩
    · rw [readPath_append_slash_of_end h.reads h.steps, hmore.1]
      rfl
    · exact List.append_ne_nil_of_left_ne_nil h.steps _
    · refine Text.trim_append h.ne_nil (Text.trim_eq_self_iff.mp h.trim).1
        (List.cons_ne_nil '/' part) ?_
      rw [List.reverse_cons]
      exact Text.stops_append_left (List.reverse_ne_nil_iff.mpr hpart) hend
    · rw [Path.leads_append h.steps hmore.2, reaches_concat hselectors]
      simp only [h.leads, mem_select_iff]
      rfl

/-- Parts are joined from left to right. -/
theorem foldl_joinPart {parts : List String} {more : List Selector} (h : Denotes cs path selectors)
    (hselectors : selectors ≠ []) (hslash : ∀ t ∈ parts, t.toList.head? ≠ some '/')
    (htrim : ∀ t ∈ parts, Text.trimmed t = t)
    (hread : List.Forall₂ (fun t s ↦ ofText? t = .ok s) parts more) :
    ∃ path', Denotes ((parts.map String.toList).foldl Selector.joinPart cs) path'
      (selectors ++ more) := by
  induction hread generalizing cs path selectors with
  | nil =>
    rw [List.append_nil]
    exact ⟨path, h⟩
  | @cons t s parts more hts _ ih =>
    obtain ⟨hslash, hslashes⟩ := List.forall_mem_cons.mp hslash
    obtain ⟨htrim, htrims⟩ := List.forall_mem_cons.mp htrim
    have hchars := Text.trimmed_eq_self_iff.mp htrim
    have hwhole := ((ofText?_eq_ok_iff htrim).mp hts).1
    obtain ⟨path', hjoined⟩ := h.joinPart hselectors hslash hchars hwhole
    rw [List.append_cons]
    exact ih hjoined (List.append_ne_nil_of_right_ne_nil _ (List.cons_ne_nil s [])) hslashes htrims

end Denotes

/-- The first match is the first node in document order that the path leads to. -/
theorem first?_eq_some_iff {s : Selector} {n m : Node} :
    s.first? n = some m ↔ m ∈ s.select .search n ∧ ∀ k ∈ s.select .search n, m.index ≤ k.index :=
  (Path.ascending_evaluate s.path true n).head?_eq_some_iff

end Selector

/-! ### Entries inside scopes -/

/-- The selector of a target by itself, without the attribute that it may name. -/
def Target.ownSelector (kind : Kind) (t : Target) : String :=
  if kind = .attribute then (splitAttribute t.selector).1 else t.selector

/-- The options of the entry for a target, with the attribute that it may name. -/
def Target.ownOptions (kind : Kind) (t : Target) (options : Options) : Options :=
  if kind = .attribute then { options with attributeName := some (splitAttribute t.selector).2 }
  else options

/-- Declarations inside scopes, the outermost first. -/
def Declaration.inScopes (scopes : List String) (body : List Declaration) : List Declaration :=
  scopes.foldr (fun scope body ↦ [.within scope body]) body

namespace Draft

theorem pushScalar_eq (scopes : List String) (kind : Kind) (options : Options) (d : Draft)
    (t : Target) :
    pushScalar scopes kind options d t =
      d.push kind (underScopes scopes (t.ownSelector kind)) t.key (t.ownOptions kind options)
        none := by
  unfold pushScalar Target.ownSelector Target.ownOptions
  split_ifs
  · rfl
  · rfl

theorem declareAll_inScopes {scopes : List String}
    (hscopes : ∀ s ∈ scopes, Text.isBlankText s = false) (outer : List String) (d : Draft)
    (body : List Declaration) :
    declareAll outer d (Declaration.inScopes scopes body) =
      declareAll (outer ++ scopes) d body := by
  induction scopes generalizing outer with
  | nil => rw [List.append_nil]; rfl
  | cons scope scopes ih =>
    obtain ⟨hscope, hscopes⟩ := List.forall_mem_cons.mp hscopes
    have hbody := ih hscopes (outer ++ [scope])
    rw [List.append_assoc, List.singleton_append] at hbody
    rw [← hbody, Declaration.inScopes, List.foldr_cons, declareAll, declare, declareAll, if_neg (by
      rw [hscope]
      exact Bool.false_ne_true)]
    rfl

/-- A sound scalar target whose selector is understood becomes the next entry. -/
theorem declareScalar_eq {scopes : List String} {kind : Kind} (hkind : kind ≠ .many) {t : Target}
    (hsound : targetDefect? kind t = none) {s : Selector}
    (hread : Selector.ofText? (underScopes scopes (t.ownSelector kind)) = .ok s) (d : Draft)
    (options : Options) :
    d.declareScalar scopes kind [t] options =
      { d with entries := d.entries ++ [⟨kind, s, t.key, t.ownOptions kind options, none⟩] } := by
  have hcheck : d.checkTargets kind [t] = d := by
    simp [checkTargets, hsound]
  have htargets : soundTargets kind [t] = [t] := by
    simp [soundTargets, hsound]
  rw [declareScalar, if_neg hkind, hcheck, htargets, List.foldl_cons, List.foldl_nil, pushScalar_eq,
    push, hread]

end Draft

namespace Selector

/-- A text without blanks around it is not blank, unless it is empty. -/
theorem isBlankText_eq_false {t : String} (hne : t ≠ "") (htrim : Text.trimmed t = t) :
    Text.isBlankText t = false := by
  have hchars := Text.trimmed_eq_self_iff.mp htrim
  have hnil : t.toList ≠ [] := fun hnil ↦ hne (String.toList_inj.mp hnil)
  obtain ⟨c, cs, hcs⟩ := List.exists_cons_of_ne_nil hnil
  have hc := (Text.trim_eq_self_iff.mp hchars).1 c (by rw [hcs]; rfl)
  rw [Text.isBlankText, hcs, List.all_cons, hc, Bool.false_and]

/-- Selectors inside scopes, joined to one text, are understood, and the selector that they denote
selects what they reach one after the other, in document order and each node once. A scalar that is
declared in a body inside the scopes looks for the first of these nodes. -/
theorem join_selects (first : String) (inner : List String) (last : String)
    {selectors : List Selector} (hfirst : first ≠ "") (hroot : first ≠ "/")
    (hinner : ∀ t ∈ inner, t ≠ "")
    (hslash : ∀ t ∈ inner ++ [last], t.toList.head? ≠ some '/')
    (htrim : ∀ t ∈ first :: (inner ++ [last]), Text.trimmed t = t)
    (hread : List.Forall₂ (fun t s ↦ ofText? t = .ok s) (first :: (inner ++ [last])) selectors) :
    ∃ s, ofText? (join (first :: (inner ++ [last]))) = .ok s ∧
      (∀ (mode : Mode) (n : Node), Node.Ascending (s.select mode n) ∧
        ∀ m, m ∈ s.select mode n ↔ Reaches mode selectors n m) ∧
      (∀ n m : Node, s.first? n = some m ↔
        Reaches .search selectors n m ∧ ∀ k, Reaches .search selectors n k → m.index ≤ k.index) ∧
      (∀ (d : Draft) (body : List Declaration),
        Draft.declareAll [] d (Declaration.inScopes (first :: inner) body) =
          Draft.declareAll (first :: inner) d body) ∧
      ∀ (d : Draft) (kind : Kind) (t : Target) (options : Options), kind ≠ .many →
        Draft.targetDefect? kind t = none → t.ownSelector kind = last →
        Draft.declare (first :: inner) d (.scalar kind [t] options) =
          { d with
            entries := d.entries ++ [⟨kind, s, t.key, t.ownOptions kind options, none⟩] } := by
  obtain ⟨htrim, htrims⟩ := List.forall_mem_cons.mp htrim
  have hchars : Text.trim first.toList = first.toList := by rw [← Text.trimmed_toList, htrim]
  -- the first part denotes itself, and every other part goes on what is denoted
  rcases hread with _ | ⟨hs, hread⟩
  rename_i s more
  have hstart : Denotes first.toList s.path [s] :=
    .of_read (fun h ↦ hfirst (String.toList_inj.mp h)) (fun h ↦ hroot (String.toList_inj.mp h))
      hchars ((ofText?_eq_ok_iff htrim).mp hs).1
  obtain ⟨path, hjoined⟩ :=
    hstart.foldl_joinPart (List.cons_ne_nil s []) hslash htrims hread
  have hjoin : (join (first :: (inner ++ [last]))).toList =
      ((inner ++ [last]).map String.toList).foldl joinPart first.toList := by
    rw [join, String.toList_ofList, List.map_cons, List.foldl_cons,
      joinPart_nil hstart.stops_reverse]
  rw [← hjoin] at hjoined
  have htrimmed : Text.trimmed (join (first :: (inner ++ [last]))) =
      join (first :: (inner ++ [last])) := by
    rw [Text.trimmed, hjoined.trim, String.ofList_toList]
  have hselect : ∀ (mode : Mode) (n m : Node),
      m ∈ select ⟨join (first :: (inner ++ [last])), path⟩ mode n ↔
        Reaches mode ([s] ++ more) n m :=
    fun mode n m ↦ mem_select_iff.trans (hjoined.leads mode n m)
  have hreads : ofText? (join (first :: (inner ++ [last]))) =
      .ok ⟨join (first :: (inner ++ [last])), path⟩ :=
    (ofText?_eq_ok_iff htrimmed).mpr
      ⟨(readWhole_eq_ok_iff hjoined.ne_nil hjoined.trim).mpr hjoined.reads, rfl⟩
  refine ⟨_, hreads, fun mode n ↦ ⟨?_, hselect mode n⟩, fun n m ↦ ?_, fun d body ↦ ?_, ?_⟩
  · exact Path.ascending_evaluate path (mode == .search) n
  · rw [first?_eq_some_iff]
    simp only [hselect]
    rfl
  · refine Draft.declareAll_inScopes (List.forall_mem_cons.mpr ⟨?_, fun scope hscope ↦ ?_⟩) []
      d body
    · exact isBlankText_eq_false hfirst htrim
    · exact isBlankText_eq_false (hinner scope hscope)
        (htrims scope (List.mem_append_left _ hscope))
  · intro d kind t options hkind hsound hown
    rw [Draft.declare]
    refine Draft.declareScalar_eq hkind hsound ?_ d options
    rw [hown]
    exact hreads

theorem join_selects_title :
    let disc : Path := ⟨true, false, [⟨.descendant, .name "disc",
      [.condition (.compare (.attribute "n") false (.text "2"))]⟩]⟩
    let tracks : Path := ⟨false, true, [⟨.child, .name "tracks", []⟩]⟩
    let title : Path := ⟨false, true, [⟨.child, .name "title", []⟩]⟩
    ∃ s, ofText? "//disc[@n='2']/tracks/title" = .ok s ∧
      (∀ (mode : Mode) (n m : Node), m ∈ s.select mode n ↔
        Reaches mode [⟨"//disc[@n='2']", disc⟩, ⟨"tracks", tracks⟩, ⟨"title", title⟩] n m) ∧
      (Draft.declareAll [] { } [.within "//disc[@n='2']" [.within "tracks"
        [.scalar .text [.ofName "title"] { }]]]).entries =
          [⟨.text, s, .ofKey "title", { }, none⟩] := by
  intro disc tracks title
  have hdisc : ofText? "//disc[@n='2']" = .ok ⟨_, disc⟩ :=
    ofText?_of_eq_render (by decide +kernel) (by decide +kernel)
  have htracks : ofText? "tracks" = .ok ⟨_, tracks⟩ :=
    ofText?_of_eq_render (by decide +kernel) (by decide +kernel)
  have htitle : ofText? "title" = .ok ⟨_, title⟩ :=
    ofText?_of_eq_render (by decide +kernel) (by decide +kernel)
  obtain ⟨s, hs, hselect, -, hscopes, hdeclare⟩ := join_selects "//disc[@n='2']" ["tracks"] "title"
    (by decide) (by decide) (by decide) (by decide) (by decide +kernel)
    (.cons hdisc (.cons htracks (.cons htitle .nil)))
  refine ⟨s, hs, fun mode n ↦ (hselect mode n).2, ?_⟩
  have hbody := hscopes { } [.scalar .text [.ofName "title"] { }]
  have hentry := hdeclare { } .text (.ofName "title") { } (by decide) (by decide) rfl
  rw [Draft.declareAll, hentry] at hbody
  exact congrArg Draft.entries hbody

end Selector

end MarkupRecords
