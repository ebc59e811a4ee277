import MarkupRecords.Proofs.Specification.Targets

/-!
Scopes that begin with a slash. A text that is read and begins with a slash denotes an absolute
path, which leads to the same nodes from every node of a document and in both modes
(`Selector.Anchored`). Joining parts keeps what the first of them begins with, as long as something
is left of it without the slashes at its end (`Selector.head?_join`). So whatever is declared inside
an absolute scope looks from the document node (`Draft.declare_within_anchored`). The root itself is
the exception: nothing is left of `/`, so as a scope it is dropped and what is declared inside it is
relative (`Draft.not_anchored_within_root`).
-/

set_option autoImplicit false
set_option relaxedAutoImplicit false

namespace MarkupRecords

/-! ### Absolute paths -/

theorem Path.evaluate_of_absolute {path : Path} (habsolute : path.absolute = true)
    (hbare : path.bare = false) (search search' : Bool) {n n' : Node}
    (hdocument : n.document = n'.document) :
    path.evaluate search n = path.evaluate search' n' := by
  obtain ⟨absolute, bare, steps⟩ := path
  subst habsolute hbare
  rw [Path.evaluate, Path.evaluate, if_pos rfl, if_pos rfl, hdocument, Bool.false_and,
    Bool.false_and]

namespace Selector

/-- The selector looks from the document node: from every node of a document and in both modes it
selects the same nodes. -/
structure Anchored (s : Selector) : Prop where
  absolute : s.path.absolute = true
  select_eq : ∀ (mode mode' : Mode) (n n' : Node), n.document = n'.document →
    s.select mode n = s.select mode' n'
  first?_eq : ∀ n n' : Node, n.document = n'.document → s.first? n = s.first? n'

theorem stops_of_slash {cs : List Char} (h : cs.head? = some '/') : Text.Stops Text.isBlank cs :=
  Text.stops_of_head? h Text.isBlank_slash

/-- A selector whose text begins with a slash is anchored. -/
theorem anchored_of_ofText? {source : String} {s : Selector} (h : ofText? source = .ok s)
    (hslash : source.toList.head? = some '/') : s.Anchored := by
  have hhead : (Text.trim source.toList).head? = some '/' := by
    rw [Text.trim, Text.trimStart, Text.dropStart_eq_self_iff.mpr (stops_of_slash hslash),
      Text.trimEnd, Text.head?_dropEnd ⟨'/', List.mem_of_mem_head? hslash, Text.isBlank_slash⟩,
      hslash]
  have hpath := readPath_of_ofText? h fun hnil ↦ by simp [hnil] at hhead
  have hskip : (skipBlanks (Text.trim source.toList)).head? = some '/' := by
    rw [skipBlanks, Text.trimStart, Text.dropStart_eq_self_iff.mpr (stops_of_slash hhead), hhead]
  obtain ⟨habsolute, hbare⟩ := absolute_of_readPath hpath hskip
  exact ⟨habsolute, fun _ _ _ _ hn ↦ Path.evaluate_of_absolute habsolute hbare _ _ hn,
    fun n n' hn ↦ congrArg List.head? (Path.evaluate_of_absolute habsolute hbare _ _ hn)⟩

/-! ### Joining after a slash -/

theorem joinPart_ne_nil {joined : List Char} (h : joined ≠ []) (part : List Char) :
    joinPart joined part ≠ [] := by
  unfold joinPart
  rw [if_neg h]
  dsimp only
  split_ifs
  · exact h
  · exact List.append_ne_nil_of_left_ne_nil h _

theorem head?_joinPart {joined : List Char} (h : joined ≠ []) (part : List Char) :
    (joinPart joined part).head? = joined.head? := by
  unfold joinPart
  rw [if_neg h]
  dsimp only
  split_ifs
  · rfl
  · exact List.head?_append_of_ne_nil _ h

theorem head?_foldl_joinPart (parts : List (List Char)) {joined : List Char} (h : joined ≠ []) :
    (parts.foldl joinPart joined).head? = joined.head? := by
  induction parts generalizing joined with
  | nil => rfl
  | cons part parts ih =>
    rw [List.foldl_cons, ih (joinPart_ne_nil h part), head?_joinPart h]

/-- Parts begin as the first of them does, if there is more to it than slashes. -/
theorem head?_join {first : String} (h : ∃ c ∈ first.toList, c ≠ '/') (parts : List String) :
    (join (first :: parts)).toList.head? = first.toList.head? := by
  obtain ⟨c, hc, hslash⟩ := h
  have hhead : (joinPart [] first.toList).head? = first.toList.head? := by
    rw [joinPart, if_pos rfl]
    exact Text.head?_dropEnd ⟨c, hc, isSlash_eq_false_iff.mpr hslash⟩
  have hne : joinPart [] first.toList ≠ [] := by
    intro hnil
    rw [hnil] at hhead
    rw [List.head?_eq_none_iff.mp hhead.symm] at hc
    cases hc
  rw [join, String.toList_ofList, List.map_cons, List.foldl_cons, head?_foldl_joinPart _ hne, hhead]

/-- Of the texts that are slashes only, just the root is read. -/
theorem exists_ne_slash_of_ofText? {source : String} {s : Selector} (h : ofText? source = .ok s)
    (hslash : source.toList.head? = some '/') (hroot : source ≠ "/") :
    ∃ c ∈ source.toList, c ≠ '/' := by
  by_contra hnone
  have hall : ∀ c ∈ source.toList, c = '/' := by
    simpa using hnone
  have hstart := stops_of_slash hslash
  have hend : Text.Stops Text.isBlank source.toList.reverse := by
    intro c hc
    rw [hall c (List.mem_reverse.mp (List.mem_of_mem_head? hc))]
    exact Text.isBlank_slash
  have htrim : Text.trim source.toList = source.toList := Text.trim_eq_self_iff.mpr ⟨hstart, hend⟩
  have htrimmed : Text.trimmed source = source := Text.trimmed_eq_self_iff.mpr htrim
  have hne : source ≠ "" := by
    rintro rfl
    cases hslash
  have hread := ((ofText?_eq_ok_iff_readPath htrimmed hne).mp h).1
  have hsteps := steps_ne_nil_of_ofText? h htrimmed hne hroot
  -- a path with steps does not end with a slash
  obtain ⟨c, hc, -, hsuffix⟩ := readPath_ends hread hsteps
  exact hc (hall c (hsuffix.subset List.mem_cons_self))

end Selector

/-! ### What is declared inside scopes -/

mutual

/-- The specifications whose entries a declaration takes over. -/
def Declaration.spliced : Declaration → List Specification
  | .within _ body => Declaration.splicedAll body
  | .splice other => [other]
  | .scalar _ _ _ | .many _ _ | .manyOf _ _ | .extend _ | .mode _ | .hook _ | .transform _ _ => []

/-- `Declaration.spliced` of each declaration. -/
def Declaration.splicedAll : List Declaration → List Specification
  | [] => []
  | c :: rest => c.spliced ++ Declaration.splicedAll rest

end

/-- The selector of the entry was read from a text inside the scopes, and perhaps inside more. -/
def Entry.IsInside (scopes : List String) (e : Entry) : Prop :=
  ∃ inner last, Selector.ofText? (Draft.underScopes (scopes ++ inner) last) = .ok e.selector

namespace Draft

/-- Each entry that the second draft has and the first one has not satisfies `P`. -/
def Adds (P : Entry → Prop) (d d' : Draft) : Prop := ∀ e ∈ d'.entries, e ∈ d.entries ∨ P e

namespace Adds

variable {P Q : Entry → Prop} {d d' d'' : Draft}

theorem of_entries_eq (h : d'.entries = d.entries) : Adds P d d' := fun _ he ↦ .inl (h ▸ he)

theorem trans (h : Adds P d d') (h' : Adds P d' d'') : Adds P d d'' := by
  intro e he
  rcases h' e he with he | he
  · exact h e he
  · exact .inr he

theorem mono (h : Adds P d d') (hPQ : ∀ e, P e → Q e) : Adds Q d d' :=
  fun e he ↦ (h e he).imp_right (hPQ e)

end Adds

variable {scopes : List String}

theorem adds_push (d : Draft) (kind : Kind) (last : String) (key : OutputKey) (options : Options)
    (nested : Option Specification) :
    Adds (Entry.IsInside scopes) d (d.push kind (underScopes scopes last) key options nested) := by
  rw [push]
  split
  · rename_i s hs
    intro e he
    rcases List.mem_append.mp he with he | he
    · exact .inl he
    · obtain rfl := List.mem_singleton.mp he
      refine .inr ⟨[], last, ?_⟩
      rw [List.append_nil]
      exact hs
  · exact .of_entries_eq rfl

theorem adds_pushMany (nested : Specification) (d : Draft) (t : Target) :
    Adds (Entry.IsInside scopes) d (pushMany scopes nested d t) := by
  rw [pushMany]
  split_ifs
  · exact .of_entries_eq rfl
  · exact adds_push d _ _ _ _ _

theorem adds_pushScalar (kind : Kind) (options : Options) (d : Draft) (t : Target) :
    Adds (Entry.IsInside scopes) d (pushScalar scopes kind options d t) := by
  rw [pushScalar_eq]
  exact adds_push d _ _ _ _ _

theorem adds_foldl {P : Entry → Prop} {push : Draft → Target → Draft}
    (h : ∀ d t, Adds P d (push d t)) (d : Draft) (kind : Kind) (targets : List Target) :
    Adds P d ((soundTargets kind targets).foldl push (d.checkTargets kind targets)) :=
  List.foldlRecOn (motive := Adds P d) _ push (.of_entries_eq (entries_checkTargets d kind targets))
    fun _ hd t _ ↦ hd.trans (h _ t)

mutual

/-- What a declaration adds to the entries was read inside the scopes, unless it was taken over from
another specification. -/
theorem adds_declare : ∀ (c : Declaration) (scopes : List String) (d : Draft),
    Adds (fun e ↦ (∃ other ∈ c.spliced, e ∈ other.entries) ∨ e.IsInside scopes) d
      (declare scopes d c)
  | .scalar kind targets options, scopes, d => by
    rw [declare, declareScalar]
    split_ifs
    · exact .of_entries_eq rfl
    · exact (adds_foldl (adds_pushScalar kind options) d kind targets).mono fun _ ↦ .inr
  | .within selector body, scopes, d => by
    rw [declare]
    split_ifs
    · exact .of_entries_eq rfl
    · refine (adds_declareAll body (scopes ++ [selector]) d).mono fun _ he ↦ ?_
      rw [Declaration.spliced]
      refine he.imp_right ?_
      rintro ⟨inner, last, hread⟩
      rw [List.append_assoc] at hread
      exact ⟨selector :: inner, last, hread⟩
  | .many targets body, scopes, d => by
    rw [declare]
    split_ifs
    · exact (adds_foldl (adds_pushMany _) d .many targets).mono fun _ ↦ .inr
    · exact .of_entries_eq rfl
  | .manyOf targets nested, scopes, d => by
    rw [declare]
    exact (adds_foldl (adds_pushMany nested) d .many targets).mono fun _ ↦ .inr
  | .splice other, _, d => by
    rw [declare, Declaration.spliced]
    intro e he
    rcases List.mem_append.mp he with he | he
    · exact .inl he
    · exact .inr (.inl ⟨other, List.mem_singleton_self other, he⟩)
  | .extend _, _, d | .mode _, _, d | .hook _, _, d | .transform _ _, _, d => by
    rw [declare]
    exact .of_entries_eq rfl

theorem adds_declareAll : ∀ (cs : List Declaration) (scopes : List String) (d : Draft),
    Adds (fun e ↦ (∃ other ∈ Declaration.splicedAll cs, e ∈ other.entries) ∨ e.IsInside scopes) d
      (declareAll scopes d cs)
  | [], _, d => by
    rw [declareAll]
    exact .of_entries_eq rfl
  | c :: rest, scopes, d => by
    rw [declareAll, Declaration.splicedAll]
    have hfirst := adds_declare c scopes d
    have hrest := adds_declareAll rest scopes (declare scopes d c)
    refine .trans (hfirst.mono fun _ he ↦ he.imp_left ?_) (hrest.mono fun _ he ↦ he.imp_left ?_)
    · rintro ⟨other, hother, hmem⟩
      exact ⟨other, List.mem_append_left _ hother, hmem⟩
    · rintro ⟨other, hother, hmem⟩
      exact ⟨other, List.mem_append_right _ hother, hmem⟩

end

/-- A scope that begins with a slash and is not the root itself anchors all that is declared inside
it, however deep in further scopes: each entry that is accepted there selects the same nodes from
everywhere in a document, and the text of its selector begins with the slash. Entries that are
taken over from other specifications keep the selectors they have. -/
theorem declare_within_anchored {first : String} {s : Selector}
    (hread : Selector.ofText? first = .ok s) (hslash : first.toList.head? = some '/')
    (hroot : first ≠ "/") :
    (∀ parts : List String, (Selector.join (first :: parts)).toList.head? = some '/') ∧
    (∀ (d : Draft) (body : List Declaration),
      declare [] d (.within first body) = declareAll [first] d body) ∧
    ∀ (d : Draft) (body : List Declaration), ∀ e ∈ (declareAll [first] d body).entries,
      e ∈ d.entries ∨ (∃ other ∈ Declaration.splicedAll body, e ∈ other.entries) ∨
        e.selector.source.toList.head? = some '/' ∧ e.selector.Anchored := by
  have hinner := Selector.exists_ne_slash_of_ofText? hread hslash hroot
  have hjoin (parts : List String) : (Selector.join (first :: parts)).toList.head? = some '/' :=
    (Selector.head?_join hinner parts).trans hslash
  refine ⟨hjoin, fun d body ↦ ?_, fun d body e he ↦ ?_⟩
  · have hblank : Text.isBlankText first = false := by
      obtain ⟨tail, htail⟩ := List.head?_eq_some_iff.mp hslash
      rw [Text.isBlankText, htail, List.all_cons, Text.isBlank_slash, Bool.false_and]
    rw [declare, hblank, List.nil_append]
    rfl
  · rcases adds_declareAll body [first] d e he with he | he | ⟨inner, last, hinside⟩
    · exact .inl he
    · exact .inr (.inl he)
    · have hhead := hjoin (inner ++ [last])
      refine .inr (.inr ⟨?_, Selector.anchored_of_ofText? hinside hhead⟩)
      rw [Selector.source_of_ofText? hinside]
      exact hhead

theorem declare_within_anchored_album :
    let body : List Declaration := [.within "tracks" [.scalar .text [.ofName "title"] { }]]
    ∃ e ∈ (declare [] { } (.within "/album" body)).entries,
      e.selector.source = "/album/tracks/title" ∧ e.selector.Anchored := by
  intro body
  let album : Path := ⟨true, false, [⟨.child, .name "album", []⟩]⟩
  let title : Path := ⟨true, false,
    [⟨.child, .name "album", []⟩, ⟨.child, .name "tracks", []⟩, ⟨.child, .name "title", []⟩]⟩
  have halbum : Selector.ofText? "/album" = .ok ⟨_, album⟩ :=
    Selector.ofText?_of_eq_render (by decide +kernel) (by decide +kernel)
  have hjoin : Selector.join ["/album", "tracks", "title"] = "/album/tracks/title" := by
    decide +kernel
  have htitle : Selector.ofText? (underScopes ["/album", "tracks"] "title") =
      .ok ⟨"/album/tracks/title", title⟩ := by
    rw [underScopes, if_neg (by decide), List.cons_append, List.cons_append, List.nil_append, hjoin]
    exact Selector.ofText?_of_eq_render (by decide +kernel) (by decide +kernel)
  obtain ⟨-, hscope, hanchored⟩ := declare_within_anchored halbum (by decide) (by decide)
  have hblank : Text.isBlankText "tracks" = false := by decide +kernel
  have hentry := declareScalar_eq (show Kind.text ≠ .many by decide) (t := .ofName "title")
    (by decide) htitle { } { }
  have hentries : (declareAll ["/album"] { } body).entries =
      [⟨.text, ⟨"/album/tracks/title", title⟩, .ofKey "title", { }, none⟩] := by
    rw [declareAll, declareAll, declare, hblank, if_neg (by decide), declareAll, declareAll,
      declare, List.cons_append, List.nil_append, hentry]
    rfl
  rw [hscope, hentries]
  refine ⟨_, List.mem_singleton_self _, rfl, ?_⟩
  rcases hanchored { } body _ (hentries ▸ List.mem_singleton_self _) with he | ⟨_, hother, -⟩ | he
  · cases he
  · cases hother
  · exact he.2

/-- Inside the root scope a selector stays as it is, so what it selects depends on the mode and on
the node. -/
theorem not_anchored_within_root :
    let tree : Tree := .document [.element "album" [] [.element "title" [] [.text "x"]]]
    let root : Node := (Document.ofTree tree).root
    (∃ s, Selector.ofText? "/" = .ok s ∧ s.Anchored) ∧ Selector.join ["/", "title"] = "title" ∧
      ∃ e, (declare [] { } (.within "/" [.scalar .text [.ofName "title"] { }])).entries = [e] ∧
        e.selector.path.absolute = false ∧
        (e.selector.select .search root).map Node.innerText = ["x"] ∧
        e.selector.select .strict root = [] := by
  intro tree root
  let title : Path := ⟨false, true, [⟨.child, .name "title", []⟩]⟩
  have hroot : Selector.ofText? "/" = .ok ⟨"/", ⟨true, false, []⟩⟩ := by
    refine (Selector.ofText?_eq_ok_iff (by decide +kernel)).mpr ⟨?_, rfl⟩
    refine (Selector.readWhole_eq_ok_iff (by decide) (by decide +kernel)).mpr ?_
    exact Selector.plain_readPath_root (by decide +kernel) (.inl rfl)
  have hjoin : Selector.join ["/", "title"] = "title" := by decide +kernel
  have htitle : Selector.ofText? (underScopes ["/"] "title") = .ok ⟨"title", title⟩ := by
    rw [underScopes, if_neg (by decide), List.cons_append, List.nil_append, hjoin]
    exact Selector.ofText?_of_eq_render (by decide +kernel) (by decide +kernel)
  have hblank : Text.isBlankText "/" = false := by decide +kernel
  have hentry := declareScalar_eq (show Kind.text ≠ .many by decide) (t := .ofName "title")
    (by decide) htitle { } { }
  refine ⟨⟨_, hroot, Selector.anchored_of_ofText? hroot (by decide)⟩, hjoin,
    ⟨.text, ⟨"title", title⟩, .ofKey "title", { }, none⟩, ?_, rfl, ?_, ?_⟩
  · rw [declare, hblank, if_neg (by decide), declareAll, declareAll, declare, List.nil_append,
      hentry]
    rfl
  · decide +kernel
  · exact List.eq_nil_of_length_eq_zero (by decide +kernel)

end Draft

end MarkupRecords
