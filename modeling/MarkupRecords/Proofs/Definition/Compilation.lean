import MarkupRecords.Proofs.Definition.Reordering
import MarkupRecords.Proofs.Extraction.Entries
import MarkupRecords.Proofs.Extraction.Lineage
import MarkupRecords.Proofs.Specification.Hereditary
import MarkupRecords.Proofs.Specification.Program

/-!
What a definition compiles to. `Definition.placed` lists its mappings in the order of declaration,
each with the selectors of the scopes around it: the flat mappings, and then scope by scope the
mappings in it and those of its inner scopes. A definition that compiles has one entry for each of
them, in this order (`Definition.forall₂_makes_of_compile`), and besides them only its mode
(`Definition.settings_of_compile`). `Placed.Makes` says what the entry is.

A later entry with the same key overrides an earlier one. Scoped mappings come after all flat ones,
so the last scoped mapping with a key decides on the value (`Definition.exists_entry_of_last`).
Since the order of members does not matter in JSON, this is so wherever the scopes stand in the
text.
-/

set_option autoImplicit false
set_option relaxedAutoImplicit false

namespace MarkupRecords

/-! ### Mappings in order -/

/-- A mapping with the selectors of the scopes around it, outermost first. -/
structure Placed where
  scopes : List String
  mapping : Mapping

namespace Placed

/-- Where the value of the mapping goes. -/
def key (p : Placed) : OutputKey :=
  Mapping.declaredKey p.mapping.kind p.mapping.selector p.mapping.attributeName p.mapping.key

/-- The entry is the one for the mapping in its place. Its selector is that of the mapping, joined
to those of the scopes, which for an attribute is the path without the name. What an entry of kind
`many` nests is compiled from the mappings in it alone, under their own mode. -/
structure Makes (p : Placed) (e : Entry) : Prop where
  kind_eq : e.kind = p.mapping.kind
  key_eq : e.key = p.key
  read_source : Selector.ofText? e.selector.source = .ok e.selector
  source_flat : p.mapping.kind ≠ .attribute → p.scopes = [] → e.selector.source = p.mapping.selector
  source_scoped : p.mapping.kind ≠ .attribute → p.scopes ≠ [] →
    e.selector.source = Selector.join (p.scopes ++ [p.mapping.selector])
  source_attribute : p.mapping.kind = .attribute → ∃ path name,
    AttributeParts (Mapping.declaredSelector .attribute p.mapping.selector p.mapping.attributeName)
      path name ∧
    e.selector.source = Draft.underScopes p.scopes path ∧ e.options.attributeName = some name
  of_scalar : p.mapping.kind ≠ .many → e.nested? = none ∧ e.options.afterMap = p.mapping.afterMap
  of_many : p.mapping.kind = .many → ∃ nested, e.nested? = some nested ∧
    Definition.compile ⟨p.mapping.mode.getD .search, p.mapping.mappings, []⟩ = .ok nested

end Placed

mutual

/-- The mappings in a scope, those of its inner scopes last, under the scopes around it. -/
def Scope.placed (outer : List String) : Scope → List Placed
  | ⟨selector, mappings, scopes⟩ =>
    mappings.map (⟨outer ++ [selector], ·⟩) ++ Scope.placedAll (outer ++ [selector]) scopes

/-- The mappings in scopes, scope by scope. -/
def Scope.placedAll (outer : List String) : List Scope → List Placed
  | [] => []
  | s :: ss => s.placed outer ++ Scope.placedAll outer ss

end

/-- The mappings of a definition: the flat ones, and then those in scopes. -/
def Definition.placed (d : Definition) : List Placed :=
  d.mappings.map (⟨[], ·⟩) ++ Scope.placedAll [] d.scopes

/-! ### What declarations leave as it is -/

namespace Draft

/-- What a draft says besides its entries. -/
def settings (d : Draft) : Option Hook × Selector.Mode × Option Specification × TransformTable :=
  (d.hook, d.mode, d.parent, d.transforms)

theorem settings_push (d : Draft) (kind : Kind) (selector : String) (key : OutputKey)
    (options : Options) (nested : Option Specification) :
    (d.push kind selector key options nested).settings = d.settings := by
  unfold push
  split <;> rfl

theorem settings_checkTargets (d : Draft) (kind : Kind) (targets : List Target) :
    (d.checkTargets kind targets).settings = d.settings := by
  unfold checkTargets
  split <;> rfl

theorem settings_foldl {push : Draft → Target → Draft}
    (hpush : ∀ d t, (push d t).settings = d.settings) (targets : List Target) (d : Draft) :
    (targets.foldl push d).settings = d.settings :=
  List.foldlRecOn (motive := fun d' : Draft ↦ d'.settings = d.settings) targets push rfl
    fun d' hd' t _ ↦ (hpush d' t).trans hd'

theorem settings_declareScalar (scopes : List String) (d : Draft) (kind : Kind)
    (targets : List Target) (options : Options) :
    (d.declareScalar scopes kind targets options).settings = d.settings := by
  unfold declareScalar
  split
  · rfl
  · rw [settings_foldl (fun d t ↦ ?_), settings_checkTargets]
    rw [pushScalar_eq, settings_push]

theorem settings_declareMany (scopes : List String) (d : Draft) (targets : List Target)
    (nested : Specification) : (d.declareMany scopes targets nested).settings = d.settings := by
  unfold declareMany
  rw [settings_foldl (fun d t ↦ ?_), settings_checkTargets]
  unfold pushMany
  split
  · rfl
  · exact settings_push d _ _ _ _ _

theorem settings_declare_mapping (scopes : List String) (d : Draft) (m : Mapping) :
    (declare scopes d m.declaration).settings = d.settings := by
  obtain ⟨kind, selector, key, afterMap, attributeName, mappings, mode⟩ := m
  rw [Mapping.declaration]
  split
  · rw [declare]
    split
    · exact settings_declareMany scopes d _ _
    · rfl
  · rw [declare]
    exact settings_declareScalar scopes d kind _ _

theorem settings_declareAll_mappings (scopes : List String) (d : Draft) (ms : List Mapping) :
    (declareAll scopes d (Mapping.declarations ms)).settings = d.settings := by
  induction ms generalizing d with
  | nil => rw [Mapping.declarations, declareAll]
  | cons m ms ih => rw [Mapping.declarations, declareAll, ih, settings_declare_mapping]

theorem declareAll_append (scopes : List String) (d : Draft) (cs cs' : List Declaration) :
    declareAll scopes d (cs ++ cs') = declareAll scopes (declareAll scopes d cs) cs' := by
  induction cs generalizing d with
  | nil => rw [List.nil_append, declareAll]
  | cons c cs ih => rw [List.cons_append, declareAll, declareAll, ih]

mutual

theorem settings_declare_scope : ∀ (s : Scope) (scopes : List String) (d : Draft),
    (declare scopes d s.declaration).settings = d.settings
  | ⟨selector, mappings, inner⟩, scopes, d => by
    rw [Scope.declaration, declare]
    split
    · rfl
    · rw [declareAll_append, settings_declareAll_scopes inner, settings_declareAll_mappings]

theorem settings_declareAll_scopes : ∀ (ss : List Scope) (scopes : List String) (d : Draft),
    (declareAll scopes d (Scope.declarations ss)).settings = d.settings
  | [], scopes, d => by rw [Scope.declarations, declareAll]
  | s :: ss, scopes, d => by
    rw [Scope.declarations, declareAll, settings_declareAll_scopes ss, settings_declare_scope s]

end

end Draft

/-! ### One entry for each mapping -/

namespace Declaration

theorem YieldAll.exists_append {scopes : List String} {cs cs' : List Declaration} {es : List Entry}
    (h : YieldAll scopes (cs ++ cs') es) :
    ∃ front rest, es = front ++ rest ∧ YieldAll scopes cs front ∧ YieldAll scopes cs' rest := by
  induction cs generalizing es with
  | nil => exact ⟨[], es, rfl, .nil scopes, h⟩
  | cons c cs ih =>
    cases h with
    | @cons _ _ _ own more hc hmore =>
      obtain ⟨front, rest, rfl, hfront, hrest⟩ := ih hmore
      exact ⟨own ++ front, rest, (List.append_assoc own front rest).symm, .cons hc hfront, hrest⟩

/-- The selector of a mapping is declared as it is given, unless the mapping is an attribute. -/
theorem source_of_isFor {scopes : List String} {kind : Kind} {selector : String}
    {attributeName : Option String} {key : OutputKey} {options : Options}
    {nested : Option Specification} {e : Entry}
    (he : e.IsFor scopes kind options nested
      ⟨Mapping.declaredSelector kind selector attributeName, key⟩) (hkind : kind ≠ .attribute) :
    e.selector.source = Draft.underScopes scopes selector := by
  have hdeclared : Mapping.declaredSelector kind selector attributeName = selector := by
    unfold Mapping.declaredSelector
    split
    · exact absurd rfl hkind
    · rfl
  rw [he.source_eq, Target.ownSelector, if_neg hkind, hdeclared]

/-- A mapping stands for one entry. -/
theorem exists_makes_of_yields {scopes : List String} {m : Mapping} {es : List Entry}
    (h : Yields scopes m.declaration es) : ∃ e, es = [e] ∧ Placed.Makes ⟨scopes, m⟩ e := by
  obtain ⟨kind, selector, key, afterMap, attributeName, mappings, mode⟩ := m
  rw [Mapping.declaration] at h
  have hjoin (hscopes : scopes ≠ []) : Draft.underScopes scopes selector =
      Selector.join (scopes ++ [selector]) := by
    simp [Draft.underScopes, hscopes]
  split_ifs at h with hkind
  · subst hkind
    cases h with
    | @many _ _ _ nested _ hnested hes =>
      obtain ⟨e, _, he, ⟨⟩, rfl⟩ := List.forall₂_cons_left_iff.mp hes
      have hsource := source_of_isFor he (by decide)
      refine ⟨e, rfl, { he with
        source_flat := ?_
        source_scoped := fun _ hscopes ↦ hsource.trans (hjoin hscopes)
        source_attribute := nofun
        of_scalar := fun hne ↦ absurd rfl hne
        of_many := fun _ ↦ ⟨nested, he.nested_eq, ?_⟩ }⟩
      · rintro - rfl
        exact hsource
      · rw [← hnested, Definition.compile, Definition.compileWith, Definition.declarations,
          Scope.declarations, List.append_nil, List.append_nil]
  · cases h with
    | scalar hes =>
      obtain ⟨e, _, he, ⟨⟩, rfl⟩ := List.forall₂_cons_left_iff.mp hes
      refine ⟨e, rfl, { he with
        source_flat := ?_
        source_scoped := fun hne hscopes ↦ (source_of_isFor he hne).trans (hjoin hscopes)
        source_attribute := ?_
        of_scalar := fun _ ↦ ⟨he.nested_eq, ?_⟩
        of_many := fun hmany ↦ absurd hmany hkind }⟩
      · rintro hne rfl
        exact source_of_isFor he hne
      · rintro rfl
        refine ⟨_, _, attributeParts_splitAttribute _, ?_, ?_⟩
        · rw [he.source_eq, Target.ownSelector, if_pos rfl]
        · rw [he.options_eq, Target.ownOptions, if_pos rfl]
      · rw [he.options_eq, Target.ownOptions]
        split_ifs
        · rfl
        · rfl

theorem forall₂_makes_of_mappings {scopes : List String} : ∀ {ms : List Mapping} {es : List Entry},
    YieldAll scopes (Mapping.declarations ms) es →
      List.Forall₂ Placed.Makes (ms.map (⟨scopes, ·⟩)) es
  | [], _, .nil _ => .nil
  | m :: ms, _, .cons hm hms => by
    obtain ⟨e, rfl, he⟩ := exists_makes_of_yields hm
    exact .cons he (forall₂_makes_of_mappings hms)

mutual

theorem forall₂_makes_of_scope : ∀ {s : Scope} {scopes : List String} {es : List Entry},
    Yields scopes s.declaration es → List.Forall₂ Placed.Makes (s.placed scopes) es
  | ⟨selector, mappings, inner⟩, scopes, es, h => by
    rw [Scope.declaration] at h
    cases h with
    | within hbody =>
      obtain ⟨front, rest, rfl, hmappings, hinner⟩ := hbody.exists_append
      rw [Scope.placed]
      exact List.rel_append (forall₂_makes_of_mappings hmappings) (forall₂_makes_of_scopes hinner)

theorem forall₂_makes_of_scopes : ∀ {ss : List Scope} {scopes : List String} {es : List Entry},
    YieldAll scopes (Scope.declarations ss) es →
      List.Forall₂ Placed.Makes (Scope.placedAll scopes ss) es
  | [], _, _, h => by
    rw [Scope.declarations] at h
    cases h
    exact .nil
  | s :: ss, scopes, es, h => by
    rw [Scope.declarations] at h
    cases h with
    | cons hs hss =>
      rw [Scope.placedAll]
      exact List.rel_append (forall₂_makes_of_scope hs) (forall₂_makes_of_scopes hss)

end

end Declaration

namespace Definition

variable {d : Definition} {spec : Specification}

/-- A definition declares nothing but entries and its mode. -/
theorem settings_of_compile (hspec : d.compile = .ok spec) :
    spec.hook? = none ∧ spec.parent? = none ∧ spec.mode = d.mode ∧ spec.transforms = .empty := by
  obtain ⟨-, rfl⟩ := Specification.build_eq_ok_iff.mp hspec
  have hsettings : (Draft.declareAll [] { } (d.declarations ++ [])).settings =
      (none, d.mode, none, .empty) := by
    rw [List.append_nil, declarations, Draft.declareAll_append, Draft.declareAll,
      Draft.settings_declareAll_scopes, Draft.settings_declareAll_mappings, Draft.declare]
    rfl
  simp only [Draft.settings, Prod.mk.injEq] at hsettings
  obtain ⟨hhook, hmode, hparent, htransforms⟩ := hsettings
  exact ⟨hhook, hparent, hmode, htransforms⟩

/-- The entries are those for the mappings, in order. -/
theorem forall₂_makes_of_compile (hspec : d.compile = .ok spec) :
    List.Forall₂ Placed.Makes d.placed spec.entries := by
  have hentries := Specification.yieldAll_of_build hspec
  rw [List.append_nil, declarations] at hentries
  obtain ⟨front, rest, heq, hfront, hrest⟩ := hentries.exists_append
  rw [heq, placed]
  cases hfront with
  | cons hmode hmappings =>
    cases hmode
    exact List.rel_append (Declaration.forall₂_makes_of_mappings hmappings)
      (Declaration.forall₂_makes_of_scopes hrest)

end Definition

/-! ### The last mapping with a key -/

namespace Definition

variable {d : Definition} {spec : Specification}

/-- The last scoped mapping with a key decides on the value there, if the keys of all mappings are
the same as that key or lie apart from it. -/
theorem exists_entry_of_last (hspec : d.compile = .ok spec) {before after : List Placed}
    {p : Placed}
    (hplaced : Scope.placedAll [] d.scopes = before ++ p :: after)
    (hlast : ∀ q ∈ after, q.key ≠ p.key)
    (hkeys : ∀ q ∈ d.placed, q.key = p.key ∨ KeysApart p.key.segments q.key.segments) :
    ∃ e, spec.entries[d.mappings.length + before.length]? = some e ∧ p.Makes e ∧
      ∀ (source : Source) (n : Node), source.key ≠ p.key.segments.head? →
        (spec.extractIn [] source n).getPath? p.key.segments =
          some (e.value spec.mode [spec.transforms] source n) := by
  obtain ⟨hhook, hparent, -, -⟩ := settings_of_compile hspec
  have hall : d.placed = (d.mappings.map (⟨[], ·⟩) ++ before) ++ p :: after := by
    rw [placed, hplaced, List.append_assoc]
  let front := d.mappings.map (⟨[], ·⟩ : Mapping → Placed) ++ before
  have hrest := List.forall₂_drop front.length (forall₂_makes_of_compile hspec)
  rw [hall, List.drop_left] at hrest
  obtain ⟨e, later, he, hlater, hdrop⟩ := List.forall₂_cons_left_iff.mp hrest
  have hentries : spec.entries = spec.entries.take front.length ++ e :: later := by
    rw [← hdrop, List.take_append_drop]
  have hkeysLater : after.map Placed.key = later.map Entry.key := by
    refine List.forall₂_eq_eq_eq ▸ ?_
    exact List.forall₂_map_left_iff.mpr (List.forall₂_map_right_iff.mpr
      (hlater.imp fun q l hl ↦ hl.key_eq.symm))
  have hapart : ∀ l ∈ later, KeysApart e.key.segments l.key.segments := by
    intro l hl
    have hmem : l.key ∈ after.map Placed.key := hkeysLater ▸ List.mem_map_of_mem hl
    obtain ⟨q, hq, hqkey⟩ := List.mem_map.mp hmem
    rw [he.key_eq, ← hqkey]
    exact (hkeys q (by simp [hall, hq])).resolve_left (hlast q hq)
  have hpath : e.key.segments ≠ [] := by
    have hbuilt := isBuilt_of_compileWith (List.forall_mem_nil _) hspec
    exact (hbuilt.wellFormed e (by rw [hentries]; simp)).segments_ne_nil
  refine ⟨e, ?_, he, fun source n hkey ↦ ?_⟩
  · have hlength : front.length = d.mappings.length + before.length := by simp [front]
    rw [← hlength, ← Nat.add_zero front.length, ← List.getElem?_drop, hdrop,
      List.getElem?_cons_zero]
  · rw [← he.key_eq] at hkey ⊢
    exact Specification.getPath?_extractIn_of_head?_ne hhook hparent hentries hpath hapart hkey [] n

/-- A definition compiles to one entry for each mapping: the flat mappings in order, and then scope
by scope the mappings in it and those of its inner scopes. It has no hook, no parent and no
transforms. In its JSON text the members of objects may stand in any order. Of the mappings with the
same key the last scoped one decides on the value, even if this is nil, as long as no other key
begins with that key or is the beginning of it. -/
theorem compile_inOrder (hspec : d.compile = .ok spec) :
    (spec.hook? = none ∧ spec.parent? = none ∧ spec.mode = d.mode ∧ spec.transforms = .empty) ∧
    List.Forall₂ Placed.Makes d.placed spec.entries ∧
    (∀ (s s' : String) (v v' : Json), Json.ofText? s = some v → Json.ofText? s' = some v' →
      v.Reorders v' → (ofJson? s = some d ↔ ofJson? s' = some d)) ∧
    ∀ (before : List Placed) (p : Placed) (after : List Placed),
      Scope.placedAll [] d.scopes = before ++ p :: after → (∀ q ∈ after, q.key ≠ p.key) →
      (∀ q ∈ d.placed, q.key = p.key ∨ KeysApart p.key.segments q.key.segments) →
      ∃ e, spec.entries[d.mappings.length + before.length]? = some e ∧ p.Makes e ∧
        ∀ (source : Source) (n : Node), source.key ≠ p.key.segments.head? →
          (spec.extractIn [] source n).getPath? p.key.segments =
            some (e.value spec.mode [spec.transforms] source n) := by
  refine ⟨settings_of_compile hspec, forall₂_makes_of_compile hspec,
    fun s s' v v' hv hv' h ↦ ?_, fun before p after hplaced hlast hkeys ↦ ?_⟩
  · rw [ofJson?_eq_of_reorders hv hv' h]
  · exact exists_entry_of_last hspec hplaced hlast hkeys

theorem compile_inOrder_artist :
    let name : Mapping := ⟨.text, "name", none, [], none, [], none⟩
    let d : Definition := ⟨.search, [name], [⟨"artist", [name], []⟩]⟩
    let text :=
      "\x7b\"mappings\":[[\"text\",\"name\"]],\"within\":[[\"artist\",[[\"text\",\"name\"]]]]\x7d"
    let swapped :=
      "\x7b\"within\":[[\"artist\",[[\"text\",\"name\"]]]],\"mappings\":[[\"text\",\"name\"]]\x7d"
    let n := (Document.ofTree (.document [.element "album" [] [
      .element "name" [] [.text "Climb"]]])).root
    ofJson? text = some d ∧ ofJson? swapped = some d ∧
    ∃ spec, d.compile = .ok spec ∧ List.Forall₂ Placed.Makes d.placed spec.entries ∧
      spec.entries.map (·.selector.source) = ["name", "artist/name"] ∧
      (spec.extract n).getPath? ["name"] = some .nil := by
  intro name d text swapped n
  let flat : Entry := ⟨.text, ⟨"name", ⟨false, true, [⟨.child, .name "name", []⟩]⟩⟩,
    .ofKey "name", { }, none⟩
  let inner : Entry := ⟨.text, ⟨"artist/name",
    ⟨false, true, [⟨.child, .name "artist", []⟩, ⟨.child, .name "name", []⟩]⟩⟩,
    .ofKey "name", { }, none⟩
  let target : Target := .ofName "name"
  have hflat : Selector.ofText? (Draft.underScopes [] (target.ownSelector .text)) =
      .ok flat.selector := by
    have hsource : Draft.underScopes [] (target.ownSelector .text) = "name" := rfl
    rw [hsource]
    exact Selector.ofText?_of_eq_render (by decide +kernel) (by decide +kernel)
  have hinner : Selector.ofText? (Draft.underScopes ["artist"] (target.ownSelector .text)) =
      .ok inner.selector := by
    have hsource : Draft.underScopes ["artist"] (target.ownSelector .text) = "artist/name" := by
      decide +kernel
    rw [hsource]
    exact Selector.ofText?_of_eq_render (by decide +kernel) (by decide +kernel)
  have hdraft : Draft.declareAll [] { } d.declarations = { entries := [flat, inner] } := by
    have hname : name.declaration = .scalar .text [target] { } := rfl
    have hblank : Text.isBlankText "artist" = false := by decide +kernel
    simp only [declarations, d, Mapping.declarations, Scope.declarations, Scope.declaration, hname,
      List.cons_append, List.nil_append, List.append_nil, Draft.declareAll, Draft.declare, hblank]
    rw [Draft.declareScalar_eq (by decide) (by decide +kernel) hflat, if_neg (by decide),
      Draft.declareScalar_eq (by decide) (by decide +kernel) hinner]
    rfl
  have hspec : d.compile = .ok ⟨[flat, inner], none, .search, none, .empty⟩ := by
    refine Specification.build_eq_ok_iff.mpr ?_
    rw [List.append_nil, hdraft]
    exact ⟨rfl, rfl⟩
  let mappings : String × Json := ("mappings", .array [.array [.text "text", .text "name"]])
  let scopes : String × Json :=
    ("within", .array [.array [.text "artist", .array [.array [.text "text", .text "name"]]]])
  have hfirst : Json.ofText? text = some (.object [mappings, scopes]) := by
    simp only [text, mappings, scopes]
    with_unfolding_all rfl
  have hlast : Json.ofText? swapped = some (.object [scopes, mappings]) := by
    simp only [swapped, mappings, scopes]
    with_unfolding_all rfl
  have hreorders : (Json.object [mappings, scopes]).Reorders (.object [scopes, mappings]) := by
    refine .object (.swap scopes mappings []) (List.forall₂_same.mpr fun member _ ↦ ?_)
    exact ⟨rfl, .refl member.2⟩
  have hkind (depth : Nat) : decodeKind depth (.text "text") = some .text := by
    simp [decodeKind, Json.asName?, Kind.ofWord?, Kind.all, Kind.word]
  have hdecode : decode Json.depthLimit (.object [mappings, scopes]) = some d := by
    simp [d, name, mappings, scopes, Json.depthLimit, decode, decodeMappings, decodeMapping,
      decodeScopes, decodeScope, decodeList, hkind, Json.fields?, definitionFields, mappingFields,
      scopeFields, Json.orDefault, Json.asText?, List.lookup_cons]
  obtain ⟨-, hmakes, hjson, hvalue⟩ := compile_inOrder hspec
  obtain ⟨e, he, -, hpath⟩ := hvalue [] ⟨["artist"], name⟩ [] rfl (List.forall_mem_nil _) (by
    simp [placed, d, name, Scope.placedAll, Scope.placed, Placed.key, Mapping.declaredKey])
  obtain rfl : inner = e := Option.some.inj he
  have htext : ofJson? text = some d := by
    rw [ofJson?, hfirst]
    exact hdecode
  refine ⟨htext, (hjson _ _ _ _ hfirst hlast hreorders).mp htext, _, hspec, hmakes, rfl, ?_⟩
  exact (hpath .none n (by decide)).trans rfl

end Definition

end MarkupRecords
