import MarkupRecords.Proofs.Definition.Compilation
import MarkupRecords.Proofs.Extraction.Pass

/-!
Mappings of attributes. The selector of a mapping and the name of its attribute are declared as one
text, with `/@` between, which falls apart again at its last `@`. Where the name has no `@` nothing
is lost, whatever stands in the predicates of the selector, unless the selector ends in a slash
(`splitAttribute_declared`); and of the selectors that are read only the root does
(`Selector.getLast?_ne_slash_of_ofText?`). So the mapping of every other selector stands for the
entry that reads the attribute of the node which the selector finds (`Mapping.reads_attribute`).
With the root as its selector it reads that of the context node
(`Mapping.not_reads_attribute_of_root`).
-/

set_option autoImplicit false
set_option relaxedAutoImplicit false

namespace MarkupRecords

/-! ### One text for selector and name -/

/-- A selector that does not end in a slash and a name without `@` come apart again. -/
theorem splitAttribute_declared {path name : String} (hpath : path.toList.getLast? ≠ some '/')
    (hname : '@' ∉ name.toList) : splitAttribute (path ++ "/@" ++ name) = (path, name) := by
  have hslashes : ∀ c ∈ ['/'], c = '/' := List.forall_mem_singleton.mpr rfl
  exact splitAttribute_eq_iff.mpr (.parted (by simp) hname hslashes hpath)

/-- Of the selectors that are read, the root alone ends in a slash. -/
theorem Selector.getLast?_ne_slash_of_ofText? {p : String} {s : Selector}
    (hread : ofText? p = .ok s) (htrim : Text.trimmed p = p) (hne : p ≠ "") (hroot : p ≠ "/") :
    p.toList.getLast? ≠ some '/' := by
  have hpath := ((ofText?_eq_ok_iff_readPath htrim hne).mp hread).1
  obtain ⟨c, hc, -, hend⟩ := readPath_ends hpath (steps_ne_nil_of_ofText? hread htrim hne hroot)
  rw [← stops_reverse_iff]
  exact Text.stops_reverse_of_suffix (isSlash_eq_false_iff.mpr hc) hend

/-! ### The entry of a mapping -/

/-- The entry that reads an attribute of the node which the selector finds. -/
def Entry.ofAttribute (s : Selector) (name : String) (key : OutputKey) (afterMap : List String) :
    Entry :=
  ⟨.attribute, s, key, ⟨afterMap, some name⟩, none⟩

theorem Entry.readAttribute_of_first {s : Selector} (name : String) {n first : Node}
    (hfirst : s.first? n = some first) :
    readAttribute s name n = .ofText? (first.unwrapDocument.attribute? name) := by
  rw [readAttribute, hfirst, Option.bind_some]

theorem Value.ofText?_eq_nil_iff {text : Option String} : ofText? text = .nil ↔ text = none := by
  cases text <;> simp [ofText?]

/-- An attribute reads as nil where there is no match, or the first match does not have it. -/
theorem Entry.readAttribute_eq_nil_iff (s : Selector) (name : String) (n : Node) :
    readAttribute s name n = .nil ↔ s.first? n = none ∨
      ∃ first, s.first? n = some first ∧ first.unwrapDocument.attribute? name = none := by
  rw [readAttribute, Value.ofText?_eq_nil_iff]
  cases s.first? n <;> simp

namespace Mapping

/-- The key of an attribute's mapping is the one that is given, or the name of the attribute. -/
def attributeKey (m : Mapping) (name : String) : OutputKey := m.key.getD (.ofKey name)

section Attribute

variable {m : Mapping} {name : String} (hkind : m.kind = .attribute)
  (hname : m.attributeName = some name)

include hkind hname

theorem declaration_attribute (hne : m.selector ≠ "") : m.declaration =
    .scalar m.kind [⟨m.selector ++ "/@" ++ name, m.attributeKey name⟩]
      { afterMap := m.afterMap } := by
  obtain ⟨kind, selector, key, afterMap, attributeName, mappings, mode⟩ := m
  obtain rfl : kind = .attribute := hkind
  obtain rfl : attributeName = some name := hname
  have hdeclared : declaredSelector .attribute selector (some name) = selector ++ "/@" ++ name :=
    if_neg hne
  have hkey : declaredKey .attribute selector (some name) key = key.getD (.ofKey name) := by
    cases key <;> rfl
  rw [declaration, if_neg (by decide), hdeclared, hkey]
  rfl

variable (hmark : '@' ∉ name.toList) {s : Selector} (hread : Selector.ofText? m.selector = .ok s)
  (hend : m.selector.toList.getLast? ≠ some '/')

include hmark hread hend

/-- Declaring the mapping outside all scopes adds its entry, and no defect. -/
theorem declare_attribute (hne : m.selector ≠ "") (hempty : name ≠ "")
    (hkey : (m.attributeKey name).isValid = true) (d : Draft) :
    d.declare [] m.declaration = { d with
      entries := d.entries ++ [.ofAttribute s name (m.attributeKey name) m.afterMap] } := by
  have hsplit := splitAttribute_declared hend hmark
  let t : Target := ⟨m.selector ++ "/@" ++ name, m.attributeKey name⟩
  have hown : t.ownSelector .attribute = m.selector := congrArg Prod.fst hsplit
  have hsound : Draft.targetDefect? .attribute t = none := by
    refine Draft.targetDefect?_eq_none_iff.mpr ⟨hkey, fun _ ↦ ?_⟩
    rwa [hsplit]
  have hoptions : t.ownOptions .attribute { afterMap := m.afterMap } = ⟨m.afterMap, some name⟩ := by
    rw [Target.ownOptions, if_pos rfl, hsplit]
  have hscoped : Selector.ofText? (Draft.underScopes [] (t.ownSelector .attribute)) = .ok s := by
    rw [hown]
    exact hread
  rw [declaration_attribute hkind hname hne, hkind, Draft.declare,
    Draft.declareScalar_eq (by decide) hsound hscoped, hoptions]
  rfl

/-- The entry that is made of the mapping outside all scopes is its entry. -/
theorem eq_ofAttribute_of_makes (hne : m.selector ≠ "") {e : Entry}
    (h : Placed.Makes ⟨[], m⟩ e) : e = .ofAttribute s name (m.attributeKey name) m.afterMap := by
  obtain ⟨path, name', hparts, hsource, hnamed⟩ := h.source_attribute hkind
  obtain ⟨hnested, hafterMap⟩ := h.of_scalar (by rw [hkind]; decide)
  have hdeclared : declaredSelector .attribute m.selector m.attributeName =
      m.selector ++ "/@" ++ name := by
    rw [hname]
    exact if_neg hne
  have hkey : e.key = m.attributeKey name := by
    rw [h.key_eq, Placed.key, hkind, hname]
    cases hgiven : m.key <;> simp [declaredKey, attributeKey, hgiven]
  have hsplit := hparts.splitAttribute
  rw [hdeclared, splitAttribute_declared hend hmark] at hsplit
  obtain ⟨rfl, rfl⟩ := Prod.mk.inj hsplit
  have hselector : e.selector = s := by
    have hown := h.read_source
    rw [hsource] at hown
    exact Except.ok.inj (hown.symm.trans hread)
  obtain ⟨kind, selector, key, ⟨afterMap, attributeName⟩, nested⟩ := e
  obtain rfl : kind = .attribute := h.kind_eq.trans hkind
  obtain rfl : selector = s := hselector
  obtain rfl : key = _ := hkey
  obtain rfl : afterMap = _ := hafterMap
  obtain rfl : attributeName = _ := hnamed
  obtain rfl : nested = none := hnested
  rfl

/-- In a definition that compiles the mapping has its entry in its place. -/
theorem getElem?_entries_of_compile (hne : m.selector ≠ "") {d : Definition} {spec : Specification}
    (hspec : d.compile = .ok spec) {before after : List Mapping}
    (hmappings : d.mappings = before ++ m :: after) : spec.entries[before.length]? =
      some (.ofAttribute s name (m.attributeKey name) m.afterMap) := by
  have hmakes := List.forall₂_drop before.length (Definition.forall₂_makes_of_compile hspec)
  have hplaced : d.placed.drop before.length =
      ⟨[], m⟩ :: (after.map (⟨[], ·⟩) ++ Scope.placedAll [] d.scopes) := by
    rw [Definition.placed, hmappings, List.map_append, List.append_assoc,
      List.drop_left' (List.length_map _)]
    rfl
  rw [hplaced] at hmakes
  obtain ⟨e, rest, he, -, hrest⟩ := List.forall₂_cons_left_iff.mp hmakes
  rw [← eq_ofAttribute_of_makes hkind hname hmark hread hend hne he, ← Nat.add_zero before.length,
    ← List.getElem?_drop, hrest, List.getElem?_cons_zero]

end Attribute

/-- Take a mapping of an attribute whose selector is read, is neither empty nor the root and has no
blanks around it, whose attribute has a name without `@`, and whose key is valid if one is given.
Outside all scopes it stands for one entry, wherever it is declared, alone and among others. At any
node the value before the transforms is the attribute of the first node that the selector finds, the
document node giving way to its element, and it is nil just if there is no such node or this has no
such attribute. -/
theorem reads_attribute {m : Mapping} {name : String} {s : Selector} (hkind : m.kind = .attribute)
    (hname : m.attributeName = some name) (hread : Selector.ofText? m.selector = .ok s)
    (htrim : Text.trimmed m.selector = m.selector) (hne : m.selector ≠ "")
    (hroot : m.selector ≠ "/") (hempty : name ≠ "") (hmark : '@' ∉ name.toList)
    (hkey : ∀ key, m.key = some key → key.isValid = true) :
    let e := Entry.ofAttribute s name (m.attributeKey name) m.afterMap
    m.declaration = .scalar m.kind [⟨m.selector ++ "/@" ++ name, m.attributeKey name⟩]
      { afterMap := m.afterMap } ∧
    (∀ d : Draft, d.declare [] m.declaration = { d with entries := d.entries ++ [e] }) ∧
    (∀ mode, Definition.compile ⟨mode, [m], []⟩ = .ok ⟨[e], none, mode, none, .empty⟩) ∧
    (∀ (d : Definition) (spec : Specification) (before after : List Mapping),
      d.compile = .ok spec → d.mappings = before ++ m :: after →
        spec.entries[before.length]? = some e) ∧
    ∀ n : Node,
      let found := s.select .search n
      let raw := Entry.read e.kind e.selector e.options n
      (∀ mode tables source, e.value mode tables source n = raw.applyChain tables m.afterMap) ∧
      (∀ first ∈ found, (∀ k ∈ found, first.index ≤ k.index) →
        raw = .ofText? (first.unwrapDocument.attribute? name)) ∧
      (raw = .nil ↔ found = [] ∨ ∃ first ∈ found, (∀ k ∈ found, first.index ≤ k.index) ∧
        first.unwrapDocument.attribute? name = none) := by
  intro e
  have hend := Selector.getLast?_ne_slash_of_ofText? hread htrim hne hroot
  have hvalid : (m.attributeKey name).isValid = true := by
    rw [attributeKey]
    cases hgiven : m.key with
    | none => simp [OutputKey.isValid, OutputKey.ofKey, hempty]
    | some key => exact hkey key hgiven
  have hdeclare := declare_attribute hkind hname hmark hread hend hne hempty hvalid
  refine ⟨declaration_attribute hkind hname hne, hdeclare, fun mode ↦ ?_,
    fun _ _ _ _ hspec hmappings ↦
      getElem?_entries_of_compile hkind hname hmark hread hend hne hspec hmappings,
    fun n ↦ ⟨fun mode tables source ↦ rfl, fun first hmem hleast ↦ ?_, ?_⟩⟩
  · refine Specification.build_eq_ok_iff.mpr ?_
    have hdraft : Draft.declareAll [] { } ((Definition.mk mode [m] []).declarations ++ []) =
        { entries := [e], mode } := by
      rw [List.append_nil, Definition.declarations, declarations, declarations, Scope.declarations,
        List.append_nil, Draft.declareAll, Draft.declare, Draft.declareAll, hdeclare,
        Draft.declareAll]
      rfl
    rw [hdraft]
    exact ⟨rfl, rfl⟩
  · exact Entry.readAttribute_of_first name (Selector.first?_eq_some_iff.mpr ⟨hmem, hleast⟩)
  · refine (Entry.readAttribute_eq_nil_iff s name n).trans (or_congr ?_ ?_)
    · exact List.head?_eq_none_iff
    · simp only [Selector.first?_eq_some_iff, and_assoc]

theorem reads_attribute_disc :
    let p := "track[@n='2']/.."
    let s : Selector := ⟨p, ⟨false, true, [⟨.child, .name "track",
      [.condition (.compare (.attribute "n") false (.text "2"))]⟩, ⟨.parent, .anyNode, []⟩]⟩⟩
    let m : Mapping := ⟨.attribute, p, none, [], some "id", [], none⟩
    let e := Entry.ofAttribute s "id" (.ofKey "id") []
    let disc (id number : String) : Tree :=
      .element "disc" [("id", id)] [.element "track" [("n", number)] []]
    let n := (Document.ofTree (.document [.element "album" [] [disc "a" "1", disc "b" "2"]])).root
    Selector.ofText? p = .ok s ∧ Text.trimmed p = p ∧ p ≠ "" ∧ p ≠ "/" ∧
    '@' ∉ "id".toList ∧ (∀ key, m.key = some key → key.isValid = true) ∧
    m.declaration = .scalar m.kind [⟨p ++ "/@" ++ "id", .ofKey "id"⟩] { } ∧
    Definition.compile ⟨.search, [m], []⟩ = .ok ⟨[e], none, .search, none, .empty⟩ ∧
    Entry.read e.kind e.selector e.options n = .text "b" ∧
    e.value .search [] .none n = .text "b" := by
  intro p s m e disc n
  have hread : Selector.ofText? p = .ok s :=
    Selector.ofText?_of_eq_render (by decide +kernel) (by decide +kernel)
  have htrim : Text.trimmed p = p := by decide +kernel
  have hmark : '@' ∉ "id".toList := by decide
  have hkey : ∀ key, m.key = some key → key.isValid = true := nofun
  obtain ⟨hdeclaration, -, hcompile, -, hvalue⟩ := reads_attribute (m := m) rfl rfl
    hread htrim (by decide) (by decide) (by decide) hmark hkey
  have hfound :
      ((s.first? n).bind fun first ↦ first.unwrapDocument.attribute? "id") = some "b" := by
    decide +kernel
  have hraw : Entry.read e.kind e.selector e.options n = .text "b" := by
    change Entry.readAttribute s "id" n = _
    rw [Entry.readAttribute, hfound]
    rfl
  refine ⟨hread, htrim, by decide, by decide, hmark, hkey, hdeclaration, hcompile .search, hraw, ?_⟩
  refine ((hvalue n).1 .search [] .none).trans ?_
  change (Entry.read e.kind e.selector e.options n).applyChain [] [] = _
  rw [hraw]
  rfl

/-- With the root as its selector the mapping reads the attribute of the context node, and not that
of the element of the document. -/
theorem not_reads_attribute_of_root :
    let s : Selector := ⟨"/", ⟨true, false, []⟩⟩
    let m : Mapping := ⟨.attribute, "/", none, [], some "id", [], none⟩
    let d := Document.ofTree (.document [.element "album" [("id", "1")] [
      .element "track" [("id", "2")] []]])
    let track : Node := ⟨d, 2, by decide +kernel⟩
    Selector.ofText? "/" = .ok s ∧ ∃ e, Definition.compile ⟨.search, [m], []⟩ =
      .ok ⟨[e], none, .search, none, .empty⟩ ∧
      ∃ first ∈ s.select .search track, (∀ k ∈ s.select .search track, first.index ≤ k.index) ∧
        Value.ofText? (first.unwrapDocument.attribute? "id") = .text "1" ∧
        Entry.read e.kind e.selector e.options track = .text "2" := by
  intro s m d track
  have hread : Selector.ofText? "/" = .ok s := by
    refine (Selector.ofText?_eq_ok_iff_readPath (by decide +kernel) (by decide)).mpr ⟨?_, rfl⟩
    exact Selector.plain_readPath_root (by decide +kernel) (.inl rfl)
  let e : Entry := .ofAttribute ⟨"", ⟨false, false, []⟩⟩ "id" (.ofKey "id") []
  let t : Target := ⟨"//@id", .ofKey "id"⟩
  have hsplit : splitAttribute "//@id" = ("", "id") := by decide +kernel
  have hown : t.ownSelector .attribute = "" := congrArg Prod.fst hsplit
  have hoptions : t.ownOptions .attribute { } = ⟨[], some "id"⟩ := by
    rw [Target.ownOptions, if_pos rfl, hsplit]
  have hscoped : Selector.ofText? (Draft.underScopes [] (t.ownSelector .attribute)) =
      .ok e.selector := by
    rw [hown]
    rfl
  have hdeclaration : m.declaration = .scalar m.kind [t] { } :=
    declaration_attribute (m := m) rfl rfl (by decide)
  have hdraft : Draft.declareAll [] { } ((Definition.mk .search [m] []).declarations ++ []) =
      { entries := [e] } := by
    rw [List.append_nil, Definition.declarations, declarations, declarations, Scope.declarations,
      List.append_nil, Draft.declareAll, Draft.declare, Draft.declareAll, hdeclaration,
      Draft.declare, Draft.declareScalar_eq (by decide) (by decide +kernel) hscoped, hoptions,
      Draft.declareAll]
    rfl
  refine ⟨hread, e, Specification.build_eq_ok_iff.mpr ⟨congrArg Draft.defects hdraft, ?_⟩, ?_⟩
  · rw [hdraft]
    rfl
  · have hselect : s.select .search track = [d.root] := rfl
    have hown : ((Selector.first? e.selector track).bind fun first ↦
        first.unwrapDocument.attribute? "id") = some "2" := by decide +kernel
    rw [hselect]
    refine ⟨d.root, List.mem_singleton_self _, List.forall_mem_singleton.mpr le_rfl, ?_,
      congrArg Value.ofText? hown⟩
    have hroot : d.root.unwrapDocument.attribute? "id" = some "1" := by decide +kernel
    exact congrArg Value.ofText? hroot

end Mapping

end MarkupRecords
