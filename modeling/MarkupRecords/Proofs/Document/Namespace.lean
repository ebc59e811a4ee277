import MarkupRecords.Proofs.Document.Parsed
import MarkupRecords.Proofs.Document.Relabel
import MarkupRecords.Proofs.Text.Ends

/-!
XML with and without prefixes. Reading under `Naming.plain` takes the prefixes off the names and
leaves out the attributes that declare them, and is otherwise the same as reading under
`Naming.qualified`: when the qualified reading finds no fault, the two go through the text in step,
tag by tag (`Xml.readMarkup_plain`, `Xml.readEvents_plain`), and come to the same events but for the
names. So an XML text that is a document is one without prefixes too, and its nodes correspond
(`Document.parse_plain_of_qualified`). The converse need not hold: the value of an attribute that is
left out is not looked at.
-/

set_option autoImplicit false
set_option relaxedAutoImplicit false

namespace MarkupRecords

namespace Xml

/-! ### Names -/

/-- The local part of a qualified name is what follows the first colon, or the whole name if there
is none. -/
inductive LocalName : String → String → Prop
  | bare {name : String} (hname : ':' ∉ name.toList) : LocalName name name
  | prefixed {qualified name : String} {before : List Char}
    (hqualified : qualified.toList = before ++ ':' :: name.toList) (hbefore : ':' ∉ before) :
    LocalName qualified name

/-- An attribute of the name declares a namespace: it is `xmlns`, or this is its prefix. -/
def DeclaresNamespace (name : String) : Prop :=
  name = "xmlns" ∨ "xmlns:".toList <+: name.toList

instance (name : String) : Decidable (DeclaresNamespace name) :=
  inferInstanceAs (Decidable (name = "xmlns" ∨ "xmlns:".toList <+: name.toList))

/-- A name without its prefix. -/
def localName (name : String) : String := .ofList (localPart name.toList)

/-- Attributes without their prefixes, and without those that declare prefixes. -/
def stripAttributes (attributes : List (String × String)) : List (String × String) :=
  (attributes.filter fun a ↦ ¬ DeclaresNamespace a.1).map fun a ↦ (localName a.1, a.2)

/-- Taking off prefixes. -/
def stripping : Relabelling := ⟨localName, stripAttributes⟩

theorem localName_spec (name : String) : LocalName name (localName name) := by
  have hsplit := List.takeWhile_append_dropWhile (p := fun c ↦ decide (c ≠ ':')) (l := name.toList)
  have hbefore : ':' ∉ name.toList.takeWhile fun c ↦ decide (c ≠ ':') :=
    fun hmem ↦ by simpa using List.mem_takeWhile_imp hmem
  unfold localName localPart
  split
  · rename_i hnil
    rw [hnil, List.append_nil] at hsplit
    rw [String.ofList_toList]
    exact .bare (hsplit ▸ hbefore)
  · rename_i c rest hcons
    have hstops := Text.stops_dropWhile (fun c ↦ decide (c ≠ ':')) name.toList
    rw [hcons] at hsplit hstops
    obtain rfl : c = ':' := by simpa using hstops c rfl
    exact .prefixed (by rw [String.toList_ofList]; exact hsplit.symm) hbefore

theorem declaresNamespace_iff {name : String} :
    declaresNamespace name.toList = true ↔ DeclaresNamespace name := by
  have hxmlns : ∀ c ∈ ['x', 'm', 'l', 'n', 's'], decide (c ≠ ':') = true := by simp
  have hsplit := List.takeWhile_append_dropWhile (p := fun c ↦ decide (c ≠ ':')) (l := name.toList)
  have hstops := Text.stops_dropWhile (fun c ↦ decide (c ≠ ':')) name.toList
  rw [declaresNamespace, beq_iff_eq]
  constructor
  · intro h
    rw [h] at hsplit
    cases hrest : name.toList.dropWhile fun c ↦ decide (c ≠ ':') with
    | nil =>
      rw [hrest, List.append_nil] at hsplit
      exact .inl (String.toList_inj.mp hsplit.symm)
    | cons c rest =>
      rw [hrest] at hsplit hstops
      obtain rfl : c = ':' := by simpa using hstops c rfl
      exact .inr ⟨rest, hsplit⟩
  · rintro (rfl | ⟨rest, hrest⟩)
    · rfl
    · have hcolon : Text.Stops (fun c ↦ decide (c ≠ ':')) (':' :: rest) := by simp [Text.Stops]
      rw [← hrest]
      exact Text.takeWhile_append_of_stops hxmlns hcolon

/-! ### Tags -/

theorem bind_eq_ok_iff {ε α β : Type} {x : Except ε α} {f : α → Except ε β} {b : β} :
    (x >>= f) = .ok b ↔ ∃ a, x = .ok a ∧ f a = .ok b := by
  cases x with
  | error e => simp [bind, Except.bind]
  | ok a => simp [bind, Except.bind]

theorem stripAttributes_cons (key : List Char) (value : String)
    (attributes : List (String × String)) :
    stripAttributes ((.ofList key, value) :: attributes) =
      if declaresNamespace key then stripAttributes attributes
      else (.ofList (localPart key), value) :: stripAttributes attributes := by
  have hdeclares : declaresNamespace key = true ↔ DeclaresNamespace (.ofList key) := by
    rw [← declaresNamespace_iff, String.toList_ofList]
  rw [stripAttributes, List.filter_cons]
  by_cases hkey : DeclaresNamespace (.ofList key)
  · rw [if_pos (hdeclares.mpr hkey), if_neg (by simpa using hkey), stripAttributes]
  · rw [if_neg (fun h ↦ hkey (hdeclares.mp h)), if_pos (by simpa using hkey), List.map_cons,
      localName, String.toList_ofList, stripAttributes]

/-- Reading the attributes of a tag comes to its first one. -/
theorem readAttributes_cons {naming : Naming} {total : Nat} {seen : List (List Char × Nat)}
    {cs rest afterKey value after : List Char} {c : Char}
    (hname : cs.dropWhile isSpace = c :: rest)
    (hequals : afterEquals total (rest.dropWhile fun d ↦ d ≠ '=' && !isSpace d) = .ok afterKey)
    (hfresh : seen.lookup (c :: rest.takeWhile fun d ↦ d ≠ '=' && !isSpace d) = none)
    (hvalue : readValue total afterKey = .ok (value, after)) :
    let key := c :: rest.takeWhile fun d ↦ d ≠ '=' && !isSpace d
    let more := readAttributes naming total ((key, total - byteLength (c :: rest)) :: seen) after
    readAttributes naming total seen cs =
      if naming.drops key then more
      else
        match expand (.ofList value) with
        | .error fault => .error (.reference fault)
        | .ok value => more.map ((naming.rename key, value) :: ·) := by
  intro key more
  rw [readAttributes]
  split
  · rename_i hnil
    rw [hname] at hnil
    cases hnil
  · rename_i c' rest' hcons
    rw [hname] at hcons
    cases hcons
    dsimp only
    split
    · rename_i hfault
      rw [hequals] at hfault
      cases hfault
    · rename_i hok
      rw [hequals] at hok
      cases hok
      split
      · rename_i hseen
        rw [hfresh] at hseen
        cases hseen
      · split
        · rename_i hfault
          rw [hvalue] at hfault
          cases hfault
        · rename_i hok
          rw [hvalue] at hok
          cases hok
          rfl

/-- Without prefixes the same attributes are read, stripped. -/
theorem readAttributes_plain {total : Nat} {seen : List (List Char × Nat)} {cs : List Char}
    {attributes : List (String × String)}
    (h : readAttributes .qualified total seen cs = .ok attributes) :
    readAttributes .plain total seen cs = .ok (stripAttributes attributes) := by
  fun_induction readAttributes Naming.qualified total seen cs generalizing attributes with
  | case1 seen cs hnil =>
    cases h
    rw [readAttributes]
    split
    · rfl
    · rename_i hcons
      rw [hnil] at hcons
      cases hcons
  | case2 | case3 | case4 | case6 => cases h
  | case5 => contradiction
  | case7 seen cs c rest hname offset key afterKey hequals hfresh raw after hvalue _ _ value
      hexpand =>
    rename_i ih
    obtain ⟨more, hmore, heq⟩ := bind_eq_ok_iff.mp h
    cases heq
    rw [readAttributes_cons hname hequals hfresh hvalue, ih hmore, hexpand]
    change (if declaresNamespace key then _ else _) =
      Except.ok (stripAttributes ((.ofList key, value) :: more))
    rw [stripAttributes_cons]
    split_ifs <;> rfl

theorem readTag_plain {cs : List Char} {name : String} {attributes : List (String × String)}
    (h : readTag .qualified cs = .ok (name, attributes)) :
    readTag .plain cs = .ok (localName name, stripAttributes attributes) := by
  obtain ⟨attributes, hread, htag⟩ := bind_eq_ok_iff.mp h
  cases htag
  refine bind_eq_ok_iff.mpr ⟨_, readAttributes_plain hread, ?_⟩
  rw [Naming.rename, Naming.rename, localName, String.toList_ofList]
  rfl

theorem readOpening_plain {opened opened' : List String} {content : List Char} {e : Event}
    (h : readOpening .qualified opened content = .ok (e, opened')) :
    readOpening .plain opened content = .ok (e.relabel stripping, opened') := by
  unfold readOpening at h ⊢
  split_ifs at h ⊢
  · split at h
    · rename_i hread
      cases h
      rw [readTag_plain hread]
      rfl
    · cases h
  · split at h
    · rename_i hread
      cases h
      rw [readTag_plain hread]
      rfl
    · cases h

theorem return_relabel {α : Type} {x : Except Fault α}
    {f g : α → Event × List String × List Char}
    (hfg : ∀ a, g a = ((f a).1.relabel stripping, (f a).2)) {m : Event × List String × List Char}
    (h : (do return f (← x)) = .ok m) :
    (do return g (← x)) = Except.ok (m.1.relabel stripping, m.2) := by
  obtain ⟨a, hx, hm⟩ := bind_eq_ok_iff.mp h
  cases hm
  exact bind_eq_ok_iff.mpr ⟨a, hx, congrArg Except.ok (hfg a)⟩

/-- Only opening tags are read under the naming. -/
theorem readMarkup_plain {opened opened' : List String} {cs rest : List Char} {e : Event}
    (h : readMarkup .qualified opened cs = .ok (e, opened', rest)) :
    readMarkup .plain opened cs = .ok (e.relabel stripping, opened', rest) := by
  unfold readMarkup at h ⊢
  split at h
  · exact return_relabel (fun _ ↦ rfl) h
  · exact return_relabel (fun _ ↦ rfl) h
  · exact return_relabel (fun _ ↦ rfl) h
  · exact return_relabel (fun _ ↦ rfl) h
  · cases h
  · exact return_relabel (fun _ ↦ rfl) h
  · split at h
    · cases h
    · exact return_relabel (fun _ ↦ rfl) h
    · obtain ⟨⟨event, after⟩, hread, heq⟩ := bind_eq_ok_iff.mp h
      cases heq
      exact bind_eq_ok_iff.mpr ⟨_, readOpening_plain hread, rfl⟩

/-! ### Whole texts -/

theorem readEvents_markup {naming : Naming} {opened opened' : List String} {rest after : List Char}
    {e : Event} (h : readMarkup naming opened rest = .ok (e, opened', after)) :
    readEvents naming opened ('<' :: rest) =
      (e :: (readEvents naming opened' after).1, (readEvents naming opened' after).2) := by
  rw [readEvents]
  split
  · rename_i hfault
    rw [h] at hfault
    cases hfault
  · rename_i hok
    rw [h] at hok
    cases hok
    rfl

theorem readEvents_text (naming : Naming) (opened : List String) {c : Char} {cs : List Char}
    {content : String} (hc : c ≠ '<')
    (h : expand (.ofList (c :: cs.takeWhile isTextChar)) = .ok content) :
    readEvents naming opened (c :: cs) =
      (.text content :: (readEvents naming opened (cs.dropWhile isTextChar)).1,
        (readEvents naming opened (cs.dropWhile isTextChar)).2) := by
  rw [readEvents, h]
  exact hc

/-- The run: without prefixes the same events are read, relabelled. -/
theorem readEvents_plain {opened : List String} {cs : List Char} {es : List Event}
    (h : readEvents .qualified opened cs = (es, none)) :
    readEvents .plain opened cs = (es.map (Event.relabel stripping), none) := by
  fun_induction readEvents Naming.qualified opened cs generalizing es with
  | case1 opened =>
    cases h
    rw [readEvents]
    rfl
  | case2 => cases h
  | case3 opened rest e opened' after hmarkup _ events fault hevents =>
    rename_i ih
    obtain ⟨rfl, rfl⟩ := Prod.mk.inj h
    rw [readEvents_markup (readMarkup_plain hmarkup), ih hevents]
    rfl
  | case4 => cases h
  | case5 opened c cs hc content hexpand _ events fault hevents =>
    rename_i ih
    obtain ⟨rfl, rfl⟩ := Prod.mk.inj h
    rw [readEvents_text .plain opened hc hexpand, ih hevents]
    rfl

theorem events_plain {text : String} {es : List Event} (h : events .qualified text = (es, none)) :
    events .plain text = (es.map (Event.relabel stripping), none) := by
  unfold events at h ⊢
  split at h
  · exact readEvents_plain h
  · exact readEvents_plain h

/-- A text that is a document is one without prefixes too. -/
theorem parse_plain {text : String} {t : Tree} (h : Xml.parse .qualified text = .ok t) :
    Xml.parse .plain text = .ok (t.relabel stripping) := by
  obtain ⟨es, hevents, hes⟩ := parse_eq_ok_iff.mp h
  exact parse_eq_ok_iff.mpr ⟨_, events_plain hevents, Tree.ofEvents_relabel hes⟩

end Xml

/-- The node corresponds to the other one and has no prefixes in its name and in the names of its
attributes, nor any of the attributes that declare prefixes. -/
structure Node.IsStripped (n n' : Node) : Prop extends Node.Corresponds n n' where
  name : n.isElement = true → Xml.LocalName n.name n'.name
  attributes : n.isElement = true →
    List.Forall₂ (fun kept stripped ↦ Xml.LocalName kept.1 stripped.1 ∧ stripped.2 = kept.2)
      (n.attributes.filter fun a ↦ ¬ Xml.DeclaresNamespace a.1) n'.attributes

/-- An XML text that is a document with its prefixes kept is one with the prefixes taken off, and
this has the same nodes: they stand at the same places, with the same parents, children, kinds and
texts. Names of elements and of attributes are the local parts of what they were, and only the
attributes that declare prefixes are gone. -/
theorem Document.parse_plain_of_qualified {text : String} {d : Document}
    (h : parse .xml .qualified text = .ok d) :
    ∃ d', parse .xml .plain text = .ok d' ∧ d'.places.size = d.places.size ∧
      ∀ n n' : Node, n.document = d → n'.document = d' → n.index = n'.index → n.IsStripped n' := by
  obtain ⟨t, ht, rfl⟩ : ∃ t, Xml.parse .qualified text = .ok t ∧ ofTree t = d := by
    change (Xml.parse .qualified text).map ofTree = .ok d at h
    cases ht : Xml.parse .qualified text with
    | error fault =>
      rw [ht] at h
      cases h
    | ok t =>
      rw [ht] at h
      exact ⟨t, rfl, Except.ok.inj h⟩
  have htree : (ofTree (t.relabel Xml.stripping)).tree =
      (ofTree t).tree.relabel Xml.stripping := rfl
  refine ⟨ofTree (t.relabel Xml.stripping), ?_, size_places_of_relabel htree, ?_⟩
  · change (Xml.parse .plain text).map ofTree = _
    rw [Xml.parse_plain ht]
    rfl
  · intro n n' hn hn' hindex
    rw [← hn, ← hn'] at htree
    have hsubtree := Node.tree_of_relabel htree hindex
    refine { Node.corresponds_of_relabel htree hindex with name := ?_, attributes := ?_ }
    · intro helement
      rw [Node.name, Node.name, hsubtree, Tree.name_relabel _ helement]
      exact Xml.localName_spec n.tree.name
    · intro helement
      rw [Node.attributes, Node.attributes, hsubtree, Tree.attributes_relabel _ helement]
      refine List.forall₂_map_right_iff.mpr (List.forall₂_same.mpr fun a _ ↦ ?_)
      exact ⟨Xml.localName_spec a.1, rfl⟩

theorem Document.parse_plain_of_qualified_album :
    let text := "<a:album xmlns:a='x' a:id='1' b='&lt;'><a:b:disc/>Zoot</a:album>"
    let kept : Tree := .document [.element "a:album" [("xmlns:a", "x"), ("a:id", "1"), ("b", "<")]
      [.element "a:b:disc" [] [], .text "Zoot"]]
    let stripped : Tree := .document [.element "album" [("id", "1"), ("b", "<")]
      [.element "b:disc" [] [], .text "Zoot"]]
    parse .xml .qualified text = .ok (ofTree kept) ∧
      parse .xml .plain text = .ok (ofTree stripped) ∧
      ∀ n n' : Node, n.document = ofTree kept → n'.document = ofTree stripped →
        n.index = n'.index → n.IsStripped n' := by
  intro text kept stripped
  have hkept : parse .xml .qualified text = .ok (ofTree kept) := by
    change (Xml.parse .qualified text).map ofTree = _
    rw [Xml.parse_eq_ok_iff.mpr ⟨[.start "a:album" [("xmlns:a", "x"), ("a:id", "1"), ("b", "<")],
      .empty "a:b:disc" [], .text "Zoot", .close], by decide +kernel, rfl⟩]
    rfl
  have hstripped : parse .xml .plain text = .ok (ofTree stripped) := by
    change (Xml.parse .plain text).map ofTree = _
    rw [Xml.parse_eq_ok_iff.mpr ⟨[.start "album" [("id", "1"), ("b", "<")], .empty "b:disc" [],
      .text "Zoot", .close], by decide +kernel, rfl⟩]
    rfl
  obtain ⟨d', hplain, -, hnodes⟩ := parse_plain_of_qualified hkept
  obtain rfl : ofTree stripped = d' := Except.ok.inj (hstripped.symm.trans hplain)
  exact ⟨hkept, hstripped, hnodes⟩

end MarkupRecords
