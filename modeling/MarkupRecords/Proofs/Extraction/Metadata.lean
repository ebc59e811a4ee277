import MarkupRecords.Proofs.Extraction.Entries
import MarkupRecords.Proofs.Extraction.Throughout
import MarkupRecords.Proofs.Extraction.Trace

/-!
Where the metadata of containers is to be seen. A container says what file and what node it comes
from (`Container.origin`). A container has a node only while it is being made: the hook still gets
it, with nothing inside that has one, and then the node is forgotten. So no container that is
returned has a node, nor does any container in it (`Specification.metadata_of_returns`). The file is
that of the whole extraction, also below entries of kind `many`, but its path goes under the key for
it only in the own passes of the outermost specification and of those that it extends.

Hooks and transforms may spoil this. They must leave the origin of what they are given alone and
make no containers with nodes (`Specification.KeepsMetadata`).
-/

set_option autoImplicit false
set_option relaxedAutoImplicit false

namespace MarkupRecords

namespace Container

/-! ### Where a container comes from -/

/-- The path of the file and the node that a container comes from. -/
def origin (c : Container) : Option String × Option Node := (c.sourcePath, c.sourceNode)

/-- The container does not say what node it comes from. -/
def Detached (c : Container) : Prop := c.sourceNode = none

theorem lasting_detached : Lasting Detached where
  empty := rfl
  insert _ _ _ hc := hc
  erase _ _ hc := hc

theorem origin_insertPath (c : Container) (path : List String) (value : Value) :
    (c.insertPath path value).origin = c.origin := by
  cases path with
  | nil => rfl
  | cons key path =>
    obtain ⟨v, hv⟩ := exists_insertPath_eq_insert c key path value
    rw [hv]
    rfl

theorem origin_fill (c : Container) (items : List (List String × Value)) :
    (c.fill items).origin = c.origin :=
  List.foldlRecOn (motive := fun d : Container ↦ d.origin = c.origin) items _ rfl
    fun d hd item _ ↦ (d.origin_insertPath item.1 item.2).trans hd

theorem origin_merge (c other : Container) : (c.merge other).origin = c.origin :=
  List.foldlRecOn (motive := fun d : Container ↦ d.origin = c.origin) other.entries _ rfl
    fun _ hd _ _ ↦ hd

end Container

theorem Source.origin_record (s : Source) (c : Container) : (s.record c).origin = c.origin := by
  rw [record]
  split <;> rfl

theorem Source.origin_forget (s : Source) (c : Container) : (s.forget c).origin = c.origin := by
  rw [forget]
  split <;> rfl

/-! ### Hooks and transforms -/

/-- The hook does not change where a container comes from, and from a container in which none has a
node it makes one in which none has a node. -/
structure Hook.KeepsMetadata (hook : Hook) : Prop where
  origin : ∀ c : Container, (hook c).origin = c.origin
  holds : ∀ c : Container, c.Holds Container.Detached → (hook c).Holds Container.Detached

/-- The hook and the transforms of the specification itself leave metadata alone. -/
structure Specification.KeepsMetadata (spec : Specification) : Prop where
  hook : ∀ hook, spec.hook? = some hook → hook.KeepsMetadata
  transforms : spec.transforms.Keeps Container.Detached

theorem Specification.KeepsMetadata.keeps {spec : Specification} (h : spec.KeepsMetadata) :
    spec.Keeps Container.Detached where
  transforms := h.transforms
  ownPass outer source n hvalues := by
    have hheld : (Application.mk spec outer source n).given.Holds Container.Detached :=
      Specification.holds_record_fill Container.lasting_detached hvalues
    refine Container.throughout_iff.mpr ⟨rfl, ?_⟩
    rw [Application.ownPass_eq ⟨spec, outer, source, n⟩]
    cases hhook : spec.hook? with
    | none => exact hheld
    | some hook => exact (h.hook hook hhook).holds _ hheld

namespace Application

/-! ### Own passes -/

theorem origin_given (a : Application) : a.given.origin = (a.source.path, some a.node) := by
  rw [given, filled, Source.origin_record, Container.origin_fill]
  rfl

/-- An own pass yields a container that comes from the file, and from no node. -/
theorem origin_ownPass {a : Application} (h : a.spec.KeepsMetadata) :
    (a.spec.ownPass a.outer a.source a.node).origin = (a.source.path, none) := by
  have horigin : (a.spec.hook?.elim a.given fun hook ↦ hook a.given).origin = a.given.origin := by
    cases hhook : a.spec.hook? with
    | none => rfl
    | some hook => exact (h.hook hook hhook).origin a.given
  have hpath := congrArg Prod.fst (horigin.trans a.origin_given)
  exact Prod.ext hpath rfl

/-- So does an application: what is merged into the inherited container does not change where that
comes from. -/
theorem origin_result {a : Application} (h : a.spec.Everywhere Specification.KeepsMetadata) :
    a.result.origin = (a.source.path, none) := by
  obtain ⟨spec, outer, source, n⟩ := a
  induction spec using Specification.lineage_induction with
  | base spec hparent =>
    rw [result, Specification.extractIn_of_parent?_eq_none outer source n hparent]
    exact origin_ownPass (a := ⟨spec, outer, source, n⟩) (Specification.everywhere_iff.mp h).1
  | derived spec parent hparent ih =>
    rw [result, Specification.extractIn_of_parent?_eq_some outer source n hparent,
      Container.origin_merge, Source.origin_forget]
    exact ih ((Specification.everywhere_iff.mp h).2.2 parent hparent)

/-! ### What is nested -/

variable {a b : Application} {p : Container → Prop}

/-- Below an entry of kind `many` the file is the same and there is no key for its path. -/
theorem source_of_reflTransGen (hab : Relation.ReflTransGen Nests a b) :
    b.source.path = a.source.path ∧ (b = a ∨ b.source.key = none) := by
  induction hab with
  | refl => exact ⟨rfl, .inl rfl⟩
  | tail _ hbc ih =>
    obtain ⟨s, -, e, -, -, hc⟩ := hbc
    obtain ⟨-, -, hsource, -⟩ := mem_items_iff.mp hc
    rw [hsource]
    exact ⟨ih.1, .inr rfl⟩

theorem outer_of_reflTransGen (hab : Relation.ReflTransGen Nests a b)
    (h : a.spec.Everywhere (Specification.Keeps p)) (houter : ∀ t ∈ a.outer, t.Keeps p) :
    ∀ t ∈ b.outer, t.Keeps p := by
  induction hab with
  | refl => exact houter
  | tail hab hbc ih =>
    obtain ⟨s, hs, e, -, -, hc⟩ := hbc
    have hkeeps := (everywhere_of_reflTransGen hab h).lineage s hs
    rw [(mem_items_iff.mp hc).2.1]
    exact List.forall_mem_cons.mpr ⟨(Specification.everywhere_iff.mp hkeeps).1.transforms, ih⟩

/-- What the parent of a specification makes of its entries belongs to the specification. -/
theorem Nests.of_parent {parent : Specification} (hparent : a.spec.parent? = some parent)
    (hab : Nests { a with spec := parent } b) : a.Nests b := by
  obtain ⟨s, hs, e, he, hkind, hb⟩ := hab
  refine ⟨s, ?_, e, he, hkind, hb⟩
  rw [Specification.lineage_of_parent?_eq_some hparent]
  exact List.mem_append_left _ hs

/-- A walk leads to a specification that is extended where items of entries of kind `many` lead. -/
theorem Calls.exists_reflTransGen {way : List Turn} {enclosing : List Specification}
    (h : Calls way a enclosing b) :
    ∃ c, Relation.ReflTransGen Nests a c ∧ ∃ s ∈ c.spec.lineage, b = { c with spec := s } := by
  induction h with
  | refl a => exact ⟨a, .refl, a.spec, a.spec.mem_lineage_self, rfl⟩
  | @parent way a b enclosing parent hparent _ ih =>
    obtain ⟨c, hac, s, hs, rfl⟩ := ih
    rcases hac.cases_head with rfl | ⟨d, had, hdc⟩
    · refine ⟨a, .refl, s, ?_, rfl⟩
      rw [Specification.lineage_of_parent?_eq_some hparent]
      exact List.mem_append_left _ hs
    · exact ⟨c, .head (had.of_parent hparent) hdc, s, hs, rfl⟩
  | @nested way a b enclosing i e nested m he hkind hnested hm _ ih =>
    obtain ⟨c, hac, s, hs, rfl⟩ := ih
    refine ⟨c, .head ⟨a.spec, a.spec.mem_lineage_self, e, List.mem_of_getElem? he, hkind, ?_⟩ hac,
      s, hs, rfl⟩
    exact mem_items_iff.mpr ⟨hnested, rfl, rfl, hm⟩

/-- The own passes in the course of an application are those of the items of entries of kind `many`
and of what their specifications extend. -/
theorem exists_of_mem_passes {q : OwnPass} (hq : q ∈ a.passes) :
    ∃ b, Relation.ReflTransGen Nests a b ∧ ∃ s ∈ b.spec.lineage, q = pass { b with spec := s } := by
  obtain ⟨way, enclosing, b', hcalls, rfl⟩ := mem_passes_iff.mp hq
  obtain ⟨b, hb, s, hs, rfl⟩ := hcalls.exists_reflTransGen
  exact ⟨b, hb, s, hs, rfl⟩

/-- All items come from the file. -/
theorem sourcePath_result (hab : Relation.ReflTransGen Nests a b)
    (h : a.spec.Everywhere Specification.KeepsMetadata) :
    b.result.sourcePath = a.source.path := by
  have horigin := origin_result (everywhere_of_reflTransGen hab h)
  rw [(source_of_reflTransGen hab).1] at horigin
  exact congrArg Prod.fst horigin

/-- What is given to the hook holds the property if all specifications that are applied keep it. -/
theorem holds_given (hp : Container.Lasting p) (h : a.spec.Everywhere (Specification.Keeps p))
    (houter : ∀ t ∈ a.outer, t.Keeps p) : a.given.Holds p := by
  obtain ⟨hkeeps, hnested, -⟩ := Specification.everywhere_iff.mp h
  have htables : ∀ t ∈ a.spec.transforms :: a.outer, t.Keeps p :=
    List.forall_mem_cons.mpr ⟨hkeeps.transforms, houter⟩
  exact Specification.holds_record_fill hp fun e he ↦ e.throughout_value htables
    (fun nested hgiven m ↦ Specification.throughout_extractIn hp (hnested e he nested hgiven)
      htables a.source.nested m) a.spec.mode a.node

end Application

namespace Specification

/-! ### What is returned -/

/-- A way to extract returns the container, for a source and a node that it starts from. -/
inductive Returns (spec : Specification) : Source → Node → Container → Prop
  | node (n : Node) : Returns spec .none n (spec.extract n)
  | document (d : Document) : Returns spec .none d.root (spec.extractDocument d)
  | all {ns : List Node} {i : Nat} {n : Node} {c : Container} (hn : ns[i]? = some n)
    (hc : (spec.extractAll ns)[i]? = some c) : Returns spec .none n c
  | text {config : Config} {text : String} {d : Document} {c : Container}
    (hd : config.parse text = .ok d) (hc : spec.extractText config text = .ok c) :
    Returns spec .none d.root c
  | file {config : Config} {path text : String} {d : Document} {c : Container}
    (hd : config.parse text = .ok d) (hc : spec.extractFile config path (.ok text) = .ok c) :
    Returns spec ⟨some path, config.sourcePathKey⟩ d.root c

theorem Returns.eq_extractIn {spec : Specification} {source : Source} {n : Node} {c : Container}
    (h : spec.Returns source n c) : c = spec.extractIn [] source n := by
  cases h with
  | node => rfl
  | document => rfl
  | all hn hc =>
    rw [extractAll, List.getElem?_map, hn] at hc
    exact (Option.some.inj hc).symm
  | text hd hc =>
    rw [extractText, hd] at hc
    exact (Except.ok.inj hc).symm
  | file hd hc =>
    rw [extractFile, hd] at hc
    exact (Except.ok.inj hc).symm

/-- Hooks see the metadata, and nobody else does. Recording the own passes makes no difference to
what is returned. Whatever a hook gets comes from the node that is extracted, which below an entry
of kind `many` is the match, and from the file that the extraction started from; it holds no
container that comes from a node. Below an entry of kind `many` it is what the entries have filled
in, without a key for the path. What is returned comes from the file, and from no node, nor does
anything in it. All items of entries of kind `many` come from the file; if there are no hooks, they
are found where their entries put them. -/
theorem metadata_of_returns {spec : Specification} (h : spec.Everywhere KeepsMetadata)
    {source : Source} {n : Node} {c : Container} (hc : spec.Returns source n c) :
    let root : Application := ⟨spec, [], source, n⟩
    (spec.extractTraced [] source n).1 = c ∧
    (∀ q ∈ (spec.extractTraced [] source n).2,
      ∃ b, Relation.ReflTransGen Application.Nests root b ∧ ∃ s ∈ b.spec.lineage,
        q = Application.pass { b with spec := s } ∧ q.given.sourceNode = some b.node ∧
        q.given.sourcePath = source.path ∧ q.given.Holds Container.Detached ∧
        (b = root ∨ q.given = q.filled)) ∧
    c.Throughout Container.Detached ∧ c.sourcePath = source.path ∧
    ∀ a, Relation.ReflTransGen Application.Nests root a →
      ∀ s ∈ a.spec.lineage, ∀ e ∈ s.entries, e.kind = .many →
        let items := a.items s e
        e.value s.mode (s.transforms :: a.outer) a.source a.node =
          .list (items.map fun b ↦ .map b.result) ∧
        (∀ b ∈ items, b.result.sourcePath = source.path) ∧
        (spec.HookFree → a.spec.Retains a.source s e →
          a.result.getPath? e.key.segments = some (.list (items.map fun b ↦ .map b.result))) := by
  intro root
  obtain rfl := hc.eq_extractIn
  have hkeeps : spec.Everywhere (Keeps Container.Detached) := h.imp fun _ hspec ↦ hspec.keeps
  have hnone : ∀ t ∈ root.outer, t.Keeps Container.Detached := List.forall_mem_nil _
  refine ⟨extractTraced_fst spec [] source n, fun q hq ↦ ?_,
    throughout_extractIn Container.lasting_detached hkeeps hnone source n,
    Application.sourcePath_result (a := root) .refl h, fun a ha s hs e he hkind ↦ ?_⟩
  · obtain ⟨b, hb, s, hs, rfl⟩ := Application.exists_of_mem_passes (a := root) hq
    obtain ⟨hpath, hplace⟩ := Application.source_of_reflTransGen hb
    have hgiven := Application.origin_given { b with spec := s }
    refine ⟨b, hb, s, hs, rfl, congrArg Prod.snd hgiven, (congrArg Prod.fst hgiven).trans hpath, ?_,
      hplace.imp_right fun hkey ↦ Source.record_of_key_eq_none hkey _⟩
    have hspec := (Application.everywhere_of_reflTransGen hb hkeeps).lineage s hs
    have houter := Application.outer_of_reflTransGen hb hkeeps hnone
    exact Application.holds_given Container.lasting_detached hspec houter
  · have hvalue := a.value_eq_items s hkind
    refine ⟨hvalue, fun b hb ↦ ?_, fun hfree hretains ↦ ?_⟩
    · exact Application.sourcePath_result (ha.tail ⟨s, hs, e, he, hkind, hb⟩) h
    · have hhooks : ∀ s ∈ a.spec.lineage, s.hook? = none := fun s hs ↦
        (HookFree.lineage (Application.everywhere_of_reflTransGen ha hfree) s hs).hook
      rw [← hvalue]
      exact getPath?_extractIn_of_retains hhooks hretains a.outer a.node

theorem metadata_of_returns_album :
    let here : Selector := ⟨"", ⟨false, false, []⟩⟩
    let track : Selector := ⟨"track", ⟨false, true, [⟨.child, .name "track", []⟩]⟩⟩
    let copy : Hook := fun c ↦ c.insert "path" (.ofText? c.sourcePath)
    let nested : Specification :=
      ⟨[⟨.innerText, here, ⟨["title"]⟩, { }, none⟩], some copy, .search, none, .empty⟩
    let base : Specification :=
      ⟨[⟨.nodeName, here, ⟨["name"]⟩, { }, none⟩], none, .search, none, .empty⟩
    let many : Entry := ⟨.many, track, ⟨["tracks"]⟩, { }, some nested⟩
    let first : Entry := ⟨.text, track, ⟨["first"]⟩, ⟨["boxed"], none⟩, none⟩
    let table := TransformTable.empty.register "boxed" fun v ↦ .list [v]
    let spec : Specification := ⟨[many, first], some copy, .search, some base, table⟩
    let text := "<album><track>Brooklyn</track></album>"
    spec.Everywhere KeepsMetadata ∧ ∃ d c, Config.default.parse text = .ok d ∧
      spec.extractFile .default "album.xml" (.ok text) = .ok c ∧
      c.get? "path" = some (.text "album.xml") ∧
      c.sourcePath = some "album.xml" ∧ c.Throughout Container.Detached ∧
      let passes := (spec.extractTraced [] ⟨some "album.xml", some "xml_path"⟩ d.root).2
      passes.map (fun q ↦ (q.app.node.name, q.given.keys)) =
        [("document", ["name", "xml_path"]), ("track", ["title"]),
          ("document", ["tracks", "first", "xml_path"])] ∧
      ∀ q ∈ passes, q.given.sourcePath = some "album.xml" ∧
        q.given.Holds Container.Detached := by
  intro here track copy nested base many first table spec text
  have hcopy : copy.KeepsMetadata := by
    refine ⟨fun _ ↦ rfl, fun c hc ↦ hc.insert "path" ?_⟩
    cases c.sourcePath <;> trivial
  have hboxed : table.Keeps Container.Detached := by
    intro name f hf v hv
    rw [TransformTable.get?_register] at hf
    split at hf
    · cases hf
      exact Value.throughout_list_iff.mpr (List.forall_mem_singleton.mpr hv)
    · cases hf
  have hempty : TransformTable.empty.Keeps Container.Detached := by
    intro name f hf
    cases hf
  have hbase : base.KeepsMetadata := ⟨fun _ hhook ↦ (by cases hhook), hempty⟩
  have hnested : nested.KeepsMetadata := ⟨fun _ hhook ↦ Option.some.inj hhook ▸ hcopy, hempty⟩
  have hown : spec.KeepsMetadata := ⟨fun _ hhook ↦ Option.some.inj hhook ▸ hcopy, hboxed⟩
  have hspec : spec.Everywhere KeepsMetadata :=
    ⟨hown, ⟨⟨hnested, ⟨trivial, trivial⟩, trivial⟩, trivial, trivial⟩, hbase, ⟨trivial, trivial⟩,
      trivial⟩
  have hevents : Xml.events .plain text = ([.start "album" [], .start "track" [],
      .text "Brooklyn", .close, .close], none) := by decide +kernel
  let tree : Tree := .document [.element "album" [] [.element "track" [] [.text "Brooklyn"]]]
  have hparse : Config.default.parse text = .ok (.ofTree tree) := by
    change Document.parse .auto .plain text = _
    rw [Document.parse, if_neg (by decide +kernel), Xml.parse, hevents]
    rfl
  have hfile : spec.extractFile .default "album.xml" (.ok text) =
      .ok (spec.extractIn [] ⟨some "album.xml", some "xml_path"⟩ (Document.ofTree tree).root) := by
    rw [extractFile, hparse]
    rfl
  obtain ⟨-, hpasses, hdetached, hpath, -⟩ := metadata_of_returns hspec (.file hparse hfile)
  refine ⟨hspec, _, _, hparse, hfile, ?_, hpath, hdetached, ?_, fun q hq ↦ ?_⟩
  · rfl
  · decide +kernel
  · obtain ⟨b, -, s, -, -, -, hgiven, hholds, -⟩ := hpasses q hq
    exact ⟨hgiven, hholds⟩

end Specification

end MarkupRecords
