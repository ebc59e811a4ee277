import MarkupRecords.Proofs.Extraction.Lexical

/-!
Extraction with a record of what happens. `Specification.extractTraced` does what
`Specification.extractIn` does and keeps, for every own pass, the container that the entries have
filled and the one that the hook gets. It gives the same container
(`Specification.extractTraced_fst`), and its record is that of the applications which are called in
the course of the extraction, each with its own pass (`Application.mem_passes_iff`).
-/

set_option autoImplicit false
set_option relaxedAutoImplicit false

namespace MarkupRecords

/-- An own pass in the course of an extraction: what the entries have filled in, and what is given
to the hook, if there is one. -/
structure OwnPass where
  app : Application
  filled : Container
  given : Container

mutual

/-- Applies a specification, and records the own passes: those of the parent, those of the items of
entries of kind `many`, and at last its own. -/
def Specification.extractTraced (spec : Specification) (outer : List TransformTable)
    (source : Source) (n : Node) : Container × List OwnPass :=
  match spec with
  | ⟨entries, hook, mode, parent, transforms⟩ =>
    let filled := Entry.fillAllTraced entries mode (transforms :: outer) source n
      (Container.ofSource source.path (some n))
    let given := source.record filled.1
    let edited := hook.elim given fun hook ↦ hook given
    let merged :=
      Specification.mergeOverTraced parent outer source n { edited with sourceNode := none }
    let app : Application := ⟨⟨entries, hook, mode, parent, transforms⟩, outer, source, n⟩
    (merged.1, merged.2 ++ filled.2 ++ [⟨app, filled.1, given⟩])

/-- Merges a container over what the parent gives, if there is one. -/
def Specification.mergeOverTraced (parent : Option Specification) (outer : List TransformTable)
    (source : Source) (n : Node) (own : Container) : Container × List OwnPass :=
  match parent with
  | none => (own, [])
  | some parent =>
    let inherited := parent.extractTraced outer source n
    ((source.forget inherited.1).merge own, inherited.2)

/-- Puts the values of entries into a container, from first to last. -/
def Entry.fillAllTraced (entries : List Entry) (mode : Selector.Mode)
    (tables : List TransformTable) (source : Source) (n : Node) (c : Container) :
    Container × List OwnPass :=
  match entries with
  | [] => (c, [])
  | ⟨kind, selector, key, options, nested⟩ :: rest =>
    let items := Specification.extractEachTraced nested tables source.nested
      (selector.select mode n)
    let value := if kind = .many then .list items.1
      else Entry.scalarValue kind selector options tables n
    let filled := Entry.fillAllTraced rest mode tables source n (c.insertPath key.segments value)
    (filled.1, (if kind = .many then items.2 else []) ++ filled.2)

/-- Applies a nested specification to each of the matches. -/
def Specification.extractEachTraced (nested : Option Specification) (tables : List TransformTable)
    (source : Source) (ms : List Node) : List Value × List OwnPass :=
  match nested with
  | none => ([], [])
  | some nested =>
    let items := ms.map fun m ↦ nested.extractTraced tables source m
    (items.map fun item ↦ .map item.1, items.flatMap (·.2))

end

/-! ### The container -/

mutual

/-- Recording makes no difference to what is extracted. -/
theorem Specification.extractTraced_fst : ∀ (spec : Specification) (outer : List TransformTable)
    (source : Source) (n : Node),
    (spec.extractTraced outer source n).1 = spec.extractIn outer source n
  | ⟨entries, hook, mode, parent, transforms⟩, outer, source, n => by
    unfold Specification.extractTraced Specification.extractIn
    dsimp only
    rw [Entry.fillAllTraced_fst entries, Specification.mergeOverTraced_fst parent]
    cases hook <;> rfl

theorem Specification.mergeOverTraced_fst : ∀ (parent : Option Specification)
    (outer : List TransformTable) (source : Source) (n : Node) (own : Container),
    (Specification.mergeOverTraced parent outer source n own).1 =
      Specification.mergeOver parent outer source n own
  | none, _, _, _, _ => rfl
  | some parent, outer, source, n, own => by
    rw [Specification.mergeOverTraced, Specification.mergeOver,
      Specification.extractTraced_fst parent]

theorem Entry.fillAllTraced_fst : ∀ (entries : List Entry) (mode : Selector.Mode)
    (tables : List TransformTable) (source : Source) (n : Node) (c : Container),
    (Entry.fillAllTraced entries mode tables source n c).1 =
      Entry.fillAll entries mode tables source n c
  | [], _, _, _, _, _ => rfl
  | ⟨kind, selector, key, options, nested⟩ :: rest, mode, tables, source, n, c => by
    rw [Entry.fillAllTraced, Entry.fillAll]
    dsimp only
    rw [Entry.fillAllTraced_fst rest, Specification.extractEachTraced_fst nested]

theorem Specification.extractEachTraced_fst : ∀ (nested : Option Specification)
    (tables : List TransformTable) (source : Source) (ms : List Node),
    (Specification.extractEachTraced nested tables source ms).1 =
      Specification.extractEach nested tables source ms
  | none, _, _, _ => rfl
  | some nested, tables, source, ms => by
    rw [Specification.extractEachTraced, Specification.extractEach, List.map_map]
    exact List.map_congr_left fun m _ ↦
      congrArg Value.map (nested.extractTraced_fst tables source m)

end

/-! ### The record -/

/-- The own passes on the items that an entry of kind `many` extracts. -/
def Entry.passes (e : Entry) (mode : Selector.Mode) (tables : List TransformTable)
    (source : Source) (n : Node) : List OwnPass :=
  if e.kind = .many then
    (Specification.extractEachTraced e.nested? tables source.nested (e.selector.select mode n)).2
  else []

theorem Entry.fillAllTraced_snd (entries : List Entry) (mode : Selector.Mode)
    (tables : List TransformTable) (source : Source) (n : Node) (c : Container) :
    (Entry.fillAllTraced entries mode tables source n c).2 =
      entries.flatMap fun e ↦ e.passes mode tables source n := by
  induction entries generalizing c with
  | nil => rfl
  | cons e rest ih =>
    obtain ⟨kind, selector, key, options, nested⟩ := e
    rw [fillAllTraced, List.flatMap_cons]
    dsimp only
    rw [ih]
    rfl

theorem Entry.mem_passes_iff {e : Entry} {mode : Selector.Mode} {tables : List TransformTable}
    {source : Source} {n : Node} {q : OwnPass} :
    q ∈ e.passes mode tables source n ↔ e.kind = .many ∧ ∃ nested, e.nested? = some nested ∧
      ∃ m ∈ e.selector.select mode n, q ∈ (nested.extractTraced tables source.nested m).2 := by
  rw [passes]
  by_cases hkind : e.kind = .many
  · rw [if_pos hkind]
    cases hnested : e.nested? with
    | none => simp [Specification.extractEachTraced]
    | some nested => simp [Specification.extractEachTraced, hkind]
  · rw [if_neg hkind]
    simp [hkind]

namespace Application

/-- What the entries fill in. -/
def filled (a : Application) : Container :=
  (Container.ofSource a.source.path (some a.node)).fill <|
    a.spec.entries.map fun e ↦ e.item a.spec.mode (a.spec.transforms :: a.outer) a.source a.node

/-- What is given to the hook: what the entries fill in, and the path of the file if it is asked
for. -/
def given (a : Application) : Container := a.source.record a.filled

/-- The application's own pass, without what is inherited. -/
def pass (a : Application) : OwnPass := ⟨a, a.filled, a.given⟩

/-- The own passes in the course of the application. -/
def passes (a : Application) : List OwnPass :=
  (a.spec.extractTraced a.outer a.source a.node).2

/-- An own pass lets the hook edit what is given to it, and forgets the node. -/
theorem ownPass_eq (a : Application) :
    a.spec.ownPass a.outer a.source a.node =
      { a.spec.hook?.elim a.given (fun hook ↦ hook a.given) with sourceNode := none } := rfl

/-- The record is that of the parent, then that of the entries' items, and at last the own pass. -/
theorem passes_eq (a : Application) :
    a.passes = (Specification.mergeOverTraced a.spec.parent? a.outer a.source a.node
        (a.spec.ownPass a.outer a.source a.node)).2 ++
      (a.spec.entries.flatMap fun e ↦
        e.passes a.spec.mode (a.spec.transforms :: a.outer) a.source a.node) ++ [a.pass] := by
  obtain ⟨⟨entries, hook, mode, parent, transforms⟩, outer, source, n⟩ := a
  change
    (Specification.extractTraced ⟨entries, hook, mode, parent, transforms⟩ outer source n).2 = _
  unfold Specification.extractTraced
  dsimp only
  rw [Entry.fillAllTraced_snd, Entry.fillAllTraced_fst, Entry.fillAll_eq_fill]
  cases parent <;> rfl

/-- The own passes in the course of an application are those of the applications that it calls. -/
theorem mem_passes_iff {a : Application} {q : OwnPass} :
    q ∈ a.passes ↔ ∃ way enclosing b, Calls way a enclosing b ∧ q = b.pass := by
  obtain ⟨spec, outer, source, n⟩ := a
  induction spec using Specification.induction generalizing outer source n with
  | step spec ihNested ihParent =>
    rw [passes_eq, List.mem_append, List.mem_append, List.mem_singleton, List.mem_flatMap]
    constructor
    · rintro ((hq | ⟨e, he, hq⟩) | rfl)
      · cases hparent : spec.parent? with
        | none =>
          rw [hparent] at hq
          cases hq
        | some parent =>
          rw [hparent] at hq
          obtain ⟨way, enclosing, b, hb, rfl⟩ := (ihParent parent hparent outer source n).mp hq
          exact ⟨_, _, b, .parent hparent hb, rfl⟩
      · obtain ⟨hkind, nested, hnested, m, hm, hq⟩ := Entry.mem_passes_iff.mp hq
        obtain ⟨way, enclosing, b, hb, rfl⟩ := (ihNested e he nested hnested _ _ m).mp hq
        obtain ⟨i, hi⟩ := List.mem_iff_getElem?.mp he
        exact ⟨_, _, b, .nested hi hkind hnested hm hb, rfl⟩
      · exact ⟨_, _, _, .refl _, rfl⟩
    · rintro ⟨way, enclosing, b, hb, rfl⟩
      cases hb with
      | refl => exact .inr rfl
      | parent hparent hb =>
        refine .inl (.inl ?_)
        rw [hparent]
        exact (ihParent _ hparent outer source n).mpr ⟨_, _, b, hb, rfl⟩
      | nested hi hkind hnested hm hb =>
        have he := List.mem_of_getElem? hi
        refine .inl (.inr ⟨_, he, Entry.mem_passes_iff.mpr ⟨hkind, _, hnested, _, hm, ?_⟩⟩)
        exact (ihNested _ he _ hnested _ _ _).mpr ⟨_, _, b, hb, rfl⟩

end Application

end MarkupRecords
