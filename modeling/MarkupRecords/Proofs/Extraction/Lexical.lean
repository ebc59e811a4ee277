import MarkupRecords.Proofs.Extraction.Source
import MarkupRecords.Proofs.Transform.Chain

/-!
Which transform a name stands for. A specification tree is walked by `Turn`s: to what a
specification extends, or to what an entry of kind `many` nests. `Application.Calls` follows a walk
through an extraction and keeps the specifications that the walk goes into an entry of, the
innermost first; they are the ones whose tables are there (`Application.Calls.outer_eq`). A
specification that is left towards its parent is not among them.

An extraction is put together along such walks and in no other way. What it yields is made of the
values of the specification's own entries and of what is called towards the parent
(`Application.isMadeOf_values`), and a value of kind `many` is made of what is called through the
entry (`Application.value_eq_calls`). All other values come about by names that are resolved
lexically (`Specification.Resolves`, `Specification.afterMap_iff`), so that no table is left in the
account (`Application.resolvesInside_of_calls`).

`Specification.retable` changes a table somewhere in a tree. The same walk then leads through the
changed tree (`Application.Calls.retable`), so a change shows only in applications that have the
table around them and have no nearer one with the name (`Application.lexicallyScoped`).
-/

set_option autoImplicit false
set_option relaxedAutoImplicit false

namespace MarkupRecords

/-! ### Tables -/

namespace TransformTable

theorem lookup_setEntry (name : String) (f : Value → Value)
    (entries : List (String × (Value → Value))) (k : String) :
    (setEntry name f entries).lookup k = if k = name then some f else entries.lookup k := by
  induction entries with
  | nil => rw [setEntry, Container.lookup_cons_ite]
  | cons e rest ih =>
    obtain ⟨k', g⟩ := e
    rw [setEntry]
    by_cases hk : k' = name
    · rw [if_pos hk, Container.lookup_cons_ite, Container.lookup_cons_ite, hk]
      split_ifs <;> rfl
    · rw [if_neg hk, Container.lookup_cons_ite, Container.lookup_cons_ite, ih]
      by_cases hkey : k = k'
      · rw [if_pos hkey, if_pos hkey, if_neg (hkey ▸ hk)]
      · rw [if_neg hkey, if_neg hkey]

theorem get?_register (t : TransformTable) (name : String) (f : Value → Value) (k : String) :
    (t.register name f).get? k = if k = name then some f else t.get? k :=
  lookup_setEntry name f t.entries k

/-- A transform does not matter behind a table that has its name. -/
theorem agree_of_contains (inner : List TransformTable) {name : String}
    (h : ∃ t ∈ inner, t.contains name = true) (t : TransformTable) (f : Value → Value)
    (outer : List TransformTable) :
    Agree (inner ++ t.register name f :: outer) (inner ++ t :: outer) := by
  intro k
  rw [List.findSome?_append, List.findSome?_append, List.findSome?_cons, List.findSome?_cons,
    get?_register]
  by_cases hk : k = name
  · obtain ⟨t', ht', hcontains⟩ := h
    have hsome : (inner.findSome? (·.get? k)).isSome = true := by
      rw [List.findSome?_isSome_iff]
      exact ⟨t', ht', hk ▸ hcontains⟩
    obtain ⟨g, hg⟩ := Option.isSome_iff_exists.mp hsome
    rw [hg]
    rfl
  · rw [if_neg hk]

end TransformTable

namespace Specification

/-! ### Names inside specifications -/

/-- What a name makes of a value inside specifications, the innermost first. An operation of the
value's kind comes before everything else. Then the name stands for the transform that the innermost
specification with the name has for it, or else for what is known everywhere, or for nothing. -/
inductive Resolves (chain : List Specification) (name : String) (v : Value) : Value → Prop
  | operation {w : Value} (h : v.operation? name = some w) : Resolves chain name v w
  | registered {inner outer : List Specification} {s : Specification} {f : Value → Value}
    (hoperation : v.operation? name = none) (hchain : chain = inner ++ s :: outer)
    (hinner : ∀ s' ∈ inner, s'.transforms.get? name = none)
    (hs : s.transforms.get? name = some f) : Resolves chain name v (f v)
  | builtin {w : Value} (hoperation : v.operation? name = none)
    (hchain : ∀ s ∈ chain, s.transforms.get? name = none) (h : v.builtin? name = some w) :
    Resolves chain name v w
  | unknown (hoperation : v.operation? name = none)
    (hchain : ∀ s ∈ chain, s.transforms.get? name = none) (h : v.builtin? name = none) :
    Resolves chain name v v

/-- What names make of a value one after the other, until it is nil. -/
inductive AfterMap (chain : List Specification) : List String → Value → Value → Prop
  | nil (v : Value) : AfterMap chain [] v v
  | stop (names : List String) {v : Value} (hv : v.isNil = true) : AfterMap chain names v v
  | cons {name : String} {names : List String} {v u w : Value} (hv : v.isNil = false)
    (hname : Resolves chain name v u) (hnames : AfterMap chain names u w) :
    AfterMap chain (name :: names) v w

variable {chain : List Specification}

theorem findSome?_transforms_eq_some_iff {name : String} {f : Value → Value} :
    (chain.map transforms).findSome? (·.get? name) = some f ↔ ∃ inner s outer,
      chain = inner ++ s :: outer ∧ s.transforms.get? name = some f ∧
        ∀ s' ∈ inner, s'.transforms.get? name = none := by
  rw [List.findSome?_map, List.findSome?_eq_some_iff]
  rfl

theorem findSome?_transforms_eq_none_iff {name : String} :
    (chain.map transforms).findSome? (·.get? name) = none ↔
      ∀ s ∈ chain, s.transforms.get? name = none := by
  rw [List.findSome?_map, List.findSome?_eq_none_iff]
  rfl

theorem resolves_applyNamed (chain : List Specification) (name : String) (v : Value) :
    Resolves chain name v (v.applyNamed (chain.map transforms) name) := by
  rw [Value.applyNamed]
  cases hoperation : v.operation? name with
  | some w => exact .operation hoperation
  | none =>
    cases hfind : (chain.map transforms).findSome? (·.get? name) with
    | some f =>
      obtain ⟨inner, s, outer, hchain, hs, hinner⟩ := findSome?_transforms_eq_some_iff.mp hfind
      exact .registered hoperation hchain hinner hs
    | none =>
      have hchain := findSome?_transforms_eq_none_iff.mp hfind
      cases hbuiltin : v.builtin? name with
      | some w => exact .builtin hoperation hchain hbuiltin
      | none => exact .unknown hoperation hchain hbuiltin

theorem resolves_iff {name : String} {v w : Value} :
    Resolves chain name v w ↔ v.applyNamed (chain.map transforms) name = w := by
  constructor
  · intro h
    rw [Value.applyNamed]
    cases h with
    | operation h => rw [h]
    | registered hoperation hchain hinner hs =>
      rw [hoperation, findSome?_transforms_eq_some_iff.mpr ⟨_, _, _, hchain, hs, hinner⟩]
    | builtin hoperation hchain h =>
      rw [hoperation, findSome?_transforms_eq_none_iff.mpr hchain, h]
      rfl
    | unknown hoperation hchain h =>
      rw [hoperation, findSome?_transforms_eq_none_iff.mpr hchain, h]
      rfl
  · rintro rfl
    exact resolves_applyNamed chain name v

/-- Names are resolved one after the other in the tables of the specifications. -/
theorem afterMap_iff {names : List String} {v w : Value} :
    AfterMap chain names v w ↔ v.applyChain (chain.map transforms) names = w := by
  constructor
  · intro h
    induction h with
    | nil v => rfl
    | stop names hv => exact Value.applyChain_of_isNil hv names
    | cons hv hname _ ih => rw [Value.applyChain_cons hv, resolves_iff.mp hname, ih]
  · rintro rfl
    induction names generalizing v with
    | nil => exact .nil v
    | cons name names ih =>
      cases hv : v.isNil with
      | true =>
        rw [Value.applyChain_of_isNil hv]
        exact .stop _ hv
      | false =>
        rw [Value.applyChain_cons hv]
        exact .cons hv (resolves_applyNamed chain name v) ih

end Specification

/-! ### Walks -/

/-- From a specification to one that it uses. -/
inductive Turn where
  /-- To the specification that it extends. -/
  | parent
  /-- To the one that the entry at a place nests. -/
  | nested (i : Nat)

namespace Application

/-- Following the turns, the first application comes to the second one; the specifications are those
that the turns go into an entry of, the innermost first. -/
inductive Calls : List Turn → Application → List Specification → Application → Prop
  | refl (a : Application) : Calls [] a [] a
  | parent {way : List Turn} {a b : Application} {enclosing : List Specification}
    {p : Specification} (hparent : a.spec.parent? = some p)
    (h : Calls way { a with spec := p } enclosing b) : Calls (.parent :: way) a enclosing b
  | nested {way : List Turn} {a b : Application} {enclosing : List Specification} {i : Nat}
    {e : Entry} {s : Specification} {m : Node} (he : a.spec.entries[i]? = some e)
    (hkind : e.kind = .many) (hnested : e.nested? = some s)
    (hm : m ∈ e.selector.select a.spec.mode a.node)
    (h : Calls way ⟨s, a.spec.transforms :: a.outer, a.source.nested, m⟩ enclosing b) :
    Calls (.nested i :: way) a (enclosing ++ [a.spec]) b

namespace Calls

variable {way : List Turn} {a b c : Application} {enclosing : List Specification}

/-- The tables around an application are those of the specifications on the way. -/
theorem outer_eq (h : Calls way a enclosing b) :
    b.outer = enclosing.map Specification.transforms ++ a.outer := by
  induction h with
  | refl a => rfl
  | parent _ _ ih => exact ih
  | nested _ _ _ _ _ ih => simp [ih]

theorem trans {way' : List Turn} {enclosing' : List Specification} (h : Calls way a enclosing b)
    (h' : Calls way' b enclosing' c) : Calls (way ++ way') a (enclosing' ++ enclosing) c := by
  induction h with
  | refl a => simpa using h'
  | parent hparent _ ih => exact .parent hparent (ih h')
  | nested he hkind hnested hm _ ih =>
    rw [← List.append_assoc]
    exact .nested he hkind hnested hm (ih h')

/-- The walk is the same with other tables around it. -/
theorem withOuter (h : Calls way a enclosing b) (outer : List TransformTable) :
    Calls way { a with outer } enclosing
      { b with outer := enclosing.map Specification.transforms ++ outer } := by
  induction h generalizing outer with
  | refl a => exact .refl _
  | parent hparent _ ih => exact .parent hparent (ih outer)
  | @nested way a b enclosing i e s m he hkind hnested hm _ ih =>
    have hcalls := ih (a.spec.transforms :: outer)
    rw [List.append_cons, ← List.map_singleton, ← List.map_append] at hcalls
    exact .nested he hkind hnested hm hcalls

end Calls

/-! ### What an extraction is made of -/

/-- The values of the entries of the specification itself, in order. -/
def values (a : Application) : List Value :=
  a.spec.entries.map fun e ↦ e.value a.spec.mode (a.spec.transforms :: a.outer) a.source a.node

/-- What the specification itself makes of values for its entries: they fill a container, the path
of the file is added if it is asked for, and the hook edits the container. -/
def own (a : Application) (values : List Value) : Container :=
  let recorded := a.source.record <| (Container.ofSource a.source.path (some a.node)).fill <|
    (a.spec.entries.map fun e ↦ e.key.segments).zip values
  { a.spec.hook?.elim recorded (fun hook ↦ hook recorded) with sourceNode := none }

/-- The extraction yields what the specification makes of the values, merged over what the one
application yields that is called towards the parent, if there is a parent. -/
structure IsMadeOf (a : Application) (values : List Value) : Prop where
  alone : a.spec.parent? = none → a.spec.extractIn a.outer a.source a.node = a.own values
  derived : ∀ parent, a.spec.parent? = some parent → ∃ b : Application,
    (∀ enclosing c, Calls [.parent] a enclosing c ↔ enclosing = [] ∧ c = b) ∧
      a.spec.extractIn a.outer a.source a.node =
        (a.source.forget (b.spec.extractIn b.outer b.source b.node)).merge (a.own values)

/-- How an entry at a place comes by its value inside specifications, the innermost first. What is
mapped is what the entry's names make of it, resolved in the specification of the entry and in
these; a list holds what the applications yield that are called through the entry. -/
structure ResolvesInside (a : Application) (enclosing : List Specification) (i : Nat) (e : Entry)
    (v : Value) : Prop where
  mapped : Entry.isMapped e.kind = true → ∀ w,
    Specification.AfterMap (a.spec :: enclosing) e.options.afterMap
      ((Entry.read e.kind e.selector e.options a.node).coerce e.kind) w ↔ v = w
  unmapped : Entry.isMapped e.kind = false → e.kind ≠ .many →
    v = Entry.read e.kind e.selector e.options a.node
  many : e.kind = .many → ∃ items : List Application,
    v = .list (items.map fun b ↦ .map (b.spec.extractIn b.outer b.source b.node)) ∧
      ∀ b, b ∈ items ↔ Calls [.nested i] a [a.spec] b

theorem own_values (a : Application) :
    a.own a.values = a.spec.ownPass a.outer a.source a.node := by
  rw [own, values, List.zip_map']
  rfl

/-- Towards the parent there is one application, and it has the same tables around it. -/
theorem calls_parent_iff {a b : Application} {parent : Specification}
    (hparent : a.spec.parent? = some parent) {enclosing : List Specification} :
    Calls [.parent] a enclosing b ↔ enclosing = [] ∧ b = { a with spec := parent } := by
  constructor
  · intro h
    cases h with
    | parent hparent' h =>
      cases h
      obtain rfl := Option.some.inj (hparent.symm.trans hparent')
      exact ⟨rfl, rfl⟩
  · rintro ⟨rfl, rfl⟩
    exact .parent hparent (.refl _)

theorem isMadeOf_values (a : Application) : a.IsMadeOf a.values where
  alone hparent := by
    rw [own_values]
    exact Specification.extractIn_of_parent?_eq_none a.outer a.source a.node hparent
  derived parent hparent := by
    refine ⟨{ a with spec := parent }, fun _ _ ↦ calls_parent_iff hparent, ?_⟩
    rw [own_values]
    exact Specification.extractIn_of_parent?_eq_some a.outer a.source a.node hparent

/-- The list that an entry of kind `many` yields is made of the applications that are called through
the entry, and of nothing else. -/
theorem value_eq_calls (a : Application) {i : Nat} {e : Entry} (he : a.spec.entries[i]? = some e)
    (hkind : e.kind = .many) :
    ∃ items : List Application,
      e.value a.spec.mode (a.spec.transforms :: a.outer) a.source a.node =
        .list (items.map fun b ↦ .map b.result) ∧
      ∀ b, b ∈ items ↔ Calls [.nested i] a [a.spec] b := by
  refine ⟨a.items a.spec e, a.value_eq_items a.spec hkind, fun b ↦ ?_⟩
  rw [mem_items_iff]
  constructor
  · obtain ⟨s, outer, source, m⟩ := b
    rintro ⟨hnested, rfl, rfl, hm⟩
    exact .nested he hkind hnested hm (.refl _)
  · intro hb
    generalize [a.spec] = enclosing at hb
    cases hb with
    | nested he' _ hnested hm h =>
      cases h
      obtain rfl := Option.some.inj (he.symm.trans he')
      exact ⟨hnested, rfl, rfl, hm⟩

/-- In the course of an extraction the tables are those of the specifications on the way, so names
are resolved in these. -/
theorem resolvesInside_of_calls {root : Specification} {source : Source} {n : Node}
    {way : List Turn} {a : Application} {enclosing : List Specification}
    (ha : Calls way ⟨root, [], source, n⟩ enclosing a) {i : Nat} {e : Entry}
    (he : a.spec.entries[i]? = some e) :
    a.ResolvesInside enclosing i e
      (e.value a.spec.mode (a.spec.transforms :: a.outer) a.source a.node) where
  mapped hmapped w := by
    have hkind : e.kind ≠ .many := by
      intro hkind
      rw [hkind] at hmapped
      cases hmapped
    have houter := ha.outer_eq
    rw [List.append_nil] at houter
    rw [Specification.afterMap_iff, Entry.value, if_neg hkind, Entry.scalarValue, if_pos hmapped,
      houter, List.map_cons]
  unmapped hmapped hkind := by
    rw [Entry.value, if_neg hkind, Entry.scalarValue, hmapped]
    rfl
  many hkind := a.value_eq_calls he hkind

end Application

/-! ### Changing a table -/

/-- Changes the nested specification. -/
def Entry.mapNested (g : Specification → Specification) : Entry → Entry
  | ⟨kind, selector, key, options, nested⟩ => ⟨kind, selector, key, options, nested.map g⟩

namespace Entry

variable (g : Specification → Specification) (e : Entry)

@[simp] theorem mapNested_kind : (e.mapNested g).kind = e.kind := by
  cases e; rfl

@[simp] theorem mapNested_selector : (e.mapNested g).selector = e.selector := by
  cases e; rfl

@[simp] theorem mapNested_nested? : (e.mapNested g).nested? = e.nested?.map g := by
  cases e; rfl

end Entry

/-- Changes the table at the end of a walk. -/
def Specification.retable (f : TransformTable → TransformTable) :
    List Turn → Specification → Specification
  | [], ⟨entries, hook, mode, parent, transforms⟩ => ⟨entries, hook, mode, parent, f transforms⟩
  | .parent :: way, ⟨entries, hook, mode, parent, transforms⟩ =>
    ⟨entries, hook, mode, parent.map (Specification.retable f way), transforms⟩
  | .nested i :: way, ⟨entries, hook, mode, parent, transforms⟩ =>
    ⟨entries.modify i (Entry.mapNested (Specification.retable f way)), hook, mode, parent,
      transforms⟩

namespace Specification

variable (f : TransformTable → TransformTable) (way : List Turn) (spec : Specification)

@[simp] theorem retable_nil_transforms : (spec.retable f []).transforms = f spec.transforms := by
  cases spec; rfl

@[simp] theorem retable_nil_entries : (spec.retable f []).entries = spec.entries := by
  cases spec; rfl

@[simp] theorem retable_nil_mode : (spec.retable f []).mode = spec.mode := by
  cases spec; rfl

@[simp] theorem retable_nil_parent? : (spec.retable f []).parent? = spec.parent? := by
  cases spec; rfl

@[simp] theorem retable_parent_parent? :
    (spec.retable f (.parent :: way)).parent? = spec.parent?.map (retable f way) := by
  cases spec; rfl

@[simp] theorem retable_nested_entries (i : Nat) :
    (spec.retable f (.nested i :: way)).entries =
      spec.entries.modify i (Entry.mapNested (retable f way)) := by
  cases spec; rfl

@[simp] theorem retable_nested_mode (i : Nat) :
    (spec.retable f (.nested i :: way)).mode = spec.mode := by
  cases spec; rfl

@[simp] theorem retable_nested_transforms (i : Nat) :
    (spec.retable f (.nested i :: way)).transforms = spec.transforms := by
  cases spec; rfl

end Specification

namespace Application

variable (f : TransformTable → TransformTable) (way : List Turn) (a : Application)

/-- What lies on the side of the parent has no part in the values. -/
theorem values_retable_parent :
    { a with spec := a.spec.retable f (.parent :: way) : Application }.values = a.values := by
  obtain ⟨⟨entries, hook, mode, parent, transforms⟩, outer, source, n⟩ := a
  rfl

theorem own_retable_parent (values : List Value) :
    { a with spec := a.spec.retable f (.parent :: way) : Application }.own values =
      a.own values := by
  obtain ⟨⟨entries, hook, mode, parent, transforms⟩, outer, source, n⟩ := a
  rfl

end Application

namespace Application.Calls

variable {way : List Turn} {a b : Application} {enclosing : List Specification}

/-- A walk leads through a tree as before if a table is changed that lies at its end or beyond. -/
theorem retable (h : Calls way a enclosing b) (f : TransformTable → TransformTable)
    (beyond : List Turn) :
    ∃ enclosing', Calls way { a with spec := a.spec.retable f (way ++ beyond) } enclosing'
      { b with spec := b.spec.retable f beyond } := by
  induction h with
  | refl a => exact ⟨[], .refl _⟩
  | parent hparent _ ih =>
    obtain ⟨enclosing', hcalls⟩ := ih
    exact ⟨enclosing', .parent (by simp [hparent]) hcalls⟩
  | @nested way a b enclosing i e s m he hkind hnested hm _ ih =>
    obtain ⟨enclosing', hcalls⟩ := ih
    let g := Specification.retable f (way ++ beyond)
    have he' : (a.spec.retable f (.nested i :: (way ++ beyond))).entries[i]? =
        some (e.mapNested g) := by
      simp [he, g]
    have hnested' : (e.mapNested g).nested? = some (g s) := by
      simp [hnested]
    refine ⟨enclosing' ++ [a.spec.retable f (.nested i :: (way ++ beyond))],
      .nested he' (by simpa) hnested' (by simpa) ?_⟩
    simpa using hcalls

/-- A walk into an entry has the table around it that it starts at. -/
theorem nested_retable {i : Nat} (h : Calls (.nested i :: way) a enclosing b)
    (f : TransformTable → TransformTable) :
    ∃ inner, enclosing = inner ++ [a.spec] ∧
      Calls (.nested i :: way) { a with spec := a.spec.retable f [] }
        (inner ++ [a.spec.retable f []])
        { b with
          outer := inner.map Specification.transforms ++ f a.spec.transforms :: a.outer } := by
  cases h with
  | @nested _ _ _ inner _ e s m he hkind hnested hm h =>
    refine ⟨inner, rfl, .nested (e := e) (s := s) (m := m) (by simpa) hkind hnested (by simpa) ?_⟩
    simpa using h.withOuter (f a.spec.transforms :: a.outer)

/-- A walk towards the parent does not have the table around it that it starts at. -/
theorem parent_retable (h : Calls (.parent :: way) a enclosing b)
    (f : TransformTable → TransformTable) :
    Calls (.parent :: way) { a with spec := a.spec.retable f [] } enclosing b := by
  cases h with
  | parent hparent h => exact .parent (by simpa) h

end Application.Calls

namespace Application

/-- Transforms are lexically scoped. Whatever is called in the course of an extraction yields what
its specification makes of the values of its entries, merged over what is called towards the parent;
and such a value is what the entry's names make of what is read, where a name stands for what the
innermost specification around the entry has for it, or is a list of what is called through the
entry. A transform that is registered in a specification makes no difference to the values where a
specification further in has the name. A specification and its parent do not see each other's
tables: no change to the one is noticed by whatever is called through the parent, and no change on
the parent's side by the specification's own values. -/
theorem lexicallyScoped (root : Specification) (source : Source) (n : Node) {way : List Turn}
    {a : Application} {enclosing : List Specification}
    (ha : Calls way ⟨root, [], source, n⟩ enclosing a) :
    a.IsMadeOf a.values ∧
    (∀ (i : Nat) (e : Entry), a.spec.entries[i]? = some e →
      ∃ v, a.values[i]? = some v ∧ a.ResolvesInside enclosing i e v) ∧
    (∀ (i : Nat) (way' : List Turn) (inner : List Specification) (b : Application),
      Calls (.nested i :: way') a (inner ++ [a.spec]) b →
      ∀ (name : String) (f : Value → Value),
        (∃ s ∈ b.spec :: inner, s.transforms.contains name = true) →
        ∃ enclosing' outer',
          Calls (way ++ .nested i :: way') ⟨root.retable (·.register name f) way, [], source, n⟩
            enclosing' { b with outer := outer' } ∧
          { b with outer := outer' : Application }.values = b.values) ∧
    ∀ (f : TransformTable → TransformTable) (way' : List Turn),
      (∀ (inner : List Specification) (b : Application), Calls (.parent :: way') a inner b →
        ∃ enclosing',
          Calls (way ++ .parent :: way') ⟨root.retable f way, [], source, n⟩ enclosing' b) ∧
      ∃ enclosing' b,
        Calls way ⟨root.retable f (way ++ .parent :: way'), [], source, n⟩ enclosing' b ∧
        b.values = a.values ∧ ∀ values, b.own values = a.own values := by
  refine ⟨a.isMadeOf_values, fun i e he ↦ ?_, fun i way' inner b hb name f hname ↦ ?_,
    fun f way' ↦ ⟨fun inner b hb ↦ ?_, ?_⟩⟩
  · refine ⟨_, ?_, resolvesInside_of_calls ha he⟩
    rw [values, List.getElem?_map, he, Option.map_some]
  · obtain ⟨inner', hinner, hcalls⟩ := hb.nested_retable (·.register name f)
    obtain rfl := List.append_cancel_right hinner
    obtain ⟨enclosing', hway⟩ := ha.retable (·.register name f) []
    rw [List.append_nil] at hway
    have houter : b.outer =
        inner.map Specification.transforms ++ a.spec.transforms :: a.outer := by
      simpa using hb.outer_eq
    have hagree := TransformTable.agree_of_contains ((b.spec :: inner).map Specification.transforms)
      (by simpa using hname) a.spec.transforms f a.outer
    refine ⟨_, _, hway.trans hcalls, List.map_congr_left fun e _ ↦ ?_⟩
    rw [houter]
    exact e.value_congr hagree b.spec.mode b.source b.node
  · obtain ⟨enclosing', hway⟩ := ha.retable f []
    rw [List.append_nil] at hway
    exact ⟨_, hway.trans (hb.parent_retable f)⟩
  · obtain ⟨enclosing', hway⟩ := ha.retable f (.parent :: way')
    exact ⟨enclosing', _, hway, a.values_retable_parent f way', a.own_retable_parent f way'⟩

theorem lexicallyScoped_album :
    let here : Selector := ⟨"", ⟨false, false, []⟩⟩
    let constant (text : String) : TransformTable :=
      TransformTable.empty.register "mark" fun _ ↦ .text text
    let marked : Entry := ⟨.text, here, ⟨["title"]⟩, ⟨["mark"], none⟩, none⟩
    let base : Specification := ⟨[marked], none, .search, none, .empty⟩
    let nested : Specification := ⟨[marked], none, .search, some base, constant "inner"⟩
    let many : Entry := ⟨.many, ⟨"track", ⟨false, true, [⟨.child, .name "track", []⟩]⟩⟩,
      ⟨["tracks"]⟩, { }, some nested⟩
    let root : Specification := ⟨[many], none, .search, none, constant "outer"⟩
    let n := (Document.ofTree
      (.document [.element "album" [] [.element "track" [] [.text "Brooklyn"]]])).root
    ∃ track : Node,
      let app : Application := ⟨nested, [root.transforms], .none, track⟩
      let parentApp : Application := ⟨base, [root.transforms], .none, track⟩
      Calls [.nested 0] ⟨root, [], .none, n⟩ [root] app ∧
      (∃ items : List Application, app ∈ items ∧ root.extract n = own ⟨root, [], .none, n⟩
        [.list (items.map fun b ↦ .map (b.spec.extractIn b.outer b.source b.node))]) ∧
      nested.extractIn [root.transforms] .none track =
        (base.extractIn [root.transforms] .none track).merge (app.own app.values) ∧
      app.values = [.text "inner"] ∧ parentApp.values = [.text "outer"] ∧
      ∀ f : Value → Value, ∃ enclosing outer,
        Calls [.nested 0] ⟨root.retable (·.register "mark" f) [], [], .none, n⟩ enclosing
          { app with outer } ∧
        { app with outer : Application }.values = [.text "inner"] ∧
        ∀ g : TransformTable → TransformTable, ∃ enclosing',
          Calls [.nested 0, .parent] ⟨root.retable g [.nested 0], [], .none, n⟩ enclosing'
            parentApp := by
  intro here constant marked base nested many root n
  let track : Node := ⟨n.document, 2, by decide⟩
  have htrack : many.selector.select .search n = [track] := by rfl
  have hread : (Entry.read .text here marked.options track).coerce .text = .text "Brooklyn" := rfl
  have hnear : Specification.AfterMap [nested, root] ["mark"]
      ((Entry.read .text here marked.options track).coerce .text) (.text "inner") := by
    rw [hread]
    exact .cons rfl (@Specification.Resolves.registered _ _ _ [] [root] nested
      (fun _ ↦ .text "inner") rfl rfl (List.forall_mem_nil _) rfl) (.nil _)
  have hfar : Specification.AfterMap [base, root] ["mark"]
      ((Entry.read .text here marked.options track).coerce .text) (.text "outer") := by
    rw [hread]
    exact .cons rfl (@Specification.Resolves.registered _ _ _ [base] [] root
      (fun _ ↦ .text "outer") rfl rfl (List.forall_mem_singleton.mpr rfl) rfl) (.nil _)
  have hnested : Calls [.nested 0] ⟨root, [], .none, n⟩ [root]
      ⟨nested, [root.transforms], .none, track⟩ :=
    .nested (e := many) rfl rfl rfl (htrack ▸ List.mem_singleton_self _) (.refl _)
  have hparent : Calls [.parent] ⟨nested, [root.transforms], .none, track⟩ []
      ⟨base, [root.transforms], .none, track⟩ :=
    .parent rfl (.refl _)
  have hbase : Calls [.nested 0, .parent] ⟨root, [], .none, n⟩ [root]
      ⟨base, [root.transforms], .none, track⟩ :=
    hnested.trans hparent
  obtain ⟨hroot, hlist, hshadowed, -⟩ := lexicallyScoped root .none n (.refl _)
  obtain ⟨hmade, hinner, -, hsides⟩ := lexicallyScoped root .none n hnested
  obtain ⟨-, houter, -⟩ := lexicallyScoped root .none n hbase
  obtain ⟨tracks, htracks, hscoped⟩ := hlist 0 many rfl
  obtain ⟨items, rfl, hitems⟩ := hscoped.many rfl
  obtain ⟨v, hv, hscoped⟩ := hinner 0 marked rfl
  obtain rfl := (hscoped.mapped rfl _).mp hnear
  obtain ⟨w, hw, hscoped⟩ := houter 0 marked rfl
  obtain rfl := (hscoped.mapped rfl _).mp hfar
  obtain ⟨b, hb, hderived⟩ := hmade.derived base rfl
  obtain ⟨-, rfl⟩ := (hb [] _).mp hparent
  refine ⟨track, hnested, ⟨items, (hitems _).mpr hnested, ?_⟩, hderived, ?_, ?_, fun f ↦ ?_⟩
  · have hvalues := List.singleton_inj.mpr (Option.some.inj htracks)
    exact (hroot.alone rfl).trans (congrArg (own _) hvalues)
  · exact List.singleton_inj.mpr (Option.some.inj hv)
  · exact List.singleton_inj.mpr (Option.some.inj hw)
  · obtain ⟨enclosing, outer, hcalls, hvalues⟩ := hshadowed 0 [] [] _ hnested "mark" f
      ⟨nested, List.mem_singleton_self _, rfl⟩
    exact ⟨enclosing, outer, hcalls, hvalues.trans (List.singleton_inj.mpr (Option.some.inj hv)),
      fun g ↦ (hsides g []).1 [] _ hparent⟩

end Application

end MarkupRecords
