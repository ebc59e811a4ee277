import Mathlib.Data.List.Forall2
import Mathlib.Data.Option.Basic
import MarkupRecords.Definition.Reading

/-!
The order of the members of an object carries no meaning. `Json.Reorders` relates values that differ
in this order alone, at any depth. A decoder is `Json.Indifferent` if such values decode alike. A
record is decoded from the values of its fields, and a field that is read at all has one place in
the object, so the fields of a reordered record are the same up to reordering
(`Json.Reorders.fields?`). Hence all decoders of definitions are indifferent, and reordered texts
hold the same definition (`Definition.ofJson?_eq_of_reorders`).
-/

set_option autoImplicit false
set_option relaxedAutoImplicit false

namespace MarkupRecords

namespace Json

/-- The values differ at most in the order of the members of the objects in them. -/
inductive Reorders : Json → Json → Prop
  | refl (v : Json) : Reorders v v
  | array {items items' : List Json} (hitems : List.Forall₂ Reorders items items') :
    Reorders (.array items) (.array items')
  | object {members moved members' : List (String × Json)} (hperm : members.Perm moved)
    (hmembers : List.Forall₂ (Prod.RProd Eq Reorders) moved members') :
    Reorders (.object members) (.object members')

/-- Values that differ in the order of members decode alike. -/
def Indifferent {α : Type} (decode : Json → Option α) : Prop :=
  ∀ ⦃v v' : Json⦄, v.Reorders v' → decode v = decode v'

/-! ### Members by name -/

/-- Two fields that are missing, or whose values differ at most in the order of members. -/
abbrev FieldReorders : Option Json → Option Json → Prop := Option.Rel Reorders

theorem fieldReorders_refl : ∀ field : Option Json, FieldReorders field field
  | none => .none
  | some v => .some (.refl v)

theorem lookup_eq_head?_filter (name : String) (members : List (String × Json)) :
    members.lookup name = ((members.filter (·.1 == name)).map (·.2)).head? := by
  induction members with
  | nil => rfl
  | cons member members ih =>
    obtain ⟨key, v⟩ := member
    rw [List.lookup_cons, List.filter_cons, Bool.beq_comm]
    cases key == name with
    | false => simpa using ih
    | true => simp

/-- A name that occurs once at most has the same value wherever its member stands. -/
theorem lookup_eq_of_perm {name : String} {members moved : List (String × Json)}
    (hperm : members.Perm moved) (honce : (members.filter (·.1 == name)).length ≤ 1) :
    members.lookup name = moved.lookup name := by
  have hfound := hperm.filter (·.1 == name)
  rw [lookup_eq_head?_filter, lookup_eq_head?_filter]
  cases hmembers : members.filter (·.1 == name) with
  | nil =>
    rw [hmembers] at hfound
    rw [List.nil_perm.mp hfound]
  | cons member rest =>
    have hrest : rest = [] := by simpa [hmembers] using honce
    rw [hmembers, hrest] at hfound
    rw [hrest, List.singleton_perm.mp hfound]

section Members

variable {moved members' : List (String × Json)}
  (hmembers : List.Forall₂ (Prod.RProd Eq Reorders) moved members') (name : String)

include hmembers

theorem lookup_reorders : FieldReorders (moved.lookup name) (members'.lookup name) := by
  induction hmembers with
  | nil => exact .none
  | cons hmember _ ih =>
    obtain ⟨rfl, hv⟩ := hmember
    rw [List.lookup_cons, List.lookup_cons]
    split
    · exact .some hv
    · exact ih

theorem length_filter_reorders :
    (moved.filter (·.1 == name)).length = (members'.filter (·.1 == name)).length := by
  induction hmembers with
  | nil => rfl
  | cons hmember _ ih =>
    obtain ⟨rfl, -⟩ := hmember
    rw [List.filter_cons, List.filter_cons]
    split
    · rw [List.length_cons, List.length_cons, ih]
    · exact ih

end Members

/-- The fields of a record do not depend on the order of its members. -/
theorem Reorders.fields? {v v' : Json} (h : v.Reorders v') (names : List String) :
    Option.Rel (List.Forall₂ FieldReorders) (v.fields? names) (v'.fields? names) := by
  have hrefl (fields : List (Option Json)) : List.Forall₂ FieldReorders fields fields :=
    List.forall₂_same.mpr fun field _ ↦ fieldReorders_refl field
  cases h with
  | refl =>
    cases v.fields? names with
    | none => exact .none
    | some fields => exact .some (hrefl fields)
  | @array items items' hitems =>
    rw [Json.fields?, Json.fields?, hitems.length_eq]
    split_ifs
    · refine .some (List.rel_append ?_ (hrefl _))
      exact List.rel_map (fun _ _ hitem ↦ .some hitem) hitems
    · exact .none
  | @object members moved members' hperm hmembers =>
    have hcount (name : String) : (members.filter (·.1 == name)).length =
        (members'.filter (·.1 == name)).length :=
      (hperm.filter _).length_eq.trans (length_filter_reorders hmembers name)
    rw [Json.fields?, Json.fields?]
    simp only [hcount]
    split_ifs with honce
    · refine .some (List.forall₂_map_left_iff.mpr (List.forall₂_map_right_iff.mpr ?_))
      refine List.forall₂_same.mpr fun name hname ↦ ?_
      have honce := of_decide_eq_true (List.all_eq_true.mp honce name hname)
      rw [lookup_eq_of_perm hperm (Nat.le_trans (Nat.le_of_eq (hcount name)) honce)]
      exact lookup_reorders hmembers name
    · exact .none

/-- What is made of the fields of a record does not depend on the order of its members. -/
theorem Reorders.fields?_bind {α : Type} {v v' : Json} (h : v.Reorders v') (names : List String)
    {decode : List (Option Json) → Option α}
    (hdecode : ∀ {fields fields'}, List.Forall₂ FieldReorders fields fields' →
      decode fields = decode fields') :
    (v.fields? names >>= decode) = (v'.fields? names >>= decode) := by
  have hfields := h.fields? names
  generalize v.fields? names = fields?, v'.fields? names = fields?' at hfields
  cases hfields with
  | none => rfl
  | some hfields => exact hdecode hfields

/-! ### Decoders -/

section Decoders

variable {α : Type} {decode : Json → Option α}

theorem mapM_eq_of_reorders (hdecode : Indifferent decode) {items items' : List Json}
    (hitems : List.Forall₂ Reorders items items') : items.mapM decode = items'.mapM decode := by
  induction hitems with
  | nil => rfl
  | cons hitem _ ih => rw [List.mapM_cons, List.mapM_cons, hdecode hitem, ih]

theorem indifferent_asText? : Indifferent asText? := by
  rintro _ _ (_ | _ | _) <;> rfl

theorem indifferent_asTexts? : Indifferent asTexts? := by
  rintro _ _ (_ | hitems | _)
  · rfl
  · exact mapM_eq_of_reorders indifferent_asText? hitems
  · rfl

theorem Indifferent.nullOr (hdecode : Indifferent decode) : Indifferent (Json.nullOr decode) := by
  rintro _ _ (_ | hitems | ⟨hperm, hmembers⟩)
  · rfl
  · exact congrArg (Option.map some) (hdecode (.array hitems))
  · exact congrArg (Option.map some) (hdecode (.object hperm hmembers))

/-- An object that gives a name has a single member, so there is nothing to reorder. -/
theorem indifferent_asName? (depth : Nat) : Indifferent (asName? depth) := by
  rintro _ _ (_ | _ | @⟨members, moved, members', hperm, hmembers⟩)
  · rfl
  · rfl
  · have hlength : members.length = members'.length := hperm.length_eq.trans hmembers.length_eq
    match members, members', hlength with
    | [], [], _ => rfl
    | [(name, v)], [(name', v')], _ =>
      rw [← List.singleton_perm.mp hperm] at hmembers
      obtain ⟨rfl, hv⟩ := (List.forall₂_cons.mp hmembers).1
      cases hv <;> rfl
    | _ :: _ :: _, _ :: _ :: _, _ => simp only [asName?]

theorem Indifferent.orDefault (hdecode : Indifferent decode) (default : α)
    {field field' : Option Json} (h : FieldReorders field field') :
    Json.orDefault default decode field = Json.orDefault default decode field' := by
  cases h with
  | none => rfl
  | some hv => exact hdecode hv

end Decoders

end Json

namespace Definition

open Json (Indifferent)

/-! ### Decoding definitions -/

theorem indifferent_decodeMode (depth : Nat) : Indifferent (decodeMode depth) :=
  fun _ _ h ↦ congrArg (Option.bind · Selector.Mode.ofWord?) (Json.indifferent_asName? depth h)

theorem indifferent_decodeKind (depth : Nat) : Indifferent (decodeKind depth) :=
  fun _ _ h ↦ congrArg (Option.bind · Kind.ofWord?) (Json.indifferent_asName? depth h)

theorem indifferent_decodeKey (depth : Nat) : Indifferent (decodeKey depth) := by
  rintro _ _ (_ | hitems | _)
  · rfl
  · rw [decodeKey, decodeKey, Json.indifferent_asTexts? (.array hitems)] <;> nofun
  · rfl

theorem indifferent_decodeNames (depth : Nat) : Indifferent (decodeNames depth) := by
  rintro _ _ (_ | hitems | _)
  · rfl
  · rw [decodeNames, decodeNames, Json.indifferent_asTexts? (.array hitems)] <;> nofun
  · rfl

theorem indifferent_decodeList {α : Type} {decode : Json → Option α}
    (hdecode : Indifferent decode) :
    Indifferent (decodeList decode) := by
  rintro _ _ (_ | hitems | _)
  · rfl
  · exact Json.mapM_eq_of_reorders hdecode hitems
  · rfl

theorem indifferent_decodeMapping : ∀ depth : Nat, Indifferent (decodeMapping depth)
  | 0, _, _, _ => by
    unfold decodeMapping
    rfl
  | depth + 1, v, v', h => by
    have hdecode : Indifferent (decodeMappings depth) := by
      cases depth with
      | zero => exact fun _ _ _ ↦ rfl
      | succ depth => exact indifferent_decodeList (indifferent_decodeMapping depth)
    unfold decodeMapping
    refine h.fields?_bind mappingFields fun hfields ↦ ?_
    rcases hfields with _ | ⟨hkind | _, _ | ⟨hselector, _ | ⟨hkey, _ | ⟨hafterMap,
      _ | ⟨hattributeName, _ | ⟨hmappings, _ | ⟨hmode, _ | _⟩⟩⟩⟩⟩⟩⟩
    case cons.some.cons.cons.cons.cons.cons.cons.nil =>
      dsimp only
      rw [indifferent_decodeKind depth hkind, Json.indifferent_asText?.orDefault "" hselector,
        (indifferent_decodeKey depth).nullOr.orDefault none hkey,
        (indifferent_decodeNames depth).orDefault [] hafterMap,
        Json.indifferent_asText?.nullOr.orDefault none hattributeName,
        (indifferent_decodeMode depth).nullOr.orDefault none hmode]
      refine bind_congr fun kind ↦ bind_congr fun selector ↦ bind_congr fun key ↦
        bind_congr fun afterMap ↦ bind_congr fun attributeName ↦ ?_
      cases depth with
      | zero => exact congrArg (· >>= _) (hdecode.orDefault [] hmappings)
      | succ => exact congrArg (· >>= _) (hdecode.orDefault [] hmappings)
    all_goals rfl

theorem indifferent_decodeMappings : ∀ depth : Nat, Indifferent (decodeMappings depth)
  | 0, _, _, _ => rfl
  | depth + 1, _, _, h => indifferent_decodeList (indifferent_decodeMapping depth) h

theorem indifferent_decodeScope : ∀ depth : Nat, Indifferent (decodeScope depth)
  | 0, _, _, _ => by
    unfold decodeScope
    rfl
  | depth + 1, v, v', h => by
    have hdecode : Indifferent (decodeScopes depth) := by
      cases depth with
      | zero => exact fun _ _ _ ↦ rfl
      | succ depth => exact indifferent_decodeList (indifferent_decodeScope depth)
    unfold decodeScope
    refine h.fields?_bind scopeFields fun hfields ↦ ?_
    rcases hfields with _ | ⟨hselector | _, _ | ⟨hmappings, _ | ⟨hscopes, _ | _⟩⟩⟩
    case cons.some.cons.cons.nil =>
      dsimp only
      rw [Json.indifferent_asText? hselector,
        (indifferent_decodeMappings depth).orDefault [] hmappings]
      refine bind_congr fun selector ↦ bind_congr fun mappings ↦ ?_
      cases depth with
      | zero => exact congrArg (· >>= _) (hdecode.orDefault [] hscopes)
      | succ => exact congrArg (· >>= _) (hdecode.orDefault [] hscopes)
    all_goals rfl

theorem indifferent_decodeScopes : ∀ depth : Nat, Indifferent (decodeScopes depth)
  | 0, _, _, _ => rfl
  | depth + 1, _, _, h => indifferent_decodeList (indifferent_decodeScope depth) h

theorem indifferent_decode : ∀ depth : Nat, Indifferent (decode depth)
  | 0, _, _, _ => rfl
  | depth + 1, v, v', h => by
    refine h.fields?_bind definitionFields fun hfields ↦ ?_
    rcases hfields with _ | ⟨hmode, _ | ⟨hmappings, _ | ⟨hscopes, _ | _⟩⟩⟩
    case cons.cons.cons.nil =>
      dsimp only
      rw [(indifferent_decodeMode depth).orDefault .search hmode,
        (indifferent_decodeMappings depth).orDefault [] hmappings,
        (indifferent_decodeScopes depth).orDefault [] hscopes]
    all_goals rfl

/-- Texts that differ in the order of members hold the same definition, or both hold none. -/
theorem ofJson?_eq_of_reorders {s s' : String} {v v' : Json} (hv : Json.ofText? s = some v)
    (hv' : Json.ofText? s' = some v') (h : v.Reorders v') : ofJson? s = ofJson? s' := by
  rw [ofJson?, ofJson?, hv, hv']
  exact indifferent_decode Json.depthLimit h

end Definition

end MarkupRecords
