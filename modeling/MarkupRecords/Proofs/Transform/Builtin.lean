import MarkupRecords.Proofs.Scalar.Date.Notation
import MarkupRecords.Proofs.Scalar.Duration
import MarkupRecords.Proofs.Transform.Chain

/-!
The transforms that are known everywhere. Each reads the text of a value, and no kind of value has
an operation of its name, so it is what the name stands for if no table has the name
(`Value.applyChain_builtin`). What it reads is nil or has a text that it reads in the same way
(`Value.ReadsBack`): a date of any year, a number of seconds, which is never negative, and a truth
value. So it does nothing the second time (`Value.applyChain_builtin_twice`).
-/

set_option autoImplicit false
set_option relaxedAutoImplicit false

namespace MarkupRecords

theorem Flag.ofText?_text (b : Bool) : Flag.ofText? (Flag.text b) = some b := by
  cases b with
  | false => decide +kernel
  | true => decide +kernel

namespace Value

/-! ### Reading back -/

/-- What is read from a text is nil, or its own text is read as the same value. -/
def ReadsBack (read : String → Value) : Prop :=
  ∀ s, read s = nil ∨ ∃ t, (read s).toText? = some t ∧ read t = read s

theorem readsBack_readDate : ReadsBack readDate := by
  intro s
  rw [readDate]
  cases Date.ofText? s with
  | none => exact .inl rfl
  | some d =>
    refine .inr ⟨d.text, rfl, ?_⟩
    rw [readDate, d.ofText?_text]

theorem readsBack_readDuration : ReadsBack readDuration := by
  intro s
  rw [readDuration]
  cases hs : Duration.ofText? s with
  | none => exact .inl rfl
  | some n =>
    refine .inr ⟨Integer.text n, rfl, ?_⟩
    rw [readDuration, Duration.ofText?_text (Duration.nonneg_of_ofText? hs)]

theorem readsBack_readBool : ReadsBack readBool := by
  intro s
  rw [readBool]
  cases Flag.ofText? s with
  | none => exact .inl rfl
  | some b =>
    refine .inr ⟨Flag.text b, rfl, ?_⟩
    rw [readBool, Flag.ofText?_text]

/-! ### Names that are known everywhere -/

section Builtin

variable {name : String} {read : String → Value}

theorem builtinReader?_cases (h : builtinReader? name = some read) :
    name = "parse_date" ∧ read = readDate ∨ name = "parse_duration" ∧ read = readDuration ∨
      name = "string_to_boolean" ∧ read = readBool := by
  unfold builtinReader? at h
  split at h
  · cases h
    exact .inl ⟨rfl, rfl⟩
  · cases h
    exact .inr (.inl ⟨rfl, rfl⟩)
  · cases h
    exact .inr (.inr ⟨rfl, rfl⟩)
  · cases h

theorem readsBack_of_builtinReader? (h : builtinReader? name = some read) : ReadsBack read := by
  rcases builtinReader?_cases h with ⟨-, rfl⟩ | ⟨-, rfl⟩ | ⟨-, rfl⟩
  · exact readsBack_readDate
  · exact readsBack_readDuration
  · exact readsBack_readBool

/-- No kind of value has an operation with one of these names. -/
theorem operation?_eq_none (h : builtinReader? name = some read) (v : Value) :
    v.operation? name = none := by
  rcases builtinReader?_cases h with ⟨rfl, -⟩ | ⟨rfl, -⟩ | ⟨rfl, -⟩
  all_goals cases v <;> rfl

variable {tables : List TransformTable}

theorem applyNamed_builtin (h : builtinReader? name = some read)
    (htables : ∀ t ∈ tables, t.get? name = none) (v : Value) :
    v.applyNamed tables name = (v.toText?.map read).getD nil := by
  have hnone : tables.findSome? (·.get? name) = none := List.findSome?_eq_none_iff.mpr htables
  rw [applyNamed, operation?_eq_none h, hnone, builtin?, h]
  rfl

theorem applyChain_builtin (h : builtinReader? name = some read)
    (htables : ∀ t ∈ tables, t.get? name = none) (v : Value) :
    v.applyChain tables [name] = (v.toText?.map read).getD nil := by
  cases v with
  | nil => rfl
  | _ => rw [applyChain_cons rfl, applyChain_nil, applyNamed_builtin h htables]

/-- What is read by such a name is left as it is by the name. -/
theorem applyChain_builtin_self (h : builtinReader? name = some read)
    (htables : ∀ t ∈ tables, t.get? name = none) (v : Value) :
    v.applyChain tables [name, name] = v.applyChain tables [name] := by
  rw [applyChain_cons_eq tables name [name], applyChain_builtin h htables v]
  cases v.toText? with
  | none => rfl
  | some s =>
    rw [Option.map_some, Option.getD_some]
    rcases readsBack_of_builtinReader? h s with hnil | ⟨t, ht, hback⟩
    · rw [hnil]
      rfl
    · rw [applyChain_builtin h htables, ht, Option.map_some, Option.getD_some, hback]

end Builtin

/-- Reading a second time changes nothing, whatever the value is. So it is because every date is
read back from its text, and every duration, which is never negative, and every truth value; and
because nil goes through every chain unchanged. -/
theorem applyChain_builtin_twice :
    (∀ name ∈ ["parse_date", "parse_duration", "string_to_boolean"],
      ∀ tables : List TransformTable, (∀ t ∈ tables, t.get? name = none) →
        ∀ v : Value, v.applyChain tables [name, name] = v.applyChain tables [name]) ∧
      (∀ d : Date, (date d).toText?.bind Date.ofText? = some d) ∧
      (∀ (s : String) (n : Int64), Duration.ofText? s = some n →
        0 ≤ n.toInt ∧ (integer n).toText?.bind Duration.ofText? = some n) ∧
      (∀ b : Bool, (bool b).toText?.bind Flag.ofText? = some b) ∧
      ∀ (tables : List TransformTable) (name : String) (names : List String) (v : Value),
        v.applyChain tables [name] = nil → v.applyChain tables (name :: names) = nil := by
  refine ⟨fun name hname tables htables v ↦ ?_, fun d ↦ ?_, fun s n hn ↦ ?_, fun b ↦ ?_,
    fun tables name names v hnil ↦ ?_⟩
  · have hread : ∃ read, builtinReader? name = some read := by
      simp only [List.mem_cons, List.not_mem_nil, or_false] at hname
      rcases hname with rfl | rfl | rfl
      · exact ⟨readDate, rfl⟩
      · exact ⟨readDuration, rfl⟩
      · exact ⟨readBool, rfl⟩
    obtain ⟨read, hread⟩ := hread
    exact applyChain_builtin_self hread htables v
  · rw [toText?, Option.bind_some, d.ofText?_text]
  · have hnonneg := Duration.nonneg_of_ofText? hn
    rw [toText?, Option.bind_some, Duration.ofText?_text hnonneg]
    exact ⟨hnonneg, rfl⟩
  · rw [toText?, Option.bind_some, Flag.ofText?_text]
  · rw [applyChain_cons_eq, hnil]
    exact applyChain_of_isNil rfl names

theorem applyChain_builtin_twice_bce :
    let tables := [TransformTable.empty.register "first" id]
    let v := text " -0044-03-15 "
    (∀ t ∈ tables, t.get? "parse_date" = none) ∧
      v.applyChain tables ["parse_date"] = date ⟨-44, 3, 15, by decide⟩ ∧
      v.applyChain tables ["parse_date", "parse_date"] = date ⟨-44, 3, 15, by decide⟩ ∧
      Duration.ofText? "1:12:42" = some 4362 ∧
      (integer 4362).toText?.bind Duration.ofText? = some 4362 ∧
      (text "soon").applyChain tables ["parse_date"] = nil ∧
      (text "soon").applyChain tables ["parse_date", "parse_date", "length"] = nil := by
  intro tables v
  obtain ⟨htwice, -, hduration, -, hnil⟩ := applyChain_builtin_twice
  have htables : ∀ t ∈ tables, t.get? "parse_date" = none := List.forall_mem_singleton.mpr rfl
  have hdate : Date.ofText? " -0044-03-15 " = some ⟨-44, 3, 15, by decide⟩ := by decide +kernel
  have hseconds : Duration.ofText? "1:12:42" = some 4362 := by decide +kernel
  have hsoon : Date.ofText? "soon" = none := by decide +kernel
  have honce : v.applyChain tables ["parse_date"] = date ⟨-44, 3, 15, by decide⟩ := by
    rw [applyChain_builtin rfl htables, toText?, Option.map_some, readDate, hdate]
    rfl
  have hnone : (text "soon").applyChain tables ["parse_date"] = nil := by
    rw [applyChain_builtin rfl htables, toText?, Option.map_some, readDate, hsoon]
    rfl
  have hname : "parse_date" ∈ ["parse_date", "parse_duration", "string_to_boolean"] :=
    List.mem_cons_self
  exact ⟨htables, honce, (htwice _ hname tables htables v).trans honce, hseconds,
    (hduration _ _ hseconds).2, hnone, hnil tables _ _ _ hnone⟩

end Value

end MarkupRecords
