import ChannelLedger.Proofs.Wire.Undeclared

/-!
# Repeated fields grow

What is read of a field goes behind what the record holds of it, if the field is repeated, and what goes
there does not depend on what was read before (`Grows`). So two byte strings that decode do so one behind
the other as well, and a repeated field of the two has the elements of the first and then those of the
second (`Schema.decode_append`). Of the other fields nothing is said: there a later value replaces or changes
an earlier one.
-/
namespace ChannelLedger.Wire

open Outcome

variable {ε σ α : Type}

/-- A list in the state grows by what is read, and by the same in every state. -/
def Grows (list : σ → List α) (step : σ → Bytes → Except ε (σ × Bytes)) : Prop :=
  ∀ ⦃state input next rest⦄, step state input = .ok (next, rest) →
    ∃ front new, input = front ++ rest ∧ list next = list state ++ new ∧
      ∀ other, ∃ last, Takes (step other) front last ∧ list last = list other ++ new

namespace Grows

variable {list : σ → List α} {step : σ → Bytes → Except ε (σ × Bytes)}

/-- A reader that leaves the list as it is lets it grow by nothing. -/
theorem of_steady (hsteady : Steady step)
    (same : ∀ state input next rest, step state input = .ok (next, rest) → list next = list state) :
    Grows list step := by
  intro state input next rest h
  obtain ⟨front, rfl, hall⟩ := hsteady h
  refine ⟨front, [], rfl, by rw [same _ _ _ _ h, List.append_nil], fun other => ?_⟩
  obtain ⟨last, htakes⟩ := hall other
  exact ⟨last, htakes, by rw [same _ _ _ _ (htakes []), List.append_nil]⟩

/-- A reader that puts what it reads behind the list lets it grow by that. -/
theorem of_local {step : List α → Bytes → Except ε (List α × Bytes)}
    {read : Bytes → Except ε (α × Bytes)} (h : Local read)
    (hstep : ∀ items input, step items input = (read input).map fun pair => (items ++ [pair.1], pair.2)) :
    Grows (fun items => items) step := by
  intro items input next rest hread
  rw [hstep] at hread
  obtain ⟨⟨a, rest'⟩, hinput, hpair⟩ := map_eq_ok.1 hread
  cases hpair
  obtain ⟨front, rfl, htakes⟩ := h hinput
  refine ⟨front, [a], rfl, rfl, fun other => ⟨other ++ [a], fun behind => ?_, rfl⟩⟩
  rw [hstep, htakes behind, map_ok]

theorem mapError {ε' : Type} (h : Grows list step) (f : ε → ε') :
    Grows list fun state input => (step state input).mapError f := by
  intro state input next rest hread
  cases hstep : step state input with
  | error e => simp [hstep] at hread
  | ok pair =>
    simp only [hstep, mapError_ok, Except.ok.injEq] at hread
    subst hread
    obtain ⟨front, new, rfl, hnext, hall⟩ := h hstep
    refine ⟨front, new, rfl, hnext, fun other => ?_⟩
    obtain ⟨last, htakes, hlast⟩ := hall other
    refine ⟨last, fun behind => ?_, hlast⟩
    simp only [htakes behind, mapError_ok]

/-- A list in a part of the state is a list in the whole. -/
theorem part (h : Grows list step) {τ : Type} {whole : τ → Bytes → Except ε (τ × Bytes)} (get : τ → σ)
    (put : τ → σ → τ) (get_put : ∀ state a, get (put state a) = a)
    (hwhole : ∀ state input,
      whole state input = (step (get state) input).map fun pair => (put state pair.1, pair.2)) :
    Grows (fun state => list (get state)) whole := by
  intro state input next rest hread
  rw [hwhole] at hread
  obtain ⟨⟨a, rest'⟩, hstep, hpair⟩ := map_eq_ok.1 hread
  cases hpair
  obtain ⟨front, new, rfl, hnext, hall⟩ := h hstep
  refine ⟨front, new, rfl, by simp only [get_put, hnext], fun other => ?_⟩
  obtain ⟨last, htakes, hlast⟩ := hall (get other)
  refine ⟨put other last, fun behind => ?_, by simp only [get_put, hlast]⟩
  rw [hwhole, htakes behind, map_ok]

theorem error (e : ε) : Grows list fun _ _ => (.error e : Except ε (σ × Bytes)) := by
  intro state input next rest hread
  cases hread

/-- **What is read field by field lets the list grow as each field does.** -/
theorem run (hgrows : Grows list step) {bytes : Bytes} {state last : σ} (h : Run step bytes state last) :
    ∃ new, list last = list state ++ new ∧
      ∀ other, ∃ last', Run step bytes other last' ∧ list last' = list other ++ new := by
  induction h with
  | nil state => exact ⟨[], by rw [List.append_nil], fun other => ⟨other, .nil other, by rw [List.append_nil]⟩⟩
  | @cons part rest state next last nonempty takes _ ih =>
    obtain ⟨front, new, hfront, hnext, hall⟩ := hgrows (takes [])
    rw [List.append_nil, List.append_nil] at hfront
    subst hfront
    obtain ⟨more, hlast, hrest⟩ := ih
    refine ⟨new ++ more, by rw [hlast, hnext, List.append_assoc], fun other => ?_⟩
    obtain ⟨middle, hmiddle, hlist⟩ := hall other
    obtain ⟨last', hrun, hlist'⟩ := hrest middle
    exact ⟨last', .cons nonempty hmiddle hrun, by rw [hlist', hlist, List.append_assoc]⟩

end Grows

/-! ## Fields -/

section

variable {budget : Nat} {key : Key} {wireType : WireType}

theorem FieldType.grows_repeatedMessage (name : String) (fields : Fields) (budget : Nat)
    (wireType : WireType) :
    Grows (fun (records : List fields.Record) => records)
      ((FieldType.repeatedMessage name fields).read budget wireType) := by
  by_cases hwireType : wireType = .delimited
  · subst hwireType
    cases budget with
    | zero => exact .error _
    | succ budget =>
      have hsteady := Fields.steady_readDelimited (fields.steady_read name budget)
      have hlocal : Local (readDelimited (fun record => readKeyed fun key input =>
        fields.read name budget key record input) fields.default) := fun _ _ _ h => hsteady.takes h
      exact .of_local hlocal fun records _ => FieldType.read_repeatedMessage records
  · intro state input next rest h
    unfold FieldType.read expect at h
    simp only [hwireType, if_false, error_bind] at h
    cases h

/-- The first field of a record grows if it is read so, and stays if another field is read. -/
theorem Fields.grows_head {number : Nat} {name message : String} {type : FieldType} {rest : Fields}
    (list : type.Value → List α) (h : ∀ wireType, Grows list (type.read budget wireType)) (key : Key) :
    Grows (fun record => list record.1)
      ((Fields.cons number name type rest).read message budget key) := by
  obtain ⟨other, wireType⟩ := key
  by_cases hnumber : other = number
  · subst hnumber
    have hfirst := (h wireType).mapError (Fault.within ⟨message, name⟩)
    refine hfirst.part (fun (record : (Fields.cons other name type rest).Record) => record.1)
      (fun record value => (value, record.2)) (fun _ _ => rfl) fun record _ => ?_
    exact Fields.read_cons_self record.1 record.2
  · refine .of_steady (Fields.steady_read _ message budget ⟨other, wireType⟩) fun state _ _ _ h => ?_
    rw [Fields.read_cons_of_ne hnumber state.1 state.2] at h
    obtain ⟨pair, -, hpair⟩ := map_eq_ok.1 h
    cases hpair
    rfl

/-- A first field that is repeated grows. -/
theorem Fields.grows_repeated (number : Nat) (name message : String) (inner : Schema) (rest : Fields)
    (budget : Nat) (key : Key) :
    Grows (fun record => record.1)
      ((Fields.cons number name inner.repeated rest).read message budget key) := by
  have h (wireType : WireType) : Grows (fun (records : inner.repeated.Value) => records)
      (inner.repeated.read budget wireType) :=
    FieldType.grows_repeatedMessage inner.name inner.fields budget wireType
  exact Fields.grows_head _ h key

/-- The fields behind the first one grow as they do without it. -/
theorem Fields.grows_tail {number : Nat} {name message : String} {type : FieldType} {rest : Fields}
    {list : rest.Record → List α} (h : Grows list (rest.read message budget key)) :
    Grows (fun record => list record.2)
      ((Fields.cons number name type rest).read message budget key) := by
  obtain ⟨other, wireType⟩ := key
  by_cases hnumber : other = number
  · subst hnumber
    refine .of_steady (Fields.steady_read _ message budget ⟨other, wireType⟩) fun state _ _ _ h => ?_
    rw [Fields.read_cons_self state.1 state.2] at h
    obtain ⟨pair, -, hpair⟩ := map_eq_ok.1 h
    cases hpair
    rfl
  · refine h.part (fun (record : (Fields.cons number name type rest).Record) => record.2)
      (fun record others => (record.1, others)) (fun _ _ => rfl) fun record _ => ?_
    exact Fields.read_cons_of_ne hnumber record.1 record.2

/-- A list in the record of a message grows with every field of the message, key and all. -/
theorem Grows.readKeyed {field : σ → Key → Bytes → Except Fault (σ × Bytes)} {list : σ → List α}
    (h : ∀ key, Grows list fun state input => field state key input) :
    Grows list fun state => readKeyed (field state) := by
  intro state input next rest hread
  obtain ⟨⟨key, content⟩, hkey, hfield⟩ := bind_eq_ok.1 hread
  obtain ⟨front, rfl, htakes⟩ := Key.local_read.mapError Fault.ofCause hkey
  obtain ⟨back, new, rfl, hnext, hall⟩ := h key hfield
  refine ⟨front ++ back, new, (List.append_assoc ..).symm, hnext, fun other => ?_⟩
  obtain ⟨last, hlast, hlist⟩ := hall other
  refine ⟨last, fun behind => ?_, hlist⟩
  have hbehind := hlast behind
  dsimp only at hbehind
  simp only [Wire.readKeyed, List.append_assoc, htakes (back ++ behind), ok_bind, hbehind]

end

/-! ## Messages -/

/-- **Byte strings that decode do so one behind the other**, and what grows in a record is first that of the
one and then that of the other. -/
theorem Schema.decode_append {schema : Schema} {list : schema.Record → List α}
    (grows : Grows list (schema.readField maxNesting)) (empty : list schema.fields.default = [])
    {front back : Bytes} {first second : schema.Record} (hfront : schema.decode front = .ok first)
    (hback : schema.decode back = .ok second) :
    ∃ record, schema.decode (front ++ back) = .ok record ∧ list record = list first ++ list second := by
  obtain ⟨new, hnew, hall⟩ := grows.run (decode_iff.1 hback)
  obtain ⟨record, hrun, hlist⟩ := hall first
  rw [empty, List.nil_append] at hnew
  exact ⟨record, decode_iff.2 ((decode_iff.1 hfront).append hrun), by rw [hlist, hnew]⟩

end ChannelLedger.Wire
