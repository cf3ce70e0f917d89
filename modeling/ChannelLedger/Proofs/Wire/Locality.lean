import ChannelLedger.Proofs.Wire.RoundTrip
import ChannelLedger.Proofs.Wire.Skip

/-!
# Reading looks no further than it reads

A reader that succeeds has taken a front of its input. Had other bytes stood behind that front, it would
have taken the same front and read the same (`Local`). Had something else been read before, it would still
have taken the same front, though what it makes of it may differ (`Steady`). Every reader of the format is
steady, up to the reader of a field of any schema (`Fields.steady_read`): a length may be compared with
what is left of the whole input, but then only a length that is too large sees the difference.

So the bytes that decode are exactly those that fall into fields, each read wherever it stands
(`Schema.decodeWithin_iff`), and bytes that decode do so behind any others (`Run.from_any`).
-/
namespace ChannelLedger.Wire

open Outcome

variable {ε ε' α β σ : Type}

/-! ## Readers that look no further -/

/-- The reader takes these bytes and no more, whatever stands behind them. -/
def Takes (read : Bytes → Except ε (α × Bytes)) (front : Bytes) (a : α) : Prop :=
  ∀ behind, read (front ++ behind) = .ok (a, behind)

/-- What the reader takes, it takes whatever stands behind. -/
def Local (read : Bytes → Except ε (α × Bytes)) : Prop :=
  ∀ ⦃input a rest⦄, read input = .ok (a, rest) → ∃ front, input = front ++ rest ∧ Takes read front a

/-- What the reader takes, it takes in every state and whatever stands behind. -/
def Steady (step : σ → Bytes → Except ε (σ × Bytes)) : Prop :=
  ∀ ⦃state input next rest⦄, step state input = .ok (next, rest) →
    ∃ front, input = front ++ rest ∧ ∀ other, ∃ last, Takes (step other) front last

/-- The reader takes at least one byte. -/
def Shrinks (read : Bytes → Except ε (α × Bytes)) : Prop :=
  ∀ ⦃input a rest⦄, read input = .ok (a, rest) → rest.length < input.length

namespace Local

variable {read : Bytes → Except ε (α × Bytes)}

theorem mapError (h : Local read) (f : ε → ε') : Local fun input => (read input).mapError f := by
  intro input a rest hread
  cases hinput : read input with
  | error e => simp [hinput] at hread
  | ok pair =>
    simp only [hinput, mapError_ok, Except.ok.injEq] at hread
    subst hread
    obtain ⟨front, rfl, htakes⟩ := h hinput
    refine ⟨front, rfl, fun behind => ?_⟩
    simp only [htakes behind, mapError_ok]

theorem bind {next : α × Bytes → Except ε (β × Bytes)} (h : Local read)
    (hnext : ∀ a, Local fun rest => next (a, rest)) : Local fun input => read input >>= next := by
  intro input b rest hread
  obtain ⟨⟨a, middle⟩, hfirst, hsecond⟩ := bind_eq_ok.1 hread
  obtain ⟨front, rfl, htakes⟩ := h hfirst
  obtain ⟨back, rfl, htakes'⟩ := hnext a hsecond
  refine ⟨front ++ back, (List.append_assoc ..).symm, fun behind => ?_⟩
  simp only [List.append_assoc, htakes (back ++ behind), ok_bind, htakes' behind]

theorem error (e : ε) : Local fun _ => (.error e : Except ε (α × Bytes)) := by
  intro input a rest hread
  cases hread

theorem pure (a : α) : Local fun input => (.ok (a, input) : Except ε (α × Bytes)) := by
  intro input b rest hread
  cases hread
  exact ⟨[], rfl, fun behind => rfl⟩

end Local

namespace Steady

variable {step : σ → Bytes → Except ε (σ × Bytes)}

/-- The bytes are taken in the state in which they were read, and what was read is what is read of them. -/
theorem takes (h : Steady step) {state next : σ} {input rest : Bytes}
    (hstep : step state input = .ok (next, rest)) :
    ∃ front, input = front ++ rest ∧ Takes (step state) front next := by
  obtain ⟨front, rfl, hall⟩ := h hstep
  obtain ⟨last, htakes⟩ := hall state
  have heq := htakes rest
  rw [hstep, Except.ok.injEq, Prod.mk.injEq] at heq
  exact ⟨front, rfl, heq.1 ▸ htakes⟩

theorem length_le (h : Steady step) {state next : σ} {input rest : Bytes}
    (hstep : step state input = .ok (next, rest)) : rest.length ≤ input.length := by
  obtain ⟨front, rfl, -⟩ := h hstep
  simp

/-- Bytes that are taken in one state are taken in every other. -/
theorem takes_any (h : Steady step) {state next : σ} {front : Bytes}
    (htakes : Takes (step state) front next) (other : σ) : ∃ last, Takes (step other) front last := by
  obtain ⟨front', heq, hall⟩ := h (htakes [])
  rw [List.append_nil, List.append_nil] at heq
  exact heq ▸ hall other

theorem mapError (h : Steady step) (f : ε → ε') :
    Steady fun state input => (step state input).mapError f := by
  intro state input next rest hread
  cases hstep : step state input with
  | error e => simp [hstep] at hread
  | ok pair =>
    simp only [hstep, mapError_ok, Except.ok.injEq] at hread
    subst hread
    obtain ⟨front, rfl, hall⟩ := h hstep
    refine ⟨front, rfl, fun other => ?_⟩
    obtain ⟨last, htakes⟩ := hall other
    refine ⟨last, fun behind => ?_⟩
    simp only [htakes behind, mapError_ok]

/-- A steady reader of a part makes a steady reader of the whole. -/
theorem part (h : Steady step) {τ : Type} {whole : τ → Bytes → Except ε (τ × Bytes)} (get : τ → σ)
    (put : τ → σ → τ)
    (hwhole : ∀ state input,
      whole state input = (step (get state) input).map fun pair => (put state pair.1, pair.2)) :
    Steady whole := by
  intro state input next rest hread
  rw [hwhole] at hread
  obtain ⟨⟨a, rest'⟩, hstep, hpair⟩ := map_eq_ok.1 hread
  cases hpair
  obtain ⟨front, rfl, hall⟩ := h hstep
  refine ⟨front, rfl, fun other => ?_⟩
  obtain ⟨last, htakes⟩ := hall (get other)
  refine ⟨put other last, fun behind => ?_⟩
  rw [hwhole, htakes behind, map_ok]

/-- A reader that only puts what it reads into its state is steady. -/
theorem of_local {read : Bytes → Except ε (α × Bytes)} (h : Local read) (put : σ → α → σ)
    (hstep : ∀ state input, step state input = (read input).map fun pair => (put state pair.1, pair.2)) :
    Steady step := by
  intro state input next rest hread
  rw [hstep] at hread
  obtain ⟨⟨a, rest'⟩, hinput, hpair⟩ := map_eq_ok.1 hread
  cases hpair
  obtain ⟨front, rfl, htakes⟩ := h hinput
  refine ⟨front, rfl, fun other => ⟨put other a, fun behind => ?_⟩⟩
  rw [hstep, htakes behind, map_ok]

theorem error (e : ε) : Steady fun (_ : σ) _ => (.error e : Except ε (σ × Bytes)) := by
  intro state input next rest hread
  cases hread

end Steady

/-! ## Field after field -/

/-- The bytes fall into parts that the reader takes one after the other, from one state to another. -/
inductive Run (step : σ → Bytes → Except ε (σ × Bytes)) : Bytes → σ → σ → Prop
  | nil (state : σ) : Run step [] state state
  | cons {part rest : Bytes} {state next last : σ} (nonempty : part ≠ [])
      (takes : Takes (step state) part next) (run : Run step rest next last) :
      Run step (part ++ rest) state last

namespace Run

variable {step : σ → Bytes → Except ε (σ × Bytes)}

theorem single {part : Bytes} {state next : σ} (nonempty : part ≠ [])
    (takes : Takes (step state) part next) : Run step part state next := by
  have hrun := cons nonempty takes (nil next)
  rwa [List.append_nil] at hrun

theorem append {front back : Bytes} {state middle last : σ} (hfront : Run step front state middle)
    (hback : Run step back middle last) : Run step (front ++ back) state last := by
  induction hfront with
  | nil state => exact hback
  | cons nonempty takes _ ih =>
    rw [List.append_assoc]
    exact cons nonempty takes (ih hback)

/-- What can be read from one state can be read from every other. -/
theorem from_any (hsteady : Steady step) {bytes : Bytes} {state last : σ}
    (h : Run step bytes state last) (other : σ) : ∃ last', Run step bytes other last' := by
  induction h generalizing other with
  | nil state => exact ⟨other, nil other⟩
  | cons nonempty takes _ ih =>
    obtain ⟨next, htakes⟩ := hsteady.takes_any takes other
    obtain ⟨last', hrun⟩ := ih next
    exact ⟨last', cons nonempty htakes hrun⟩

/-- A loop reads the bytes of a run and stops at what stands behind them. -/
theorem readWhile {bytes : Bytes} {state last : σ} (h : Run step bytes state last) (behind : Bytes)
    {fuel : Nat} (hfuel : bytes.length ≤ fuel) :
    Wire.readWhile step behind.length fuel state (bytes ++ behind) = .ok (last, behind) := by
  induction h generalizing fuel with
  | nil state =>
    rw [List.nil_append]
    exact readWhile_of_le (Nat.le_refl _) fuel state
  | @cons part rest state next last nonempty takes _ ih =>
    have hpos := List.length_pos_iff.2 nonempty
    rw [List.length_append] at hfuel
    obtain ⟨fuel, rfl⟩ : ∃ left, fuel = left + 1 := ⟨fuel - 1, by omega⟩
    have hmore : behind.length < (part ++ (rest ++ behind)).length := by
      simp only [List.length_append]
      omega
    rw [List.append_assoc, readWhile_of_step hmore (takes (rest ++ behind))]
    exact ih (by omega)

/-- What a loop has read up to its stop is a run. -/
theorem of_readWhile (hsteady : Steady step) (hshrinks : ∀ state, Shrinks (step state)) {stop fuel : Nat}
    {state last : σ} {input rest : Bytes} (hfuel : input.length ≤ fuel) (hstop : stop ≤ input.length)
    (h : Wire.readWhile step stop fuel state input = .ok (last, rest)) (hrest : stop ≤ rest.length) :
    ∃ front, input = front ++ rest ∧ rest.length = stop ∧ Run step front state last := by
  induction fuel generalizing state input with
  | zero =>
    cases h
    exact ⟨[], rfl, by omega, nil _⟩
  | succ fuel ih =>
    rw [Wire.readWhile] at h
    split at h
    case isTrue hle =>
      cases h
      exact ⟨[], rfl, by omega, nil _⟩
    case isFalse hlt =>
      obtain ⟨⟨next, middle⟩, hstep, hloop⟩ := bind_eq_ok.1 h
      have hshorter := hshrinks _ hstep
      obtain ⟨part, rfl, htakes⟩ := hsteady.takes hstep
      rw [List.length_append] at hfuel hshorter
      have hpart : part ≠ [] := List.length_pos_iff.1 (by omega)
      by_cases hover : stop ≤ middle.length
      · obtain ⟨front, rfl, hlength, hrun⟩ := ih (by omega) hover hloop
        exact ⟨part ++ front, (List.append_assoc ..).symm, hlength, cons hpart htakes hrun⟩
      · -- a part that reaches past the stop ends the loop there
        exfalso
        dsimp only at hloop
        rw [readWhile_of_le (Nat.le_of_not_le hover)] at hloop
        cases hloop
        exact hover hrest

end Run

/-! ## The readers of the format -/

theorem Varint.local_read : Local Varint.read := by
  intro input n rest h
  obtain ⟨bytes, rfl, hspells⟩ := Varint.read_eq_ok.1 h
  exact ⟨bytes, rfl, fun behind => Varint.read_eq_ok.2 ⟨bytes, rfl, hspells⟩⟩

theorem Key.local_read : Local Key.read := by
  intro input key rest h
  obtain ⟨bytes, rfl, hspells⟩ := Key.read_eq_ok.1 h
  exact ⟨bytes, rfl, hspells.read⟩

theorem Key.shrinks_read : Shrinks Key.read := by
  intro input key rest h
  obtain ⟨bytes, rfl, hspells⟩ := Key.read_eq_ok.1 h
  have hpos := List.length_pos_iff.2 hspells.2.ne_nil
  rw [List.length_append]
  omega

theorem local_readWord (wireType : WireType) : Local (readWord wireType) := by
  unfold readWord expect
  split
  · exact Varint.local_read.mapError Fault.ofCause
  · exact .error _

theorem local_readBytes (wireType : WireType) : Local (readBytes wireType) := by
  unfold readBytes expect
  split
  · refine (Varint.local_read.mapError Fault.ofCause).bind fun length => ?_
    intro input bytes rest h
    dsimp only at h
    split at h
    case isTrue => cases h
    case isFalse hfits =>
      cases h
      have hlength : (input.take length.toNat).length = length.toNat := by
        rw [List.length_take]
        omega
      refine ⟨input.take length.toNat, (List.take_append_drop ..).symm, fun behind => ?_⟩
      have hfits' : ¬ (input.take length.toNat ++ behind).length < length.toNat := by
        rw [List.length_append]
        omega
      dsimp only
      rw [if_neg hfits', List.take_append_of_le_length hlength.ge, List.take_of_length_le hlength.le,
        List.drop_append_of_le_length hlength.ge, List.drop_of_length_le hlength.le, List.nil_append]
      rfl
  · exact .error _

theorem local_readText (wireType : WireType) : Local (readText wireType) := by
  refine (local_readBytes wireType).bind fun bytes => ?_
  dsimp only
  cases Utf8.decode? bytes with
  | none => exact .error _
  | some text => exact .pure text

/-- What it takes for a delimited part to be read. -/
theorem readDelimited_eq_ok {step : σ → Bytes → Except Fault (σ × Bytes)} {state last : σ}
    {input rest : Bytes} :
    readDelimited step state input = .ok (last, rest) ↔
      ∃ length content, Varint.read input = .ok (length, content) ∧ length.toNat ≤ content.length ∧
        readWhile step (content.length - length.toNat) content.length state content = .ok (last, rest) ∧
        content.length - length.toNat ≤ rest.length := by
  unfold readDelimited
  cases hread : Varint.read input with
  | error cause => simp
  | ok pair =>
    obtain ⟨length, content⟩ := pair
    by_cases hfits : content.length < length.toNat
    · simp [hfits]
    · cases hloop : readWhile step (content.length - length.toNat) content.length state content with
      | error fault => simp [hfits, hloop]
      | ok pair =>
        obtain ⟨last', rest'⟩ := pair
        by_cases hover : rest'.length < content.length - length.toNat
        · simp [hfits, hloop, hover]
          rintro - rfl rfl
          omega
        · simp [hfits, hloop, hover]
          constructor
          · rintro ⟨rfl, rfl⟩
            exact ⟨by omega, ⟨rfl, rfl⟩, by omega⟩
          · rintro ⟨-, h, -⟩
            exact h

/-- A run behind its length is read, whatever stands behind it. -/
theorem Run.takes_readDelimited {step : σ → Bytes → Except Fault (σ × Bytes)} {front body : Bytes}
    {length : UInt64} {state last : σ} (hrun : Run step body state last)
    (hfront : Takes Varint.read front length) (hbody : body.length = length.toNat) :
    Takes (readDelimited step state) (front ++ body) last := by
  intro behind
  have hstop : (body ++ behind).length - length.toNat = behind.length := by
    rw [List.length_append]
    omega
  refine readDelimited_eq_ok.2 ⟨length, body ++ behind, ?_, ?_, ?_, hstop.le⟩
  · rw [List.append_assoc, hfront]
  · rw [List.length_append]
    omega
  · rw [hstop]
    exact hrun.readWhile behind (by simp)

/-- A delimited part is read in the same way wherever it stands. -/
theorem Steady.readDelimited {step : σ → Bytes → Except Fault (σ × Bytes)} (hsteady : Steady step)
    (hshrinks : ∀ state, Shrinks (step state)) : Steady (readDelimited step) := by
  intro state input next rest h
  obtain ⟨length, content, hread, hfits, hloop, hover⟩ := readDelimited_eq_ok.1 h
  obtain ⟨front, rfl, htakes⟩ := Varint.local_read hread
  obtain ⟨body, rfl, hrest, hrun⟩ :=
    Run.of_readWhile hsteady hshrinks (Nat.le_refl _) (by omega) hloop hover
  have hbody : body.length = length.toNat := by
    rw [List.length_append] at hfits hrest
    omega
  refine ⟨front ++ body, (List.append_assoc ..).symm, fun other => ?_⟩
  obtain ⟨last, hrun⟩ := hrun.from_any hsteady other
  exact ⟨last, hrun.takes_readDelimited htakes hbody⟩

/-! ## Fields of every schema -/

/-- A reader of what stands behind a key, run behind every key. -/
theorem Steady.readKeyed {field : σ → Key → Bytes → Except Fault (σ × Bytes)}
    (h : ∀ key, Steady fun state input => field state key input) :
    Steady fun state => readKeyed (field state) := by
  intro state input next rest hread
  obtain ⟨⟨key, content⟩, hkey, hfield⟩ := bind_eq_ok.1 hread
  obtain ⟨front, rfl, htakes⟩ := Key.local_read.mapError Fault.ofCause hkey
  obtain ⟨back, rfl, hall⟩ := h key hfield
  refine ⟨front ++ back, (List.append_assoc ..).symm, fun other => ?_⟩
  obtain ⟨last, hlast⟩ := hall other
  refine ⟨last, fun behind => ?_⟩
  have hbehind := hlast behind
  dsimp only at hbehind
  simp only [Wire.readKeyed, List.append_assoc, htakes (back ++ behind), ok_bind, hbehind]

theorem shrinks_readKeyed {field : σ → Key → Bytes → Except Fault (σ × Bytes)}
    (h : ∀ key, Steady fun state input => field state key input) (state : σ) :
    Shrinks (readKeyed (field state)) := by
  intro input next rest hread
  obtain ⟨⟨key, content⟩, hkey, hfield⟩ := bind_eq_ok.1 hread
  have hle := (h key).length_le hfield
  cases hcode : Key.read input with
  | error cause => simp [hcode] at hkey
  | ok pair =>
    simp only [hcode, mapError_ok, Except.ok.injEq] at hkey
    have hlt := Key.shrinks_read (hkey ▸ hcode)
    omega

theorem steady_skipField (budget : Nat) (key : Key) :
    Steady fun (state : σ) input =>
      (skipField budget key input).mapError Fault.ofCause >>= fun rest => pure (state, rest) := by
  intro state input next rest hread
  obtain ⟨rest', hskip, hpair⟩ := bind_eq_ok.1 hread
  cases hpair
  cases hinput : skipField budget key input with
  | error cause => simp [hinput] at hskip
  | ok rest' =>
    simp only [hinput, mapError_ok, Except.ok.injEq] at hskip
    subst hskip
    obtain ⟨content, rfl, hcontent⟩ := skipField_eq_ok.1 hinput
    refine ⟨content, rfl, fun other => ⟨other, fun behind => ?_⟩⟩
    simp only [skipField_eq_ok.2 ⟨content, rfl, hcontent⟩, mapError_ok, ok_bind, pure_eq]

theorem steady_readEntryField (budget : Nat) (key : Key) :
    Steady fun entry input => readEntryField budget entry key input := by
  obtain ⟨number, wireType⟩ := key
  match number with
  | 1 =>
    exact .of_local (local_readText wireType) (fun entry text => (text, entry.2)) fun _ _ => rfl
  | 2 =>
    exact .of_local (local_readBytes wireType) (fun entry bytes => (entry.1, bytes)) fun _ _ => rfl
  | 0 => exact steady_skipField budget ⟨0, wireType⟩
  | number + 3 => exact steady_skipField budget ⟨number + 3, wireType⟩

/-- A reader of a message's fields, run to the end of the message. -/
theorem Fields.steady_readDelimited {fields : Fields} {message : String} {budget : Nat}
    (h : ∀ key, Steady (fields.read message budget key)) :
    Steady (readDelimited fun record => readKeyed fun key input =>
      fields.read message budget key record input) :=
  (Steady.readKeyed h).readDelimited (shrinks_readKeyed h)

/-- A reader that stores what it reads is steady. -/
theorem Steady.of_reader {read : Bytes → Except ε (σ × Bytes)} (h : Local read) :
    Steady fun (_ : σ) input => read input := by
  refine .of_local h (fun _ a => a) fun _ input => ?_
  cases read input <;> rfl

mutual

theorem FieldType.steady_read : (type : FieldType) → (budget : Nat) → (wireType : WireType) →
    Steady (type.read budget wireType)
  | .int32, _, wireType =>
    .of_local (local_readWord wireType) (fun _ word => word.toUInt32.toInt32)
      fun old _ => FieldType.read_int32 old
  | .int64, _, wireType =>
    .of_local (local_readWord wireType) (fun _ word => word.toInt64)
      fun old _ => FieldType.read_int64 old
  | .uint64, _, wireType => .of_reader (local_readWord wireType)
  | .bool, _, wireType =>
    .of_local (local_readWord wireType) (fun _ word => word != 0)
      fun old _ => FieldType.read_bool old
  | .string, _, wireType => .of_reader (local_readText wireType)
  | .bytes, _, wireType => .of_reader (local_readBytes wireType)
  | .repeatedBytes, _, wireType =>
    .of_local (local_readBytes wireType) (fun (items : List Bytes) bytes => items ++ [bytes])
      fun items _ => FieldType.read_repeatedBytes items
  | .map, 0, _ => .error _
  | .map, budget + 1, _ =>
    ((Steady.readKeyed (steady_readEntryField budget)).readDelimited
      (shrinks_readKeyed (steady_readEntryField budget))).part (fun _ => ("", []))
      (fun (map : ByteMap) entry => map.insert entry.1 entry.2)
      fun map _ => FieldType.read_map map
  | .message name fields, budget, wireType => by
    by_cases hwireType : wireType = .delimited
    · subst hwireType
      cases budget with
      | zero => exact .error _
      | succ budget =>
        exact (Fields.steady_readDelimited (Fields.steady_read fields name budget)).part
          (fun (record : Option fields.Record) => record.getD fields.default) (fun _ record => some record)
          fun record _ => FieldType.read_message record
    · intro state input next rest h
      unfold FieldType.read expect at h
      simp only [hwireType, if_false, error_bind] at h
      cases h
  | .repeatedMessage name fields, budget, wireType => by
    by_cases hwireType : wireType = .delimited
    · subst hwireType
      cases budget with
      | zero => exact .error _
      | succ budget =>
        exact (Fields.steady_readDelimited (Fields.steady_read fields name budget)).part
          (fun (_ : List fields.Record) => fields.default) (fun records record => records ++ [record])
          fun records _ => FieldType.read_repeatedMessage records
    · intro state input next rest h
      unfold FieldType.read expect at h
      simp only [hwireType, if_false, error_bind] at h
      cases h

/-- **A field is read in the same way wherever it stands.** -/
theorem Fields.steady_read : (fields : Fields) → (message : String) → (budget : Nat) → (key : Key) →
    Steady (fields.read message budget key)
  | .nil, _, budget, key => steady_skipField budget key
  | .cons number name type rest, message, budget, ⟨other, wireType⟩ => by
    by_cases hnumber : other = number
    · subst hnumber
      exact ((FieldType.steady_read type budget wireType).mapError (.within ⟨message, name⟩)).part
        (fun record => record.1) (fun record value => (value, record.2))
        fun record _ => Fields.read_cons_self record.1 record.2
    · exact (Fields.steady_read rest message budget ⟨other, wireType⟩).part
        (fun record => record.2) (fun record others => (record.1, others))
        fun record _ => Fields.read_cons_of_ne hnumber record.1 record.2

end

/-! ## Messages -/

namespace Schema

variable {schema : Schema} {budget : Nat}

theorem steady_readField (schema : Schema) (budget : Nat) : Steady (schema.readField budget) :=
  .readKeyed (schema.fields.steady_read schema.name budget)

theorem shrinks_readField (schema : Schema) (budget : Nat) (record : schema.Record) :
    Shrinks (schema.readField budget record) :=
  shrinks_readKeyed (schema.fields.steady_read schema.name budget) record

/-- The record after the fields in some bytes are merged into it. -/
def readInto (schema : Schema) (budget : Nat) (record : schema.Record) (input : Bytes) :
    Except Fault schema.Record :=
  (readWhile (schema.readField budget) 0 input.length record input).map (·.1)

theorem readInto_iff {input : Bytes} {record last : schema.Record} :
    schema.readInto budget record input = .ok last ↔ Run (schema.readField budget) input record last := by
  unfold readInto
  rw [map_eq_ok]
  constructor
  · rintro ⟨⟨last', rest⟩, hread, rfl⟩
    obtain ⟨front, rfl, hrest, hrun⟩ := Run.of_readWhile (schema.steady_readField budget)
      (schema.shrinks_readField budget) (Nat.le_refl _) (Nat.zero_le _) hread (Nat.zero_le _)
    rw [List.length_eq_zero_iff] at hrest
    rwa [hrest, List.append_nil]
  · intro hrun
    have hread := hrun.readWhile [] (Nat.le_refl input.length)
    rw [List.append_nil] at hread
    exact ⟨_, hread, rfl⟩

/-- **The bytes that decode are those that fall into fields**, which are merged into the defaults. -/
theorem decodeWithin_iff {input : Bytes} {record : schema.Record} :
    schema.decodeWithin budget input = .ok record ↔
      Run (schema.readField budget) input schema.fields.default record :=
  readInto_iff

theorem decode_iff {input : Bytes} {record : schema.Record} :
    schema.decode input = .ok record ↔
      Run (schema.readField maxNesting) input schema.fields.default record :=
  decodeWithin_iff

end Schema

end ChannelLedger.Wire
