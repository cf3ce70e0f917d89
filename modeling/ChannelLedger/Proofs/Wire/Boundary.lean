import ChannelLedger.Proofs.Wire.Undeclared
import ChannelLedger.Slot.Envelope

/-!
# Where a message inside a message ends

A message inside a message has no buffer of its own. Its fields are read from what is left of the whole
input, lengths are compared with that, and only when the fields have come to the end of the message or past
it is it asked which of the two it was. It sees its own bytes only, all the same. A reader looks no further
than it reads, so fields that end where the message does are those of the message's bytes alone
(`readDelimited_eq_ok_iff`); and a field that goes on behind the end was begun before it, so the end is
missed and the message refused (`BreaksOff.readDelimited`), whatever stands behind.

The message around it then holds that message, and the fields that follow are merged into what it holds
(`Schema.run_delimited_iff`).

Main theorem `Layer.decode_delimited`.
-/
namespace ChannelLedger

open Wire Outcome

namespace Wire

variable {ε σ : Type}

/-! ## The first step of a run -/

namespace Run

variable {step : σ → Bytes → Except ε (σ × Bytes)} {bytes front rest : Bytes} {state middle last : σ}

/-- What falls into parts begins with one. -/
theorem exists_step (h : Run step bytes state last) (nonempty : bytes ≠ []) :
    ∃ next rest, step state bytes = .ok (next, rest) ∧ Run step rest next last := by
  cases h with
  | nil => exact absurd rfl nonempty
  | cons _ takes run => exact ⟨_, _, takes _, run⟩

theorem of_step (hsteady : Steady step) (hshrinks : ∀ state, Shrinks (step state))
    (hstep : step state bytes = .ok (middle, rest)) (h : Run step rest middle last) :
    Run step bytes state last := by
  have hlt := hshrinks _ hstep
  obtain ⟨part, rfl, htakes⟩ := hsteady.takes hstep
  rw [List.length_append] at hlt
  exact .cons (List.length_pos_iff.1 (by omega)) htakes h

/-- Behind the bytes of one run the parts go on from where that run has come to. -/
theorem drop (hfront : Run step front state middle) (h : Run step (front ++ rest) state last) :
    Run step rest middle last := by
  induction hfront with
  | nil => exact h
  | @cons part more _ _ _ nonempty takes _ ih =>
    obtain ⟨next, left, hstep, hrun⟩ := h.exists_step (by simp [nonempty])
    rw [List.append_assoc, takes, Except.ok.injEq, Prod.mk.injEq] at hstep
    obtain ⟨rfl, rfl⟩ := hstep
    exact ih hrun

/-- A loop passes over the bytes of a run while its stop lies further behind. -/
theorem readWhile_append (hfront : Run step front state middle) {stop fuel : Nat} (hstop : stop < rest.length)
    (hfuel : front.length < fuel) :
    ∃ left, Wire.readWhile step stop fuel state (front ++ rest) =
      Wire.readWhile step stop (left + 1) middle rest := by
  induction hfront generalizing fuel with
  | nil state => exact ⟨fuel - 1, by rw [Nat.sub_add_cancel (by omega), List.nil_append]⟩
  | @cons part more state next _ nonempty takes _ ih =>
    have hpos := List.length_pos_iff.2 nonempty
    rw [List.length_append] at hfuel
    obtain ⟨fuel, rfl⟩ : ∃ less, fuel = less + 1 := ⟨fuel - 1, by omega⟩
    have hmore : stop < (part ++ (more ++ rest)).length := by
      simp only [List.length_append]
      omega
    obtain ⟨left, hleft⟩ := @ih fuel (by omega)
    exact ⟨left, by rw [List.append_assoc, readWhile_of_step hmore (takes _), hleft]⟩

end Run

/-! ## Parts of a given length -/

section

variable {step : σ → Bytes → Except Fault (σ × Bytes)} {length body behind missing : Bytes} {state last : σ}

/-- A part whose length fits is read by a loop, and then it is asked where the loop has come to. -/
theorem readDelimited_of_spells (spells : Varint.Spells Varint.maxLength length body.length) (behind : Bytes) :
    readDelimited step state (length ++ (body ++ behind)) =
      readWhile step behind.length (body ++ behind).length state (body ++ behind) >>= fun read =>
        if read.2.length < behind.length then .error (.ofCause .overrun) else .ok read := by
  have hnat := UInt64.toNat_ofNat_of_lt' spells.lt
  have hfits : ¬ (body ++ behind).length < body.length := by
    rw [List.length_append]
    omega
  have hstop : (body ++ behind).length - body.length = behind.length := by
    rw [List.length_append]
    omega
  simp only [readDelimited, spells.read, mapError_ok, ok_bind, hnat, if_neg hfits, hstop]
  rfl

/-- **A part sees its own bytes only**: it is read if these alone fall into parts, and then the rest is left. -/
theorem readDelimited_eq_ok_iff (hsteady : Steady step) (hshrinks : ∀ state, Shrinks (step state))
    (spells : Varint.Spells Varint.maxLength length body.length) {rest : Bytes} :
    readDelimited step state (length ++ (body ++ behind)) = .ok (last, rest) ↔
      Run step body state last ∧ rest = behind := by
  rw [readDelimited_of_spells spells, bind_eq_ok]
  constructor
  · rintro ⟨⟨last', rest'⟩, hloop, hend⟩
    split at hend
    case isTrue => cases hend
    case isFalse hover =>
      cases hend
      obtain ⟨front, hfront, hrest, hrun⟩ := Run.of_readWhile hsteady hshrinks (Nat.le_refl _)
        (by rw [List.length_append]; omega) hloop (Nat.not_lt.1 hover)
      obtain ⟨rfl, rfl⟩ := List.append_inj' hfront hrest.symm
      exact ⟨hrun, rfl⟩
  · rintro ⟨hrun, rfl⟩
    exact ⟨_, hrun.readWhile rest (by simp), if_neg (Nat.lt_irrefl _)⟩

end

/-! ## Bytes that break off -/

/-- The bytes fall into parts but for the last of them, which is read if the missing bytes stand behind. -/
def BreaksOff (step : σ → Bytes → Except ε (σ × Bytes)) (state : σ) (bytes missing : Bytes) : Prop :=
  ∃ front part middle next, bytes = front ++ part ∧ part ≠ [] ∧ missing ≠ [] ∧ Run step front state middle ∧
    step middle (part ++ missing) = .ok (next, [])

namespace BreaksOff

variable {bytes missing : Bytes} {state : σ}

/-- A reader looks no further than it reads, so it does not read less if bytes are missing. -/
theorem not_run {step : σ → Bytes → Except ε (σ × Bytes)} (hsteady : Steady step)
    (h : BreaksOff step state bytes missing) (last : σ) : ¬ Run step bytes state last := by
  obtain ⟨front, part, middle, next, rfl, hpart, hmissing, hfront, hwhole⟩ := h
  intro hrun
  obtain ⟨next', rest, hstep, -⟩ := (hfront.drop hrun).exists_step hpart
  obtain ⟨read, rfl, htakes⟩ := hsteady.takes hstep
  rw [List.append_assoc, htakes, Except.ok.injEq, Prod.mk.injEq] at hwhole
  exact hmissing (List.append_eq_nil_iff.1 hwhole.2).2

/-- **A part that breaks off is refused where the missing bytes stand behind it**: all that is read is read
well, but past the end. -/
theorem readDelimited {step : σ → Bytes → Except Fault (σ × Bytes)} {length : Bytes} (hsteady : Steady step)
    (h : BreaksOff step state bytes missing) (spells : Varint.Spells Varint.maxLength length bytes.length)
    (behind : Bytes) :
    Wire.readDelimited step state (length ++ (bytes ++ (missing ++ behind))) = .error (.ofCause .overrun) := by
  obtain ⟨front, part, middle, next, rfl, hpart, hmissing, hfront, hwhole⟩ := h
  have hpos := List.length_pos_iff.2 hpart
  have hlost := List.length_pos_iff.2 hmissing
  have htakes : step middle (part ++ (missing ++ behind)) = .ok (next, behind) := by
    obtain ⟨read, hread, htakes⟩ := hsteady.takes hwhole
    rw [List.append_nil] at hread
    rw [← List.append_assoc, hread, htakes]
  have hmore : (missing ++ behind).length < (part ++ (missing ++ behind)).length := by
    simp only [List.length_append]
    omega
  have hpast : behind.length < (missing ++ behind).length := by
    rw [List.length_append]
    omega
  have hfuel : front.length < (front ++ (part ++ (missing ++ behind))).length := by
    simp only [List.length_append]
    omega
  -- the loop comes to the last part, reads it and has passed the stop
  obtain ⟨left, hloop⟩ := hfront.readWhile_append hmore hfuel
  rw [readDelimited_of_spells spells, List.append_assoc, hloop, readWhile_of_step hmore htakes,
    readWhile_of_le hpast.le, ok_bind, if_pos hpast]

end BreaksOff

/-! ## A message in a field -/

/-- Of the fields only that of the number holds anything: this message, and nothing else. -/
inductive Fields.HoldsOnly (inner : Schema) (number : Nat) (part : inner.Record) :
    (fields : Fields) → fields.Record → Prop
  | optional (name : String) (rest : Fields) :
    HoldsOnly inner number part (.cons number name (.message inner.name inner.fields) rest)
      (some part, rest.default)
  | repeated (name : String) (rest : Fields) :
    HoldsOnly inner number part (.cons number name (.repeatedMessage inner.name inner.fields) rest)
      ([part], rest.default)
  | behind {other : Nat} {rest : Fields} {others : rest.Record} (name : String) (type : FieldType)
      (ne : number ≠ other) (holds : HoldsOnly inner number part rest others) :
    HoldsOnly inner number part (.cons other name type rest) (type.default, others)

section

variable {α : Type} {schema inner : Schema} {fields : Fields} {budget number : Nat} {key : Key}
  {front head length body input back : Bytes}

/-- A field under its own number, where nothing was read so far, if reading it is reading a part and storing
what was read. -/
theorem Fields.read_cons_default (type : FieldType) (put : α → type.Value) {name message : String}
    {rest : Fields} {wireType : WireType} {read : Bytes → Except Fault (α × Bytes)}
    (h : type.read budget wireType type.default input = (read input).map fun pair => (put pair.1, pair.2)) :
    (Fields.cons number name type rest).read message budget ⟨number, wireType⟩
        (Fields.cons number name type rest).default input =
      ((read input).mapError (.within ⟨message, name⟩)).map fun pair =>
        ((put pair.1, rest.default), pair.2) := by
  refine (Fields.read_cons_self type.default rest.default).trans ?_
  rw [h]
  cases read input <;> rfl

/-- Where nothing was read so far, the field of a message is read as a part of a given length, and is then the
only one that holds anything. -/
theorem Fields.Holds.read_default (holds : fields.Holds inner number) (message : String) :
    ∃ (name : String) (only : inner.Record → fields.Record),
      (∀ part record, fields.HoldsOnly inner number part record ↔ record = only part) ∧
      ∀ budget input, fields.read message (budget + 1) ⟨number, .delimited⟩ fields.default input =
        ((readDelimited (inner.readField budget) inner.fields.default input).mapError
          (.within ⟨message, name⟩)).map fun read => (only read.1, read.2) := by
  induction holds with
  | optional name rest =>
    refine ⟨name, fun part => (some part, rest.default), fun part record => ⟨fun h => ?_, ?_⟩,
      fun budget input => ?_⟩
    · cases h with
      | optional => rfl
      | behind _ _ ne => exact absurd rfl ne
    · rintro rfl
      exact .optional name rest
    · exact Fields.read_cons_default inner.optional some rfl
  | repeated name rest =>
    refine ⟨name, fun part => ([part], rest.default), fun part record => ⟨fun h => ?_, ?_⟩,
      fun budget input => ?_⟩
    · cases h with
      | repeated => rfl
      | behind _ _ ne => exact absurd rfl ne
    · rintro rfl
      exact .repeated name rest
    · exact Fields.read_cons_default inner.repeated (fun part => [part]) rfl
  | @behind other rest name type ne _ ih =>
    obtain ⟨name', only, honly, hread⟩ := ih
    refine ⟨name', fun part => (type.default, only part), fun part record => ⟨fun h => ?_, ?_⟩,
      fun budget input => ?_⟩
    · cases h with
      | optional | repeated => exact absurd rfl ne
      | behind _ _ _ holds => rw [(honly part _).1 holds]
    · rintro rfl
      exact .behind name type ne ((honly part _).2 rfl)
    · refine (Fields.read_cons_of_ne ne type.default rest.default).trans ?_
      rw [hread]
      cases readDelimited _ _ input <;> rfl

namespace Schema

theorem readField_of_spells (spells : key.Spells head) (budget : Nat) (record : schema.Record)
    (content : Bytes) :
    schema.readField budget record (head ++ content) =
      schema.fields.read schema.name budget key record content := by
  simp only [readField, readKeyed, spells.read, mapError_ok, ok_bind]

/-- **A message sees its own bytes only.** What begins with the field of a message falls into fields if the
bytes of that message do by themselves, one level further in, and if what stands behind can be merged into the
record that holds the message alone. -/
theorem run_delimited_iff (holds : schema.fields.Holds inner number)
    (head_spells : Key.Spells ⟨number, .delimited⟩ head)
    (length_spells : Varint.Spells Varint.maxLength length body.length) {last : schema.Record} :
    Run (schema.readField (budget + 1)) (head ++ (length ++ body) ++ back) schema.fields.default last ↔
      ∃ part only, inner.decodeWithin budget body = .ok part ∧
        schema.fields.HoldsOnly inner number part only ∧
        schema.readInto (budget + 1) only back = .ok last := by
  obtain ⟨name, only, honly, hread⟩ := holds.read_default schema.name
  have hfield := readField_of_spells head_spells (budget + 1) schema.fields.default
    (length ++ (body ++ back))
  have hdelimited {part : inner.Record} {rest : Bytes} :
      readDelimited (inner.readField budget) inner.fields.default (length ++ (body ++ back)) =
        .ok (part, rest) ↔ inner.decodeWithin budget body = .ok part ∧ rest = back := by
    rw [decodeWithin_iff]
    exact readDelimited_eq_ok_iff (inner.steady_readField budget) (inner.shrinks_readField budget)
      length_spells
  rw [hread] at hfield
  simp only [List.append_assoc]
  constructor
  · intro hrun
    obtain ⟨next, rest, hstep, hrest⟩ :=
      hrun.exists_step (List.append_ne_nil_of_left_ne_nil head_spells.2.ne_nil _)
    rw [hfield, map_eq_ok] at hstep
    obtain ⟨⟨part, rest'⟩, hread, heq⟩ := hstep
    cases heq
    obtain ⟨hpart, rfl⟩ := hdelimited.1 (mapError_eq_ok.1 hread)
    exact ⟨part, only part, hpart, (honly part _).2 rfl, readInto_iff.2 hrest⟩
  · rintro ⟨part, record, hpart, hrecord, hback⟩
    obtain rfl := (honly part record).1 hrecord
    refine .of_step (schema.steady_readField _) (schema.shrinks_readField _) ?_ (readInto_iff.1 hback)
    rw [hfield, hdelimited.2 ⟨hpart, rfl⟩]
    rfl

/-- A message that breaks off is an overrun of its field where the missing bytes stand behind it. -/
theorem decodeWithin_of_breaksOff (holds : schema.fields.Holds inner number)
    (head_spells : Key.Spells ⟨number, .delimited⟩ head)
    (length_spells : Varint.Spells Varint.maxLength length body.length) {missing : Bytes}
    (breaksOff : BreaksOff (inner.readField budget) inner.fields.default body missing) :
    ∃ name, ∀ behind, schema.decodeWithin (budget + 1) (head ++ (length ++ body) ++ (missing ++ behind)) =
      .error ⟨[⟨schema.name, name⟩], .overrun⟩ := by
  obtain ⟨name, only, -, hread⟩ := holds.read_default schema.name
  refine ⟨name, fun behind => ?_⟩
  have hfield := readField_of_spells head_spells (budget + 1) schema.fields.default
    (length ++ (body ++ (missing ++ behind)))
  rw [hread, breaksOff.readDelimited (inner.steady_readField budget) length_spells] at hfield
  have hpos := List.length_pos_iff.2 head_spells.2.ne_nil
  obtain ⟨fuel, hfuel⟩ : ∃ fuel, (head ++ (length ++ (body ++ (missing ++ behind)))).length = fuel + 1 :=
    Nat.exists_eq_succ_of_ne_zero (by rw [List.length_append]; omega)
  simp only [List.append_assoc, decodeWithin]
  rw [hfuel, readWhile, if_neg (by omega), hfield]
  rfl

end Schema

/-! ## Fields that run past an end -/

/-- The field of that number is a map. -/
inductive Fields.HoldsMap (number : Nat) : Fields → Prop
  | here (name : String) (rest : Fields) : HoldsMap number (.cons number name .map rest)
  | behind {other : Nat} {rest : Fields} (name : String) (type : FieldType) (ne : number ≠ other)
      (holds : HoldsMap number rest) : HoldsMap number (.cons other name type rest)

/-- A field runs past the end of the message that it stands in: of the whole, or, at any depth, of a message or
a map entry inside. -/
inductive Schema.Overruns : (budget : Nat) → Schema → Bytes → Prop
  | field {budget : Nat} {schema : Schema} {bytes missing : Bytes}
      (breaksOff : BreaksOff (schema.readField budget) schema.fields.default bytes missing) :
    Overruns budget schema bytes
  | message {budget number : Nat} {schema inner : Schema} {front head length body back : Bytes}
      {first : schema.Record} (front_eq : schema.decodeWithin (budget + 1) front = .ok first)
      (holds : schema.fields.Holds inner number) (overruns : Overruns budget inner body)
      (head_spells : Key.Spells ⟨number, .delimited⟩ head)
      (length_spells : Varint.Spells Varint.maxLength length body.length) :
    Overruns (budget + 1) schema (front ++ (head ++ (length ++ body)) ++ back)
  | entry {budget number : Nat} {wireType : WireType} {schema : Schema}
      {front head length body back missing : Bytes} {first : schema.Record}
      (front_eq : schema.decodeWithin (budget + 1) front = .ok first) (holds : schema.fields.HoldsMap number)
      (breaksOff : BreaksOff (fun entry => readKeyed (readEntryField budget entry)) ("", []) body missing)
      (head_spells : Key.Spells ⟨number, wireType⟩ head)
      (length_spells : Varint.Spells Varint.maxLength length body.length) :
    Overruns (budget + 1) schema (front ++ (head ++ (length ++ body)) ++ back)

/-- The field of a map is read as a part of a given length, in whatever state. -/
theorem Fields.HoldsMap.exists_entry (holds : fields.HoldsMap number) {message : String} {wireType : WireType}
    {record next : fields.Record} {rest : Bytes}
    (h : fields.read message (budget + 1) ⟨number, wireType⟩ record input = .ok (next, rest)) :
    ∃ entry, readDelimited (fun entry => readKeyed (readEntryField budget entry)) ("", []) input =
      .ok (entry, rest) := by
  induction holds generalizing rest with
  | here name others =>
    obtain ⟨map, others⟩ := record
    rw [Fields.read_cons_self, FieldType.read_map] at h
    obtain ⟨⟨map', rest'⟩, hmap, heq⟩ := map_eq_ok.1 h
    obtain ⟨⟨entry, rest''⟩, hentry, heq'⟩ := map_eq_ok.1 (mapError_eq_ok.1 hmap)
    cases heq
    cases heq'
    exact ⟨entry, hentry⟩
  | behind name type ne _ ih =>
    obtain ⟨value, others⟩ := record
    rw [Fields.read_cons_of_ne ne] at h
    obtain ⟨⟨others', rest'⟩, hothers, heq⟩ := map_eq_ok.1 h
    cases heq
    exact ih hothers

/-- **Every field that runs past an end is caught**, at whatever depth. -/
theorem Schema.Overruns.not_run {bytes : Bytes} (h : schema.Overruns budget bytes) (last : schema.Record) :
    ¬ Run (schema.readField budget) bytes schema.fields.default last := by
  induction h with
  | @field budget schema _ _ breaksOff => exact breaksOff.not_run (schema.steady_readField budget) last
  | @message budget _ schema _ _ _ _ _ _ _ front_eq holds _ head_spells length_spells ih =>
    intro hrun
    rw [List.append_assoc] at hrun
    have hbehind := (decodeWithin_iff.1 front_eq).drop hrun
    -- what stands there is read in every state, so in that in which nothing was read
    obtain ⟨last', hbehind⟩ := hbehind.from_any (schema.steady_readField (budget + 1)) schema.fields.default
    obtain ⟨part, -, hpart, -⟩ := (run_delimited_iff holds head_spells length_spells).1 hbehind
    exact ih part (decodeWithin_iff.1 hpart)
  | @entry budget _ _ _ _ head _ _ _ _ _ front_eq holds breaksOff head_spells length_spells =>
    intro hrun
    simp only [List.append_assoc] at hrun
    have hnonempty (content : Bytes) : head ++ content ≠ [] :=
      List.append_ne_nil_of_left_ne_nil head_spells.2.ne_nil content
    obtain ⟨next, rest, hstep, -⟩ := ((decodeWithin_iff.1 front_eq).drop hrun).exists_step (hnonempty _)
    rw [readField_of_spells head_spells] at hstep
    obtain ⟨entry, hentry⟩ := holds.exists_entry hstep
    have hsteady := Steady.readKeyed (steady_readEntryField budget)
    have hshrinks := shrinks_readKeyed (steady_readEntryField budget)
    exact breaksOff.not_run hsteady entry ((readDelimited_eq_ok_iff hsteady hshrinks length_spells).1 hentry).1

end

/-! ## Message types -/

namespace Message

variable {α β : Type} [Message α] [Message β]

/-- The message that a byte string encodes, within a nesting budget. -/
def decodeWithin (budget : Nat) (input : Bytes) : Except Fault α :=
  ((schema α).decodeWithin budget input).map ofRecord

/-- The message after the fields in some bytes are merged into it. -/
def readInto (a : α) (input : Bytes) : Except Fault α :=
  ((schema α).readInto maxNesting (toRecord a) input).map ofRecord

/-- The message has one field only, that of the number, and in it one message. -/
def HoldsOnly (number : Nat) (part : β) (a : α) : Prop :=
  (schema α).fields.HoldsOnly (schema β) number (toRecord part) (toRecord a)

variable {budget number : Nat} {input : Bytes}

theorem map_ofRecord_eq_ok {x : Except Fault (schema α).Record} {a : α} :
    x.map ofRecord = .ok a ↔ x = .ok (toRecord a) := by
  rw [map_eq_ok]
  constructor
  · rintro ⟨record, rfl, rfl⟩
    rw [toRecord_ofRecord]
  · rintro rfl
    exact ⟨_, rfl, ofRecord_toRecord a⟩

theorem toRecord_eq_iff {a : α} {record : (schema α).Record} : toRecord a = record ↔ a = ofRecord record := by
  constructor
  · rintro rfl
    exact (ofRecord_toRecord a).symm
  · rintro rfl
    exact toRecord_ofRecord record

theorem decodeWithin_eq_ok_iff {a : α} :
    decodeWithin budget input = .ok a ↔ (schema α).decodeWithin budget input = .ok (toRecord a) :=
  map_ofRecord_eq_ok

theorem readInto_eq_ok_iff {a last : α} :
    readInto a input = .ok last ↔ (schema α).readInto maxNesting (toRecord a) input = .ok (toRecord last) :=
  map_ofRecord_eq_ok

/-- Each message is held alone by one message. -/
theorem exists_only (holds : (schema α).fields.Holds (schema β) number) :
    ∃ only : β → α, ∀ part message, HoldsOnly number part message ↔ message = only part := by
  obtain ⟨-, only, honly, -⟩ := holds.read_default (schema α).name
  refine ⟨fun part => ofRecord (only (toRecord part)), fun part message => ?_⟩
  rw [HoldsOnly, honly, toRecord_eq_iff]

end Message

end Wire

/-! ## One layer -/

namespace Layer

variable {α β : Type} [Message α] [Message β] {layer : Layer} {number : Nat} {head length body back : Bytes}

theorem decode_eq_ok_iff {a : α} :
    layer.decode back = .ok a ↔ Message.decodeWithin maxNesting back = .ok a :=
  mapError_eq_ok

/-- What decodes can be merged into every message. -/
theorem exists_readInto {other : α} (decodes : layer.decode back = .ok other) (a : α) :
    ∃ last, Message.readInto a back = .ok last := by
  have hother := Message.decodeWithin_eq_ok_iff.1 (decode_eq_ok_iff.1 decodes)
  obtain ⟨last, hrun⟩ := Schema.run_of_decodeWithin hother (Message.toRecord a)
  refine ⟨Message.ofRecord last, ?_⟩
  rw [Message.readInto_eq_ok_iff, Message.toRecord_ofRecord, Schema.readInto_iff]
  exact hrun

/-- What begins with the field of a message decodes as what is behind it, merged into that message alone. -/
theorem decode_field_iff (holds : (Message.schema α).fields.Holds (Message.schema β) number)
    (head_spells : Key.Spells ⟨number, .delimited⟩ head)
    (length_spells : Varint.Spells Varint.maxLength length body.length) {a : α} :
    layer.decode (head ++ (length ++ body) ++ back) = .ok a ↔
      ∃ (part : β) (only : α), Message.decodeWithin 99 body = .ok part ∧ Message.HoldsOnly number part only ∧
        Message.readInto only back = .ok a := by
  rw [decode_eq_ok_iff, Message.decodeWithin_eq_ok_iff, Schema.decodeWithin_iff]
  refine (Schema.run_delimited_iff holds head_spells length_spells).trans ⟨?_, ?_⟩
  · rintro ⟨part, only, hpart, honly, hback⟩
    refine ⟨Message.ofRecord part, Message.ofRecord only, ?_, ?_, ?_⟩
    · rwa [Message.decodeWithin_eq_ok_iff, Message.toRecord_ofRecord]
    · rwa [Message.HoldsOnly, Message.toRecord_ofRecord, Message.toRecord_ofRecord]
    · rwa [Message.readInto_eq_ok_iff, Message.toRecord_ofRecord]
  · rintro ⟨part, only, hpart, honly, hback⟩
    exact ⟨_, _, Message.decodeWithin_eq_ok_iff.1 hpart, honly, Message.readInto_eq_ok_iff.1 hback⟩

end Layer

/-- **A message inside a message sees its own bytes only.** Where the field of a message stands in front of
bytes that decode, in whatever layer, the whole decodes if and only if the bytes of that message do by
themselves, within a budget of one less; and then the fields behind it are merged into the message of which it
is the only field. A field that runs past the end of these bytes makes the whole fail, at whatever depth it
stands and whatever stands behind, and if that begins with the bytes that are missing, it is an overrun. -/
theorem Layer.decode_delimited {α β : Type} [Message α] [Message β] {number : Nat}
    {head length body back : Bytes} {other : α}
    (holds : (Message.schema α).fields.Holds (Message.schema β) number) (layer : Layer)
    (head_spells : Key.Spells ⟨number, .delimited⟩ head)
    (length_spells : Varint.Spells Varint.maxLength length body.length)
    (decodes : layer.decode back = .ok other) :
    ((∃ a : α, layer.decode (head ++ (length ++ body) ++ back) = .ok a) ↔
      ∃ part : β, Message.decodeWithin 99 body = .ok part) ∧
    (∀ part : β, Message.decodeWithin 99 body = .ok part →
      ∃ only a : α, (∀ message, Message.HoldsOnly number part message ↔ message = only) ∧
        Message.readInto only back = .ok a ∧ layer.decode (head ++ (length ++ body) ++ back) = .ok a) ∧
    ((Message.schema β).Overruns 99 body →
      ∀ behind, ∃ failure, layer.decode (α := α) (head ++ (length ++ body) ++ behind) = .error failure) ∧
    ∀ missing, BreaksOff ((Message.schema β).readField 99) (Message.schema β).fields.default body missing →
      ∃ name, ∀ behind, layer.decode (α := α) (head ++ (length ++ body) ++ (missing ++ behind)) =
        .error (.malformed layer ⟨[⟨(Message.schema α).name, name⟩], .overrun⟩) := by
  obtain ⟨only, honly⟩ := Message.exists_only holds
  have hvalue (part : β) (hpart : Message.decodeWithin 99 body = .ok part) :
      ∃ a : α, Message.readInto (only part) back = .ok a ∧
        layer.decode (head ++ (length ++ body) ++ back) = .ok a := by
    obtain ⟨a, ha⟩ := exists_readInto decodes (only part)
    refine ⟨a, ha, (decode_field_iff holds head_spells length_spells).2 ?_⟩
    exact ⟨part, only part, hpart, (honly part _).2 rfl, ha⟩
  refine ⟨⟨?_, ?_⟩, ?_, ?_, ?_⟩
  · rintro ⟨a, ha⟩
    obtain ⟨part, -, hpart, -⟩ := (decode_field_iff holds head_spells length_spells).1 ha
    exact ⟨part, hpart⟩
  · rintro ⟨part, hpart⟩
    obtain ⟨a, -, ha⟩ := hvalue part hpart
    exact ⟨a, ha⟩
  · intro part hpart
    obtain ⟨a, ha⟩ := hvalue part hpart
    exact ⟨only part, a, honly part, ha⟩
  · intro overruns behind
    cases hdecode : layer.decode (α := α) (head ++ (length ++ body) ++ behind) with
    | error failure => exact ⟨failure, rfl⟩
    | ok a =>
      obtain ⟨part, -, hpart, -⟩ := (decode_field_iff holds head_spells length_spells).1 hdecode
      have hrun := Schema.decodeWithin_iff.1 (Message.decodeWithin_eq_ok_iff.1 hpart)
      exact absurd hrun (overruns.not_run _)
  · intro missing breaksOff
    obtain ⟨name, hfault⟩ := Schema.decodeWithin_of_breaksOff holds head_spells length_spells breaksOff
    refine ⟨name, fun behind => ?_⟩
    have hdecode : (Message.schema α).decode (head ++ (length ++ body) ++ (missing ++ behind)) = .error _ :=
      hfault behind
    rw [Layer.decode, Message.decode, hdecode]
    rfl

/-- The arguments of a call, under a key and a length that are spelled with more bytes than they need. What
stands behind mentions them again, with a flag that is cleared and one argument more. Arguments of which four
bytes are missing take them from what stands behind, a call that would decode, and are refused. So are
arguments in which the name of a decoration runs past the end of its entry, into the flag that follows. -/
theorem Layer.decode_delimited_arguments :
    let decorations : ByteMap := ⟨[("k", [7])], by decide⟩
    let arguments : ChaincodeInput := { args := [[1]], decorations, isInit := true }
    let only : ChaincodeSpec := { input := some arguments }
    let merged : ChaincodeSpec :=
      { kind := 5, input := some { args := [[1], [2]], decorations, isInit := false } }
    let body : Bytes := [0x0a, 1, 1, 0x12, 6, 0x0a, 1, 0x6b, 0x12, 1, 7, 0x18, 1]
    let back : Bytes := [0x08, 5, 0x1a, 5, 0x18, 0, 0x0a, 1, 2]
    let missing : Bytes := [0x08, 1, 0x20, 9]
    let crossed : Bytes := [0x12, 3, 0x0a, 2, 0x6b, 0x18, 1]
    (Message.decodeWithin 99 body = .ok arguments ∧ Message.HoldsOnly 3 arguments only ∧
      Message.readInto only back = .ok merged ∧
      Layer.chaincodeInvocationSpec.decode ([0x9a, 0] ++ ([0x8d, 0] ++ body) ++ back) = .ok merged) ∧
    (∃ call : ChaincodeSpec, Layer.chaincodeInvocationSpec.decode missing = .ok call) ∧
    (∃ name, Layer.chaincodeInvocationSpec.decode (α := ChaincodeSpec)
        ([0x1a] ++ ([3] ++ [0x0a, 5, 1]) ++ missing) =
      .error (.malformed .chaincodeInvocationSpec ⟨[⟨"ChaincodeSpec", name⟩], .overrun⟩)) ∧
    ∃ failure, Layer.chaincodeInvocationSpec.decode (α := ChaincodeSpec)
        ([0x1a] ++ ([7] ++ crossed) ++ missing) = .error failure := by
  intro decorations arguments only merged body back missing crossed
  have holds : (Message.schema ChaincodeSpec).fields.Holds (Message.schema ChaincodeInput) 3 :=
    .behind "type" .int32 (by decide) (.behind "chaincode_id" _ (by decide) (.optional "input" _))
  have hbody : Message.decodeWithin 99 body = .ok arguments := by decide +kernel
  have hback : Layer.chaincodeInvocationSpec.decode back =
      (.ok { kind := 5, input := some { args := [[2]] } } : Except DecodeFailure ChaincodeSpec) := by
    decide +kernel
  have hmissing : Layer.chaincodeInvocationSpec.decode missing =
      (.ok { kind := 1, timeout := 9 } : Except DecodeFailure ChaincodeSpec) := by
    decide +kernel
  have hkey : Key.Spells ⟨3, .delimited⟩ [0x9a, 0] :=
    ⟨by decide, .more (by decide) (.last (by decide) (by simp))⟩
  have hlength : Varint.Spells Varint.maxLength [0x8d, 0] body.length :=
    .more (by decide) (.last (by decide) (by simp))
  obtain ⟨-, hvalue, -, -⟩ := Layer.decode_delimited holds .chaincodeInvocationSpec hkey hlength hback
  obtain ⟨only', merged', honly, hread, hdecode⟩ := hvalue arguments hbody
  have halone : Message.HoldsOnly 3 arguments only :=
    .behind "type" .int32 (by decide) (.behind "chaincode_id" _ (by decide) (.optional "input" _))
  obtain rfl : only = only' := (honly only).1 halone
  have hmerged : Message.readInto only back = .ok merged := by decide +kernel
  obtain rfl : merged' = merged := Except.ok.inj (hread.symm.trans hmerged)
  -- the last argument is four bytes short
  have hkey' : Key.Spells ⟨3, .delimited⟩ [0x1a] := ⟨by decide, .last (by decide) (by simp)⟩
  have hthree : Varint.Spells Varint.maxLength [3] ([0x0a, 5, 1] : Bytes).length :=
    .last (by decide) (by simp)
  have hbreaksOff : BreaksOff ((Message.schema ChaincodeInput).readField 99)
      (Message.schema ChaincodeInput).fields.default [0x0a, 5, 1] missing :=
    ⟨[], [0x0a, 5, 1], _, ([[1, 0x08, 1, 0x20, 9]], .empty, false, ()), rfl, by simp, by simp [missing],
      .nil _, rfl⟩
  obtain ⟨-, -, -, hoverrun⟩ := Layer.decode_delimited holds .chaincodeInvocationSpec hkey' hthree hmissing
  obtain ⟨name, hfault⟩ := hoverrun missing hbreaksOff
  -- one level further in: the entry ends within the name that it begins with
  have hentry : BreaksOff (fun entry => readKeyed (readEntryField 98 entry)) ("", []) [0x0a, 2, 0x6b] [0x18] :=
    ⟨[], [0x0a, 2, 0x6b], _, ("k\u0018", []), rfl, by simp, by simp, .nil _, by decide +kernel⟩
  have hoverruns : (Message.schema ChaincodeInput).Overruns 99 crossed :=
    @Schema.Overruns.entry 98 2 .delimited _ [] [0x12] [3] _ [0x18, 1] _ _ (by rfl)
      (.behind "args" _ (by decide) (.here "decorations" _)) hentry ⟨by decide, .last (by decide) (by simp)⟩
      (.last (by decide) (by simp))
  have hseven : Varint.Spells Varint.maxLength [7] crossed.length := .last (by decide) (by simp)
  obtain ⟨-, -, hcaught, -⟩ := Layer.decode_delimited holds .chaincodeInvocationSpec hkey' hseven hmissing
  exact ⟨⟨hbody, halone, hread, hdecode⟩, ⟨_, hmissing⟩, ⟨name, hfault []⟩, hcaught hoverruns missing⟩

end ChannelLedger
