import ChannelLedger.Proofs.Wire.Locality

/-!
# Fields that are not declared

A schema declares a part of the fields that other writers know of. A field of any other number is
skipped, in whatever state the record is, so it may stand between any two fields
(`Schema.Padded.between`). It may stand as well between two fields of a message inside the message, at
any depth: the message around it gets another length, and reads the same (`Schema.Padded.decode_eq`).
-/
namespace ChannelLedger.Wire

open Outcome

/-- The bytes are one field that the schema does not declare, key and all. -/
def Schema.Undeclared (schema : Schema) (budget : Nat) (bytes : Bytes) : Prop :=
  ∃ key head content, bytes = head ++ content ∧ Key.Spells key head ∧
    key.number ∉ schema.fields.numbers ∧ IsContent budget key content

/-- A field holds messages of a schema, one or any number of them. -/
inductive Fields.Holds (inner : Schema) (number : Nat) : Fields → Prop
  | optional (name : String) (rest : Fields) :
    Holds inner number (.cons number name (.message inner.name inner.fields) rest)
  | repeated (name : String) (rest : Fields) :
    Holds inner number (.cons number name (.repeatedMessage inner.name inner.fields) rest)
  | behind {other : Nat} {rest : Fields} (name : String) (type : FieldType) (ne : number ≠ other)
      (holds : Holds inner number rest) : Holds inner number (.cons other name type rest)

/-- A field that is not declared was put between two fields of a message, or between two fields of a
message inside it. -/
inductive Schema.Padded : (budget : Nat) → Schema → Bytes → Bytes → Prop
  | between {budget : Nat} {schema : Schema} {front back field : Bytes} {first second : schema.Record}
      (front_eq : schema.decodeWithin budget front = .ok first)
      (back_eq : schema.decodeWithin budget back = .ok second)
      (undeclared : schema.Undeclared budget field) :
    Padded budget schema (front ++ back) (front ++ field ++ back)
  | inside {budget number : Nat} {schema inner : Schema} {front back head length length' body body' : Bytes}
      {first second : schema.Record} (front_eq : schema.decodeWithin (budget + 1) front = .ok first)
      (back_eq : schema.decodeWithin (budget + 1) back = .ok second)
      (holds : schema.fields.Holds inner number) (padded : Padded budget inner body body')
      (head_spells : Key.Spells ⟨number, .delimited⟩ head)
      (length_spells : Varint.Spells Varint.maxLength length body.length)
      (length_spells' : Varint.Spells Varint.maxLength length' body'.length) :
    Padded (budget + 1) schema (front ++ (head ++ (length ++ body)) ++ back)
      (front ++ (head ++ (length' ++ body')) ++ back)

section

variable {schema inner : Schema} {budget number : Nat} {bytes bytes' content : Bytes} {key : Key}

/-! ## Taking a field -/

theorem Fields.takes_head {name message : String} {type : FieldType} {rest : Fields} {wireType : WireType}
    {value next : type.Value} (h : Takes (type.read budget wireType value) bytes next) (others : rest.Record) :
    Takes ((Fields.cons number name type rest).read message budget ⟨number, wireType⟩ (value, others)) bytes
      (next, others) := by
  intro behind
  rw [Fields.read_cons_self, h behind, mapError_ok, map_ok]

theorem Fields.takes_tail {name message : String} {type : FieldType} {rest : Fields} {others next : rest.Record}
    (h : Takes (rest.read message budget key others) bytes next) (hnumber : key.number ≠ number)
    (value : type.Value) :
    Takes ((Fields.cons number name type rest).read message budget key (value, others)) bytes (value, next) := by
  intro behind
  rw [Fields.read_cons_of_ne hnumber, h behind, map_ok]

theorem FieldType.takes_message {old : Option inner.Record} {last : inner.Record}
    (h : Takes (readDelimited (inner.readField budget) (old.getD inner.fields.default)) bytes last) :
    Takes ((FieldType.message inner.name inner.fields).read (budget + 1) .delimited old) bytes (some last) := by
  intro behind
  have hread := h behind
  unfold Schema.readField at hread
  rw [FieldType.read_message, hread, map_ok]

theorem FieldType.takes_repeatedMessage {last : inner.Record}
    (h : Takes (readDelimited (inner.readField budget) inner.fields.default) bytes last)
    (old : List inner.Record) :
    Takes ((FieldType.repeatedMessage inner.name inner.fields).read (budget + 1) .delimited old) bytes
      (old ++ [last]) := by
  intro behind
  have hread := h behind
  unfold Schema.readField at hread
  rw [FieldType.read_repeatedMessage, hread, map_ok]

theorem takes_readKeyed {σ : Type} {field : Key → Bytes → Except Fault (σ × Bytes)} {head : Bytes} {next : σ}
    (hhead : key.Spells head) (htakes : Takes (field key) content next) :
    Takes (readKeyed field) (head ++ content) next := by
  intro behind
  simp only [readKeyed, List.append_assoc, hhead.read, mapError_ok, ok_bind, htakes behind]

/-! ## Between two fields -/

/-- The field of a number that is not declared leaves the record as it is. -/
theorem Fields.takes_undeclared (message : String) (hcontent : IsContent budget key content) :
    (fields : Fields) → (record : fields.Record) → key.number ∉ fields.numbers →
      Takes (fields.read message budget key record) content record
  | .nil, _, _ => fun behind => by
    unfold Fields.read
    rw [skipField_eq_ok.2 ⟨content, rfl, hcontent⟩, mapError_ok, ok_bind]
    rfl
  | .cons number _ _ rest, (value, others), hnumber => by
    unfold Fields.numbers at hnumber
    rw [List.mem_cons, not_or] at hnumber
    exact Fields.takes_tail (Fields.takes_undeclared message hcontent rest others hnumber.2) hnumber.1 value

theorem Schema.Undeclared.run (h : schema.Undeclared budget bytes) (record : schema.Record) :
    Run (schema.readField budget) bytes record record := by
  obtain ⟨key, head, content, rfl, hhead, hnumber, hcontent⟩ := h
  refine .single ?_ (takes_readKeyed hhead (Fields.takes_undeclared _ hcontent _ record hnumber))
  exact List.append_ne_nil_of_left_ne_nil hhead.2.ne_nil content

/-! ## Inside a field -/

/-- From every record the two byte strings are read to the same one. -/
def Schema.Alike (schema : Schema) (budget : Nat) (bytes bytes' : Bytes) : Prop :=
  ∀ record, ∃ last, Run (schema.readField budget) bytes record last ∧ Run (schema.readField budget) bytes' record last

/-- Messages inside a field that are read alike make fields that are read alike. -/
theorem Fields.Holds.takes {fields : Fields} (holds : fields.Holds inner number) (message : String)
    {length length' : Bytes} (alike : inner.Alike budget bytes bytes')
    (spells : Varint.Spells Varint.maxLength length bytes.length)
    (spells' : Varint.Spells Varint.maxLength length' bytes'.length) (record : fields.Record) :
    ∃ next, Takes (fields.read message (budget + 1) ⟨number, .delimited⟩ record) (length ++ bytes) next ∧
      Takes (fields.read message (budget + 1) ⟨number, .delimited⟩ record) (length' ++ bytes') next := by
  have hinner (state : inner.Record) :
      ∃ last, Takes (readDelimited (inner.readField budget) state) (length ++ bytes) last ∧
        Takes (readDelimited (inner.readField budget) state) (length' ++ bytes') last := by
    obtain ⟨last, hrun, hrun'⟩ := alike state
    exact ⟨last, hrun.takes_readDelimited spells.read (UInt64.toNat_ofNat_of_lt' spells.lt).symm,
      hrun'.takes_readDelimited spells'.read (UInt64.toNat_ofNat_of_lt' spells'.lt).symm⟩
  induction holds with
  | optional name rest =>
    obtain ⟨value, others⟩ := record
    obtain ⟨last, htakes, htakes'⟩ := hinner (Option.getD value inner.fields.default)
    exact ⟨(some last, others), takes_head (FieldType.takes_message htakes) others,
      takes_head (FieldType.takes_message htakes') others⟩
  | repeated name rest =>
    obtain ⟨values, others⟩ := record
    obtain ⟨last, htakes, htakes'⟩ := hinner inner.fields.default
    exact ⟨(values ++ [last], others), takes_head (FieldType.takes_repeatedMessage htakes values) others,
      takes_head (FieldType.takes_repeatedMessage htakes' values) others⟩
  | behind name type ne _ ih =>
    obtain ⟨value, others⟩ := record
    obtain ⟨next, htakes, htakes'⟩ := ih others
    exact ⟨(value, next), takes_tail htakes ne value, takes_tail htakes' ne value⟩

/-! ## Messages -/

namespace Schema

theorem run_of_decodeWithin {record : schema.Record} (h : schema.decodeWithin budget bytes = .ok record)
    (other : schema.Record) : ∃ last, Run (schema.readField budget) bytes other last :=
  (decodeWithin_iff.1 h).from_any (schema.steady_readField budget) other

theorem Padded.alike (h : schema.Padded budget bytes bytes') : schema.Alike budget bytes bytes' := by
  induction h with
  | between front_eq back_eq undeclared =>
    intro record
    obtain ⟨middle, hfront⟩ := run_of_decodeWithin front_eq record
    obtain ⟨last, hback⟩ := run_of_decodeWithin back_eq middle
    exact ⟨last, hfront.append hback, (hfront.append (undeclared.run middle)).append hback⟩
  | inside front_eq back_eq holds _ head_spells length_spells length_spells' ih =>
    intro record
    obtain ⟨middle, hfront⟩ := run_of_decodeWithin front_eq record
    obtain ⟨next, htakes, htakes'⟩ := holds.takes _ ih length_spells length_spells' middle
    obtain ⟨last, hback⟩ := run_of_decodeWithin back_eq next
    have hhead (content : Bytes) := List.append_ne_nil_of_left_ne_nil head_spells.2.ne_nil content
    exact ⟨last, (hfront.append (.single (hhead _) (takes_readKeyed head_spells htakes))).append hback,
      (hfront.append (.single (hhead _) (takes_readKeyed head_spells htakes'))).append hback⟩

/-- Padding is transparent: both byte strings decode, as the same message. -/
theorem Padded.decode_eq (h : schema.Padded budget bytes bytes') :
    ∃ record, schema.decodeWithin budget bytes = .ok record ∧ schema.decodeWithin budget bytes' = .ok record := by
  obtain ⟨record, hrun, hrun'⟩ := h.alike schema.fields.default
  exact ⟨record, decodeWithin_iff.2 hrun, decodeWithin_iff.2 hrun'⟩

end Schema

end

end ChannelLedger.Wire
