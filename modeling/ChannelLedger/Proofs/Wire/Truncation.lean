import ChannelLedger.Proofs.Wire.Undeclared

/-!
# Encodings that break off

Nothing marks the end of a message, so bytes may break off inside an encoding and still decode. They do
only between two fields: a reader that begins a field reads it to its end, and bytes that end before it are
no message (`Run.cut`). For a schema none of whose fields is repeated that leaves few possibilities
(`Fields.keep`): the fields in front of the break are those of the record that was written, and the others
hold their defaults.

Main theorem `Schema.decode_cut`; `Message.decode_cut` says the same of a message type.
-/
namespace ChannelLedger.Wire

open Outcome

/-! ## Fronts of a run -/

/-- Bytes that are read, and that break off inside parts which are read one by one in every state, break off
between two of these parts. -/
theorem Run.cut {ε σ : Type} {step : σ → Bytes → Except ε (σ × Bytes)} {parts : List Bytes}
    (hparts : ∀ part ∈ parts, part = [] ∨ ∀ state, ∃ next, Takes (step state) part next) {front : Bytes}
    {state last : σ} (hfront : front <+: parts.flatten) (hrun : Run step front state last) :
    ∃ count, front = (parts.take count).flatten := by
  induction parts generalizing front state with
  | nil => exact ⟨0, List.prefix_nil.1 hfront⟩
  | cons part parts ih =>
    have hrest := fun other hother => hparts other (List.mem_cons_of_mem part hother)
    rcases hparts part List.mem_cons_self with rfl | htakes
    · obtain ⟨count, hcount⟩ := ih hrest hfront hrun
      exact ⟨count + 1, hcount⟩
    cases hrun with
    | nil => exact ⟨0, rfl⟩
    | @cons first rest _ next _ _ htakes' hrun =>
      obtain ⟨next', htakes⟩ := htakes state
      obtain ⟨behind, hbehind⟩ := hfront
      -- what the run takes first is the first part, since the reader looks no further than that
      have hread := htakes parts.flatten
      rw [← List.flatten_cons, ← hbehind, List.append_assoc, htakes' (rest ++ behind), Except.ok.injEq,
        Prod.mk.injEq] at hread
      obtain ⟨rfl, hflatten⟩ := hread
      rw [List.append_assoc, List.flatten_cons, ← hflatten] at hbehind
      have hfirst : first = part := List.append_cancel_right hbehind
      obtain ⟨count, hcount⟩ := ih hrest ⟨behind, hflatten⟩ hrun
      exact ⟨count + 1, by rw [List.take_succ_cons, List.flatten_cons, ← hcount, hfirst]⟩

/-! ## One field at a time -/

/-- The field is written at most once. -/
def FieldType.singular : FieldType → Bool
  | .repeatedBytes | .map | .repeatedMessage _ _ => false
  | _ => true

/-- Every field is written at most once. -/
def Fields.singular : Fields → Bool
  | .nil => true
  | .cons _ _ type rest => type.singular && rest.singular

/-- The fields of a record, each as it is written. -/
def Fields.parts : (fields : Fields) → fields.Record → List Bytes
  | .nil, _ => []
  | .cons number _ type rest, (value, others) => type.write number value :: rest.parts others

/-- The first fields of a record, with the defaults for the others. -/
def Fields.keep : (fields : Fields) → (count : Nat) → fields.Record → fields.Record
  | .nil, _, _ => ()
  | .cons _ _ type rest, 0, (_, others) => (type.default, rest.keep 0 others)
  | .cons _ _ _ rest, count + 1, (value, others) => (value, rest.keep count others)

/-- The bytes are one field under one of the numbers, and are read in every state. -/
def IsField {σ : Type} (read : FieldReader σ) (numbers : List Nat) (bytes : Bytes) : Prop :=
  ∃ key head content, bytes = head ++ content ∧ Key.Spells key head ∧ key.number ∈ numbers ∧
    ∀ state, ∃ next, Takes (read state key) content next

theorem Key.spells_write {number : Nat} (isNumber : Key.IsNumber number) (wireType : WireType) :
    Key.Spells ⟨number, wireType⟩ (Key.write number wireType) := by
  obtain ⟨bytes, hbytes, hspells⟩ := Key.read_eq_ok.1 (Key.read_write isNumber wireType [])
  rwa [List.append_cancel_right hbytes]

section

variable {σ : Type} {read : FieldReader σ} {number budget : Nat} {bytes : Bytes}

theorem isField_writeDelimited (isNumber : Key.IsNumber number)
    (hread : ∀ state, ∃ next, Takes (read state ⟨number, .delimited⟩)
      (Varint.write (UInt64.ofNat bytes.length) ++ bytes) next) :
    IsField read [number] (writeDelimited number bytes) := by
  rw [writeDelimited, List.append_assoc]
  exact ⟨_, _, _, rfl, Key.spells_write isNumber .delimited, List.mem_singleton.2 rfl, hread⟩

theorem eq_nil_or_isField_writeWord (isNumber : Key.IsNumber number) (word : UInt64)
    (hread : ∀ state, ∃ next, Takes (read state ⟨number, .varint⟩) (Varint.write word) next) :
    writeWord number word = [] ∨ IsField read [number] (writeWord number word) := by
  by_cases hzero : word = 0
  · exact .inl (if_pos hzero)
  · rw [writeWord, if_neg hzero]
    exact .inr ⟨_, _, _, rfl, Key.spells_write isNumber .varint, List.mem_singleton.2 rfl, hread⟩

theorem eq_nil_or_isField_writeBytes (isNumber : Key.IsNumber number)
    (hread : ∀ state, ∃ next, Takes (read state ⟨number, .delimited⟩)
      (Varint.write (UInt64.ofNat bytes.length) ++ bytes) next) :
    writeBytes number bytes = [] ∨ IsField read [number] (writeBytes number bytes) := by
  by_cases hempty : bytes.isEmpty
  · exact .inl (if_pos hempty)
  · rw [writeBytes, if_neg hempty]
    exact .inr (isField_writeDelimited isNumber hread)

/-- A number, and what is made of it. -/
theorem takes_word {α : Type} (word : UInt64) (value : UInt64 → α) :
    Takes (fun input => (readWord .varint input).map fun read => (value read.1, read.2)) (Varint.write word)
      (value word) := by
  intro behind
  simp only [readWord_write, map_ok]

/-- A field that is not repeated is left out or is one field. -/
theorem FieldType.write_cases (type : FieldType) (value : type.Value) (singular : type.singular = true)
    (isNumber : Key.IsNumber number) (hfits : type.fits budget = true)
    (short : (type.write number value).length < 2 ^ 64) :
    type.write number value = [] ∨ IsField (type.reader budget) [number] (type.write number value) := by
  cases type with
  | int32 =>
    unfold FieldType.write
    exact eq_nil_or_isField_writeWord isNumber _ fun _ => ⟨_, takes_word _ fun word => word.toUInt32.toInt32⟩
  | int64 =>
    unfold FieldType.write
    exact eq_nil_or_isField_writeWord isNumber _ fun _ => ⟨_, takes_word _ UInt64.toInt64⟩
  | uint64 =>
    unfold FieldType.write
    exact eq_nil_or_isField_writeWord isNumber _ fun _ => ⟨_, readWord_write _⟩
  | bool =>
    unfold FieldType.write
    exact eq_nil_or_isField_writeWord isNumber _ fun _ => ⟨_, takes_word _ (· != 0)⟩
  | string =>
    unfold FieldType.write at short ⊢
    have htext := (length_le_writeBytes number (Bytes.ofText value)).trans_lt short
    refine eq_nil_or_isField_writeBytes isNumber fun state => ⟨value, fun behind => ?_⟩
    simp only [reader, read_string, readText_write htext]
  | bytes =>
    unfold FieldType.write at short ⊢
    have hbytes := (length_le_writeBytes number value).trans_lt short
    refine eq_nil_or_isField_writeBytes isNumber fun state => ⟨value, fun behind => ?_⟩
    simp only [reader, read_bytes, readBytes_write hbytes]
  | message name fields =>
    unfold FieldType.write at short ⊢
    cases value with
    | none => exact .inl rfl
    | some record =>
      obtain ⟨budget, rfl, hfits⟩ := fits_message hfits
      have hbody := (length_le_writeDelimited number (fields.write record)).trans_lt short
      refine .inr (isField_writeDelimited isNumber fun old => ?_)
      have hrun := fields.merges name hfits (fields.encodes_write record) hbody
        (Option.getD old fields.default)
      refine ⟨some (fields.merge (Option.getD old fields.default) record), fun behind => ?_⟩
      have hread := hrun.readDelimited hbody behind
      unfold Fields.reader at hread
      simp only [reader, read_message, hread, map_ok]
  | repeatedBytes | map | repeatedMessage => cases singular

theorem IsField.head {name message : String} {type : FieldType} {rest : Fields}
    (h : IsField (type.reader budget) [number] bytes) :
    IsField ((Fields.cons number name type rest).reader message budget)
      (Fields.cons number name type rest).numbers bytes := by
  obtain ⟨⟨other, wireType⟩, head, content, rfl, hhead, hnumber, hall⟩ := h
  obtain rfl : other = number := List.mem_singleton.1 hnumber
  refine ⟨_, head, content, rfl, hhead, List.mem_cons_self, fun (old, others) => ?_⟩
  obtain ⟨next, htakes⟩ := hall old
  exact ⟨(next, others), Fields.takes_head htakes others⟩

theorem IsField.tail {name message : String} {type : FieldType} {rest : Fields}
    (hfresh : number ∉ rest.numbers) (h : IsField (rest.reader message budget) rest.numbers bytes) :
    IsField ((Fields.cons number name type rest).reader message budget)
      (Fields.cons number name type rest).numbers bytes := by
  obtain ⟨key, head, content, rfl, hhead, hnumber, hall⟩ := h
  have hne : key.number ≠ number := fun heq => hfresh (heq ▸ hnumber)
  refine ⟨key, head, content, rfl, hhead, List.mem_cons_of_mem number hnumber, fun (old, others) => ?_⟩
  obtain ⟨next, htakes⟩ := hall others
  exact ⟨(old, next), Fields.takes_tail htakes hne old⟩

end

namespace Fields

theorem parts_cases (message : String) {budget : Nat} : (fields : Fields) → (record : fields.Record) →
    fields.singular = true → fields.fits budget = true → (fields.write record).length < 2 ^ 64 →
    ∀ part ∈ fields.parts record, part = [] ∨ IsField (fields.reader message budget) fields.numbers part
  | .nil, _, _, _, _ => fun part hpart => by
    unfold parts at hpart
    cases hpart
  | .cons number name type rest, (value, others), hsingular, hfits, short => fun part hpart => by
    unfold singular at hsingular
    rw [Bool.and_eq_true] at hsingular
    obtain ⟨isNumber, hfresh, htype, hrest⟩ := fits_cons hfits
    unfold write at short
    rw [List.length_append] at short
    unfold parts at hpart
    rcases List.mem_cons.1 hpart with rfl | hpart
    · exact (type.write_cases value hsingular.1 isNumber htype (by omega)).imp_right IsField.head
    · exact (parts_cases message rest others hsingular.2 hrest (by omega) part hpart).imp_right
        (IsField.tail hfresh)

/-! ## The first fields -/

/-- Fields that hold their defaults are left out. -/
theorem write_keep : (fields : Fields) → (count : Nat) → (record : fields.Record) →
    fields.write (fields.keep count record) = ((fields.parts record).take count).flatten
  | .nil, count, _ => by
    unfold write parts
    rw [List.take_nil]
    rfl
  | .cons number _ type rest, 0, (value, others) => by
    have htype : type.write number type.default = [] := by
      cases type <;> unfold FieldType.write FieldType.default <;> rfl
    unfold keep write
    rw [htype, write_keep rest 0 others]
    rfl
  | .cons _ _ _ rest, count + 1, (value, others) => by
    unfold keep write parts
    rw [write_keep rest count others]
    rfl

theorem flatten_parts : (fields : Fields) → (record : fields.Record) →
    (fields.parts record).flatten = fields.write record
  | .nil, _ => by
    unfold write parts
    rfl
  | .cons _ _ _ rest, (value, others) => by
    unfold write parts
    rw [List.flatten_cons, flatten_parts rest others]

end Fields

/-! ## Messages -/

/-- **An encoding that breaks off is no message, or it breaks off between two fields.** Then it is the
encoding of the fields in front, and is read as such. -/
theorem Schema.decode_cut {schema : Schema} (singular : schema.fields.singular = true)
    (hfits : schema.fields.fits maxNesting = true) {record other : schema.Record} {front : Bytes}
    (short : (schema.encode record).length < 2 ^ 64) (hfront : front <+: schema.encode record)
    (h : schema.decode front = .ok other) :
    ∃ count, front = schema.encode (schema.fields.keep count record) ∧
      other = schema.fields.keep count record := by
  have hparts : ∀ part ∈ schema.fields.parts record,
      part = [] ∨ ∀ state, ∃ next, Takes (schema.readField maxNesting state) part next := by
    intro part hpart
    refine (schema.fields.parts_cases schema.name record singular hfits short part hpart).imp_right ?_
    rintro ⟨key, head, content, rfl, hhead, -, hall⟩ state
    obtain ⟨next, htakes⟩ := hall state
    exact ⟨next, takes_readKeyed hhead htakes⟩
  obtain ⟨count, hcount⟩ := Run.cut hparts
    ((schema.fields.flatten_parts record).symm ▸ hfront) (Schema.decode_iff.1 h)
  rw [← schema.fields.write_keep count record] at hcount
  refine ⟨count, hcount, ?_⟩
  have hkept := Schema.decode_of_encodes hfits (schema.fields.encodes_write _)
    (hcount ▸ hfront.length_le.trans_lt short)
  rw [hcount, hkept, Except.ok.injEq] at h
  exact h.symm

namespace Message

variable {α : Type} [Message α]

/-- The message with only the first of its fields. -/
def keep (count : Nat) (a : α) : α :=
  ofRecord ((schema α).fields.keep count (toRecord a))

theorem decode_cut (declared : schema α ∈ schemas) (singular : (schema α).fields.singular = true)
    {a other : α} {front : Bytes} (short : (encode a).length < 2 ^ 64) (hfront : front <+: encode a)
    (h : decode front = .ok other) : ∃ count, front = encode (keep count a) ∧ other = keep count a := by
  obtain ⟨record, hrecord, rfl⟩ := map_eq_ok.1 h
  obtain ⟨count, hcount, rfl⟩ := Schema.decode_cut singular (fits_schemas _ declared) short hfront hrecord
  exact ⟨count, by rw [encode, keep, toRecord_ofRecord, hcount], rfl⟩

end Message

end ChannelLedger.Wire
