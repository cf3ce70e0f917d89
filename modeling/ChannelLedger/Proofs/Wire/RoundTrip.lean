import ChannelLedger.Proofs.Text.Utf8
import ChannelLedger.Proofs.Wire.Encoding
import ChannelLedger.Proofs.Wire.Merge
import ChannelLedger.Proofs.Wire.Run

/-!
# Messages survive their encoding

Reading an encoding merges what was written into the record so far, field by field and at every
depth (`Fields.merges`). From the defaults this gives back the record that was written, so every
encoding of a message decodes as that message (`Message.decode_of_encodes`).
-/
namespace ChannelLedger.Wire

open Outcome

/-! ## Lengths -/

theorem length_le_writeDelimited (number : Nat) (bytes : Bytes) :
    bytes.length ≤ (writeDelimited number bytes).length := by
  simp only [writeDelimited, List.length_append]
  omega

theorem length_le_writeBytes (number : Nat) (bytes : Bytes) :
    bytes.length ≤ (writeBytes number bytes).length := by
  unfold writeBytes
  split
  case isTrue hempty => simp [List.isEmpty_iff.1 hempty]
  case isFalse => exact length_le_writeDelimited number bytes

theorem length_le_flatMap {ι : Type} {write : ι → Bytes} {item : ι} {items : List ι}
    (h : item ∈ items) : (write item).length ≤ (items.flatMap write).length := by
  rw [List.flatMap_def]
  exact (List.sublist_flatten_of_mem (List.mem_map_of_mem h)).length_le

/-! ## Single fields -/

theorem readText_write {text : String} (h : (Bytes.ofText text).length < 2 ^ 64)
    (behind : Bytes) :
    readText .delimited (Varint.write (UInt64.ofNat (Bytes.ofText text).length)
      ++ Bytes.ofText text ++ behind) = .ok (text, behind) := by
  simp only [readText, readBytes_write h, ok_bind, Utf8.decode?_ofText, pure_eq]

theorem run_writeDelimited {σ : Type} {read : FieldReader σ} {number : Nat} {bytes : Bytes}
    {state next : σ} (isNumber : Key.IsNumber number)
    (hread : ∀ behind, read state ⟨number, .delimited⟩
      (Varint.write (UInt64.ofNat bytes.length) ++ bytes ++ behind) = .ok (next, behind)) :
    FieldRun read [number] (writeDelimited number bytes) state next := by
  unfold writeDelimited
  rw [List.append_assoc]
  exact .single (List.mem_singleton.2 rfl) isNumber hread

section

variable {α : Type} [DecidableEq α] {number : Nat} {value default : α}

theorem override_eq_ite {p : Prop} [Decidable p] (h : p ↔ value = default) (old : α) :
    override default old value = if p then old else value :=
  if_congr h.symm rfl rfl

/-- A number that is left out when it is zero. -/
theorem run_writeWord {read : FieldReader α} {word : UInt64} (isNumber : Key.IsNumber number)
    (hdefault : word = 0 ↔ value = default)
    (hread : ∀ old behind, read old ⟨number, .varint⟩ (Varint.write word ++ behind)
      = .ok (value, behind)) (old : α) :
    FieldRun read [number] (writeWord number word) old (override default old value) := by
  rw [override_eq_ite hdefault]
  unfold writeWord
  split
  case isTrue => exact .nil old
  case isFalse => exact .single (List.mem_singleton.2 rfl) isNumber (hread old)

/-- A byte string that is left out when it is empty. -/
theorem run_writeBytes {read : FieldReader α} {bytes : Bytes} (isNumber : Key.IsNumber number)
    (hdefault : bytes.isEmpty = true ↔ value = default)
    (hread : ∀ old behind, read old ⟨number, .delimited⟩
      (Varint.write (UInt64.ofNat bytes.length) ++ bytes ++ behind) = .ok (value, behind))
    (old : α) :
    FieldRun read [number] (writeBytes number bytes) old (override default old value) := by
  rw [override_eq_ite hdefault]
  unfold writeBytes
  split
  case isTrue => exact .nil old
  case isFalse => exact run_writeDelimited isNumber (hread old)

end

/-! ## Entries of a map -/

/-- The key and the value of a map entry. -/
theorem run_entry (budget : Nat) (key : String) (value : Bytes)
    (hkey : (Bytes.ofText key).length < 2 ^ 64) (hvalue : value.length < 2 ^ 64) :
    FieldRun (readEntryField budget) [1, 2]
      (writeBytes 1 (Bytes.ofText key) ++ writeBytes 2 value) ("", []) (key, value) := by
  have hkeyRun : FieldRun (fun _ behind input => readText behind.wireType input) [1]
      (writeBytes 1 (Bytes.ofText key)) "" (override "" "" key) :=
    run_writeBytes (by decide) (Utf8.isEmpty_ofText key) (fun _ => readText_write hkey) ""
  have hvalueRun : FieldRun (fun _ behind input => readBytes behind.wireType input) [2]
      (writeBytes 2 value) [] (override [] [] value) :=
    run_writeBytes (by decide) List.isEmpty_iff (fun _ => readBytes_write hvalue) []
  rw [override_default] at hkeyRun hvalueRun
  have hfront : FieldRun (readEntryField budget) [1, 2] (writeBytes 1 (Bytes.ofText key))
      ("", []) (key, []) := by
    refine hkeyRun.lift (fun key => (key, [])) (by simp) ?_
    intro number hnumber wireType state input next rest hread
    rw [List.mem_singleton.1 hnumber]
    simp only at hread
    simp only [readEntryField, hread, ok_bind, pure_eq]
  have hback : FieldRun (readEntryField budget) [1, 2] (writeBytes 2 value)
      (key, []) (key, value) := by
    refine hvalueRun.lift (fun value => (key, value)) (by simp) ?_
    intro number hnumber wireType state input next rest hread
    rw [List.mem_singleton.1 hnumber]
    simp only at hread
    simp only [readEntryField, hread, ok_bind, pure_eq]
  exact hfront.append hback

/-! ## Reading each type -/

namespace FieldType

variable {budget : Nat} {wireType : WireType} {input : Bytes} {name : String} {fields : Fields}

theorem read_int32 (old : Int32) : FieldType.int32.read budget wireType old input
    = (readWord wireType input).map fun read => (read.1.toUInt32.toInt32, read.2) := rfl

theorem read_int64 (old : Int64) : FieldType.int64.read budget wireType old input
    = (readWord wireType input).map fun read => (read.1.toInt64, read.2) := rfl

theorem read_uint64 (old : UInt64) : FieldType.uint64.read budget wireType old input
    = readWord wireType input := rfl

theorem read_bool (old : Bool) : FieldType.bool.read budget wireType old input
    = (readWord wireType input).map fun read => (read.1 != 0, read.2) := rfl

theorem read_string (old : String) : FieldType.string.read budget wireType old input
    = readText wireType input := rfl

theorem read_bytes (old : Bytes) : FieldType.bytes.read budget wireType old input
    = readBytes wireType input := rfl

theorem read_repeatedBytes (old : List Bytes) :
    FieldType.repeatedBytes.read budget wireType old input
      = (readBytes wireType input).map fun read => (old ++ [read.1], read.2) := rfl

theorem read_map (old : ByteMap) : FieldType.map.read (budget + 1) wireType old input
    = (readDelimited (fun entry => readKeyed (readEntryField budget entry)) ("", []) input).map
        fun read => (old.insert read.1.1 read.1.2, read.2) := rfl

theorem read_message (old : Option fields.Record) :
    (FieldType.message name fields).read (budget + 1) .delimited old input
      = (readDelimited (fun record => readKeyed fun key input =>
          fields.read name budget key record input) (Option.getD old fields.default) input).map
            fun read => (some read.1, read.2) := rfl

theorem read_repeatedMessage (old : List fields.Record) :
    (FieldType.repeatedMessage name fields).read (budget + 1) .delimited old input
      = (readDelimited (fun record => readKeyed fun key input =>
          fields.read name budget key record input) fields.default input).map
            fun read => (old ++ [read.1], read.2) := rfl

end FieldType

namespace Fields

variable {number budget : Nat} {name message : String} {type : FieldType} {rest : Fields}
  {wireType : WireType} {input : Bytes}

/-- The first field is read under its own number. -/
theorem read_cons_self (value : type.Value) (others : rest.Record) :
    (Fields.cons number name type rest).read message budget ⟨number, wireType⟩ (value, others) input
      = ((type.read budget wireType value input).mapError (.within ⟨message, name⟩)).map
          fun read => ((read.1, others), read.2) :=
  if_pos rfl

/-- A field under another number is one of those behind the first. -/
theorem read_cons_of_ne {other : Nat} (h : other ≠ number) (value : type.Value)
    (others : rest.Record) :
    (Fields.cons number name type rest).read message budget ⟨other, wireType⟩ (value, others) input
      = (rest.read message budget ⟨other, wireType⟩ others input).map
          fun read => ((value, read.1), read.2) :=
  if_neg h

end Fields

/-! ## Fields of each type -/

/-- The reader of a field of the given type. -/
def FieldType.reader (type : FieldType) (budget : Nat) : FieldReader type.Value :=
  fun value key input => type.read budget key.wireType value input

/-- The reader of a message's fields. -/
def Fields.reader (fields : Fields) (message : String) (budget : Nat) :
    FieldReader fields.Record :=
  fun record key input => fields.read message budget key record input

/-- Reading an encoding of a value merges the value into the one before. -/
def FieldType.Merges (type : FieldType) : Prop :=
  ∀ {number budget : Nat} {value : type.Value} {bytes : Bytes}, Key.IsNumber number →
    type.fits budget = true → type.Encodes number value bytes → bytes.length < 2 ^ 64 →
    ∀ old : type.Value, FieldRun (type.reader budget) [number] bytes old (type.merge old value)

/-- Reading an encoding of a record merges the record into the one before. -/
def Fields.Merges (fields : Fields) : Prop :=
  ∀ (message : String) {budget : Nat} {record : fields.Record} {bytes : Bytes},
    fields.fits budget = true → fields.Encodes record bytes → bytes.length < 2 ^ 64 →
    ∀ old : fields.Record,
      FieldRun (fields.reader message budget) fields.numbers bytes old (fields.merge old record)

namespace FieldType

/-- A number of 32 bits is written with the sign of 64 and read from the low 32. -/
theorem toInt32_word (value : Int32) : value.toInt64.toUInt64.toUInt32.toInt32 = value := by
  have hback := congrArg Int32.toBitVec (Int32.toInt32_toInt64 value)
  rw [← Int32.toBitVec_inj]
  change (value.toBitVec.signExtend 64).setWidth 32 = value.toBitVec
  rw [← BitVec.signExtend_eq_setWidth_of_le _ (by decide)]
  exact hback

theorem merges_int32 : FieldType.int32.Merges := by
  intro number budget value bytes isNumber _ h _ old
  unfold Encodes write at h
  unfold merge
  have hback := toInt32_word value
  rw [h]
  refine run_writeWord isNumber ⟨?_, ?_⟩ ?_ old
  · intro hzero
    rw [← hback, hzero]
    rfl
  · rintro rfl
    rfl
  · intro old behind
    simp only [reader, read_int32, readWord_write, map_ok, hback]

theorem merges_int64 : FieldType.int64.Merges := by
  intro number budget value bytes isNumber _ h _ old
  unfold Encodes write at h
  unfold merge
  have hback := Int64.toInt64_toUInt64 value
  rw [h]
  refine run_writeWord isNumber ⟨?_, ?_⟩ ?_ old
  · intro hzero
    rw [← hback, hzero]
    rfl
  · rintro rfl
    rfl
  · intro old behind
    simp only [reader, read_int64, readWord_write, map_ok, hback]

theorem merges_uint64 : FieldType.uint64.Merges := by
  intro number budget value bytes isNumber _ h _ old
  unfold Encodes write at h
  unfold merge
  rw [h]
  refine run_writeWord isNumber Iff.rfl ?_ old
  intro old behind
  simp only [reader, read_uint64, readWord_write]

theorem merges_bool : FieldType.bool.Merges := by
  intro number budget value bytes isNumber _ h _ old
  unfold Encodes write at h
  unfold merge
  rw [h]
  refine run_writeWord isNumber ?_ ?_ old
  · cases value <;> decide
  · intro old behind
    simp only [reader, read_bool, readWord_write, map_ok]
    cases value <;> rfl

theorem merges_string : FieldType.string.Merges := by
  intro number budget value bytes isNumber _ h hlength old
  unfold Encodes write at h
  unfold merge
  subst h
  have htext := (length_le_writeBytes number (Bytes.ofText value)).trans_lt hlength
  refine run_writeBytes isNumber (Utf8.isEmpty_ofText value) ?_ old
  intro old behind
  simp only [reader, read_string, readText_write htext]

theorem merges_bytes : FieldType.bytes.Merges := by
  intro number budget value bytes isNumber _ h hlength old
  unfold Encodes write at h
  unfold merge
  subst h
  have hbytes := (length_le_writeBytes number value).trans_lt hlength
  refine run_writeBytes isNumber List.isEmpty_iff ?_ old
  intro old behind
  simp only [reader, read_bytes, readBytes_write hbytes]

theorem merges_repeatedBytes : FieldType.repeatedBytes.Merges := by
  intro number budget items bytes isNumber _ h hlength old
  unfold Encodes write at h
  unfold merge
  subst h
  have hfold : old ++ items = items.foldl (fun items item => items ++ [item]) old := by
    rw [List.foldl_append_eq_append, ← List.flatMap_def, List.flatMap_singleton']
  rw [hfold]
  apply FieldRun.flatMap
  intro item hitem old
  have hle := (length_le_writeDelimited number item).trans (length_le_flatMap hitem)
  refine run_writeDelimited isNumber ?_
  intro behind
  simp only [reader, read_repeatedBytes, readBytes_write (hle.trans_lt hlength), map_ok]

theorem merges_map : FieldType.map.Merges := by
  intro number budget map bytes isNumber hfits h hlength old
  obtain ⟨budget, rfl⟩ := fits_map hfits
  unfold Encodes at h
  unfold merge
  obtain ⟨entries, hperm, rfl⟩ := h
  rw [← ByteMap.insertAll_perm hperm]
  apply FieldRun.flatMap
  intro entry hentry old
  have hitem : (writeEntry number entry).length
      ≤ (entries.flatMap (writeEntry number)).length := length_le_flatMap hentry
  have hbody := (length_le_writeDelimited number _).trans_lt (hitem.trans_lt hlength)
  have hparts := hbody
  rw [List.length_append] at hparts
  have hkey := length_le_writeBytes 1 (Bytes.ofText entry.1)
  have hvalue := length_le_writeBytes 2 entry.2
  have hrun := run_entry budget entry.1 entry.2 (by omega) (by omega)
  refine run_writeDelimited isNumber ?_
  intro behind
  simp only [reader, read_map, hrun.readDelimited hbody, map_ok]

theorem merges_message {name : String} {fields : Fields} (ih : fields.Merges) :
    (FieldType.message name fields).Merges := by
  intro number budget value bytes isNumber hfits h hlength old
  obtain ⟨budget, rfl, hfits⟩ := fits_message hfits
  unfold Encodes at h
  unfold merge
  cases value with
  | none =>
    rw [h]
    exact .nil old
  | some record =>
    obtain ⟨body, hbody, rfl⟩ := h
    have hle := (length_le_writeDelimited number body).trans_lt hlength
    have hrun := ih name hfits hbody hle (Option.getD old fields.default)
    refine run_writeDelimited isNumber ?_
    intro behind
    have hread := hrun.readDelimited hle behind
    unfold Fields.reader at hread
    simp only [reader, read_message, hread, map_ok]

theorem merges_repeatedMessage {name : String} {fields : Fields} (ih : fields.Merges) :
    (FieldType.repeatedMessage name fields).Merges := by
  intro number budget records bytes isNumber hfits h hlength old
  obtain ⟨budget, rfl, hfits⟩ := fits_repeatedMessage hfits
  unfold Encodes at h
  unfold merge
  obtain ⟨bodies, hbodies, rfl⟩ := h
  induction hbodies generalizing old with
  | nil =>
    rw [List.append_nil]
    exact .nil old
  | @cons record body records bodies hbody _ ihrest =>
    rw [List.flatMap_cons, List.length_append] at hlength
    have hle : body.length < 2 ^ 64 := by
      have := length_le_writeDelimited number body
      omega
    have hrun := ih name hfits hbody hle fields.default
    rw [Fields.merge_default] at hrun
    have hfirst : FieldRun ((FieldType.repeatedMessage name fields).reader (budget + 1)) [number]
        (writeDelimited number body) old (old ++ [record] : List fields.Record) := by
      refine run_writeDelimited isNumber ?_
      intro behind
      have hread := hrun.readDelimited hle behind
      unfold Fields.reader at hread
      simp only [reader, read_repeatedMessage, hread, map_ok]
    rw [List.flatMap_cons, List.append_cons old record records]
    exact hfirst.append (ihrest (old ++ [record] : List fields.Record) (by omega))

end FieldType

/-! ## Records -/

namespace Fields

section

variable {number budget : Nat} {name message : String} {type : FieldType} {rest : Fields}
  {bytes : Bytes}

/-- The first field of a record is read and the others stay. -/
theorem run_head {old new : type.Value}
    (h : FieldRun (type.reader budget) [number] bytes old new) (others : rest.Record) :
    FieldRun ((Fields.cons number name type rest).reader message budget)
      (number :: rest.numbers) bytes (old, others) (new, others) := by
  refine h.lift (fun value => (value, others)) ?_ ?_
  · intro other hother
    exact List.mem_cons.2 (.inl (List.mem_singleton.1 hother))
  · intro other hother wireType value input next behind hread
    rw [List.mem_singleton.1 hother]
    unfold FieldType.reader at hread
    simp only [reader, read_cons_self, hread, mapError_ok, map_ok]

/-- A field under another number is read and the first stays. -/
theorem run_tail (hfresh : number ∉ rest.numbers) {old new : rest.Record}
    (h : FieldRun (rest.reader message budget) rest.numbers bytes old new) (value : type.Value) :
    FieldRun ((Fields.cons number name type rest).reader message budget)
      (number :: rest.numbers) bytes (value, old) (value, new) := by
  refine h.lift (fun others => (value, others)) ?_ ?_
  · intro other hother
    exact List.mem_cons_of_mem number hother
  · intro other hother wireType others input next behind hread
    have hne : other ≠ number := by
      rintro rfl
      exact hfresh hother
    unfold reader at hread
    simp only [reader, read_cons_of_ne hne, hread, map_ok]

end

theorem merges_nil : Fields.nil.Merges := by
  intro message budget record bytes _ h _ old
  unfold Encodes at h
  rw [h]
  exact .nil old

theorem merges_cons {number : Nat} {name : String} {type : FieldType} {rest : Fields}
    (ihtype : type.Merges) (ihrest : rest.Merges) :
    (Fields.cons number name type rest).Merges := by
  rintro message budget ⟨value, others⟩ bytes hfits h hlength ⟨old, olds⟩
  obtain ⟨isNumber, hfresh, htype, hrest⟩ := fits_cons hfits
  unfold Encodes at h
  unfold merge numbers
  obtain ⟨front, back, hfront, hback, rfl⟩ := h
  rw [List.length_append] at hlength
  have hvalue := ihtype isNumber htype hfront (by omega) old
  have hothers := ihrest message hrest hback (by omega) olds
  exact (run_head hvalue olds).append (run_tail hfresh hothers _)

end Fields

mutual

theorem FieldType.merges : (type : FieldType) → type.Merges
  | .int32 => FieldType.merges_int32
  | .int64 => FieldType.merges_int64
  | .uint64 => FieldType.merges_uint64
  | .bool => FieldType.merges_bool
  | .string => FieldType.merges_string
  | .bytes => FieldType.merges_bytes
  | .repeatedBytes => FieldType.merges_repeatedBytes
  | .map => FieldType.merges_map
  | .message _ fields => FieldType.merges_message (Fields.merges fields)
  | .repeatedMessage _ fields => FieldType.merges_repeatedMessage (Fields.merges fields)

/-- **Reading an encoding of a record merges the record into the one before.** -/
theorem Fields.merges : (fields : Fields) → fields.Merges
  | .nil => Fields.merges_nil
  | .cons _ _ type rest => Fields.merges_cons (FieldType.merges type) (Fields.merges rest)

end

/-! ## Messages -/

/-- Bytes that the fields of a schema take one after the other, from the defaults on, decode. -/
theorem Schema.decode_of_fieldRun {schema : Schema} {bytes : Bytes} {record : schema.Record}
    (h : FieldRun (schema.fields.reader schema.name maxNesting) schema.fields.numbers bytes
      schema.fields.default record) : schema.decode bytes = .ok record := by
  have hread := h.readWhile [] (Nat.le_refl bytes.length)
  rw [List.append_nil] at hread
  exact congrArg (Except.map Prod.fst) hread

/-- An encoding is read as the record it was written from. -/
theorem Schema.decode_of_encodes {schema : Schema} (hfits : schema.fields.fits maxNesting = true)
    {record : schema.Record} {bytes : Bytes} (h : schema.fields.Encodes record bytes)
    (hlength : bytes.length < 2 ^ 64) : schema.decode bytes = .ok record := by
  have hrun := schema.fields.merges schema.name hfits h hlength schema.fields.default
  rw [Fields.merge_default] at hrun
  exact decode_of_fieldRun hrun

/-- **Every encoding of a message decodes as that message.** -/
theorem Message.decode_of_encodes {α : Type} [Message α]
    (hfits : (schema α).fields.fits maxNesting = true) {a : α} {bytes : Bytes}
    (h : Encodes a bytes) : decode bytes = .ok a := by
  have hrecord := Schema.decode_of_encodes hfits h.1 h.2
  simp only [decode, hrecord, map_ok, ofRecord_toRecord]

/-- So does the encoding that is written. -/
theorem Message.decode_encode {α : Type} [Message α] (declared : schema α ∈ schemas) (a : α)
    (short : (encode a).length < 2 ^ 64) : decode (encode a) = .ok a :=
  decode_of_encodes (fits_schemas _ declared) (encodes_encode a short)

end ChannelLedger.Wire
