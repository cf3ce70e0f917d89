import ChannelLedger.Proofs.Slot.RoundTrip

/-!
# Every message survives every encoding of it

The writer emits the entries of a map in one order and another writer may choose any other, at every
depth of a message. All these encodings have one length (`Fields.length_of_encodes`), so it is enough
that the writer's own is not too long; each of them is then read, in whatever layer it stands, as the
message that was written.

Main theorem `Layer.decode_every_encoding`.
-/
namespace ChannelLedger

open Wire

namespace Wire

/-! ## Encodings of one value have one length -/

/-- The length of a field depends on the length of its content alone. -/
theorem length_writeDelimited_congr (number : Nat) {bytes bytes' : Bytes}
    (h : bytes.length = bytes'.length) :
    (writeDelimited number bytes).length = (writeDelimited number bytes').length := by
  simp only [writeDelimited, List.length_append, h]

mutual

theorem FieldType.length_of_encodes : (type : FieldType) → {number : Nat} → {value : type.Value} →
    {bytes : Bytes} → type.Encodes number value bytes →
      bytes.length = (type.write number value).length
  | .int32, _, _, _, h | .int64, _, _, _, h | .uint64, _, _, _, h | .bool, _, _, _, h
  | .string, _, _, _, h | .bytes, _, _, _, h | .repeatedBytes, _, _, _, h => by
    unfold FieldType.Encodes at h
    rw [h]
  | .map, number, value, _, h => by
    unfold FieldType.Encodes at h
    unfold FieldType.write
    obtain ⟨entries, hperm, rfl⟩ := h
    exact (hperm.flatMap_right (writeEntry number)).length_eq
  | .message _ fields, number, none, _, h => by
    unfold FieldType.Encodes at h
    unfold FieldType.write
    rw [h]
  | .message _ fields, number, some record, _, h => by
    unfold FieldType.Encodes at h
    unfold FieldType.write
    obtain ⟨body, hbody, rfl⟩ := h
    exact length_writeDelimited_congr number (Fields.length_of_encodes fields hbody)
  | .repeatedMessage _ fields, number, records, _, h => by
    unfold FieldType.Encodes at h
    unfold FieldType.write
    obtain ⟨bodies, hbodies, rfl⟩ := h
    induction hbodies with
    | nil => rfl
    | cons hbody _ ih =>
      have hfirst := length_writeDelimited_congr number (Fields.length_of_encodes fields hbody)
      rw [List.flatMap_cons, List.flatMap_cons, List.length_append, List.length_append, hfirst, ih]

/-- **An encoding of a record is as long as the writer's.** -/
theorem Fields.length_of_encodes : (fields : Fields) → {record : fields.Record} → {bytes : Bytes} →
    fields.Encodes record bytes → bytes.length = (fields.write record).length
  | .nil, _, _, h => by
    unfold Fields.Encodes at h
    unfold Fields.write
    rw [h]
  | .cons _ _ type rest, (_, _), _, h => by
    unfold Fields.Encodes at h
    unfold Fields.write
    obtain ⟨front, back, hfront, hback, rfl⟩ := h
    rw [List.length_append, List.length_append, FieldType.length_of_encodes type hfront,
      Fields.length_of_encodes rest hback]

end

end Wire

/-! ## One layer -/

/-- **Every message survives every encoding of it**, in every layer. -/
theorem Layer.decode_every_encoding {α : Type} [Message α] (declared : Message.schema α ∈ schemas)
    (layer : Layer) (a : α) (short : (Message.encode a).length < 2 ^ 64) :
    layer.decode (Message.encode a) = .ok a ∧
    ∀ bytes, (Message.schema α).fields.Encodes (Message.toRecord a) bytes →
      layer.decode bytes = .ok a := by
  refine ⟨layer.decode_of_encodes declared (Message.encodes_encode a short), fun bytes h => ?_⟩
  have hlength : bytes.length = (Message.encode a).length := Fields.length_of_encodes _ h
  exact layer.decode_of_encodes declared ⟨h, hlength ▸ short⟩

/-- A call of a negative kind, with an identifier that is present and empty, an empty argument, and
decorations of which one has neither key nor value. The larger key is written in front. -/
theorem Layer.decode_every_encoding_reversed :
    let decorations : ByteMap := ⟨[("", []), ("k", [7])], by decide⟩
    let spec : ChaincodeSpec :=
      { kind := -1, chaincodeId := some {}, input := some { args := [[], [1]], decorations } }
    let input : Bytes := [0x0a, 0, 0x0a, 1, 1] ++ [0x12, 6, 0x0a, 1, 0x6b, 0x12, 1, 7] ++ [0x12, 0]
    let bytes : Bytes := [0x08] ++ List.replicate 9 0xff ++ [1, 0x12, 0, 0x1a, 15] ++ input
    Message.encode spec ≠ bytes ∧
    Layer.chaincodeInvocationSpec.decode (Message.encode spec) = .ok spec ∧
    Layer.chaincodeInvocationSpec.decode bytes = .ok spec := by
  intro decorations spec input bytes
  obtain ⟨hwritten, hevery⟩ := Layer.decode_every_encoding (α := ChaincodeSpec) (by simp [schemas])
    .chaincodeInvocationSpec spec (by decide +kernel)
  have hdecorations : FieldType.map.Encodes 2 decorations
      ([0x12, 6, 0x0a, 1, 0x6b, 0x12, 1, 7] ++ [0x12, 0]) :=
    ⟨decorations.entries.reverse, List.reverse_perm _, rfl⟩
  have hinput : (Message.schema ChaincodeInput).fields.Encodes ([[], [1]], decorations, false, ())
      input :=
    ⟨_, _, rfl, ⟨_, _, hdecorations, Fields.encodes_write _ _, rfl⟩, rfl⟩
  have hspec : (Message.schema ChaincodeSpec).fields.Encodes (Message.toRecord spec) bytes :=
    ⟨_, _, rfl, ⟨_, _, FieldType.encodes_write _ _ _,
      ⟨_, _, ⟨input, hinput, rfl⟩, Fields.encodes_write _ _, rfl⟩, rfl⟩, by decide +kernel⟩
  exact ⟨by decide +kernel, hwritten, hevery bytes hspec⟩

end ChannelLedger
