import ChannelLedger.Proofs.Slot.EntryOrder

/-!
# Encodings one behind the other

A writer may send a message in pieces, each of them an encoding of its own, and a reader takes what stands
one behind the other for one message. What that message holds is said field by field and without the reader
(`FieldType.Merged`, `Fields.Merged`): one thing gives way to a later one that is not the default, lists
follow each other, the entries of a map replace those of the same key, and messages that are there twice are
merged in their turn. Any two records have exactly one merge (`Fields.merged_iff`), and it is what the two
encodings are read as, in whatever order either of them lists the entries of its maps.

Main theorem `Layer.decode_concatenated`.
-/
namespace ChannelLedger

open Wire Outcome

namespace Wire

/-! ## What two values come to -/

/-- Of two things the second, unless it is the default. -/
def IsLatest {α : Type} (default first second result : α) : Prop :=
  (second ≠ default → result = second) ∧ (second = default → result = first)

/-- A map with the entries of a second one put over its own. -/
def ByteMap.IsOverridden (first second result : ByteMap) : Prop :=
  ∀ entry, entry ∈ result.entries ↔
    entry ∈ second.entries ∨ entry ∈ first.entries ∧ ∀ other ∈ second.entries, other.1 ≠ entry.1

mutual

/-- What the values of a field in two messages come to, if one message stands behind the other. -/
def FieldType.Merged : (type : FieldType) → (first second result : type.Value) → Prop
  | .int32, first, second, result => IsLatest (0 : Int32) first second result
  | .int64, first, second, result => IsLatest (0 : Int64) first second result
  | .uint64, first, second, result => IsLatest (0 : UInt64) first second result
  | .bool, first, second, result => IsLatest false first second result
  | .string, first, second, result => IsLatest "" first second result
  | .bytes, first, second, result => IsLatest ([] : Bytes) first second result
  | .repeatedBytes, first, second, result => result = (first ++ second : List Bytes)
  | .map, first, second, result => ByteMap.IsOverridden first second result
  | .message _ fields, first, second, result =>
    match first, second with
    | none, second => result = second
    | some first, none => result = some first
    | some first, some second => ∃ record, fields.Merged first second record ∧ result = some record
  | .repeatedMessage _ fields, first, second, result => result = (first ++ second : List fields.Record)

/-- What two records come to, field by field. -/
def Fields.Merged : (fields : Fields) → (first second result : fields.Record) → Prop
  | .nil, _, _, _ => True
  | .cons _ _ type rest, (first, firsts), (second, seconds), (result, results) =>
    type.Merged first second result ∧ rest.Merged firsts seconds results

end

/-- What two messages come to. -/
def Message.Merged {α : Type} [Message α] (first second result : α) : Prop :=
  (schema α).fields.Merged (toRecord first) (toRecord second) (toRecord result)

/-! ## There is one merge -/

theorem isLatest_iff {α : Type} [DecidableEq α] {default first second result : α} :
    IsLatest default first second result ↔ result = override default first second := by
  unfold IsLatest override
  split
  case isTrue h => simp [h]
  case isFalse h => simp [h]

theorem ByteMap.isOverridden_iff {first second result : ByteMap} :
    IsOverridden first second result ↔ result = first.merge second := by
  have hmerge : IsOverridden first second (first.merge second) := mem_insertAll second.distinct_entries first
  refine ⟨fun h => eq_of_mem_iff fun entry => (h entry).trans (hmerge entry).symm, ?_⟩
  rintro rfl
  exact hmerge

mutual

theorem FieldType.merged_iff : (type : FieldType) → {first second result : type.Value} →
    (type.Merged first second result ↔ result = type.merge first second)
  | .int32, _, _, _ | .int64, _, _, _ | .uint64, _, _, _ | .bool, _, _, _ | .string, _, _, _
  | .bytes, _, _, _ => by
    unfold FieldType.Merged FieldType.merge
    exact isLatest_iff
  | .repeatedBytes, _, _, _ | .repeatedMessage _ _, _, _, _ => by
    unfold FieldType.Merged FieldType.merge
    exact Iff.rfl
  | .map, _, _, _ => by
    unfold FieldType.Merged FieldType.merge
    exact ByteMap.isOverridden_iff
  | .message _ fields, none, none, _ => by
    unfold FieldType.Merged FieldType.merge
    exact Iff.rfl
  | .message _ fields, none, some second, _ => by
    -- a message that is there once only is merged with the defaults, which leave no trace
    unfold FieldType.Merged FieldType.merge
    simp only [Option.getD_none, Fields.merge_default]
  | .message _ fields, some first, none, _ => by
    unfold FieldType.Merged FieldType.merge
    exact Iff.rfl
  | .message _ fields, some first, some second, _ => by
    unfold FieldType.Merged FieldType.merge
    simp only [Fields.merged_iff fields, exists_eq_left, Option.getD_some]

/-- **Two records have one merge.** -/
theorem Fields.merged_iff : (fields : Fields) → {first second result : fields.Record} →
    (fields.Merged first second result ↔ result = fields.merge first second)
  | .nil, _, _, () => by
    unfold Fields.Merged
    exact ⟨fun _ => rfl, fun _ => trivial⟩
  | .cons _ _ type rest, (_, _), (_, _), (_, _) => by
    unfold Fields.Merged Fields.merge
    rw [FieldType.merged_iff type, Fields.merged_iff rest, Prod.mk.injEq]

end

/-! ## Reading one behind the other -/

/-- **Two encodings, one behind the other, are read as the merge of their records.** -/
theorem Schema.decode_append_of_encodes {schema : Schema}
    (hfits : schema.fields.fits maxNesting = true) {first second : schema.Record} {front back : Bytes}
    (hfront : schema.fields.Encodes first front) (hback : schema.fields.Encodes second back)
    (hfrontLength : front.length < 2 ^ 64) (hbackLength : back.length < 2 ^ 64) :
    schema.decode (front ++ back) = .ok (schema.fields.merge first second) := by
  have hfirst := schema.fields.merges schema.name hfits hfront hfrontLength schema.fields.default
  rw [Fields.merge_default] at hfirst
  have hsecond := schema.fields.merges schema.name hfits hback hbackLength first
  exact decode_of_fieldRun (hfirst.append hsecond)

end Wire

/-! ## One layer -/

/-- **What stands one behind the other is merged.** For any two messages of a type, their encodings one
behind the other are read, in every layer, as the one merge of the two, whichever encodings they are. -/
theorem Layer.decode_concatenated {α : Type} [Message α] (declared : Message.schema α ∈ schemas)
    (layer : Layer) (first second : α) (short : (Message.encode first).length < 2 ^ 64)
    (short' : (Message.encode second).length < 2 ^ 64) :
    ∃ merged : α, (∀ result, Message.Merged first second result ↔ result = merged) ∧
      layer.decode (Message.encode first ++ Message.encode second) = .ok merged ∧
      ∀ front back, (Message.schema α).fields.Encodes (Message.toRecord first) front →
        (Message.schema α).fields.Encodes (Message.toRecord second) back →
        layer.decode (front ++ back) = .ok merged := by
  let record := (Message.schema α).fields.merge (Message.toRecord first) (Message.toRecord second)
  have hdecode : ∀ front back, (Message.schema α).fields.Encodes (Message.toRecord first) front →
      (Message.schema α).fields.Encodes (Message.toRecord second) back →
      layer.decode (front ++ back) = .ok (Message.ofRecord record : α) := by
    intro front back hfront hback
    have hlength : front.length = (Message.encode first).length := Fields.length_of_encodes _ hfront
    have hlength' : back.length = (Message.encode second).length := Fields.length_of_encodes _ hback
    have hrecord := Schema.decode_append_of_encodes (fits_schemas _ declared) hfront hback
      (hlength ▸ short) (hlength' ▸ short')
    simp only [Layer.decode, Message.decode, hrecord, map_ok, mapError_ok, record]
  refine ⟨Message.ofRecord record, fun result => ?_,
    hdecode _ _ (Fields.encodes_write _ _) (Fields.encodes_write _ _), hdecode⟩
  rw [Message.Merged, Fields.merged_iff]
  constructor
  · intro h
    rw [← Message.ofRecord_toRecord result, h]
  · rintro rfl
    exact Message.toRecord_ofRecord record

/-- Two calls that have an identifier and arguments each: numbers and texts of the second count where it has
any, the arguments follow each other, and one of its two decorations replaces one of the first. -/
theorem Layer.decode_concatenated_calls :
    let first : ChaincodeSpec := {
      kind := -1, chaincodeId := some { name := "basic", version := "1" }
      input := some { args := [[1], []], decorations := ⟨[("a", [1]), ("k", [7])], by decide⟩ } }
    let second : ChaincodeSpec := {
      chaincodeId := some { version := "2" }
      input := some { args := [[2]], decorations := ⟨[("", [5]), ("k", [])], by decide⟩, isInit := true }
      timeout := 9 }
    let merged : ChaincodeSpec := {
      kind := -1, chaincodeId := some { name := "basic", version := "2" }
      input := some { args := [[1], [], [2]], isInit := true
                      decorations := ⟨[("", [5]), ("a", [1]), ("k", [])], by decide⟩ }
      timeout := 9 }
    Layer.chaincodeInvocationSpec.decode (Message.encode first ++ Message.encode second) = .ok merged ∧
    Message.Merged first second merged := by
  intro first second merged
  obtain ⟨record, hmerged, hdecode, -⟩ := Layer.decode_concatenated (α := ChaincodeSpec)
    (by simp [schemas]) .chaincodeInvocationSpec first second (by decide +kernel) (by decide +kernel)
  have heq : Layer.chaincodeInvocationSpec.decode (Message.encode first ++ Message.encode second) =
      (.ok merged : Except DecodeFailure ChaincodeSpec) := by
    decide +kernel
  obtain rfl : record = merged := Except.ok.inj (hdecode.symm.trans heq)
  exact ⟨hdecode, (hmerged merged).2 rfl⟩

end ChannelLedger
