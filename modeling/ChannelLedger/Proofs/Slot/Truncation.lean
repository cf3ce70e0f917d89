import ChannelLedger.Proofs.Slot.FirstFault
import ChannelLedger.Proofs.Wire.Truncation

/-!
# Slots that break off

An envelope has two fields, the payload and the signature. Bytes that break off inside either are no
envelope, and nothing of what a slot says is read from the signature. So what remains is the break in front
of the payload, after which there is no header to be found, and the one behind it, after which nothing is
missing that was going to be read.

Main theorem `TransactionRecord.ofSlot_cut`.
-/
namespace ChannelLedger

open Wire Outcome

/-- The fields of an envelope up to a break. -/
theorem Envelope.keep_cases (count : Nat) (envelope : Envelope) :
    Message.keep count envelope = {} ∨ (Message.keep count envelope).payload = envelope.payload := by
  match count with
  | 0 => exact .inl rfl
  | 1 | _ + 2 => exact .inr rfl

namespace EnvelopeLayers

variable {raw raw' : Bytes} {envelope envelope' : Envelope}

/-- Only the payload is looked into. -/
theorem decode_congr (h : Message.decode raw = .ok envelope) (h' : Message.decode raw' = .ok envelope')
    (payload_eq : envelope.payload = envelope'.payload) : decode raw = decode raw' := by
  simp only [decode, Layer.decode_ok h, Layer.decode_ok h', ok_bind, payload_eq]

theorem decode_of_empty (h : Message.decode raw = .ok ({} : Envelope)) :
    decode raw = .error (.missing .payload "header") := by
  have hpayload : Message.decode [] = .ok ({} : Payload) := rfl
  simp only [decode, Layer.decode_ok h, Layer.decode_ok hpayload, ok_bind, throw_eq]

/-- The layers of a slot that breaks off are those of the whole slot, or are not there. -/
theorem decode_cut {front : Bytes} {layers : EnvelopeLayers}
    (short : (Message.encode envelope).length < 2 ^ 64) (hfront : front <+: Message.encode envelope)
    (h : decode front = .ok layers) :
    decode (Message.encode envelope) = .ok layers := by
  have hwhole : Message.decode (Message.encode envelope) = .ok envelope :=
    Message.decode_encode (by simp [schemas]) envelope short
  cases hcut : Message.decode (α := Envelope) front with
  | error fault =>
    simp only [decode, Layer.decode, hcut, mapError_error, error_bind] at h
    cases h
  | ok other =>
    obtain ⟨count, -, rfl⟩ := Message.decode_cut (by simp [schemas]) rfl short hfront hcut
    rcases envelope.keep_cases count with hkeep | hkeep
    · rw [decode_of_empty (hkeep ▸ hcut)] at h
      cases h
    · rw [← decode_congr hcut hwhole hkeep, h]

end EnvelopeLayers

/-- **A slot that breaks off never says anything else.** It is refused, or it holds the transaction of the
whole slot; and so do its layers. -/
theorem TransactionRecord.ofSlot_cut (envelope : Envelope) {front : Bytes}
    (short : (Message.encode envelope).length < 2 ^ 64) (hfront : front <+: Message.encode envelope) :
    ((∃ failure, ofSlot front = .error failure) ∨
      ∃ record, ofSlot front = .ok record ∧ ofSlot (Message.encode envelope) = .ok record) ∧
    ((∃ failure, EnvelopeLayers.decode front = .error failure) ∨
      ∃ layers, EnvelopeLayers.decode front = .ok layers ∧
        EnvelopeLayers.decode (Message.encode envelope) = .ok layers) := by
  cases hlayers : EnvelopeLayers.decode front with
  | error failure =>
    have hslot : ofSlot front = .error failure := by rw [ofSlot, hlayers, error_bind]
    exact ⟨.inl ⟨failure, hslot⟩, .inl ⟨failure, rfl⟩⟩
  | ok layers =>
    have hwhole := EnvelopeLayers.decode_cut short hfront hlayers
    have hslot : ofSlot front = ofSlot (Message.encode envelope) := by rw [ofSlot, ofSlot, hlayers, hwhole]
    refine ⟨?_, .inr ⟨layers, rfl, hwhole⟩⟩
    cases hrecord : ofSlot front with
    | error failure => exact .inl ⟨failure, rfl⟩
    | ok record => exact .inr ⟨record, rfl, hslot ▸ hrecord⟩

/-- Behind the payload nothing is missing: a slot that configures the channel is read although its signature
is not there. -/
theorem TransactionRecord.ofSlot_cut_signature :
    let payload : Bytes := [0x0a, 0x06, 0x0a, 0x04, 0x08, 0x01, 0x1a, 0x00]
    let front : Bytes := 0x0a :: 0x08 :: payload
    let whole : Bytes := Message.encode { payload := payload, signature := [0x01] : Envelope }
    (∃ record, ofSlot front = .ok record ∧ ofSlot whole = .ok record) ∧
      ∃ layers, EnvelopeLayers.decode front = .ok layers ∧ EnvelopeLayers.decode whole = .ok layers := by
  intro payload front whole
  have hread : (ofSlot front).toOption.isSome = true := by decide +kernel
  have hlayers : EnvelopeLayers.decode front =
      .ok ⟨{ kind := 1, timestamp := some ⟨0, 0⟩ }, {}, {}, []⟩ := rfl
  have hfront : front <+: whole := ⟨[0x12, 0x01, 0x01], by decide⟩
  obtain ⟨hslot, hcut⟩ := ofSlot_cut _ (by decide) hfront
  constructor
  · refine hslot.resolve_left ?_
    rintro ⟨failure, herror⟩
    rw [herror] at hread
    cases hread
  · refine hcut.resolve_left ?_
    rintro ⟨failure, herror⟩
    rw [hlayers] at herror
    cases herror

end ChannelLedger
