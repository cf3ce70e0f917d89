import ChannelLedger.Proofs.Slot.FirstFault
import ChannelLedger.Proofs.Wire.Undeclared

/-!
# Fields that no layer declares

The messages of a slot declare a part of what other writers put into them, so a slot carries fields
that are skipped, at every depth. `Layer.Padded` puts such a field into the message of one layer; the
layers around it are written anew, in any encoding, with the new bytes in the place of the old ones.

What a slot says does not change. For this each layer has a reading of its own (`TransactionRecord.ofPayload`
and so on, down to the sets of a namespace), which mentions the layers inside it only through their
readings; `Layer.SameReading` collects them, and padding keeps them from the inside out.

Nothing padded is the marker that stands for no effects, and nothing is padded into it: the marker is no
response.

Main theorem `TransactionRecord.undeclared_transparent`.
-/
namespace ChannelLedger

open Wire Outcome

/-! ## Readings of the layers -/

/-- What the signature header says: the nonce, and the creator that it holds. -/
def SignatureHeader.readSigner (bytes : Bytes) : Except DecodeFailure (Bytes × SerializedIdentity) := do
  let signatureHeader : SignatureHeader ← Layer.signatureHeader.decode bytes
  let creator ← Layer.serializedIdentity.decode signatureHeader.creator
  return (signatureHeader.nonce, creator)

/-- The call that a proposal holds. -/
def ChaincodeProposalPayload.readSpec (bytes : Bytes) : Except DecodeFailure (Option ChaincodeSpec) := do
  let proposal : ChaincodeProposalPayload ← Layer.chaincodeProposalPayload.decode bytes
  let invocation : ChaincodeInvocationSpec ← Layer.chaincodeInvocationSpec.decode proposal.input
  return invocation.chaincodeSpec

namespace TransactionRecord

/-- Adds the effects that a chaincode action holds. -/
def addAction (tx : TransactionRecord) (bytes : Bytes) : Except DecodeFailure TransactionRecord := do
  let action : ChaincodeAction ← Layer.chaincodeAction.decode bytes
  tx.withEffects (some action)

/-- Adds the effects that a response holds, if it is one. -/
def addResponse (tx : TransactionRecord) (bytes : Bytes) : Except DecodeFailure TransactionRecord := do
  if bytes = noEffectsMarker then tx.withEffects none
  else
    let response : ProposalResponsePayload ← Layer.proposalResponsePayload.decode bytes
    tx.addAction response.extension

/-- Adds the call and the effects of an action. -/
def addActionPayload (tx : TransactionRecord) (bytes : Bytes) : Except DecodeFailure TransactionRecord := do
  let payload : ChaincodeActionPayload ← Layer.chaincodeActionPayload.decode bytes
  let spec ← ChaincodeProposalPayload.readSpec payload.chaincodeProposalPayload
  let some endorsed := payload.action | throw (.missing .chaincodeActionPayload "action")
  (tx.withCall spec).addResponse endorsed.proposalResponsePayload

/-- Adds what the first action of a transaction holds. -/
def addTransaction (tx : TransactionRecord) (bytes : Bytes) : Except DecodeFailure TransactionRecord := do
  let transaction : Transaction ← Layer.transaction.decode bytes
  let some first := transaction.actions.head? | throw .noActions
  tx.addActionPayload first.payload

/-- The transaction that a payload holds. Of the outer layers, the record needs no bytes of the inner
ones. -/
def ofPayload (bytes : Bytes) : Except DecodeFailure TransactionRecord := do
  let payload : Payload ← Layer.payload.decode bytes
  let some header := payload.header | throw (.missing .payload "header")
  let channelHeader : ChannelHeader ← Layer.channelHeader.decode header.channelHeader
  let (nonce, creator) ← SignatureHeader.readSigner header.signatureHeader
  let layers : EnvelopeLayers := ⟨channelHeader, { nonce }, creator, []⟩
  let createdAt ← channelHeader.createdAt
  let caller ← layers.caller
  let tx := ofEnvelope layers createdAt caller
  if channelHeader.isConfig then return tx
  tx.addTransaction payload.data

theorem effects_bind (tx : TransactionRecord) (endorsed : ChaincodeEndorsedAction) :
    (endorsed.effects >>= tx.withEffects) = tx.addResponse endorsed.proposalResponsePayload := by
  unfold ChaincodeEndorsedAction.effects ChaincodeEndorsedAction.hasNoEffects addResponse addAction
  by_cases hmarker : endorsed.proposalResponsePayload = noEffectsMarker
  · simp only [hmarker, decide_true, if_true, pure_bind]
  · simp only [hmarker, decide_false, Bool.false_eq_true, if_false, bind_assoc, pure_bind]

theorem decode_bind (tx : TransactionRecord) (bytes : Bytes) :
    (ChaincodeLayers.decode bytes >>= fun chaincode =>
      (tx.withCall chaincode.spec).withEffects chaincode.action) = tx.addTransaction bytes := by
  unfold ChaincodeLayers.decode addTransaction addActionPayload ChaincodeProposalPayload.readSpec
  simp only [bind_assoc, pure_bind]
  refine bind_congr fun transaction => ?_
  cases transaction.actions.head? with
  | none => rfl
  | some first =>
    simp only [bind_assoc]
    refine bind_congr fun payload => bind_congr fun proposal => bind_congr fun invocation => ?_
    cases payload.action with
    | none => rfl
    | some endorsed => simp only [bind_assoc, pure_bind, effects_bind]

/-- A slot is read layer by layer. -/
theorem ofSlot_eq (raw : Bytes) :
    ofSlot raw = Layer.envelope.decode raw >>= fun envelope : Envelope => ofPayload envelope.payload := by
  unfold ofSlot EnvelopeLayers.decode ofPayload SignatureHeader.readSigner
  simp only [bind_assoc]
  refine bind_congr fun envelope => bind_congr fun payload => ?_
  cases payload.header with
  | none => rfl
  | some header =>
    simp only [bind_assoc, pure_bind, decode_bind]
    rfl

end TransactionRecord

/-! ## Padding -/

/-- A field that is not declared was put into the message of a layer, or into that of a layer inside it;
then the bytes of the outer layer encode the same message with the new bytes in the place of the old. -/
inductive Layer.Padded : Layer → Bytes → Bytes → Prop
  | message {layer : Layer} {bytes bytes' : Bytes} (padded : layer.schema.Padded maxNesting bytes bytes') :
    Padded layer bytes bytes'
  | payload {bytes bytes' inner : Bytes} {envelope : Envelope} (decodes : Message.decode bytes = .ok envelope)
      (padded : Padded .payload envelope.payload inner)
      (decodes' : Message.decode bytes' = .ok { envelope with payload := inner }) :
    Padded .envelope bytes bytes'
  | channelHeader {bytes bytes' inner : Bytes} {payload : Payload} {header : Header}
      (decodes : Message.decode bytes = .ok payload) (header_eq : payload.header = some header)
      (padded : Padded .channelHeader header.channelHeader inner)
      (decodes' : Message.decode bytes' =
        .ok { payload with header := some { header with channelHeader := inner } }) :
    Padded .payload bytes bytes'
  | signatureHeader {bytes bytes' inner : Bytes} {payload : Payload} {header : Header}
      (decodes : Message.decode bytes = .ok payload) (header_eq : payload.header = some header)
      (padded : Padded .signatureHeader header.signatureHeader inner)
      (decodes' : Message.decode bytes' =
        .ok { payload with header := some { header with signatureHeader := inner } }) :
    Padded .payload bytes bytes'
  | serializedIdentity {bytes bytes' inner : Bytes} {signatureHeader : SignatureHeader}
      (decodes : Message.decode bytes = .ok signatureHeader)
      (padded : Padded .serializedIdentity signatureHeader.creator inner)
      (decodes' : Message.decode bytes' = .ok { signatureHeader with creator := inner }) :
    Padded .signatureHeader bytes bytes'
  | transaction {bytes bytes' inner : Bytes} {payload : Payload}
      (decodes : Message.decode bytes = .ok payload) (padded : Padded .transaction payload.data inner)
      (decodes' : Message.decode bytes' = .ok { payload with data := inner }) :
    Padded .payload bytes bytes'
  | chaincodeActionPayload {bytes bytes' inner : Bytes} {front behind : List TransactionAction}
      {action : TransactionAction}
      (decodes : Message.decode bytes = .ok (Transaction.mk (front ++ action :: behind)))
      (padded : Padded .chaincodeActionPayload action.payload inner)
      (decodes' : Message.decode bytes' =
        .ok (Transaction.mk (front ++ { action with payload := inner } :: behind))) :
    Padded .transaction bytes bytes'
  | chaincodeProposalPayload {bytes bytes' inner : Bytes} {payload : ChaincodeActionPayload}
      (decodes : Message.decode bytes = .ok payload)
      (padded : Padded .chaincodeProposalPayload payload.chaincodeProposalPayload inner)
      (decodes' : Message.decode bytes' = .ok { payload with chaincodeProposalPayload := inner }) :
    Padded .chaincodeActionPayload bytes bytes'
  | chaincodeInvocationSpec {bytes bytes' inner : Bytes} {proposal : ChaincodeProposalPayload}
      (decodes : Message.decode bytes = .ok proposal)
      (padded : Padded .chaincodeInvocationSpec proposal.input inner)
      (decodes' : Message.decode bytes' = .ok { proposal with input := inner }) :
    Padded .chaincodeProposalPayload bytes bytes'
  | proposalResponsePayload {bytes bytes' inner : Bytes} {payload : ChaincodeActionPayload}
      {endorsed : ChaincodeEndorsedAction} (decodes : Message.decode bytes = .ok payload)
      (action_eq : payload.action = some endorsed)
      (padded : Padded .proposalResponsePayload endorsed.proposalResponsePayload inner)
      (decodes' : Message.decode bytes' =
        .ok { payload with action := some { endorsed with proposalResponsePayload := inner } }) :
    Padded .chaincodeActionPayload bytes bytes'
  | chaincodeAction {bytes bytes' inner : Bytes} {response : ProposalResponsePayload}
      (decodes : Message.decode bytes = .ok response) (padded : Padded .chaincodeAction response.extension inner)
      (decodes' : Message.decode bytes' = .ok { response with extension := inner }) :
    Padded .proposalResponsePayload bytes bytes'
  | txReadWriteSet {bytes bytes' inner : Bytes} {action : ChaincodeAction}
      (decodes : Message.decode bytes = .ok action) (padded : Padded .txReadWriteSet action.results inner)
      (decodes' : Message.decode bytes' = .ok { action with results := inner }) :
    Padded .chaincodeAction bytes bytes'
  | kvRwSet {bytes bytes' inner : Bytes} {results : TxReadWriteSet} {front behind : List NsReadWriteSet}
      {set : NsReadWriteSet} (decodes : Message.decode bytes = .ok results)
      (nsRwset_eq : results.nsRwset = front ++ set :: behind) (padded : Padded .kvRwSet set.rwset inner)
      (decodes' : Message.decode bytes' =
        .ok { results with nsRwset := front ++ { set with rwset := inner } :: behind }) :
    Padded .txReadWriteSet bytes bytes'

/-! ## Same readings -/

/-- Two byte strings say the same in the place of a layer. -/
def Layer.SameReading : Layer → Bytes → Bytes → Prop
  | .block, bytes, bytes' => Message.decode (α := Block) bytes = Message.decode bytes'
  | .envelope, bytes, bytes' => TransactionRecord.ofSlot bytes = TransactionRecord.ofSlot bytes'
  | .payload, bytes, bytes' => TransactionRecord.ofPayload bytes = TransactionRecord.ofPayload bytes'
  | .channelHeader, bytes, bytes' => Message.decode (α := ChannelHeader) bytes = Message.decode bytes'
  | .signatureHeader, bytes, bytes' => SignatureHeader.readSigner bytes = SignatureHeader.readSigner bytes'
  | .serializedIdentity, bytes, bytes' => Message.decode (α := SerializedIdentity) bytes = Message.decode bytes'
  | .transaction, bytes, bytes' => ∀ tx : TransactionRecord, tx.addTransaction bytes = tx.addTransaction bytes'
  | .chaincodeActionPayload, bytes, bytes' =>
    ∀ tx : TransactionRecord, tx.addActionPayload bytes = tx.addActionPayload bytes'
  | .chaincodeProposalPayload, bytes, bytes' =>
    ChaincodeProposalPayload.readSpec bytes = ChaincodeProposalPayload.readSpec bytes'
  | .chaincodeInvocationSpec, bytes, bytes' =>
    Message.decode (α := ChaincodeInvocationSpec) bytes = Message.decode bytes'
  | .proposalResponsePayload, bytes, bytes' =>
    ∀ tx : TransactionRecord, tx.addResponse bytes = tx.addResponse bytes'
  | .chaincodeAction, bytes, bytes' => ∀ tx : TransactionRecord, tx.addAction bytes = tx.addAction bytes'
  | .txReadWriteSet, bytes, bytes' => ReadWrites.decode bytes = ReadWrites.decode bytes'
  | .kvRwSet, bytes, bytes' => Message.decode (α := KvRwSet) bytes = Message.decode bytes'

section

variable {bytes bytes' : Bytes}

theorem Layer.decode_congr {α : Type} [Message α] (layer : Layer)
    (h : Message.decode (α := α) bytes = Message.decode bytes') :
    layer.decode (α := α) bytes = layer.decode bytes' := by
  rw [Layer.decode, Layer.decode, h]

/-- Bytes that decode as a response are not the marker. -/
theorem ne_noEffectsMarker {response : ProposalResponsePayload} (h : Message.decode bytes = .ok response) :
    bytes ≠ noEffectsMarker := by
  rintro rfl
  rw [decode_noEffectsMarker] at h
  cases h

theorem TransactionRecord.addResponse_ok {response : ProposalResponsePayload}
    (h : Message.decode bytes = .ok response) (tx : TransactionRecord) :
    tx.addResponse bytes = tx.addAction response.extension := by
  rw [addResponse, if_neg (ne_noEffectsMarker h), Layer.decode_ok h, ok_bind]

/-- Bytes that decode as the same message of a layer have the same reading there. -/
theorem Layer.sameReading_of_decode {layer : Layer} {record : layer.schema.Record}
    (h : layer.schema.decode bytes = .ok record) (h' : layer.schema.decode bytes' = .ok record) :
    layer.SameReading bytes bytes' := by
  have hmessage {α : Type} [Message α] {r : (Message.schema α).Record}
      (h : (Message.schema α).decode bytes = .ok r) (h' : (Message.schema α).decode bytes' = .ok r) :
      Message.decode (α := α) bytes = Message.decode bytes' := by
    rw [Message.decode, Message.decode, h, h']
  cases layer with
  | block | channelHeader | serializedIdentity | chaincodeInvocationSpec | kvRwSet => exact hmessage h h'
  | envelope =>
    have hdecode := Layer.envelope.decode_congr (hmessage (α := Envelope) h h')
    exact (TransactionRecord.ofSlot_eq bytes).trans (hdecode ▸ (TransactionRecord.ofSlot_eq bytes').symm)
  | payload =>
    have hdecode := Layer.payload.decode_congr (hmessage (α := Payload) h h')
    simp only [SameReading, TransactionRecord.ofPayload, hdecode]
  | signatureHeader =>
    have hdecode := Layer.signatureHeader.decode_congr (hmessage (α := SignatureHeader) h h')
    simp only [SameReading, SignatureHeader.readSigner, hdecode]
  | transaction =>
    have hdecode := Layer.transaction.decode_congr (hmessage (α := Transaction) h h')
    simp only [SameReading, TransactionRecord.addTransaction, hdecode, implies_true]
  | chaincodeActionPayload =>
    have hdecode := Layer.chaincodeActionPayload.decode_congr (hmessage (α := ChaincodeActionPayload) h h')
    simp only [SameReading, TransactionRecord.addActionPayload, hdecode, implies_true]
  | chaincodeProposalPayload =>
    have hdecode := Layer.chaincodeProposalPayload.decode_congr (hmessage (α := ChaincodeProposalPayload) h h')
    simp only [SameReading, ChaincodeProposalPayload.readSpec, hdecode]
  | proposalResponsePayload =>
    intro tx
    have hresponse : Message.decode bytes = .ok (Message.ofRecord record : ProposalResponsePayload) :=
      congrArg (Except.map Message.ofRecord) h
    have hresponse' : Message.decode bytes' = .ok (Message.ofRecord record : ProposalResponsePayload) :=
      congrArg (Except.map Message.ofRecord) h'
    rw [TransactionRecord.addResponse_ok hresponse, TransactionRecord.addResponse_ok hresponse']
  | chaincodeAction =>
    have hdecode := Layer.chaincodeAction.decode_congr (hmessage (α := ChaincodeAction) h h')
    simp only [SameReading, TransactionRecord.addAction, hdecode, implies_true]
  | txReadWriteSet =>
    have hdecode := Layer.txReadWriteSet.decode_congr (hmessage (α := TxReadWriteSet) h h')
    simp only [SameReading, ReadWrites.decode, hdecode]

/-- The sets of one namespace among others. -/
theorem ReadWrites.ofNamespaces_congr {set set' : NsReadWriteSet} (h : ofNamespace set = ofNamespace set')
    (front behind : List NsReadWriteSet) :
    ofNamespaces (front ++ set :: behind) = ofNamespaces (front ++ set' :: behind) := by
  induction front with
  | nil => simp only [List.nil_append, ofNamespaces, h]
  | cons first front ih => simp only [List.cons_append, ofNamespaces, ih]

/-- **Padding keeps the reading of every layer.** -/
theorem Layer.Padded.sameReading {layer : Layer} (h : layer.Padded bytes bytes') :
    layer.SameReading bytes bytes' := by
  induction h with
  | message padded =>
    obtain ⟨record, hdecode, hdecode'⟩ := padded.decode_eq
    exact Layer.sameReading_of_decode hdecode hdecode'
  | payload decodes _ decodes' ih =>
    simp only [SameReading] at ih ⊢
    rw [TransactionRecord.ofSlot_eq, TransactionRecord.ofSlot_eq, Layer.decode_ok decodes,
      Layer.decode_ok decodes', ok_bind, ok_bind, ih]
  | channelHeader decodes header_eq _ decodes' ih =>
    have hinner := Layer.channelHeader.decode_congr ih
    simp only [SameReading, TransactionRecord.ofPayload, Layer.decode_ok decodes, Layer.decode_ok decodes',
      ok_bind, header_eq, hinner]
  | signatureHeader decodes header_eq _ decodes' ih =>
    simp only [SameReading] at ih
    simp only [SameReading, TransactionRecord.ofPayload, Layer.decode_ok decodes, Layer.decode_ok decodes',
      ok_bind, header_eq, ih]
  | serializedIdentity decodes _ decodes' ih =>
    have hinner := Layer.serializedIdentity.decode_congr ih
    simp only [SameReading, SignatureHeader.readSigner, Layer.decode_ok decodes, Layer.decode_ok decodes',
      ok_bind, hinner]
  | transaction decodes _ decodes' ih =>
    simp only [SameReading] at ih
    simp only [SameReading, TransactionRecord.ofPayload, Layer.decode_ok decodes, Layer.decode_ok decodes',
      ok_bind, ih]
  | @chaincodeActionPayload _ _ _ front behind action decodes _ decodes' ih =>
    intro tx
    simp only [TransactionRecord.addTransaction, Layer.decode_ok decodes, Layer.decode_ok decodes', ok_bind]
    cases front with
    | nil => exact ih tx
    | cons first front => rfl
  | chaincodeProposalPayload decodes _ decodes' ih =>
    simp only [SameReading] at ih
    simp only [SameReading, TransactionRecord.addActionPayload, Layer.decode_ok decodes,
      Layer.decode_ok decodes', ok_bind, ih, implies_true]
  | chaincodeInvocationSpec decodes _ decodes' ih =>
    have hinner := Layer.chaincodeInvocationSpec.decode_congr ih
    simp only [SameReading, ChaincodeProposalPayload.readSpec, Layer.decode_ok decodes,
      Layer.decode_ok decodes', ok_bind, hinner]
  | proposalResponsePayload decodes action_eq _ decodes' ih =>
    intro tx
    simp only [SameReading] at ih
    simp only [TransactionRecord.addActionPayload, Layer.decode_ok decodes, Layer.decode_ok decodes', ok_bind,
      action_eq, ih]
  | chaincodeAction decodes _ decodes' ih =>
    intro tx
    rw [TransactionRecord.addResponse_ok decodes, TransactionRecord.addResponse_ok decodes']
    exact ih tx
  | txReadWriteSet decodes _ decodes' ih =>
    intro tx
    simp only [SameReading] at ih
    simp only [TransactionRecord.addAction, TransactionRecord.withEffects, Layer.decode_ok decodes,
      Layer.decode_ok decodes', ok_bind, ih]
  | @kvRwSet _ _ _ _ front behind set decodes nsRwset_eq _ decodes' ih =>
    have hinner := Layer.kvRwSet.decode_congr ih
    simp only [SameReading, ReadWrites.decode, Layer.decode_ok decodes, Layer.decode_ok decodes', ok_bind,
      nsRwset_eq]
    refine ReadWrites.ofNamespaces_congr ?_ front behind
    simp only [ReadWrites.ofNamespace, hinner]

end

/-- **Fields that are not declared are transparent.** Whatever the message type, such a field may stand
between two fields, or in front of all or behind all of them: both byte strings decode, as the same
message. So a slot says the same, or fails in the same way, however many such fields are put into its
layers. -/
theorem TransactionRecord.undeclared_transparent :
    (∀ (schema : Schema) (front back field : Bytes) (first second : schema.Record),
      schema.decode front = .ok first → schema.decode back = .ok second →
      schema.Undeclared maxNesting field →
      ∃ record, schema.decode (front ++ back) = .ok record ∧
        schema.decode (front ++ field ++ back) = .ok record) ∧
    ∀ raw raw' : Bytes, Relation.ReflTransGen Layer.envelope.Padded raw raw' → ofSlot raw' = ofSlot raw := by
  constructor
  · intro schema front back field first second hfront hback hfield
    exact (Schema.Padded.between hfront hback hfield).decode_eq
  · intro raw raw' hpadded
    induction hpadded with
    | refl => rfl
    | tail _ hstep ih => exact hstep.sameReading.symm.trans ih

/-! ## A slot with a group in its channel header

The sample slot, with a group of number 15 behind the first field of the channel header. -/

namespace PaddedSlot

/-- Group 15, of one field: number 1, a varint. -/
def group : Bytes := [0x7b, 0x08, 0x01, 0x7c]

/-- The kind of the transaction, with which the channel header begins. -/
def kind : ChannelHeader where
  kind := 3

/-- What stands behind the kind. -/
def others : ChannelHeader :=
  { SampleSlot.channelHeader with kind := 0 }

def payload : Payload where
  header := some { SampleSlot.header with channelHeader := Message.encode kind ++ group ++ Message.encode others }
  data := SampleSlot.payload.data

def envelope : Envelope where
  payload := Message.encode payload

theorem undeclared_group : (Message.schema ChannelHeader).Undeclared maxNesting group := by
  have hsingle (number : Nat) (wireType : WireType) (b : UInt8) (isNumber : Key.IsNumber number) (low : b < 0x80)
      (hb : b.toNat = 8 * number + wireType.code) : Key.Spells ⟨number, wireType⟩ [b] :=
    ⟨isNumber, hb ▸ .last low (by simp)⟩
  refine ⟨⟨15, .startGroup⟩, [0x7b], [0x08, 0x01, 0x7c], rfl, hsingle _ _ _ (by decide) (by decide) rfl,
    by decide, ?_⟩
  have hend : IsGroup (IsContent 99) 15 [0x7c] := .ending (hsingle _ _ _ (by decide) (by decide) rfl)
  have hmember : IsContent 99 ⟨1, .varint⟩ [0x01] := ⟨1, .last (by decide) (by simp)⟩
  have hfront : Key.Spells ⟨1, .varint⟩ [0x08] := hsingle _ _ _ (by decide) (by decide) rfl
  have hgroup := IsGroup.field hfront hmember hend
  exact hgroup

theorem decode_kind : (Message.schema ChannelHeader).decode (Message.encode kind) = .ok (Message.toRecord kind) :=
  Schema.decode_of_encodes (fits_schemas _ (by simp [schemas])) (Fields.encodes_write _ _) (by decide +kernel)

theorem decode_others :
    (Message.schema ChannelHeader).decode (Message.encode others) = .ok (Message.toRecord others) :=
  Schema.decode_of_encodes (fits_schemas _ (by simp [schemas])) (Fields.encodes_write _ _) (by decide +kernel)

theorem padded : Layer.envelope.Padded (Message.encode SampleSlot.envelope) (Message.encode envelope) := by
  have henvelope := Message.decode_encode (by simp [schemas]) SampleSlot.envelope (by decide +kernel)
  have henvelope' := Message.decode_encode (by simp [schemas]) envelope (by decide +kernel)
  have hpayload := Message.decode_encode (by simp [schemas]) SampleSlot.payload (by decide +kernel)
  have hpayload' := Message.decode_encode (by simp [schemas]) payload (by decide +kernel)
  have hwhole : Message.encode kind ++ Message.encode others = SampleSlot.header.channelHeader := by decide +kernel
  have hheader : Layer.channelHeader.Padded (Message.encode kind ++ Message.encode others)
      (Message.encode kind ++ group ++ Message.encode others) :=
    .message (.between decode_kind decode_others undeclared_group)
  exact .payload henvelope (.channelHeader hpayload rfl (hwhole ▸ hheader) hpayload') henvelope'

end PaddedSlot

theorem TransactionRecord.undeclared_transparent_group :
    (∃ record,
      (Message.schema ChannelHeader).decode (Message.encode PaddedSlot.kind ++ Message.encode PaddedSlot.others)
        = .ok record ∧
      (Message.schema ChannelHeader).decode
        (Message.encode PaddedSlot.kind ++ PaddedSlot.group ++ Message.encode PaddedSlot.others) = .ok record) ∧
    ofSlot (Message.encode PaddedSlot.envelope) = ofSlot (Message.encode SampleSlot.envelope) := by
  obtain ⟨hmessage, hslot⟩ := undeclared_transparent
  exact ⟨hmessage _ _ _ _ _ _ PaddedSlot.decode_kind PaddedSlot.decode_others PaddedSlot.undeclared_group,
    hslot _ _ (.single PaddedSlot.padded)⟩

end ChannelLedger
