import ChannelLedger.Der.Writer
import ChannelLedger.Proofs.Slot.Nested
import ChannelLedger.Proofs.Wire.RoundTrip

/-!
# Slots survive their encoding

A slot that was written layer by layer decodes as exactly the record of what was written
(`TransactionRecord.ofSlot_nested`). Where the effects of a call may be left out, a marker stands in
place of the response. No response is encoded as the marker
(`ProposalResponsePayload.encodes_ne_marker`), so effects that were written are always read.
-/
namespace ChannelLedger

open Wire Outcome

/-! ## One layer -/

/-- An encoding is read as the message of its layer. -/
theorem Layer.decode_of_encodes {α : Type} [Message α] (layer : Layer)
    (hschema : Message.schema α ∈ schemas) {a : α} {bytes : Bytes}
    (h : Message.Encodes a bytes) : layer.decode bytes = .ok a := by
  unfold Layer.decode
  rw [Message.decode_of_encodes (fits_schemas _ hschema) h, mapError_ok]

/-- Read as a response, the marker is a field of eight bytes and then a key of no known layout. -/
theorem decode_noEffectsMarker :
    Message.decode (α := ProposalResponsePayload) noEffectsMarker
      = .error (.ofCause (.wireType 7)) := by
  rfl

/-- **The marker for no effects is no encoding of a response.** -/
theorem ProposalResponsePayload.encodes_ne_marker {response : ProposalResponsePayload}
    {bytes : Bytes} (h : Message.Encodes response bytes) : bytes ≠ noEffectsMarker := by
  rintro rfl
  have hdecode := Message.decode_of_encodes (fits_schemas _ (by simp [schemas])) h
  rw [decode_noEffectsMarker] at hdecode
  cases hdecode

/-- A text in which no block begins holds no certificate. -/
theorem Certificate.ofPem?_eq_none (text : Bytes)
    (h : ∀ line ∈ Pem.lines text, Pem.beginLabel? line = none) : ofPem? text = none := by
  unfold ofPem? Pem.certificate?
  suffices hnone : Pem.findCertificate (Pem.lines text) = none by
    rw [hnone]
    rfl
  generalize Pem.lines text = lines at h
  induction lines with
  | nil => rw [Pem.findCertificate]
  | cons line rest ih =>
    rw [Pem.findCertificate, h line List.mem_cons_self]
    exact ih fun other hother => h other (List.mem_cons_of_mem line hother)

/-- A time that has a date is the date of its transaction. -/
theorem ChannelHeader.createdAt_ok {header : ChannelHeader} {time : Timestamp}
    (timestamp_eq : header.timestamp = some time)
    (inRange : (DateTime.ofSeconds time.seconds.toInt).inRange = true) :
    header.createdAt = .ok (DateTime.ofSeconds time.seconds.toInt).text := by
  unfold createdAt DateTime.format
  simp only [timestamp_eq, inRange, if_true]

/-! ## All layers -/

namespace NestedNamespace

theorem ofNamespace_eq (space : NestedNamespace) :
    ReadWrites.ofNamespace ⟨space.name, space.bytes⟩ = .ok ⟨space.reads, space.writes⟩ := by
  unfold ReadWrites.ofNamespace reads writes
  by_cases hname : space.name = lifecycleNamespace
  · simp only [hname, if_true, pure_eq]
  · have hsets := Layer.kvRwSet.decode_of_encodes (by simp [schemas]) (space.encodes_sets hname)
    have hreads : space.sets.reads.map (·.record space.name)
        = space.sets.reads.map fun read =>
          ⟨space.name, Utf8.lossy (trimKey read.key), read.version.elim 0 (·.blockNum),
            read.version.elim 0 (·.txNum)⟩ := by
      apply List.map_congr_left
      intro read _
      unfold KvRead.record keyText
      cases read.version <;> rfl
    simp only [hname, if_false, hsets, ok_bind, pure_eq, hreads]
    rfl

theorem ofNamespaces_eq (spaces : List NestedNamespace) :
    ReadWrites.ofNamespaces (spaces.map fun space => ⟨space.name, space.bytes⟩)
      = .ok ⟨spaces.flatMap (·.reads), spaces.flatMap (·.writes)⟩ := by
  induction spaces with
  | nil => rfl
  | cons space spaces ih =>
    rw [List.map_cons, ReadWrites.ofNamespaces, ofNamespace_eq, ih]
    rfl

end NestedNamespace

namespace NestedCall

variable {data : Bytes}

/-- What stands in the response's place is read as what was written there. -/
theorem effects_eq (call : NestedCall data) :
    call.endorsed.effects = .ok (call.effects.map (·.action)) := by
  unfold ChaincodeEndorsedAction.effects ChaincodeEndorsedAction.hasNoEffects
  cases heffects : call.effects with
  | none =>
    simp only [call.marker_of_none heffects, decide_true, if_true, pure_eq, Option.map_none]
  | some effects =>
    have hmarker := ProposalResponsePayload.encodes_ne_marker effects.encodes_response
    have hresponse := Layer.proposalResponsePayload.decode_of_encodes (by simp [schemas])
      effects.encodes_response
    have haction := Layer.chaincodeAction.decode_of_encodes (by simp [schemas])
      effects.encodes_action
    simp only [hmarker, decide_false, hresponse, haction, ok_bind, pure_eq, Option.map_some]
    rfl

theorem decode_eq (call : NestedCall data) :
    ChaincodeLayers.decode data
      = .ok ⟨call.invocation.chaincodeSpec, call.endorsed, call.effects.map (·.action)⟩ := by
  have htransaction := Layer.transaction.decode_of_encodes (by simp [schemas])
    call.encodes_transaction
  have hpayload := Layer.chaincodeActionPayload.decode_of_encodes (by simp [schemas])
    call.encodes_payload
  have hproposal := Layer.chaincodeProposalPayload.decode_of_encodes (by simp [schemas])
    call.encodes_proposal
  have hinvocation := Layer.chaincodeInvocationSpec.decode_of_encodes (by simp [schemas])
    call.encodes_invocation
  unfold ChaincodeLayers.decode
  simp only [htransaction, ok_bind, call.actions_eq, List.head?_cons, hpayload, hproposal,
    hinvocation, call.action_eq, call.effects_eq, pure_eq]

/-- The call is added as it was written. -/
theorem withCall_eq (call : NestedCall data) (tx : TransactionRecord)
    (hfresh : tx.chaincodeId = "" ∧ tx.chaincodeVersion = "" ∧ tx.args = []) :
    tx.withCall call.invocation.chaincodeSpec
      = { tx with
          chaincodeId := call.chaincode.elim "" (·.name)
          chaincodeVersion := call.chaincode.elim "" (·.version)
          args := call.input.elim [] (·.args.map Utf8.lossy) } := by
  obtain ⟨hname, hversion, hargs⟩ := hfresh
  unfold TransactionRecord.withCall chaincode input
  rw [hname, hversion, hargs]
  cases call.invocation.chaincodeSpec.bind (·.chaincodeId) <;>
    cases call.invocation.chaincodeSpec.bind (·.input) <;> rfl

/-- The effects are added as they were written. -/
theorem withEffects_eq (call : NestedCall data) (tx : TransactionRecord)
    (hfresh : tx.reads = [] ∧ tx.writes = [] ∧ tx.responseStatus = none
      ∧ tx.responseMessage = none) :
    tx.withEffects (call.effects.map (·.action))
      = .ok { tx with
          reads := call.namespaces.flatMap (·.reads)
          writes := call.namespaces.flatMap (·.writes)
          responseStatus := call.response.map (·.status)
          responseMessage := call.response.map (·.message) } := by
  unfold TransactionRecord.withEffects namespaces response
  cases call.effects with
  | none =>
    obtain ⟨hreads, hwrites, hstatus, hmessage⟩ := hfresh
    simp only [Option.map_none, pure_eq, Option.elim_none, List.flatMap_nil, Option.bind_none,
      ← hreads, ← hwrites, ← hstatus, ← hmessage]
  | some effects =>
    have hresults := Layer.txReadWriteSet.decode_of_encodes (by simp [schemas])
      effects.encodes_results
    have hsets : ReadWrites.decode effects.action.results
        = .ok ⟨effects.namespaces.flatMap (·.reads), effects.namespaces.flatMap (·.writes)⟩ := by
      unfold ReadWrites.decode
      rw [hresults, ok_bind, effects.nsRwset_eq, NestedNamespace.ofNamespaces_eq]
    simp only [Option.map_some, hsets, ok_bind, pure_eq, Option.elim_some, Option.bind_some]

end NestedCall

namespace NestedSlot

variable {raw : Bytes}

theorem decode_eq (slot : NestedSlot raw) :
    EnvelopeLayers.decode raw
      = .ok ⟨slot.channelHeader, slot.signatureHeader, slot.creator, slot.payload.data⟩ := by
  have henvelope := Layer.envelope.decode_of_encodes (by simp [schemas]) slot.encodes_envelope
  have hpayload := Layer.payload.decode_of_encodes (by simp [schemas]) slot.encodes_payload
  have hchannel := Layer.channelHeader.decode_of_encodes (by simp [schemas])
    slot.encodes_channelHeader
  have hsignature := Layer.signatureHeader.decode_of_encodes (by simp [schemas])
    slot.encodes_signatureHeader
  have hcreator := Layer.serializedIdentity.decode_of_encodes (by simp [schemas])
    slot.encodes_creator
  unfold EnvelopeLayers.decode
  simp only [henvelope, ok_bind, hpayload, slot.header_eq, hchannel, hsignature, hcreator, pure_eq]

theorem createdAt_eq (slot : NestedSlot raw) :
    slot.channelHeader.createdAt = .ok (DateTime.ofSeconds slot.time.seconds.toInt).text :=
  ChannelHeader.createdAt_ok slot.timestamp_eq slot.inRange

/-- Empty bytes are no certificate. -/
theorem caller_read_nil : Caller.read [] = .error (.certificate (.ofSequence [])) := by
  unfold Caller.read Certificate.read
  rw [Certificate.ofPem?_eq_none [] (by simp [Pem.lines, Pem.cut, Pem.withoutMark])]
  rfl

theorem caller_eq (slot : NestedSlot raw) :
    EnvelopeLayers.caller ⟨slot.channelHeader, slot.signatureHeader, slot.creator,
      slot.payload.data⟩ = .ok slot.caller := by
  unfold EnvelopeLayers.caller ChannelHeader.isConfig
  simp only [decide_eq_true_eq, List.isEmpty_iff]
  by_cases hconfig : slot.channelHeader.kind = 1 ∧ slot.creator.idBytes = []
  · rw [if_pos hconfig]
    rcases slot.named with hread | ⟨_, _, hcaller⟩
    · rw [hconfig.2, caller_read_nil] at hread
      cases hread
    · rw [hcaller]
  · rw [if_neg hconfig]
    rcases slot.named with hread | ⟨hkind, hempty, _⟩
    · rw [hread, mapError_ok]
    · exact absurd ⟨hkind, hempty⟩ hconfig

end NestedSlot

/-- **A nested slot decodes as what was written.** -/
theorem TransactionRecord.ofSlot_nested {raw : Bytes} (slot : NestedSlot raw)
    (call : Option (NestedCall slot.payload.data))
    (hcall : call = none ↔ slot.channelHeader.kind = 1) :
    TransactionRecord.ofSlot raw = .ok (slot.record call) := by
  unfold TransactionRecord.ofSlot ChannelHeader.isConfig
  simp only [slot.decode_eq, ok_bind, slot.createdAt_eq, slot.caller_eq]
  cases call with
  | none =>
    rw [if_pos (by simpa using hcall.1 rfl)]
    rfl
  | some call =>
    have hkind : slot.channelHeader.kind ≠ 1 := fun h => by cases hcall.2 h
    rw [if_neg (by simpa using hkind), call.decode_eq, ok_bind, call.withCall_eq, call.withEffects_eq]
    · rfl
    · exact ⟨rfl, rfl, rfl, rfl⟩
    · exact ⟨rfl, rfl, rfl⟩

/-! ## A slot with every layer

A call that succeeded, by a caller whose certificate names nothing but an organizational unit. Its
results have a foreign header on one key and unreadable bytes in the namespace of chaincode
definitions. -/

namespace SampleSlot

def certificate : Bytes :=
  let algorithm := Der.element Der.Tag.sequence (Der.element Der.Tag.objectIdentifier [0x2a, 0x03])
  let key := Der.element Der.Tag.bitString [0]
  let time := Der.element Der.Tag.utcTime (Bytes.ofText "700101000000Z")
  let unit := Der.element Der.Tag.objectIdentifier SubjectEntry.organizationalUnit.type
    ++ Der.element Der.Tag.printableString (Bytes.ofText "admin")
  let subject := Der.element Der.Tag.set (Der.element Der.Tag.sequence unit)
  let signed := Der.element Der.Tag.integer [1] ++ algorithm ++ Der.element Der.Tag.sequence []
    ++ Der.element Der.Tag.sequence (time ++ time) ++ Der.element Der.Tag.sequence subject
    ++ Der.element Der.Tag.sequence (algorithm ++ key)
  Der.element Der.Tag.sequence (Der.element Der.Tag.sequence signed ++ algorithm ++ key)

theorem caller_read_certificate : Caller.read certificate = .ok ⟨"", "admin"⟩ := by
  have hpem := Certificate.ofPem?_eq_none certificate (by decide +kernel)
  unfold Caller.read Certificate.read
  rw [hpem]
  decide +kernel

def sets : KvRwSet where
  reads := [⟨Bytes.ofText "asset7", some ⟨3, 1⟩⟩, ⟨foreignKeyHeader ++ Bytes.ofText "asset8", none⟩]
  writes := [⟨Bytes.ofText "asset7", true, []⟩]

def results : TxReadWriteSet where
  nsRwset := [⟨lifecycleNamespace, [0xff]⟩, ⟨"basic", Message.encode sets⟩]

def action : ChaincodeAction where
  results := Message.encode results
  response := some ⟨200, "OK", []⟩

def response : ProposalResponsePayload where
  extension := Message.encode action

def effects : NestedEffects (Message.encode response) where
  response := response
  action := action
  results := results
  namespaces := [⟨lifecycleNamespace, {}, [0xff], by simp⟩,
    ⟨"basic", sets, Message.encode sets, fun _ => Message.encodes_encode _ (by decide +kernel)⟩]
  encodes_response := Message.encodes_encode _ (by decide +kernel)
  encodes_action := Message.encodes_encode _ (by decide +kernel)
  encodes_results := Message.encodes_encode _ (by decide +kernel)
  nsRwset_eq := rfl

def endorsed : ChaincodeEndorsedAction where
  proposalResponsePayload := Message.encode response

def invocation : ChaincodeInvocationSpec where
  chaincodeSpec := some {
    chaincodeId := some ⟨"", "basic", "1.0"⟩
    input := some { args := [Bytes.ofText "ReadAsset", Bytes.ofText "asset7"] } }

def proposal : ChaincodeProposalPayload where
  input := Message.encode invocation

def actionPayload : ChaincodeActionPayload where
  chaincodeProposalPayload := Message.encode proposal
  action := some endorsed

def transaction : Transaction where
  actions := [⟨[], Message.encode actionPayload⟩, ⟨[], [0xff]⟩]

def call : NestedCall (Message.encode transaction) where
  transaction := transaction
  first := ⟨[], Message.encode actionPayload⟩
  others := [⟨[], [0xff]⟩]
  payload := actionPayload
  proposal := proposal
  invocation := invocation
  endorsed := endorsed
  effects := some effects
  encodes_transaction := Message.encodes_encode _ (by decide +kernel)
  actions_eq := rfl
  encodes_payload := Message.encodes_encode _ (by decide +kernel)
  encodes_proposal := Message.encodes_encode _ (by decide +kernel)
  encodes_invocation := Message.encodes_encode _ (by decide +kernel)
  action_eq := rfl
  marker_of_none := by simp

def channelHeader : ChannelHeader where
  kind := 3
  timestamp := some ⟨0, 0⟩
  channelId := "mychannel"
  txId := "tx1"

def creator : SerializedIdentity where
  mspid := "Org1MSP"
  idBytes := certificate

def signatureHeader : SignatureHeader where
  creator := Message.encode creator
  nonce := [7]

def header : Header where
  channelHeader := Message.encode channelHeader
  signatureHeader := Message.encode signatureHeader

def payload : Payload where
  header := some header
  data := Message.encode transaction

def envelope : Envelope where
  payload := Message.encode payload

def slot : NestedSlot (Message.encode envelope) where
  envelope := envelope
  payload := payload
  header := header
  channelHeader := channelHeader
  signatureHeader := signatureHeader
  creator := creator
  time := ⟨0, 0⟩
  caller := ⟨"", "admin"⟩
  encodes_envelope := Message.encodes_encode _ (by decide +kernel)
  encodes_payload := Message.encodes_encode _ (by decide +kernel)
  header_eq := rfl
  encodes_channelHeader := Message.encodes_encode _ (by decide +kernel)
  encodes_signatureHeader := Message.encodes_encode _ (by decide +kernel)
  encodes_creator := Message.encodes_encode _ (by decide +kernel)
  timestamp_eq := rfl
  inRange := by decide +kernel
  named := .inl caller_read_certificate

end SampleSlot

theorem TransactionRecord.ofSlot_nested_sample :
    TransactionRecord.ofSlot (Message.encode SampleSlot.envelope) = .ok {
      txId := "tx1"
      kind := 3
      channelId := "mychannel"
      createdAt := "1970-01-01 00:00:00"
      chaincodeId := "basic"
      chaincodeVersion := "1.0"
      args := ["ReadAsset", "asset7"]
      callerMspId := "Org1MSP"
      callerName := ""
      callerUnit := "admin"
      nonce := [7]
      reads := [⟨"basic", "asset7", 3, 1⟩, ⟨"basic", "asset8", 0, 0⟩]
      writes := [⟨"basic", "asset7", "", true⟩]
      responseStatus := some 200
      responseMessage := some "OK"
      validationCode := none } := by
  have htime : (DateTime.ofSeconds SampleSlot.slot.time.seconds.toInt).text
      = "1970-01-01 00:00:00" := by
    decide +kernel
  have hargs : SampleSlot.call.input.elim [] (·.args.map Utf8.lossy) = ["ReadAsset", "asset7"] := by
    change [Utf8.lossy (Bytes.ofText "ReadAsset"), Utf8.lossy (Bytes.ofText "asset7")] = _
    rw [Utf8.lossy_ofText, Utf8.lossy_ofText]
  have hreads : SampleSlot.call.namespaces.flatMap (·.reads)
      = [⟨"basic", "asset7", 3, 1⟩, ⟨"basic", "asset8", 0, 0⟩] := by
    change [(⟨"basic", Utf8.lossy (Bytes.ofText "asset7"), 3, 1⟩ : ReadRecord),
      ⟨"basic", Utf8.lossy (Bytes.ofText "asset8"), 0, 0⟩] = _
    rw [Utf8.lossy_ofText, Utf8.lossy_ofText]
  have hwrites : SampleSlot.call.namespaces.flatMap (·.writes)
      = [⟨"basic", "asset7", "", true⟩] := by
    change [(⟨"basic", Utf8.lossy (Bytes.ofText "asset7"), Utf8.lossy (Bytes.ofText ""), true⟩
      : WriteRecord)] = _
    rw [Utf8.lossy_ofText, Utf8.lossy_ofText]
  rw [TransactionRecord.ofSlot_nested SampleSlot.slot (some SampleSlot.call) (by decide)]
  unfold NestedSlot.record
  rw [Except.ok.injEq, TransactionRecord.mk.injEq]
  exact ⟨rfl, rfl, rfl, htime, rfl, rfl, hargs, rfl, rfl, rfl, rfl, hreads, hwrites, rfl, rfl, rfl⟩

end ChannelLedger
