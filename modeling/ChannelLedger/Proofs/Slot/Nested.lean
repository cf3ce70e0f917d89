import ChannelLedger.Proofs.Wire.Encoding
import ChannelLedger.Slot.Assemble

/-!
# Slots that were written layer by layer

The encoding of each layer is a byte string of the layer around it. `NestedSlot` holds the outer
layers of a slot with the fact that each encodes into the next, `NestedCall` those of the call it
carries, and `NestedSlot.record` is the record of what they say. A slot that configures the channel
carries no call, and its data may be anything.
-/
namespace ChannelLedger

open Wire

/-! ## What was written -/

/-- A namespace of a call's results: what it holds, and the bytes that stand for it. In the
namespace of chaincode definitions any bytes may stand there. -/
structure NestedNamespace where
  name : String
  sets : KvRwSet
  bytes : Bytes
  encodes_sets : name ≠ lifecycleNamespace → Message.Encodes sets bytes

/-- The layers of a response. -/
structure NestedEffects (bytes : Bytes) where
  response : ProposalResponsePayload
  action : ChaincodeAction
  results : TxReadWriteSet
  namespaces : List NestedNamespace
  encodes_response : Message.Encodes response bytes
  encodes_action : Message.Encodes action response.extension
  encodes_results : Message.Encodes results action.results
  nsRwset_eq : results.nsRwset = namespaces.map fun space => ⟨space.name, space.bytes⟩

/-- The layers of a call: its first action, what was proposed, and what was endorsed. -/
structure NestedCall (data : Bytes) where
  transaction : Transaction
  first : TransactionAction
  others : List TransactionAction
  payload : ChaincodeActionPayload
  proposal : ChaincodeProposalPayload
  invocation : ChaincodeInvocationSpec
  endorsed : ChaincodeEndorsedAction
  effects : Option (NestedEffects endorsed.proposalResponsePayload)
  encodes_transaction : Message.Encodes transaction data
  actions_eq : transaction.actions = first :: others
  encodes_payload : Message.Encodes payload first.payload
  encodes_proposal : Message.Encodes proposal payload.chaincodeProposalPayload
  encodes_invocation : Message.Encodes invocation proposal.input
  action_eq : payload.action = some endorsed
  marker_of_none : effects = none → endorsed.proposalResponsePayload = noEffectsMarker

/-- The outer layers of a slot, with a time that has a date and a creator that names a caller. Only
a slot that configures the channel may come without a certificate. -/
structure NestedSlot (raw : Bytes) where
  envelope : Envelope
  payload : Payload
  header : Header
  channelHeader : ChannelHeader
  signatureHeader : SignatureHeader
  creator : SerializedIdentity
  time : Timestamp
  caller : Caller
  encodes_envelope : Message.Encodes envelope raw
  encodes_payload : Message.Encodes payload envelope.payload
  header_eq : payload.header = some header
  encodes_channelHeader : Message.Encodes channelHeader header.channelHeader
  encodes_signatureHeader : Message.Encodes signatureHeader header.signatureHeader
  encodes_creator : Message.Encodes creator signatureHeader.creator
  timestamp_eq : channelHeader.timestamp = some time
  inRange : (DateTime.ofSeconds time.seconds.toInt).inRange = true
  named : Caller.read creator.idBytes = .ok caller
    ∨ channelHeader.kind = 1 ∧ creator.idBytes = [] ∧ caller = ⟨"", ""⟩

/-! ## What it says -/

namespace NestedNamespace

/-- The reads, each key with the version it had, or 0:0 if it had none. -/
def reads (space : NestedNamespace) : List ReadRecord :=
  if space.name = lifecycleNamespace then [] else
    space.sets.reads.map fun read =>
      ⟨space.name, Utf8.lossy (trimKey read.key), read.version.elim 0 (·.blockNum),
        read.version.elim 0 (·.txNum)⟩

def writes (space : NestedNamespace) : List WriteRecord :=
  if space.name = lifecycleNamespace then [] else
    space.sets.writes.map fun write =>
      ⟨space.name, Utf8.lossy (trimKey write.key), Utf8.lossy write.value, write.isDelete⟩

end NestedNamespace

namespace NestedCall

variable {data : Bytes}

def chaincode (call : NestedCall data) : Option ChaincodeId :=
  call.invocation.chaincodeSpec.bind (·.chaincodeId)

def input (call : NestedCall data) : Option ChaincodeInput :=
  call.invocation.chaincodeSpec.bind (·.input)

def response (call : NestedCall data) : Option Response :=
  call.effects.bind (·.action.response)

def namespaces (call : NestedCall data) : List NestedNamespace :=
  call.effects.elim [] (·.namespaces)

end NestedCall

/-- The record of what was written. Without a call its parts of the record are empty. -/
def NestedSlot.record {raw : Bytes} (slot : NestedSlot raw)
    (call : Option (NestedCall slot.payload.data)) : TransactionRecord where
  txId := slot.channelHeader.txId
  kind := slot.channelHeader.kind
  channelId := slot.channelHeader.channelId
  createdAt := (DateTime.ofSeconds slot.time.seconds.toInt).text
  chaincodeId := (call.bind (·.chaincode)).elim "" (·.name)
  chaincodeVersion := (call.bind (·.chaincode)).elim "" (·.version)
  args := (call.bind (·.input)).elim [] (·.args.map Utf8.lossy)
  callerMspId := slot.creator.mspid
  callerName := slot.caller.commonName
  callerUnit := slot.caller.organizationalUnit
  nonce := slot.signatureHeader.nonce
  reads := (call.elim [] (·.namespaces)).flatMap (·.reads)
  writes := (call.elim [] (·.namespaces)).flatMap (·.writes)
  responseStatus := (call.bind (·.response)).map (·.status)
  responseMessage := (call.bind (·.response)).map (·.message)
  validationCode := none

end ChannelLedger
