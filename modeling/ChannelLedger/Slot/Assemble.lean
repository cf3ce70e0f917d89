import ChannelLedger.Calendar
import ChannelLedger.Certificate.Caller
import ChannelLedger.Record.Transaction
import ChannelLedger.Slot.Chaincode
import ChannelLedger.Slot.ReadWrites

/-!
# From a slot to a record

A slot decodes completely or not at all. Its layers are read from the outside in: the headers,
then the time, then the creator, and then, unless the slot configures the channel, the call and
its effects. The first of these that fails is the failure of the slot.
-/
namespace ChannelLedger

/-- The text of a number of seconds since the start of 1970, as far as the calendar goes (`format_timestamp`). -/
def DateTime.format (seconds : Int64) : Except DecodeFailure String :=
  let moment := ofSeconds seconds.toInt
  if moment.inRange then .ok moment.text else .error (.timestamp seconds)

namespace ChannelHeader

/-- The date and time of a transaction. -/
def createdAt (header : ChannelHeader) : Except DecodeFailure String := do
  let some time := header.timestamp | throw (.missing .channelHeader "timestamp")
  DateTime.format time.seconds

end ChannelHeader

/-- The caller of a transaction. A slot that configures the channel may come without a
certificate. -/
def EnvelopeLayers.caller (layers : EnvelopeLayers) : Except DecodeFailure Caller :=
  if layers.channelHeader.isConfig ∧ layers.creator.idBytes.isEmpty then .ok ⟨"", ""⟩
  else (Caller.read layers.creator.idBytes).mapError .identity

namespace TransactionRecord

/-- What the outer layers say of a transaction. -/
def ofEnvelope (layers : EnvelopeLayers) (createdAt : String) (caller : Caller) :
    TransactionRecord where
  txId := layers.channelHeader.txId
  kind := layers.channelHeader.kind
  channelId := layers.channelHeader.channelId
  createdAt := createdAt
  chaincodeId := ""
  chaincodeVersion := ""
  args := []
  callerMspId := layers.creator.mspid
  callerName := caller.commonName
  callerUnit := caller.organizationalUnit
  nonce := layers.signatureHeader.nonce
  reads := []
  writes := []
  responseStatus := none
  responseMessage := none
  validationCode := none

/-- Adds the call that was proposed. -/
def withCall (tx : TransactionRecord) (spec : Option ChaincodeSpec) : TransactionRecord :=
  let id := spec.bind (·.chaincodeId)
  let input := spec.bind (·.input)
  { tx with
    chaincodeId := (id.map (·.name)).getD tx.chaincodeId
    chaincodeVersion := (id.map (·.version)).getD tx.chaincodeVersion
    args := (input.map fun input => input.args.map Utf8.lossy).getD tx.args }

/-- Adds the effects of the call. -/
def withEffects (tx : TransactionRecord) (action : Option ChaincodeAction) :
    Except DecodeFailure TransactionRecord := do
  let some action := action | return tx
  let sets ← ReadWrites.decode action.results
  return { tx with
    reads := sets.reads
    writes := sets.writes
    responseStatus := action.response.map (·.status)
    responseMessage := action.response.map (·.message) }

/-- The transaction that a slot holds (`assemble_transaction`). -/
def ofSlot (raw : Bytes) : Except DecodeFailure TransactionRecord := do
  let layers ← EnvelopeLayers.decode raw
  let createdAt ← layers.channelHeader.createdAt
  let caller ← layers.caller
  let tx := ofEnvelope layers createdAt caller
  if layers.channelHeader.isConfig then return tx
  let chaincode ← ChaincodeLayers.decode layers.data
  (tx.withCall chaincode.spec).withEffects chaincode.action

end TransactionRecord

end ChannelLedger
