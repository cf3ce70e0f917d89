import ChannelLedger.Bytes.Hex
import ChannelLedger.Key.Public
import ChannelLedger.Slot.Chaincode
import ChannelLedger.Slot.ReadWrites
import ChannelLedger.Certificate.Caller
import ChannelLedger.Text.Layout

/-!
# Inspecting a slot

The layers of a transaction slot one after the other, with a mark for each that was found in order
or was not. A layer that does not decode ends the inspection; a creator that names no caller or has
no usable key does not.
-/
namespace ChannelLedger.Inspect

open Text

/-- The lines of a creator's certificate (`inspect_creator`). -/
def creatorLines (suite : HashSuite) (idBytes : Bytes) : List String :=
  match Certificate.read idBytes with
  | .error fault => ["  ❌ Creator certificate: " ++ (IdentityFailure.certificate fault).message]
  | .ok certificate =>
    [match Caller.ofSubject certificate.subject with
      | .ok caller => "     CN: " ++ Quoted.text caller.commonName ++ "  OU: "
        ++ Quoted.text caller.organizationalUnit
      | .error failure => "     ⚠️  Subject: " ++ failure.message,
    match PublicKey.ofKeyInfo certificate.keyInfo with
      | .ok key => "     Key: " ++ key.scheme.name ++ match key.identifier? suite with
        | .ok identifier => "  SKI: " ++ Bytes.toHex identifier
        | .error failure => "  SKI unavailable: " ++ failure.message
      | .error failure => "     ❌ Key import: " ++ failure.message]

/-- The lines of what a call read and wrote. -/
def resultLines (results : Bytes) : List String :=
  match (Layer.txReadWriteSet.decode results : Except DecodeFailure TxReadWriteSet) with
  | .error failure => ["  ❌ Read/write sets: " ++ failure.message]
  | .ok sets => sets.nsRwset.map fun set =>
    "  📦 Namespace " ++ padRight 20 set.namespaceName ++ " "
      ++ padLeft 6 (toString set.rwset.length) ++ " bytes"
      ++ (if set.namespaceName = lifecycleNamespace then " (skipped)" else "")

/-- The lines of a call. -/
def chaincodeLines (data : Bytes) : List String :=
  match ChaincodeLayers.decode data with
  | .error failure => ["  ❌ Chaincode layers: " ++ failure.message]
  | .ok layers =>
    (match layers.spec.bind (·.chaincodeId) with
      | none => []
      | some id => ["  ✅ " ++ Layer.chaincodeInvocationSpec.name ++ ": " ++ id.name ++ " "
        ++ id.version])
    ++ ["  📊 Endorsements: " ++ toString layers.endorsedAction.endorsements.length]
    ++ (if layers.endorsedAction.hasNoEffects then
        ["  ℹ️  Proposal response payload is the no-results marker"]
      else match layers.action with
        | none => []
        | some action => resultLines action.results)

/-- The lines of the headers. -/
def headerLines (layers : EnvelopeLayers) : List String :=
  let header := layers.channelHeader
  ["  ✅ " ++ Layer.envelope.name ++ " / " ++ Layer.payload.name ++ " / "
      ++ Layer.channelHeader.name,
    "     Type: " ++ toString header.kind.toInt ++ "  Channel: " ++ header.channelId ++ "  TxID: "
      ++ header.txId,
    "  ✅ " ++ Layer.signatureHeader.name ++ ": nonce "
      ++ toString layers.signatureHeader.nonce.length ++ " bytes",
    "  ✅ " ++ Layer.serializedIdentity.name ++ ": mspid " ++ Quoted.text layers.creator.mspid ++ ", "
      ++ toString layers.creator.idBytes.length ++ " identity bytes"]

/-- The lines of a slot (`inspect_slot`). -/
def slotLines (suite : HashSuite) (raw : Bytes) : List String :=
  match EnvelopeLayers.decode raw with
  | .error failure => ["  ❌ Envelope layers: " ++ failure.message]
  | .ok layers =>
    headerLines layers
      ++ (if layers.creator.idBytes.isEmpty then [] else creatorLines suite layers.creator.idBytes)
      ++ (if layers.channelHeader.isConfig then
          ["  ℹ️  Config transaction, chaincode layers not present"]
        else chaincodeLines layers.data)

end ChannelLedger.Inspect
