import ChannelLedger.Message.Envelope
import ChannelLedger.Slot.Failure

/-!
# The outer layers of a slot

From the bytes of a transaction slot to its headers and its creator. The layers are read in a
fixed order and the first that fails is the one that is reported; what the payload carries is not
looked at here.
-/
namespace ChannelLedger

/-- The message that a layer's bytes encode; a fault is reported as that layer's (`decode_layer`). -/
def Layer.decode {α : Type} [Wire.Message α] (layer : Layer) (bytes : Bytes) :
    Except DecodeFailure α :=
  (Wire.Message.decode bytes).mapError (.malformed layer)

/-- The kinds of transactions that this library tells apart. -/
def ChannelHeader.isConfig (header : ChannelHeader) : Bool :=
  header.kind = 1

/-- The outer layers of a slot. -/
structure EnvelopeLayers where
  channelHeader : ChannelHeader
  signatureHeader : SignatureHeader
  creator : SerializedIdentity
  /-- What the payload carries, not decoded. -/
  data : Bytes

/-- Reads the outer layers of a slot (`unwrap_envelope`). -/
def EnvelopeLayers.decode (raw : Bytes) : Except DecodeFailure EnvelopeLayers := do
  let envelope : ChannelLedger.Envelope ← Layer.envelope.decode raw
  let payload : Payload ← Layer.payload.decode envelope.payload
  let some header := payload.header | throw (.missing .payload "header")
  let channelHeader ← Layer.channelHeader.decode header.channelHeader
  let signatureHeader : SignatureHeader ← Layer.signatureHeader.decode header.signatureHeader
  let creator ← Layer.serializedIdentity.decode signatureHeader.creator
  return ⟨channelHeader, signatureHeader, creator, payload.data⟩

end ChannelLedger
