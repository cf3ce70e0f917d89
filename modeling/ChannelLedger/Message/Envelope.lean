import ChannelLedger.Message.Timestamp
import ChannelLedger.Wire.Message

/-!
# Envelopes

The outer layers of a transaction slot: a signed payload, whose header says what kind of
transaction it is, on which channel, and who created it.
-/
namespace ChannelLedger

open Wire

/-- A signed payload. -/
structure Envelope where
  payload : Bytes := []
  signature : Bytes := []
  deriving DecidableEq, Repr

instance : Message Envelope where
  schema := .of "Envelope" [(1, "payload", .bytes), (2, "signature", .bytes)]
  ofRecord := fun (payload, signature, ()) => ⟨payload, signature⟩
  toRecord m := (m.payload, m.signature, ())

/-- The two headers of a payload, each encoded on its own. -/
structure Header where
  channelHeader : Bytes := []
  signatureHeader : Bytes := []
  deriving DecidableEq, Repr

instance : Message Header where
  schema := .of "Header" [(1, "channel_header", .bytes), (2, "signature_header", .bytes)]
  ofRecord := fun (channelHeader, signatureHeader, ()) => ⟨channelHeader, signatureHeader⟩
  toRecord m := (m.channelHeader, m.signatureHeader, ())

/-- What an envelope carries. -/
structure Payload where
  header : Option Header := none
  data : Bytes := []
  deriving DecidableEq, Repr

instance : Message Payload where
  schema := .of "Payload" [(1, "header", (Message.schema Header).optional), (2, "data", .bytes)]
  ofRecord := fun (header, data, ()) => ⟨Message.ofOptional header, data⟩
  toRecord m := (Message.toOptional m.header, m.data, ())
  ofRecord_toRecord m := by simp
  toRecord_ofRecord := fun (header, data, ()) => by simp; rfl

/-- What a transaction is and where it belongs. -/
structure ChannelHeader where
  /-- The kind of transaction. -/
  kind : Int32 := 0
  version : Int32 := 0
  timestamp : Option Timestamp := none
  channelId : String := ""
  txId : String := ""
  epoch : UInt64 := 0
  extension : Bytes := []
  tlsCertHash : Bytes := []
  deriving DecidableEq, Repr

instance : Message ChannelHeader where
  schema := .of "ChannelHeader" [
    (1, "type", .int32),
    (2, "version", .int32),
    (3, "timestamp", (Message.schema Timestamp).optional),
    (4, "channel_id", .string),
    (5, "tx_id", .string),
    (6, "epoch", .uint64),
    (7, "extension", .bytes),
    (8, "tls_cert_hash", .bytes)]
  ofRecord := fun (kind, version, timestamp, channelId, txId, epoch, extension, tlsCertHash, ()) =>
    ⟨kind, version, Message.ofOptional timestamp, channelId, txId, epoch, extension, tlsCertHash⟩
  toRecord m := (m.kind, m.version, Message.toOptional m.timestamp, m.channelId,
    m.txId, m.epoch, m.extension, m.tlsCertHash, ())
  ofRecord_toRecord m := by simp
  toRecord_ofRecord := fun (kind, version, timestamp, channelId, txId, epoch, extension, tlsCertHash, ()) => by simp; rfl

/-- Who created a transaction. -/
structure SignatureHeader where
  creator : Bytes := []
  nonce : Bytes := []
  deriving DecidableEq, Repr

instance : Message SignatureHeader where
  schema := .of "SignatureHeader" [(1, "creator", .bytes), (2, "nonce", .bytes)]
  ofRecord := fun (creator, nonce, ()) => ⟨creator, nonce⟩
  toRecord m := (m.creator, m.nonce, ())

/-- A member and its certificate. -/
structure SerializedIdentity where
  mspid : String := ""
  idBytes : Bytes := []
  deriving DecidableEq, Repr

instance : Message SerializedIdentity where
  schema := .of "SerializedIdentity" [(1, "mspid", .string), (2, "id_bytes", .bytes)]
  ofRecord := fun (mspid, idBytes, ()) => ⟨mspid, idBytes⟩
  toRecord m := (m.mspid, m.idBytes, ())

end ChannelLedger
