import ChannelLedger.Der.Fault
import ChannelLedger.Wire.Fault

/-!
# Why a block or a transaction slot does not decode

A slot is a stack of layers, each a message whose payload is the next one. A failure says which
layer it arose in; inside a block it also says in which slot. Each kind of failure has one wording,
and a failure that was brought about by another one names it as its source.
-/
namespace ChannelLedger

/-- The layers of a block, from the outside in. -/
inductive Layer where
  | block
  | envelope
  | payload
  | channelHeader
  | signatureHeader
  | serializedIdentity
  | transaction
  | chaincodeActionPayload
  | chaincodeProposalPayload
  | chaincodeInvocationSpec
  | proposalResponsePayload
  | chaincodeAction
  | txReadWriteSet
  | kvRwSet
  deriving DecidableEq, Repr

namespace Layer

def name : Layer → String
  | .block => "Block"
  | .envelope => "Envelope"
  | .payload => "Payload"
  | .channelHeader => "ChannelHeader"
  | .signatureHeader => "SignatureHeader"
  | .serializedIdentity => "SerializedIdentity"
  | .transaction => "Transaction"
  | .chaincodeActionPayload => "ChaincodeActionPayload"
  | .chaincodeProposalPayload => "ChaincodeProposalPayload"
  | .chaincodeInvocationSpec => "ChaincodeInvocationSpec"
  | .proposalResponsePayload => "ProposalResponsePayload"
  | .chaincodeAction => "ChaincodeAction"
  | .txReadWriteSet => "TxReadWriteSet"
  | .kvRwSet => "KVRWSet"

def all : List Layer := [
  .block, .envelope, .payload, .channelHeader, .signatureHeader, .serializedIdentity,
  .transaction, .chaincodeActionPayload, .chaincodeProposalPayload, .chaincodeInvocationSpec,
  .proposalResponsePayload, .chaincodeAction, .txReadWriteSet, .kvRwSet]

end Layer

/-- Which entry of a certificate's subject is meant. -/
inductive SubjectEntry where
  | commonName
  | organizationalUnit
  deriving DecidableEq, Repr

def SubjectEntry.label : SubjectEntry → String
  | .commonName => "CN"
  | .organizationalUnit => "OU"

/-- Why a creator's certificate does not name a caller (`IdentityError`). -/
inductive IdentityFailure where
  /-- The bytes are no certificate, neither as PEM nor as DER. -/
  | certificate (fault : Der.Fault)
  /-- The subject has no organizational unit. -/
  | noOrganizationalUnit
  /-- An entry of the subject is not text. -/
  | notText (entry : SubjectEntry)
  deriving DecidableEq, Repr

namespace IdentityFailure

def message : IdentityFailure → String
  | .certificate fault => "failed to parse certificate: " ++ fault.message
  | .noOrganizationalUnit => "certificate subject has no organizational unit"
  | .notText entry => "certificate subject " ++ entry.label ++ " entry is not valid text"

/-- The wordings of what brought the failure about, nearest first. -/
def sources : IdentityFailure → List String
  | .certificate fault => [fault.message]
  | _ => []

end IdentityFailure

/-- Why a block or a transaction slot does not decode (`DecodeError`). -/
inductive DecodeFailure where
  /-- The bytes of a layer are no encoding of its message. -/
  | malformed (layer : Layer) (fault : Wire.Fault)
  /-- A part that the next layer is taken from is absent. -/
  | missing (layer : Layer) (field : String)
  /-- A transaction without actions. -/
  | noActions
  /-- The time of a transaction has no date. -/
  | timestamp (seconds : Int64)
  /-- The creator's certificate names no caller. -/
  | identity (cause : IdentityFailure)
  /-- A slot of a block does not decode. -/
  | slot (block : UInt64) (index : Nat) (cause : DecodeFailure)
  deriving DecidableEq, Repr

namespace DecodeFailure

def message : DecodeFailure → String
  | .malformed layer fault => "failed to decode " ++ layer.name ++ ": " ++ fault.message
  | .missing layer field => layer.name ++ " is missing required field \x60" ++ field ++ "\x60"
  | .noActions => "transaction carries no actions"
  | .timestamp seconds =>
    "channel header timestamp " ++ toString seconds.toInt ++ " is out of range"
  | .identity cause => "creator identity: " ++ cause.message
  | .slot block index cause =>
    "block " ++ toString block ++ ", transaction " ++ toString index ++ ": " ++ cause.message

/-- The wordings of what brought the failure about, nearest first. -/
def sources : DecodeFailure → List String
  | .malformed _ fault => [fault.message]
  | .identity cause => cause.message :: cause.sources
  | .slot _ _ cause => cause.message :: cause.sources
  | _ => []

/-- The layer a failure arose in, whatever it is wrapped in. -/
def layer : DecodeFailure → Layer
  | .malformed layer _ => layer
  | .missing layer _ => layer
  | .noActions => .transaction
  | .timestamp _ => .channelHeader
  | .identity _ => .serializedIdentity
  | .slot _ _ cause => cause.layer

end DecodeFailure

end ChannelLedger
