import ChannelLedger.Message.Block
import ChannelLedger.Message.Envelope
import ChannelLedger.Message.ReadWriteSet
import ChannelLedger.Message.Transaction

/-!
# The message types by name

Every message type of the library, so that bytes can be read as a message whose type is only known
by its name.
-/
namespace ChannelLedger.Wire

/-- The schemas of all message types. -/
def schemas : List Schema := [
  Message.schema Block, Message.schema BlockHeader, Message.schema BlockData,
  Message.schema BlockMetadata, Message.schema BlockchainInfo, Message.schema Envelope,
  Message.schema Payload, Message.schema Header, Message.schema ChannelHeader,
  Message.schema SignatureHeader, Message.schema SerializedIdentity, Message.schema Transaction,
  Message.schema TransactionAction, Message.schema ChaincodeActionPayload,
  Message.schema ChaincodeEndorsedAction, Message.schema Endorsement,
  Message.schema ChaincodeProposalPayload, Message.schema ChaincodeInvocationSpec,
  Message.schema ChaincodeSpec, Message.schema ChaincodeId, Message.schema ChaincodeInput,
  Message.schema ProposalResponsePayload, Message.schema ChaincodeAction,
  Message.schema Response, Message.schema TxReadWriteSet, Message.schema NsReadWriteSet,
  Message.schema KvRwSet, Message.schema KvRead, Message.schema KvWrite, Message.schema Version,
  Message.schema Timestamp]

/-- The schema of that name. -/
def schemaNamed? (name : String) : Option Schema :=
  schemas.find? (·.name = name)

end ChannelLedger.Wire
