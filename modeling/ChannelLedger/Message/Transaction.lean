import ChannelLedger.Wire.Message

/-!
# Endorser transactions

The layers below the payload of an endorser transaction: its actions, the chaincode call that was
proposed, and what the endorsers answered.
-/
namespace ChannelLedger

open Wire

/-- One action, its payload encoded on its own. -/
structure TransactionAction where
  header : Bytes := []
  payload : Bytes := []
  deriving DecidableEq, Repr

instance : Message TransactionAction where
  schema := .of "TransactionAction" [(1, "header", .bytes), (2, "payload", .bytes)]
  ofRecord := fun (header, payload, ()) => ⟨header, payload⟩
  toRecord m := (m.header, m.payload, ())

/-- The actions of a transaction. -/
structure Transaction where
  actions : List TransactionAction := []
  deriving DecidableEq, Repr

instance : Message Transaction where
  schema := .of "Transaction" [(1, "actions", (Message.schema TransactionAction).repeated)]
  ofRecord := fun (actions, ()) => ⟨Message.ofRepeated actions⟩
  toRecord m := (Message.toRepeated m.actions, ())
  ofRecord_toRecord m := by simp
  toRecord_ofRecord := fun (actions, ()) => by simp; rfl

/-- The signature of an endorser. -/
structure Endorsement where
  endorser : Bytes := []
  signature : Bytes := []
  deriving DecidableEq, Repr

instance : Message Endorsement where
  schema := .of "Endorsement" [(1, "endorser", .bytes), (2, "signature", .bytes)]
  ofRecord := fun (endorser, signature, ()) => ⟨endorser, signature⟩
  toRecord m := (m.endorser, m.signature, ())

/-- The response that was endorsed, and by whom. -/
structure ChaincodeEndorsedAction where
  proposalResponsePayload : Bytes := []
  endorsements : List Endorsement := []
  deriving DecidableEq, Repr

instance : Message ChaincodeEndorsedAction where
  schema := .of "ChaincodeEndorsedAction" [
    (1, "proposal_response_payload", .bytes),
    (2, "endorsements", (Message.schema Endorsement).repeated)]
  ofRecord := fun (proposalResponsePayload, endorsements, ()) =>
    ⟨proposalResponsePayload, Message.ofRepeated endorsements⟩
  toRecord m := (m.proposalResponsePayload, Message.toRepeated m.endorsements, ())
  ofRecord_toRecord m := by simp
  toRecord_ofRecord := fun (proposalResponsePayload, endorsements, ()) => by simp; rfl

/-- A proposal and its endorsed answer. -/
structure ChaincodeActionPayload where
  chaincodeProposalPayload : Bytes := []
  action : Option ChaincodeEndorsedAction := none
  deriving DecidableEq, Repr

instance : Message ChaincodeActionPayload where
  schema := .of "ChaincodeActionPayload" [
    (1, "chaincode_proposal_payload", .bytes),
    (2, "action", (Message.schema ChaincodeEndorsedAction).optional)]
  ofRecord := fun (chaincodeProposalPayload, action, ()) =>
    ⟨chaincodeProposalPayload, Message.ofOptional action⟩
  toRecord m := (m.chaincodeProposalPayload, Message.toOptional m.action, ())
  ofRecord_toRecord m := by simp
  toRecord_ofRecord := fun (chaincodeProposalPayload, action, ()) => by simp; rfl

/-- The proposed call. -/
structure ChaincodeProposalPayload where
  input : Bytes := []
  transientMap : Wire.ByteMap := .empty
  deriving DecidableEq, Repr

instance : Message ChaincodeProposalPayload where
  schema := .of "ChaincodeProposalPayload" [(1, "input", .bytes), (2, "transient_map", .map)]
  ofRecord := fun (input, transientMap, ()) => ⟨input, transientMap⟩
  toRecord m := (m.input, m.transientMap, ())

/-- A chaincode by name and version. -/
structure ChaincodeId where
  path : String := ""
  name : String := ""
  version : String := ""
  deriving DecidableEq, Repr

instance : Message ChaincodeId where
  schema := .of "ChaincodeId" [(1, "path", .string), (2, "name", .string), (3, "version", .string)]
  ofRecord := fun (path, name, version, ()) => ⟨path, name, version⟩
  toRecord m := (m.path, m.name, m.version, ())

/-- The arguments of a call. -/
structure ChaincodeInput where
  args : List Bytes := []
  decorations : Wire.ByteMap := .empty
  isInit : Bool := false
  deriving DecidableEq, Repr

instance : Message ChaincodeInput where
  schema := .of "ChaincodeInput" [
    (1, "args", .repeatedBytes),
    (2, "decorations", .map),
    (3, "is_init", .bool)]
  ofRecord := fun (args, decorations, isInit, ()) => ⟨args, decorations, isInit⟩
  toRecord m := (m.args, m.decorations, m.isInit, ())

/-- A call: which chaincode, with which arguments. -/
structure ChaincodeSpec where
  /-- The language of the chaincode. -/
  kind : Int32 := 0
  chaincodeId : Option ChaincodeId := none
  input : Option ChaincodeInput := none
  timeout : Int32 := 0
  deriving DecidableEq, Repr

instance : Message ChaincodeSpec where
  schema := .of "ChaincodeSpec" [
    (1, "type", .int32),
    (2, "chaincode_id", (Message.schema ChaincodeId).optional),
    (3, "input", (Message.schema ChaincodeInput).optional),
    (4, "timeout", .int32)]
  ofRecord := fun (kind, chaincodeId, input, timeout, ()) =>
    ⟨kind, Message.ofOptional chaincodeId, Message.ofOptional input, timeout⟩
  toRecord m := (m.kind, Message.toOptional m.chaincodeId,
    Message.toOptional m.input, m.timeout, ())
  ofRecord_toRecord m := by simp
  toRecord_ofRecord := fun (kind, chaincodeId, input, timeout, ()) => by simp; rfl

/-- A call that may be absent. -/
structure ChaincodeInvocationSpec where
  chaincodeSpec : Option ChaincodeSpec := none
  deriving DecidableEq, Repr

instance : Message ChaincodeInvocationSpec where
  schema := .of "ChaincodeInvocationSpec" [
    (1, "chaincode_spec", (Message.schema ChaincodeSpec).optional)]
  ofRecord := fun (chaincodeSpec, ()) => ⟨Message.ofOptional chaincodeSpec⟩
  toRecord m := (Message.toOptional m.chaincodeSpec, ())
  ofRecord_toRecord m := by simp
  toRecord_ofRecord := fun (chaincodeSpec, ()) => by simp; rfl

/-- The answer that endorsers sign. -/
structure ProposalResponsePayload where
  proposalHash : Bytes := []
  extension : Bytes := []
  deriving DecidableEq, Repr

instance : Message ProposalResponsePayload where
  schema := .of "ProposalResponsePayload" [(1, "proposal_hash", .bytes), (2, "extension", .bytes)]
  ofRecord := fun (proposalHash, extension, ()) => ⟨proposalHash, extension⟩
  toRecord m := (m.proposalHash, m.extension, ())

/-- What the chaincode returned. -/
structure Response where
  status : Int32 := 0
  message : String := ""
  payload : Bytes := []
  deriving DecidableEq, Repr

instance : Message Response where
  schema := .of "Response" [(1, "status", .int32), (2, "message", .string), (3, "payload", .bytes)]
  ofRecord := fun (status, message, payload, ()) => ⟨status, message, payload⟩
  toRecord m := (m.status, m.message, m.payload, ())

/-- The effects of a call: its read and write sets, events and response. -/
structure ChaincodeAction where
  results : Bytes := []
  events : Bytes := []
  response : Option Response := none
  chaincodeId : Option ChaincodeId := none
  deriving DecidableEq, Repr

instance : Message ChaincodeAction where
  schema := .of "ChaincodeAction" [
    (1, "results", .bytes),
    (2, "events", .bytes),
    (3, "response", (Message.schema Response).optional),
    (4, "chaincode_id", (Message.schema ChaincodeId).optional)]
  ofRecord := fun (results, events, response, chaincodeId, ()) =>
    ⟨results, events, Message.ofOptional response, Message.ofOptional chaincodeId⟩
  toRecord m := (m.results, m.events,
    Message.toOptional m.response, Message.toOptional m.chaincodeId, ())
  ofRecord_toRecord m := by simp
  toRecord_ofRecord := fun (results, events, response, chaincodeId, ()) => by simp; rfl

end ChannelLedger
