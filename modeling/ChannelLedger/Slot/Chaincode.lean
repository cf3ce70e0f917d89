import ChannelLedger.Message.Transaction
import ChannelLedger.Slot.Envelope

/-!
# The inner layers of a slot

What the payload of an endorser transaction carries: the call that was proposed and the answer
that was endorsed. Only the first action of a transaction is read. An answer may carry no effects;
a fixed marker then stands where the response payload would be.
-/
namespace ChannelLedger

/-- The response payload of an action without effects (`NO_RESULTS_SENTINEL`). -/
def noEffectsMarker : Bytes :=
  Bytes.ofText "Application"

/-- The action has no effects (`is_no_results_sentinel`). -/
def ChaincodeEndorsedAction.hasNoEffects (action : ChaincodeEndorsedAction) : Bool :=
  action.proposalResponsePayload = noEffectsMarker

/-- The inner layers of a slot. -/
structure ChaincodeLayers where
  spec : Option ChaincodeSpec
  endorsedAction : ChaincodeEndorsedAction
  /-- The effects, unless the marker stands for none. -/
  action : Option ChaincodeAction

/-- The effects of an endorsed action. -/
def ChaincodeEndorsedAction.effects (action : ChaincodeEndorsedAction) :
    Except DecodeFailure (Option ChaincodeAction) := do
  if action.hasNoEffects then return none
  let response : ProposalResponsePayload ←
    Layer.proposalResponsePayload.decode action.proposalResponsePayload
  return some (← Layer.chaincodeAction.decode response.extension)

/-- Reads the inner layers from what a payload carries (`unwrap_chaincode_transaction`). -/
def ChaincodeLayers.decode (data : Bytes) : Except DecodeFailure ChaincodeLayers := do
  let transaction : Transaction ← Layer.transaction.decode data
  let some first := transaction.actions.head? | throw .noActions
  let payload : ChaincodeActionPayload ← Layer.chaincodeActionPayload.decode first.payload
  let proposal : ChaincodeProposalPayload ←
    Layer.chaincodeProposalPayload.decode payload.chaincodeProposalPayload
  let invocation : ChaincodeInvocationSpec ← Layer.chaincodeInvocationSpec.decode proposal.input
  let some endorsed := payload.action | throw (.missing .chaincodeActionPayload "action")
  return ⟨invocation.chaincodeSpec, endorsed, ← endorsed.effects⟩

end ChannelLedger
