import ChannelLedger.Block.Decode
import ChannelLedger.Proofs.Slot.RoundTrip

/-!
# The first malformed layer is the one that is named

A slot is read from the outside in, and the bytes of a layer are reached only through the layers in
front of it. `SlotStage` says where the reading stands, with what it still needs of the layers that it
has passed; `SlotStage.Step` is the passing of one layer, and `SlotStage.ComesTo` follows the steps to
the bytes that stand in the place of a layer. What lies behind that place is not mentioned, so it may
be anything.

If the bytes in the place of a layer are no encoding of its message, the slot fails with that layer and
the fault of those bytes (`SlotStage.ComesTo.ofSlot_eq`), and so does a block whose earlier slots decode.

Main theorem `TransactionRecord.ofSlot_malformed`.
-/
namespace ChannelLedger

open Wire Outcome

/-- The schema of the message that a layer's bytes encode. -/
def Layer.schema : Layer → Schema
  | .block => Message.schema Block
  | .envelope => Message.schema Envelope
  | .payload => Message.schema Payload
  | .channelHeader => Message.schema ChannelHeader
  | .signatureHeader => Message.schema SignatureHeader
  | .serializedIdentity => Message.schema SerializedIdentity
  | .transaction => Message.schema Transaction
  | .chaincodeActionPayload => Message.schema ChaincodeActionPayload
  | .chaincodeProposalPayload => Message.schema ChaincodeProposalPayload
  | .chaincodeInvocationSpec => Message.schema ChaincodeInvocationSpec
  | .proposalResponsePayload => Message.schema ProposalResponsePayload
  | .chaincodeAction => Message.schema ChaincodeAction
  | .txReadWriteSet => Message.schema TxReadWriteSet
  | .kvRwSet => Message.schema KvRwSet

/-! ## The stages of reading a slot -/

/-- Where the reading of a slot stands: in front of a layer, whose bytes come first. -/
inductive SlotStage where
  | envelope (bytes : Bytes)
  | payload (bytes : Bytes)
  | channelHeader (bytes signatureHeader data : Bytes)
  | signatureHeader (bytes : Bytes) (channelHeader : ChannelHeader) (data : Bytes)
  | serializedIdentity (bytes : Bytes) (channelHeader : ChannelHeader) (data : Bytes)
  | transaction (bytes : Bytes)
  | chaincodeActionPayload (bytes : Bytes)
  | chaincodeProposalPayload (bytes : Bytes) (action : Option ChaincodeEndorsedAction)
  | chaincodeInvocationSpec (bytes : Bytes) (action : Option ChaincodeEndorsedAction)
  | proposalResponsePayload (bytes : Bytes)
  | chaincodeAction (bytes : Bytes)
  | txReadWriteSet (bytes : Bytes)
  | kvRwSet (bytes : Bytes)

namespace SlotStage

/-- The layer that is read next, and its bytes. -/
def place : SlotStage → Layer × Bytes
  | .envelope bytes => (.envelope, bytes)
  | .payload bytes => (.payload, bytes)
  | .channelHeader bytes .. => (.channelHeader, bytes)
  | .signatureHeader bytes .. => (.signatureHeader, bytes)
  | .serializedIdentity bytes .. => (.serializedIdentity, bytes)
  | .transaction bytes => (.transaction, bytes)
  | .chaincodeActionPayload bytes => (.chaincodeActionPayload, bytes)
  | .chaincodeProposalPayload bytes .. => (.chaincodeProposalPayload, bytes)
  | .chaincodeInvocationSpec bytes .. => (.chaincodeInvocationSpec, bytes)
  | .proposalResponsePayload bytes => (.proposalResponsePayload, bytes)
  | .chaincodeAction bytes => (.chaincodeAction, bytes)
  | .txReadWriteSet bytes => (.txReadWriteSet, bytes)
  | .kvRwSet bytes => (.kvRwSet, bytes)

/-- One layer is read, and nothing that is looked at before the next one is amiss. -/
inductive Step : SlotStage → SlotStage → Prop
  | envelope {bytes : Bytes} {envelope : Envelope} (decodes : Message.decode bytes = .ok envelope) :
    Step (.envelope bytes) (.payload envelope.payload)
  | payload {bytes : Bytes} {payload : Payload} {header : Header}
      (decodes : Message.decode bytes = .ok payload) (header_eq : payload.header = some header) :
    Step (.payload bytes) (.channelHeader header.channelHeader header.signatureHeader payload.data)
  | channelHeader {bytes signatureHeader data : Bytes} {channelHeader : ChannelHeader}
      (decodes : Message.decode bytes = .ok channelHeader) :
    Step (.channelHeader bytes signatureHeader data)
      (.signatureHeader signatureHeader channelHeader data)
  | signatureHeader {bytes data : Bytes} {channelHeader : ChannelHeader}
      {signatureHeader : SignatureHeader} (decodes : Message.decode bytes = .ok signatureHeader) :
    Step (.signatureHeader bytes channelHeader data)
      (.serializedIdentity signatureHeader.creator channelHeader data)
  /-- Behind the creator the time and the certificate are looked at, and a slot that configures the
  channel carries no call. -/
  | serializedIdentity {bytes data : Bytes} {channelHeader : ChannelHeader}
      {creator : SerializedIdentity} {time : Timestamp} {caller : Caller}
      (decodes : Message.decode bytes = .ok creator)
      (timestamp_eq : channelHeader.timestamp = some time)
      (inRange : (DateTime.ofSeconds time.seconds.toInt).inRange = true)
      (named : Caller.read creator.idBytes = .ok caller) (carriesCall : channelHeader.kind ≠ 1) :
    Step (.serializedIdentity bytes channelHeader data) (.transaction data)
  | transaction {bytes : Bytes} {transaction : Transaction} {first : TransactionAction}
      {others : List TransactionAction} (decodes : Message.decode bytes = .ok transaction)
      (actions_eq : transaction.actions = first :: others) :
    Step (.transaction bytes) (.chaincodeActionPayload first.payload)
  | chaincodeActionPayload {bytes : Bytes} {payload : ChaincodeActionPayload}
      (decodes : Message.decode bytes = .ok payload) :
    Step (.chaincodeActionPayload bytes)
      (.chaincodeProposalPayload payload.chaincodeProposalPayload payload.action)
  | chaincodeProposalPayload {bytes : Bytes} {action : Option ChaincodeEndorsedAction}
      {proposal : ChaincodeProposalPayload} (decodes : Message.decode bytes = .ok proposal) :
    Step (.chaincodeProposalPayload bytes action) (.chaincodeInvocationSpec proposal.input action)
  | chaincodeInvocationSpec {bytes : Bytes} {action : Option ChaincodeEndorsedAction}
      {endorsed : ChaincodeEndorsedAction} {invocation : ChaincodeInvocationSpec}
      (decodes : Message.decode bytes = .ok invocation) (action_eq : action = some endorsed) :
    Step (.chaincodeInvocationSpec bytes action)
      (.proposalResponsePayload endorsed.proposalResponsePayload)
  | proposalResponsePayload {bytes : Bytes} {response : ProposalResponsePayload}
      (decodes : Message.decode bytes = .ok response) :
    Step (.proposalResponsePayload bytes) (.chaincodeAction response.extension)
  | chaincodeAction {bytes : Bytes} {action : ChaincodeAction}
      (decodes : Message.decode bytes = .ok action) :
    Step (.chaincodeAction bytes) (.txReadWriteSet action.results)
  /-- Of the namespaces, those in front are left out or read. -/
  | txReadWriteSet {bytes : Bytes} {results : TxReadWriteSet} {front behind : List NsReadWriteSet}
      {set : NsReadWriteSet} (decodes : Message.decode bytes = .ok results)
      (nsRwset_eq : results.nsRwset = front ++ set :: behind)
      (read : ∀ earlier ∈ front, earlier.namespaceName = lifecycleNamespace ∨
        ∃ sets : KvRwSet, Message.decode earlier.rwset = .ok sets)
      (reported : set.namespaceName ≠ lifecycleNamespace) :
    Step (.txReadWriteSet bytes) (.kvRwSet set.rwset)

/-- Layer by layer, the reading comes to the bytes that stand in the place of a layer. -/
inductive ComesTo : SlotStage → Layer → Bytes → Prop
  | here {stage : SlotStage} {layer : Layer} {bytes : Bytes} (eq : stage.place = (layer, bytes)) :
    ComesTo stage layer bytes
  | step {stage next : SlotStage} {layer : Layer} {bytes : Bytes} (step : Step stage next)
      (rest : ComesTo next layer bytes) : ComesTo stage layer bytes

end SlotStage

/-! ## One layer -/

theorem Layer.decode_ok {α : Type} [Message α] {layer : Layer} {bytes : Bytes} {a : α}
    (h : Message.decode bytes = .ok a) : layer.decode bytes = .ok a := by
  rw [Layer.decode, h, mapError_ok]

/-- Bytes that are no encoding are a fault of their layer. -/
theorem Layer.decode_malformed {α : Type} [Message α] {layer : Layer} {bytes : Bytes} {fault : Fault}
    (h : (Message.schema α).decode bytes = .error fault) :
    layer.decode (α := α) bytes = .error (.malformed layer fault) := by
  simp only [Layer.decode, Message.decode, h, map_error, mapError_error]

/-- In a slot that does not configure the channel, the certificate says who the caller is. -/
theorem EnvelopeLayers.caller_ok {channelHeader : ChannelHeader} {signatureHeader : SignatureHeader}
    {creator : SerializedIdentity} {data : Bytes} {caller : Caller}
    (carriesCall : channelHeader.kind ≠ 1) (named : Caller.read creator.idBytes = .ok caller) :
    EnvelopeLayers.caller ⟨channelHeader, signatureHeader, creator, data⟩ = .ok caller := by
  have hconfig : channelHeader.isConfig = false := decide_eq_false carriesCall
  simp only [EnvelopeLayers.caller, hconfig, Bool.false_eq_true, false_and, if_false, named, mapError_ok]

/-! ## From the inside out -/

section
variable {layer : Layer} {bytes x : Bytes} {fault : Fault}

/-- The namespaces in front do not fail. -/
theorem ReadWrites.ofNamespaces_malformed {front behind : List NsReadWriteSet} {set : NsReadWriteSet}
    (read : ∀ earlier ∈ front, earlier.namespaceName = lifecycleNamespace ∨
      ∃ sets : KvRwSet, Message.decode earlier.rwset = .ok sets)
    (reported : set.namespaceName ≠ lifecycleNamespace)
    (malformed : (Message.schema KvRwSet).decode set.rwset = .error fault) :
    ReadWrites.ofNamespaces (front ++ set :: behind) = .error (.malformed .kvRwSet fault) := by
  induction front with
  | nil =>
    simp only [List.nil_append, ofNamespaces, ofNamespace, reported, if_false,
      Layer.decode_malformed malformed, error_bind]
  | cons earlier front ih =>
    have hrest := ih fun other hm => read other (List.mem_cons_of_mem earlier hm)
    obtain ⟨sets, hfirst⟩ : ∃ sets, ofNamespace earlier = .ok sets := by
      unfold ofNamespace
      by_cases hname : earlier.namespaceName = lifecycleNamespace
      · rw [if_pos hname]
        exact ⟨_, rfl⟩
      · obtain ⟨sets, hsets⟩ := (read earlier List.mem_cons_self).resolve_left hname
        rw [if_neg hname, Layer.decode_ok hsets]
        exact ⟨_, rfl⟩
    rw [List.cons_append, ofNamespaces, hfirst, ok_bind, hrest, error_bind]

namespace SlotStage.ComesTo

/-- Reading goes on behind a layer only if that layer is not the one in question. -/
theorem bind_eq {α β : Type} [Message α] {stage : SlotStage} {own : Layer}
    {next : α → Except DecodeFailure β} (place : stage.ComesTo layer x)
    (malformed : layer.schema.decode x = .error fault) (own_eq : stage.place = (own, bytes))
    (schema_eq : own.schema = Message.schema α)
    (rest : ∀ {behind : SlotStage}, stage.Step behind → behind.ComesTo layer x →
      (own.decode bytes >>= next) = .error (.malformed layer fault)) :
    (own.decode bytes >>= next) = .error (.malformed layer fault) := by
  cases place with
  | here heq =>
    obtain ⟨rfl, rfl⟩ := Prod.mk.inj (own_eq.symm.trans heq)
    rw [Layer.decode_malformed (schema_eq ▸ malformed), error_bind]
  | step step place => exact rest step place

/-- A fault in the results of a call. -/
theorem decode_results_eq (place : ComesTo (.txReadWriteSet bytes) layer x)
    (malformed : layer.schema.decode x = .error fault) :
    ReadWrites.decode bytes = .error (.malformed layer fault) := by
  unfold ReadWrites.decode
  refine place.bind_eq malformed rfl rfl fun step place => ?_
  cases step with
  | txReadWriteSet decodes nsRwset_eq read reported =>
  rw [Layer.decode_ok decodes, ok_bind, nsRwset_eq]
  cases place with
  | here heq =>
    obtain ⟨rfl, rfl⟩ := Prod.mk.inj heq
    exact ReadWrites.ofNamespaces_malformed read reported malformed
  | step step => cases step

/-- A fault in what stands in the place of a response. The marker for no effects is no fault there. -/
theorem withEffects_eq {endorsed : ChaincodeEndorsedAction}
    (place : ComesTo (.proposalResponsePayload endorsed.proposalResponsePayload) layer x)
    (malformed : layer.schema.decode x = .error fault)
    (noMarker : layer = .proposalResponsePayload → x ≠ noEffectsMarker) (tx : TransactionRecord) :
    (endorsed.effects >>= tx.withEffects) = .error (.malformed layer fault) := by
  have hmarker : endorsed.proposalResponsePayload ≠ noEffectsMarker := by
    cases place with
    | here heq =>
      obtain ⟨rfl, rfl⟩ := Prod.mk.inj heq
      exact noMarker rfl
    | step step _ =>
      cases step with
      | proposalResponsePayload decodes =>
      intro hmarker
      rw [hmarker, decode_noEffectsMarker] at decodes
      cases decodes
  unfold ChaincodeEndorsedAction.effects ChaincodeEndorsedAction.hasNoEffects
  simp only [hmarker, decide_false, Bool.false_eq_true, if_false, bind_assoc, pure_bind]
  refine place.bind_eq malformed rfl rfl fun step place => ?_
  cases step with
  | proposalResponsePayload decodes =>
  rw [Layer.decode_ok decodes, ok_bind]
  refine place.bind_eq malformed rfl rfl fun step place => ?_
  cases step with
  | chaincodeAction decodes =>
  rw [Layer.decode_ok decodes, ok_bind]
  unfold TransactionRecord.withEffects
  simp only [place.decode_results_eq malformed, error_bind]

/-- A fault in the call. -/
theorem decode_call_eq (place : ComesTo (.transaction bytes) layer x)
    (malformed : layer.schema.decode x = .error fault)
    (noMarker : layer = .proposalResponsePayload → x ≠ noEffectsMarker) (tx : TransactionRecord) :
    (do
      let chaincode ← ChaincodeLayers.decode bytes
      (tx.withCall chaincode.spec).withEffects chaincode.action) = .error (.malformed layer fault) := by
  unfold ChaincodeLayers.decode
  -- one round for each layer: it is the malformed one, or the step says what was read of it
  simp only [bind_assoc]
  refine place.bind_eq malformed rfl rfl fun step place => ?_
  cases step with
  | transaction decodes actions_eq =>
  simp only [Layer.decode_ok decodes, ok_bind, actions_eq, List.head?_cons, bind_assoc]
  refine place.bind_eq malformed rfl rfl fun step place => ?_
  cases step with
  | chaincodeActionPayload decodes =>
  simp only [Layer.decode_ok decodes, ok_bind]
  refine place.bind_eq malformed rfl rfl fun step place => ?_
  cases step with
  | chaincodeProposalPayload decodes =>
  simp only [Layer.decode_ok decodes, ok_bind]
  refine place.bind_eq malformed rfl rfl fun step place => ?_
  cases step with
  | chaincodeInvocationSpec decodes action_eq =>
  simp only [Layer.decode_ok decodes, ok_bind, action_eq, bind_assoc, pure_bind]
  exact place.withEffects_eq malformed noMarker _

/-- **The first layer that is malformed is the failure of the slot.** -/
theorem ofSlot_eq {raw : Bytes} (place : ComesTo (.envelope raw) layer x)
    (malformed : layer.schema.decode x = .error fault)
    (noMarker : layer = .proposalResponsePayload → x ≠ noEffectsMarker) :
    TransactionRecord.ofSlot raw = .error (.malformed layer fault) := by
  unfold TransactionRecord.ofSlot EnvelopeLayers.decode
  simp only [bind_assoc]
  refine place.bind_eq malformed rfl rfl fun step place => ?_
  cases step with
  | envelope decodes =>
  simp only [Layer.decode_ok decodes, ok_bind]
  refine place.bind_eq malformed rfl rfl fun step place => ?_
  cases step with
  | payload decodes header_eq =>
  simp only [Layer.decode_ok decodes, ok_bind, header_eq, bind_assoc]
  refine place.bind_eq malformed rfl rfl fun step place => ?_
  cases step with
  | channelHeader decodes =>
  simp only [Layer.decode_ok decodes, ok_bind]
  refine place.bind_eq malformed rfl rfl fun step place => ?_
  cases step with
  | signatureHeader decodes =>
  simp only [Layer.decode_ok decodes, ok_bind]
  refine place.bind_eq malformed rfl rfl fun step place => ?_
  cases step with
  | serializedIdentity decodes timestamp_eq inRange named carriesCall =>
  have hconfig : ChannelHeader.isConfig _ = false := decide_eq_false carriesCall
  simp only [Layer.decode_ok decodes, ok_bind, pure_bind,
    ChannelHeader.createdAt_ok timestamp_eq inRange, EnvelopeLayers.caller_ok carriesCall named,
    hconfig, Bool.false_eq_true, if_false]
  exact place.decode_call_eq malformed noMarker _

end SlotStage.ComesTo

end

/-! ## Slots in a block -/

/-- The first slot that fails is the failure of the block's slots. -/
theorem BlockRecord.ofSlots_error {number : UInt64} {verdicts raw : Bytes} {front rest : List Bytes}
    {cause : DecodeFailure} (decodes : ∀ slot ∈ front, ∃ tx, TransactionRecord.ofSlot slot = .ok tx)
    (fails : TransactionRecord.ofSlot raw = .error cause) (index : Nat) :
    ofSlots number verdicts index (front ++ raw :: rest) =
      .error (.slot number (index + front.length) cause) := by
  induction front generalizing index with
  | nil => rw [List.nil_append, ofSlots, fails, mapError_error, error_bind]; rfl
  | cons slot front ih =>
    obtain ⟨tx, htx⟩ := decodes slot List.mem_cons_self
    have hrest := ih (fun other hm => decodes other (List.mem_cons_of_mem slot hm)) (index + 1)
    rw [List.cons_append, ofSlots, htx, mapError_ok, ok_bind, hrest, error_bind, List.length_cons,
      Nat.add_right_comm, Nat.add_assoc]

/-- A block fails with its first slot that fails. -/
theorem BlockRecord.ofBlock_error {block : Block} {header : BlockHeader} {data : BlockData}
    {raw : Bytes} {front rest : List Bytes} {cause : DecodeFailure} (hash : Bytes)
    (header_eq : block.header = some header) (data_eq : block.data = some data)
    (slots_eq : data.data = front ++ raw :: rest)
    (decodes : ∀ slot ∈ front, ∃ tx, TransactionRecord.ofSlot slot = .ok tx)
    (fails : TransactionRecord.ofSlot raw = .error cause) :
    ofBlock block hash = .error (.slot header.number front.length cause) := by
  unfold ofBlock
  simp only [header_eq, data_eq, slots_eq, ofSlots_error decodes fails, error_bind, Nat.zero_add]

/-- **The failing layer is named.** Where the reading of a slot comes to a layer whose bytes are no
encoding of its message, the slot fails with that layer and the fault of those bytes. The block around
it fails with the same layer, and what else the slot holds makes no difference. -/
theorem TransactionRecord.ofSlot_malformed {raw x : Bytes} {layer : Layer} {fault : Fault}
    (place : SlotStage.ComesTo (.envelope raw) layer x)
    (malformed : layer.schema.decode x = .error fault)
    (noMarker : layer = .proposalResponsePayload → x ≠ noEffectsMarker) :
    ofSlot raw = .error (.malformed layer fault) ∧
    (∀ (block : Block) (header : BlockHeader) (data : BlockData) (front rest : List Bytes)
        (hash : Bytes), block.header = some header → block.data = some data →
      data.data = front ++ raw :: rest → (∀ slot ∈ front, ∃ tx, ofSlot slot = .ok tx) →
      ∃ failure, BlockRecord.ofBlock block hash = .error failure ∧
        failure = .slot header.number front.length (.malformed layer fault) ∧
        failure.layer = layer) ∧
    ∀ raw', SlotStage.ComesTo (.envelope raw') layer x → ofSlot raw' = ofSlot raw := by
  have hslot := place.ofSlot_eq malformed noMarker
  refine ⟨hslot, fun block header data front rest hash hheader hdata hslots hfront => ?_, ?_⟩
  · exact ⟨_, BlockRecord.ofBlock_error hash hheader hdata hslots hfront hslot, rfl, rfl⟩
  · intro raw' place'
    rw [place'.ofSlot_eq malformed noMarker, hslot]

/-! ## A slot with a malformed namespace

The sample slot with other results. Of four namespaces the third is cut short; the first is never read
and the last is not come to. The slot stands in a block behind one that configures the channel, and in
front of one that is no slot. -/

namespace CutShort

def sets : Bytes := [0x0a, 5, 1]

def fault : Fault := ⟨[⟨"KvRwSet", "reads"⟩], .underflow⟩

def results : TxReadWriteSet where
  nsRwset := [⟨lifecycleNamespace, [0xff]⟩, ⟨"basic", Message.encode SampleSlot.sets⟩,
    ⟨"other", sets⟩, ⟨"last", [0xff]⟩]

def action : ChaincodeAction where
  results := Message.encode results

def response : ProposalResponsePayload where
  extension := Message.encode action

def endorsed : ChaincodeEndorsedAction where
  proposalResponsePayload := Message.encode response

def actionPayload : ChaincodeActionPayload where
  chaincodeProposalPayload := Message.encode SampleSlot.proposal
  action := some endorsed

def transaction : Transaction where
  actions := [⟨[], Message.encode actionPayload⟩, ⟨[], [0xff]⟩]

def payload : Payload where
  header := some SampleSlot.header
  data := Message.encode transaction

def envelope : Envelope where
  payload := Message.encode payload

def configuring : Envelope where
  payload := Message.encode (⟨some ⟨Message.encode (α := ChannelHeader)
    { kind := 1, timestamp := some ⟨0, 0⟩ }, []⟩, []⟩ : Payload)

def data : BlockData where
  data := [Message.encode configuring, Message.encode envelope, [0xff]]

def block : Block where
  header := some ⟨7, [], []⟩
  data := some data

/-- Every layer around the sets of the third namespace is read. -/
theorem comesTo : SlotStage.ComesTo (.envelope (Message.encode envelope)) .kvRwSet sets := by
  have henvelope := Message.decode_encode (by simp [schemas]) envelope (by decide +kernel)
  have hpayload := Message.decode_encode (by simp [schemas]) payload (by decide +kernel)
  have hchannelHeader := Message.decode_encode (by simp [schemas]) SampleSlot.channelHeader (by decide +kernel)
  have hsignatureHeader := Message.decode_encode (by simp [schemas]) SampleSlot.signatureHeader (by decide +kernel)
  have hcreator := Message.decode_encode (by simp [schemas]) SampleSlot.creator (by decide +kernel)
  have htransaction := Message.decode_encode (by simp [schemas]) transaction (by decide +kernel)
  have hactionPayload := Message.decode_encode (by simp [schemas]) actionPayload (by decide +kernel)
  have hproposal := Message.decode_encode (by simp [schemas]) SampleSlot.proposal (by decide +kernel)
  have hinvocation := Message.decode_encode (by simp [schemas]) SampleSlot.invocation (by decide +kernel)
  have hresponse := Message.decode_encode (by simp [schemas]) response (by decide +kernel)
  have haction := Message.decode_encode (by simp [schemas]) action (by decide +kernel)
  have hresults := Message.decode_encode (by simp [schemas]) results (by decide +kernel)
  have hbasic := Message.decode_encode (by simp [schemas]) SampleSlot.sets (by decide +kernel)
  have hnamespaces : results.nsRwset = [⟨lifecycleNamespace, [0xff]⟩,
      ⟨"basic", Message.encode SampleSlot.sets⟩] ++ ⟨"other", sets⟩ :: [⟨"last", [0xff]⟩] := rfl
  refine .step (.envelope henvelope) ?_
  refine .step (.payload hpayload rfl) ?_
  refine .step (.channelHeader hchannelHeader) ?_
  refine .step (.signatureHeader hsignatureHeader) ?_
  refine .step (.serializedIdentity hcreator rfl (by decide +kernel)
    SampleSlot.caller_read_certificate (by decide)) ?_
  refine .step (.transaction htransaction rfl) ?_
  refine .step (.chaincodeActionPayload hactionPayload) ?_
  refine .step (.chaincodeProposalPayload hproposal) ?_
  refine .step (.chaincodeInvocationSpec hinvocation rfl) ?_
  refine .step (.proposalResponsePayload hresponse) ?_
  refine .step (.chaincodeAction haction) ?_
  refine .step (.txReadWriteSet hresults hnamespaces ?_ (by decide)) (.here rfl)
  exact List.forall_mem_cons.2 ⟨.inl rfl, List.forall_mem_singleton.2 (.inr ⟨_, hbasic⟩)⟩

theorem decodes_configuring : ∀ slot ∈ [Message.encode configuring],
    ∃ tx, TransactionRecord.ofSlot slot = .ok tx := by
  have hkind : (TransactionRecord.ofSlot (Message.encode configuring)).map (·.kind) = .ok 1 := by
    decide +kernel
  obtain ⟨tx, htx, -⟩ := map_eq_ok.1 hkind
  exact List.forall_mem_singleton.2 ⟨tx, htx⟩

end CutShort

theorem TransactionRecord.ofSlot_malformed_namespace :
    ofSlot (Message.encode CutShort.envelope) = .error (.malformed .kvRwSet CutShort.fault) ∧
    BlockRecord.ofBlock CutShort.block [] = .error (.slot 7 1 (.malformed .kvRwSet CutShort.fault)) := by
  have malformed : Layer.kvRwSet.schema.decode CutShort.sets = .error CutShort.fault := rfl
  obtain ⟨hslot, hblock, -⟩ := ofSlot_malformed CutShort.comesTo malformed (by simp)
  obtain ⟨_, hfails, rfl, -⟩ := hblock CutShort.block ⟨7, [], []⟩ CutShort.data
    [Message.encode CutShort.configuring] [[0xff]] [] rfl rfl rfl CutShort.decodes_configuring
  exact ⟨hslot, hfails⟩

end ChannelLedger
