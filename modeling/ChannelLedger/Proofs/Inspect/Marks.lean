import ChannelLedger.Inspect.Slot
import ChannelLedger.Proofs.Slot.RoundTrip

/-!
# Which failures an inspection marks

The inspection of a slot reads the layers that the decoder reads, in their order, and where one of them
does not decode, a line says so with a mark. But it only shows what it reads: it does not ask for the time
of a transaction, passes over a creator without a certificate, and of a namespace it says how many bytes
there are, not whether they are an encoding. A failure of one of these four kinds
(`EnvelopeLayers.Overlooked`) can go unmarked (`Inspect.slotLines_unmarked`), and no other can.

Main theorem `Inspect.slotLines_marked`.
-/
namespace ChannelLedger

open Wire Outcome

/-! ## Marks -/

namespace Inspect

/-- The marks of what was not found in order: the cross and the warning sign. -/
def marks : List Char := ['❌', '⚠']

/-- Whether a line carries a mark. -/
def isMarked (line : String) : Bool :=
  line.toList.any (· ∈ marks)

/-- What a marked text begins is marked. -/
theorem isMarked_append {a : String} (h : isMarked a = true) (b : String) :
    isMarked (a ++ b) = true := by
  rw [isMarked, String.toList_append, List.any_append, Bool.or_eq_true]
  exact .inl h

end Inspect

/-! ## What the inspection does not look at -/

/-- The failures of a slot that an inspection of its layers does not come to. -/
inductive EnvelopeLayers.Overlooked (layers : EnvelopeLayers) : DecodeFailure → Prop
  /-- The channel header states no time. -/
  | noTime (absent : layers.channelHeader.timestamp = none) :
    Overlooked layers (.missing .channelHeader "timestamp")
  /-- The time of the channel header has no date. -/
  | noDate {time : Timestamp} (stated : layers.channelHeader.timestamp = some time)
      (outOfRange : (DateTime.ofSeconds time.seconds.toInt).inRange = false) :
    Overlooked layers (.timestamp time.seconds)
  /-- A call comes without the certificate of its creator. -/
  | noCertificate (absent : layers.creator.idBytes = [])
      (carriesCall : layers.channelHeader.isConfig = false) :
    Overlooked layers (.identity (.certificate (.ofSequence [])))
  /-- The sets of a namespace are no encoding. -/
  | sets {chaincode : ChaincodeLayers} {action : ChaincodeAction} {results : TxReadWriteSet}
      {set : NsReadWriteSet} {fault : Fault}
      (call : ChaincodeLayers.decode layers.data = .ok chaincode)
      (effects : chaincode.action = some action)
      (decodes : Layer.txReadWriteSet.decode action.results = .ok results)
      (reported : set ∈ results.nsRwset ∧ set.namespaceName ≠ lifecycleNamespace)
      (malformed : (Message.decode set.rwset : Except Fault KvRwSet) = .error fault) :
    Overlooked layers (.malformed .kvRwSet fault)

/-! ## Where the decoder fails -/

theorem EnvelopeLayers.overlooked_of_createdAt {layers : EnvelopeLayers} {failure : DecodeFailure}
    (h : layers.channelHeader.createdAt = .error failure) : layers.Overlooked failure := by
  unfold ChannelHeader.createdAt DateTime.format at h
  cases htime : layers.channelHeader.timestamp with
  | none =>
    simp only [htime] at h
    cases h
    exact .noTime htime
  | some time =>
    simp only [htime] at h
    split at h
    · cases h
    · rename_i hrange
      cases h
      exact .noDate htime (Bool.eq_false_iff.2 hrange)

/-- The sets of the first namespace that fails are no encoding. -/
theorem ReadWrites.ofNamespaces_eq_error {sets : List NsReadWriteSet} {failure : DecodeFailure}
    (h : ofNamespaces sets = .error failure) :
    ∃ set ∈ sets, set.namespaceName ≠ lifecycleNamespace ∧ ∃ fault,
      (Message.decode set.rwset : Except Fault KvRwSet) = .error fault ∧
      failure = .malformed .kvRwSet fault := by
  induction sets with
  | nil => cases h
  | cons set sets ih =>
    rw [ofNamespaces] at h
    rcases bind_eq_error.1 h with hfirst | ⟨first, -, hrest⟩
    · unfold ofNamespace at hfirst
      by_cases hname : set.namespaceName = lifecycleNamespace
      · simp [hname] at hfirst
      rw [if_neg hname] at hfirst
      rcases bind_eq_error.1 hfirst with hdecode | ⟨_, -, hpure⟩
      · obtain ⟨fault, hfault, rfl⟩ := mapError_eq_error.1 hdecode
        exact ⟨set, List.mem_cons_self, hname, fault, hfault, rfl⟩
      · cases hpure
    · rcases bind_eq_error.1 hrest with hlater | ⟨_, -, hpure⟩
      · obtain ⟨later, hm, hlater⟩ := ih hlater
        exact ⟨later, List.mem_cons_of_mem set hm, hlater⟩
      · cases hpure

/-- An action with effects does not carry the marker for none. -/
theorem ChaincodeLayers.hasNoEffects_of_action {data : Bytes} {layers : ChaincodeLayers}
    (h : decode data = .ok layers) {action : ChaincodeAction} (haction : layers.action = some action) :
    layers.endorsedAction.hasNoEffects = false := by
  unfold decode at h
  obtain ⟨transaction, -, h⟩ := bind_eq_ok.1 h
  cases hfirst : transaction.actions.head? with
  | none => simp [hfirst] at h
  | some first =>
  simp only [hfirst] at h
  obtain ⟨payload, -, h⟩ := bind_eq_ok.1 h
  obtain ⟨proposal, -, h⟩ := bind_eq_ok.1 h
  obtain ⟨invocation, -, h⟩ := bind_eq_ok.1 h
  cases hendorsed : payload.action with
  | none => simp [hendorsed] at h
  | some endorsed =>
  simp only [hendorsed] at h
  obtain ⟨effects, heffects, h⟩ := bind_eq_ok.1 h
  cases h
  obtain rfl : effects = some action := haction
  cases hmarker : endorsed.hasNoEffects with
  | false => rfl
  | true => simp [ChaincodeEndorsedAction.effects, hmarker] at heffects

/-! ## What the inspection says of it -/

namespace Inspect

/-- A creator that names no caller is marked. -/
theorem creatorLines_marked (suite : HashSuite) {idBytes : Bytes} {cause : IdentityFailure}
    (h : Caller.read idBytes = .error cause) :
    ∃ line ∈ creatorLines suite idBytes, isMarked line = true := by
  unfold Caller.read at h
  unfold creatorLines
  cases hread : Certificate.read idBytes with
  | error fault => exact ⟨_, List.mem_singleton_self _, isMarked_append (by decide) _⟩
  | ok certificate =>
    simp only [hread] at h
    refine ⟨_, List.mem_cons_self, ?_⟩
    simp only [h]
    exact isMarked_append (by decide) _

/-- A call that does not decode is marked. -/
theorem chaincodeLines_marked {data : Bytes} {failure : DecodeFailure}
    (h : ChaincodeLayers.decode data = .error failure) :
    ∃ line ∈ chaincodeLines data, isMarked line = true := by
  rw [chaincodeLines, h]
  exact ⟨_, List.mem_singleton_self _, isMarked_append (by decide) _⟩

/-- Effects whose results do not decode are marked, unless it is the sets of a namespace that do not. -/
theorem chaincodeLines_marked_of_effects {layers : EnvelopeLayers} {chaincode : ChaincodeLayers}
    (call : ChaincodeLayers.decode layers.data = .ok chaincode) {tx : TransactionRecord}
    {failure : DecodeFailure} (h : tx.withEffects chaincode.action = .error failure) :
    (∃ line ∈ chaincodeLines layers.data, isMarked line = true) ∨ layers.Overlooked failure := by
  unfold TransactionRecord.withEffects at h
  cases haction : chaincode.action with
  | none => simp [haction] at h
  | some action =>
  simp only [haction] at h
  rcases bind_eq_error.1 h with hdecode | ⟨_, -, hpure⟩
  · rcases bind_eq_error.1 hdecode with hresults | ⟨results, hresults, hsets⟩
    · have hmarker := ChaincodeLayers.hasNoEffects_of_action call haction
      refine .inl ⟨"  ❌ Read/write sets: " ++ failure.message, ?_, isMarked_append (by decide) _⟩
      rw [chaincodeLines, call]
      simp [hmarker, haction, resultLines, hresults]
    · obtain ⟨set, hm, hname, fault, hfault, rfl⟩ := ReadWrites.ofNamespaces_eq_error hsets
      exact .inr (.sets call haction hresults ⟨hm, hname⟩ hfault)
  · cases hpure

/-- **Which failures of a slot are marked**: all but those that the inspection does not look at. -/
theorem slotLines_marked (suite : HashSuite) {raw : Bytes} {failure : DecodeFailure}
    (h : TransactionRecord.ofSlot raw = .error failure) :
    (∃ line ∈ slotLines suite raw, isMarked line = true) ∨
      ∃ layers, EnvelopeLayers.decode raw = .ok layers ∧ layers.Overlooked failure := by
  unfold TransactionRecord.ofSlot at h
  unfold slotLines
  rcases bind_eq_error.1 h with houter | ⟨layers, hlayers, h⟩
  · rw [houter]
    exact .inl ⟨_, List.mem_singleton_self _, isMarked_append (by decide) _⟩
  simp only [hlayers, List.mem_append]
  rcases bind_eq_error.1 h with htime | ⟨createdAt, -, h⟩
  · exact .inr ⟨layers, rfl, EnvelopeLayers.overlooked_of_createdAt htime⟩
  rcases bind_eq_error.1 h with hcaller | ⟨caller, -, h⟩
  · unfold EnvelopeLayers.caller at hcaller
    split at hcaller
    · cases hcaller
    rename_i hnot
    obtain ⟨cause, hread, rfl⟩ := mapError_eq_error.1 hcaller
    by_cases hempty : layers.creator.idBytes = []
    · rw [hempty, NestedSlot.caller_read_nil] at hread
      obtain rfl := Except.error.inj hread
      refine .inr ⟨layers, rfl, .noCertificate hempty (Bool.eq_false_iff.2 fun hconfig => hnot ?_)⟩
      simp [hconfig, hempty]
    · obtain ⟨line, hm, hmarked⟩ := creatorLines_marked suite hread
      exact .inl ⟨line, .inl (.inr (by simpa [hempty] using hm)), hmarked⟩
  cases hconfig : layers.channelHeader.isConfig with
  | true => simp [hconfig] at h
  | false =>
  simp only [hconfig, Bool.false_eq_true, if_false] at h ⊢
  rcases bind_eq_error.1 h with hcall | ⟨chaincode, hcall, h⟩
  · obtain ⟨line, hm, hmarked⟩ := chaincodeLines_marked hcall
    exact .inl ⟨line, .inr hm, hmarked⟩
  · refine (chaincodeLines_marked_of_effects hcall h).imp (fun ⟨line, hm, hmarked⟩ => ?_)
      fun hoverlooked => ⟨layers, rfl, hoverlooked⟩
    exact ⟨line, .inr hm, hmarked⟩

end Inspect

/-! ## Slots with one flaw -/

namespace FlawedSlot

/-- A slot with these layers. -/
def slot (header : ChannelHeader) (creator : SerializedIdentity) (data : Bytes) : Bytes :=
  Message.encode (α := Envelope) {
    payload := Message.encode (α := Payload) {
      header := some {
        channelHeader := Message.encode header
        signatureHeader := Message.encode (α := SignatureHeader) { creator := Message.encode creator } }
      data := data } }

/-- A certificate whose key is the base point of a curve. -/
def certificate : Bytes :=
  let algorithm := Der.element Der.Tag.sequence
    (Der.element Der.Tag.objectIdentifier PublicKey.ellipticCurve
      ++ Der.element Der.Tag.objectIdentifier [0x2a, 0x86, 0x48, 0xce, 0x3d, 0x03, 0x01, 0x07])
  let key := Der.element Der.Tag.bitString
    (0 :: Curve.p256.encode ⟨Curve.p256.gx, Curve.p256.gy⟩)
  let time := Der.element Der.Tag.utcTime (Bytes.ofText "700101000000Z")
  let unit := Der.element Der.Tag.objectIdentifier SubjectEntry.organizationalUnit.type
    ++ Der.element Der.Tag.printableString (Bytes.ofText "admin")
  let subject := Der.element Der.Tag.set (Der.element Der.Tag.sequence unit)
  let signed := Der.element Der.Tag.integer [1] ++ algorithm ++ Der.element Der.Tag.sequence []
    ++ Der.element Der.Tag.sequence (time ++ time) ++ Der.element Der.Tag.sequence subject
    ++ Der.element Der.Tag.sequence (algorithm ++ key)
  Der.element Der.Tag.sequence (Der.element Der.Tag.sequence signed ++ algorithm ++ key)

/-- A call with this response. -/
def call (response : Bytes) : Bytes :=
  Message.encode (α := Transaction) {
    actions := [{
      payload := Message.encode (α := ChaincodeActionPayload) {
        action := some { proposalResponsePayload := response } } }] }

/-- A call with these results. -/
def callWith (results : Bytes) : Bytes :=
  call (Message.encode (α := ProposalResponsePayload) {
    extension := Message.encode (α := ChaincodeAction) { results := results } })

/-- The header of a call. -/
def header : ChannelHeader where
  kind := 3
  timestamp := some ⟨0, 0⟩

def noTime : Bytes := slot { kind := 1 } {} []

def noDate : Bytes := slot { kind := 1, timestamp := some ⟨0x7fffffffffffffff, 0⟩ } {} []

def noCertificate : Bytes := slot header {} (call noEffectsMarker)

def sets : Bytes :=
  slot header { idBytes := certificate }
    (callWith (Message.encode (α := TxReadWriteSet) { nsRwset := [⟨"basic", [0xff]⟩] }))

def results : Bytes := slot header { idBytes := certificate } (callWith [0xff])

end FlawedSlot

namespace Inspect

theorem slotLines_marked_results :
    TransactionRecord.ofSlot FlawedSlot.results =
      .error (.malformed .txReadWriteSet ⟨[], .varint⟩) ∧
    ∃ line ∈ slotLines .sha256 FlawedSlot.results, isMarked line = true := by
  have hfails : TransactionRecord.ofSlot FlawedSlot.results =
      .error (.malformed .txReadWriteSet ⟨[], .varint⟩) := by decide +kernel
  refine ⟨hfails, (slotLines_marked .sha256 hfails).resolve_right ?_⟩
  rintro ⟨layers, -, hoverlooked⟩
  cases hoverlooked

/-- The decoder fails on a slot in which the inspection marks nothing. -/
def Misses (suite : HashSuite) (raw : Bytes) (failure : DecodeFailure) : Prop :=
  TransactionRecord.ofSlot raw = .error failure ∧ ∀ line ∈ slotLines suite raw, isMarked line = false
  deriving Decidable

/-- **A failure of each overlooked kind goes unmarked.** -/
theorem slotLines_unmarked :
    Misses .sha256 FlawedSlot.noTime (.missing .channelHeader "timestamp") ∧
    Misses .sha256 FlawedSlot.noDate (.timestamp 0x7fffffffffffffff) ∧
    Misses .sha256 FlawedSlot.noCertificate (.identity (.certificate .empty)) ∧
    Misses .sha256 FlawedSlot.sets (.malformed .kvRwSet ⟨[], .varint⟩) := by
  decide +kernel

end Inspect

end ChannelLedger
