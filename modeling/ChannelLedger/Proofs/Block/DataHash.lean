import Mathlib.Data.List.Forall2
import ChannelLedger.Inspect.Block
import ChannelLedger.Proofs.Ledger.Truncation
import ChannelLedger.Proofs.Slot.Truncation
import ChannelLedger.Proofs.Wire.Occurrences

/-!
# What a data hash binds

The data hash of a header covers the slots of a block one behind the other, and says nothing of where one
slot ends and the next begins. So two blocks with one header hold the same bytes, but may cut them into slots
in different ways. Every way in which all slots decode has the same payloads in the same order
(`Envelope.payloads_flatten`). But an envelope may carry its payload more than once, and only the last one is
looked into: two slots in one are one transaction, and the transaction of the first is not shown.

Where every slot of a block carries one payload, no other block with its header shows a transaction that
it does not show, and where that holds of both blocks, they show the same.

Main theorem `BlockRecord.bound_by_data_hash`.
-/
namespace ChannelLedger

open Wire Outcome

/-! ## The payloads of a slot -/

/-- The slots of a block. -/
def Block.slots (block : Block) : List Bytes :=
  (block.data.map (·.data)).getD []

namespace Envelope

/-- All values of the payload in an envelope, of which the last one counts. -/
def payloads (slot : Bytes) : List Bytes :=
  Schema.values "Envelope" 1 "payload" (.cons 2 "signature" .bytes .nil) slot

theorem decode_eq_ok {slot : Bytes} {envelope : Envelope} (h : Message.decode slot = .ok envelope) :
    (Schema.single "Envelope" 1 "payload" (.cons 2 "signature" .bytes .nil)).decode slot =
      .ok (envelope.payload, envelope.signature, ()) := by
  obtain ⟨⟨payload, signature, ⟨⟩⟩, hrecord, rfl⟩ := map_eq_ok.1 h
  exact hrecord

theorem payload_eq {slot : Bytes} {envelope : Envelope} (h : Message.decode slot = .ok envelope) :
    envelope.payload = (payloads slot).getLast?.getD [] :=
  Schema.value_eq (decode_eq_ok h)

/-- **However the bytes are cut into slots, they have the same payloads.** -/
theorem payloads_flatten {slots : List Bytes}
    (decode : ∀ slot ∈ slots, ∃ envelope : Envelope, Message.decode slot = .ok envelope) :
    payloads slots.flatten = slots.flatMap payloads := by
  refine Schema.values_flatten fun slot hm => ?_
  obtain ⟨envelope, h⟩ := decode slot hm
  exact ⟨_, decode_eq_ok h⟩

end Envelope

namespace TransactionRecord

variable {slot slot' payload : Bytes} {tx tx' : TransactionRecord}

/-- A slot with a transaction carries a payload. -/
theorem envelope_of_ofSlot (h : ofSlot slot = .ok tx) :
    ∃ envelope : Envelope, Message.decode slot = .ok envelope ∧
      (Envelope.payloads slot).getLast? = some envelope.payload := by
  obtain ⟨layers, hlayers, -⟩ := bind_eq_ok.1 h
  cases hdecode : Message.decode (α := Envelope) slot with
  | error fault =>
    simp only [EnvelopeLayers.decode, Layer.decode, hdecode, mapError_error, error_bind] at hlayers
    cases hlayers
  | ok envelope =>
    refine ⟨envelope, rfl, ?_⟩
    have hpayload := Envelope.payload_eq hdecode
    cases hlast : (Envelope.payloads slot).getLast? with
    | some payload => rw [hpayload, hlast, Option.getD_some]
    | none =>
      -- without a payload there is no header to be found
      rw [hlast, Option.getD_none] at hpayload
      have hempty : Message.decode [] = .ok ({} : Payload) := rfl
      simp only [EnvelopeLayers.decode, Layer.decode_ok hdecode, hpayload, Layer.decode_ok hempty, ok_bind,
        throw_eq] at hlayers
      cases hlayers

/-- A transaction is that of a payload: of the last one of some slot. -/
def IsOf (payload : Bytes) (tx : TransactionRecord) : Prop :=
  ∃ slot, (Envelope.payloads slot).getLast? = some payload ∧ (ofSlot slot).map unjudged = .ok tx

/-- A payload has one transaction at most. -/
theorem IsOf.unique (h : IsOf payload tx) (h' : IsOf payload tx') : tx = tx' := by
  obtain ⟨slot, hlast, hslot⟩ := h
  obtain ⟨slot', hlast', hslot'⟩ := h'
  obtain ⟨found, hfound, rfl⟩ := map_eq_ok.1 hslot
  obtain ⟨found', hfound', rfl⟩ := map_eq_ok.1 hslot'
  obtain ⟨envelope, hdecode, hpayload⟩ := envelope_of_ofSlot hfound
  obtain ⟨envelope', hdecode', hpayload'⟩ := envelope_of_ofSlot hfound'
  have hsame : envelope.payload = envelope'.payload := by
    rw [hlast, Option.some.injEq] at hpayload
    rw [hlast', Option.some.injEq] at hpayload'
    rw [← hpayload, ← hpayload']
  have hlayers := EnvelopeLayers.decode_congr hdecode hdecode' hsame
  have heq : ofSlot slot = ofSlot slot' := by rw [ofSlot, ofSlot, hlayers]
  rw [hfound, hfound', Except.ok.injEq] at heq
  rw [heq]

/-- Of fewer payloads there are fewer transactions, in the same order. -/
theorem sublist_of_payloads {payloads payloads' : List Bytes} {txs txs' : List TransactionRecord}
    (h : List.Forall₂ IsOf payloads txs) (h' : List.Forall₂ IsOf payloads' txs')
    (fewer : payloads'.Sublist payloads) : txs'.Sublist txs := by
  induction fewer generalizing txs txs' with
  | slnil =>
    cases h'
    exact List.nil_sublist txs
  | cons payload _ ih =>
    cases h with
    | cons _ rest => exact (ih rest h').cons _
  | cons_cons payload _ ih =>
    cases h with
    | cons first rest =>
    cases h' with
    | cons first' rest' =>
      rw [first'.unique first]
      exact (ih rest rest').cons_cons _

theorem decode_of_slots {slots : List Bytes} {txs : List TransactionRecord}
    (h : List.Forall₂ (fun slot tx => (ofSlot slot).map unjudged = .ok tx) slots txs) :
    ∀ slot ∈ slots, ∃ envelope : Envelope, Message.decode slot = .ok envelope := by
  induction h with
  | nil => simp
  | cons hslot _ ih =>
    obtain ⟨found, hfound, -⟩ := map_eq_ok.1 hslot
    obtain ⟨envelope, hdecode, -⟩ := envelope_of_ofSlot hfound
    exact List.forall_mem_cons.2 ⟨⟨envelope, hdecode⟩, ih⟩

/-- The transactions of slots are those of some of their payloads, and of all where each slot has one. -/
theorem payloads_of_slots {slots : List Bytes} {txs : List TransactionRecord}
    (h : List.Forall₂ (fun slot tx => (ofSlot slot).map unjudged = .ok tx) slots txs) :
    ∃ shown : List Bytes, List.Forall₂ IsOf shown txs ∧ shown.Sublist (slots.flatMap Envelope.payloads) ∧
      ((∀ slot ∈ slots, (Envelope.payloads slot).length = 1) → shown = slots.flatMap Envelope.payloads) := by
  induction h with
  | nil => exact ⟨[], .nil, List.nil_sublist _, fun _ => rfl⟩
  | @cons slot tx slots txs hslot _ ih =>
    obtain ⟨shown, hshown, hsub, hsingle⟩ := ih
    obtain ⟨found, hfound, -⟩ := map_eq_ok.1 hslot
    obtain ⟨envelope, -, hlast⟩ := envelope_of_ofSlot hfound
    refine ⟨envelope.payload :: shown, .cons ⟨slot, hlast, hslot⟩ hshown, ?_, fun single => ?_⟩
    · rw [List.flatMap_cons, ← List.singleton_append]
      exact (List.singleton_sublist.2 (List.mem_of_getLast? hlast)).append hsub
    · obtain ⟨payload, hpayloads⟩ := List.length_eq_one_iff.1 (single slot List.mem_cons_self)
      rw [hpayloads, List.getLast?_singleton, Option.some.injEq] at hlast
      rw [List.flatMap_cons, hpayloads, hlast,
        hsingle fun other hm => single other (List.mem_cons_of_mem slot hm), List.singleton_append]

end TransactionRecord

/-! ## The transactions of a block -/

namespace BlockRecord

theorem slots_of_ofSlots {number : UInt64} {index : Nat} {slots : List Bytes} {txs : List TransactionRecord}
    (h : ofSlots number [] index slots = .ok txs) :
    List.Forall₂ (fun slot tx => (TransactionRecord.ofSlot slot).map TransactionRecord.unjudged = .ok tx)
      slots txs := by
  induction slots generalizing index txs with
  | nil =>
    cases h
    exact .nil
  | cons slot slots ih =>
    obtain ⟨tx, hslot, h⟩ := bind_eq_ok.1 h
    obtain ⟨rest, hrest, h⟩ := bind_eq_ok.1 h
    cases h
    cases hfound : TransactionRecord.ofSlot slot with
    | error failure => simp [hfound] at hslot
    | ok found =>
      obtain rfl : found = tx := by simpa [hfound] using hslot
      exact .cons (by rw [hfound]; rfl) (ih hrest)

/-- But for the verdicts, the transactions of a record are those of the slots. -/
theorem slots_of_ofBlock {block : Block} {hash : Bytes} {record : BlockRecord}
    (h : ofBlock block hash = .ok record) :
    List.Forall₂ (fun slot tx => (TransactionRecord.ofSlot slot).map TransactionRecord.unjudged = .ok tx)
      block.slots record.unjudged.transactions := by
  have hunjudged := ofBlock_unjudged block hash
  rw [h, map_ok] at hunjudged
  unfold ofBlock at hunjudged
  cases hheader : block.header with
  | none => simp [hheader] at hunjudged
  | some header =>
    cases hdata : block.data with
    | none => simp [hheader, hdata] at hunjudged
    | some data =>
      simp only [hheader, hdata] at hunjudged
      obtain ⟨txs, hslots, hrecord⟩ := bind_eq_ok.1 hunjudged
      rw [pure_eq, Except.ok.injEq] at hrecord
      rw [← hrecord, Block.slots, hdata]
      exact slots_of_ofSlots hslots

end BlockRecord

/-! ## What an inspection says -/

namespace Inspect

variable {suite : HashSuite} {index : BlockIndex} {number : UInt64} {block : Block}

/-- What is printed of a block that is there; the last number ends the inspection behind the header. -/
theorem lines_inspectBlock {stored : StoredBlock} (found : index.find? number = some stored) :
    (inspectBlock suite index number).lines =
      ["", "🔍 Block Structure Investigation for Block " ++ toString number, line 70 "="]
        ++ headerFields suite stored.header (stored.header.hash suite)
        ++ if number = 0xffffffffffffffff then [] else
          checkLines suite index stored (stored.header.hash suite)
            ++ metadataLines stored.block.metadata ++ dataLines suite stored.block.data := by
  simp only [inspectBlock, found]
  by_cases hlast : number = 0xffffffffffffffff
  · simp [hlast, bind, Transcript.bind, Transcript.print]
  · simp [hlast, bind, Transcript.bind, Transcript.print]

/-- The inspection of the block of a number says that the data hash matches the slots: it is the line behind
those of the title and the header and the verdict on the link. -/
def ReportsMatch (suite : HashSuite) (index : BlockIndex) (number : UInt64) : Prop :=
  (inspectBlock suite index number).lines[9]? = some (dataHashLine true)

instance : Decidable (ReportsMatch suite index number) :=
  inferInstanceAs (Decidable ((inspectBlock suite index number).lines[9]? = some (dataHashLine true)))

theorem dataHashLine_inj {holds : Bool} (h : dataHashLine holds = dataHashLine true) : holds = true := by
  cases holds with
  | true => rfl
  | false => exact absurd h (by decide)

/-- It says so only where the header states the hash of the slots. -/
theorem ReportsMatch.hash_eq (h : ReportsMatch suite index number)
    (held : index.block (.number number) = .ok block) :
    ∃ header, block.header = some header ∧ suite.hash block.slots.flatten = header.dataHash := by
  obtain ⟨stored, found, rfl⟩ : ∃ stored, index.find? number = some stored ∧ stored.block = block := by
    simp only [BlockIndex.block] at held
    cases hfound : index.find? number with
    | none => simp [hfound] at held
    | some stored => exact ⟨stored, rfl, by simpa [hfound] using held⟩
  refine ⟨stored.header, stored.header_eq, ?_⟩
  rw [ReportsMatch, lines_inspectBlock found] at h
  by_cases hlast : number = 0xffffffffffffffff
  · simp [hlast, headerFields] at h
  · cases hdata : stored.block.data with
    | none =>
      -- without slots, the next line is the empty one in front of the metadata
      have hempty : "" = dataHashLine true := by
        cases hmetadata : stored.block.metadata <;>
          simpa [hlast, headerFields, checkLines, metadataLines, hdata, hmetadata] using h
      exact absurd hempty (by decide)
    | some data =>
      have hline : dataHashLine (dataHashHolds suite stored.header data) = dataHashLine true := by
        simpa [hlast, headerFields, checkLines, hdata] using h
      have hholds : data.hash suite = stored.header.dataHash := by
        simpa [dataHashHolds] using dataHashLine_inj hline
      rw [← hholds, Block.slots, hdata]
      rfl

end Inspect

/-! ## What is bound -/

/-- **What the data hash binds.** Two blocks have the same header, and an inspection says of both that the
data hash matches their slots. Without a collision their slots are the same bytes, in whatever way they are
cut. If both decode, they have the same payloads in the same order. If every slot of the one carries one
payload, the other shows no transaction that the one does not show, and shows them in the same order; and if
that holds of both, they have as many transactions, and the same ones but for the verdicts. -/
theorem BlockRecord.bound_by_data_hash {suite : HashSuite} {index index' : BlockIndex}
    {number number' : UInt64} {first second : Block}
    (held : index.block (.number number) = .ok first) (held' : index'.block (.number number') = .ok second)
    (reported : Inspect.ReportsMatch suite index number)
    (reported' : Inspect.ReportsMatch suite index' number') (headers : first.header = second.header)
    (free : suite.hash first.slots.flatten = suite.hash second.slots.flatten →
      first.slots.flatten = second.slots.flatten)
    {hash hash' : Bytes} {record record' : BlockRecord}
    (decodes : ofBlock first hash = .ok record) (decodes' : ofBlock second hash' = .ok record') :
    first.slots.flatten = second.slots.flatten ∧
    first.slots.flatMap Envelope.payloads = second.slots.flatMap Envelope.payloads ∧
    ((∀ slot ∈ first.slots, (Envelope.payloads slot).length = 1) →
      record'.unjudged.transactions.Sublist record.unjudged.transactions) ∧
    ((∀ slot ∈ first.slots ++ second.slots, (Envelope.payloads slot).length = 1) →
      record.transactions.length = record'.transactions.length ∧
      record.unjudged.transactions = record'.unjudged.transactions) := by
  have hbytes : first.slots.flatten = second.slots.flatten := by
    obtain ⟨header, hheader, hhash⟩ := reported.hash_eq held
    obtain ⟨header', hheader', hhash'⟩ := reported'.hash_eq held'
    obtain rfl : header = header' := by simpa [hheader, hheader'] using headers
    exact free (hhash.trans hhash'.symm)
  have hslots := slots_of_ofBlock decodes
  have hslots' := slots_of_ofBlock decodes'
  have hpayloads : first.slots.flatMap Envelope.payloads = second.slots.flatMap Envelope.payloads := by
    rw [← Envelope.payloads_flatten (TransactionRecord.decode_of_slots hslots), hbytes,
      Envelope.payloads_flatten (TransactionRecord.decode_of_slots hslots')]
  obtain ⟨shown, hshown, hsub, hall⟩ := TransactionRecord.payloads_of_slots hslots
  obtain ⟨shown', hshown', hsub', hall'⟩ := TransactionRecord.payloads_of_slots hslots'
  refine ⟨hbytes, hpayloads, fun single => ?_, fun single => ?_⟩
  · rw [← hpayloads, ← hall single] at hsub'
    exact TransactionRecord.sublist_of_payloads hshown hshown' hsub'
  · rw [List.forall_mem_append] at single
    have hsame : shown = shown' := by rw [hall single.1, hall' single.2, hpayloads]
    subst hsame
    have heq : record.unjudged.transactions = record'.unjudged.transactions :=
      (TransactionRecord.sublist_of_payloads hshown' hshown (List.Sublist.refl _)).antisymm
        (TransactionRecord.sublist_of_payloads hshown hshown' (List.Sublist.refl _))
    refine ⟨?_, heq⟩
    simpa [unjudged] using congrArg List.length heq

/-! ### The same bytes in other slots -/

namespace Recut

/-- A slot with a configuration of this identifier. -/
def slot (txId : String) : Bytes :=
  Message.encode (α := Envelope) {
    payload := Message.encode (α := Payload) {
      header := some {
        channelHeader := Message.encode (α := ChannelHeader) { kind := 1, timestamp := some {}, txId := txId } } } }

/-- The field of a signature, which may stand behind one payload or in front of the next. -/
def signature : Bytes := [0x12, 0x01, 0x05]

/-- A block of these slots, with their hash in its header. -/
def block (slots : List Bytes) : Block where
  header := some { dataHash := HashSuite.sha256.hash slots.flatten }
  data := some ⟨slots⟩

/-- The index that holds this block alone. -/
def index (slots : List Bytes) : BlockIndex :=
  .ofBlocks .sha256 [block slots]

/-- The identifiers of the transactions that the block shows. -/
def txIds (slots : List Bytes) : Except DecodeFailure (List String) :=
  (BlockRecord.ofBlock (block slots) []).map fun record => record.transactions.map (·.txId)

theorem held (slots : List Bytes) : (index slots).block (.number 0) = .ok (block slots) := rfl

theorem reported (slots : List Bytes) : Inspect.ReportsMatch .sha256 (index slots) 0 := by
  have found : (index slots).find? 0 =
      some ⟨block slots, { dataHash := HashSuite.sha256.hash slots.flatten },
        BlockHeader.hash .sha256 { dataHash := HashSuite.sha256.hash slots.flatten }, rfl⟩ := rfl
  rw [Inspect.ReportsMatch, Inspect.lines_inspectBlock found]
  simp [Inspect.headerFields, Inspect.checkLines, Inspect.dataHashHolds, BlockData.hash, block]

end Recut

/-- A signature moves from the end of one slot to the start of the next, and the transactions are the same. -/
theorem BlockRecord.bound_by_data_hash_recut :
    let first := [Recut.slot "a" ++ Recut.signature, Recut.slot "b"]
    let second := [Recut.slot "a", Recut.signature ++ Recut.slot "b"]
    Recut.block first ≠ Recut.block second ∧
    Inspect.ReportsMatch .sha256 (Recut.index first) 0 ∧ Inspect.ReportsMatch .sha256 (Recut.index second) 0 ∧
    ∃ record record', ofBlock (Recut.block first) [] = .ok record ∧
      ofBlock (Recut.block second) [] = .ok record' ∧ record.transactions.map (·.txId) = ["a", "b"] ∧
      record.transactions.length = record'.transactions.length ∧
      record.unjudged.transactions = record'.unjudged.transactions := by
  intro first second
  have hfirst : Recut.txIds first = .ok ["a", "b"] := by decide +kernel
  have hsecond : Recut.txIds second = .ok ["a", "b"] := by decide +kernel
  obtain ⟨record, decodes, ids⟩ := map_eq_ok.1 hfirst
  obtain ⟨record', decodes', -⟩ := map_eq_ok.1 hsecond
  have hbytes : first.flatten = second.flatten := by decide +kernel
  have hheaders : (Recut.block first).header = (Recut.block second).header := by
    rw [Recut.block, Recut.block, hbytes]
  have hsingle : ∀ slot ∈ first ++ second, (Envelope.payloads slot).length = 1 := by decide +kernel
  obtain ⟨-, -, -, hsame⟩ := bound_by_data_hash (Recut.held first) (Recut.held second) (Recut.reported first)
    (Recut.reported second) hheaders (fun _ => hbytes) decodes decodes'
  obtain ⟨hlength, htransactions⟩ := hsame hsingle
  refine ⟨fun h => ?_, Recut.reported first, Recut.reported second, record, record', decodes, decodes', ids,
    hlength, htransactions⟩
  have hslots : first = second := congrArg Block.slots h
  exact absurd hslots (by decide +kernel)

/-- **Two slots in one are one transaction.** Both blocks have the same header and the same bytes, and an
inspection says of both that the data hash matches; one has two transactions and the other has the last of
them. -/
theorem BlockRecord.merged_slots :
    let first := [Recut.slot "a", Recut.slot "b"]
    let second := [Recut.slot "a" ++ Recut.slot "b"]
    (Recut.block first).header = (Recut.block second).header ∧ first.flatten = second.flatten ∧
    (Recut.index first).block (.number 0) = .ok (Recut.block first) ∧
    (Recut.index second).block (.number 0) = .ok (Recut.block second) ∧
    Inspect.ReportsMatch .sha256 (Recut.index first) 0 ∧ Inspect.ReportsMatch .sha256 (Recut.index second) 0 ∧
    ∃ record record', ofBlock (Recut.block first) [] = .ok record ∧
      ofBlock (Recut.block second) [] = .ok record' ∧
      record.transactions.map (·.txId) = ["a", "b"] ∧ record'.transactions.map (·.txId) = ["b"] := by
  intro first second
  have hbytes : first.flatten = second.flatten := by decide +kernel
  have hfirst : Recut.txIds first = .ok ["a", "b"] := by decide +kernel
  have hsecond : Recut.txIds second = .ok ["b"] := by decide +kernel
  obtain ⟨record, decodes, ids⟩ := map_eq_ok.1 hfirst
  obtain ⟨record', decodes', ids'⟩ := map_eq_ok.1 hsecond
  refine ⟨?_, hbytes, Recut.held first, Recut.held second, Recut.reported first, Recut.reported second,
    record, record', decodes, decodes', ids, ids'⟩
  rw [Recut.block, Recut.block, hbytes]

end ChannelLedger
