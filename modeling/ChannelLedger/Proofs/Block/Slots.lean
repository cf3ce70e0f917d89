import ChannelLedger.Proofs.Slot.FirstFault

/-!
# A block decodes slot by slot

The slots, the committer's verdicts and the transactions of a record are three sequences, and the first
two have lengths of their own. The transaction at a position is the one of the slot at that position,
with the verdict at that position, if there is one (`BlockRecord.ofSlots_eq_ok`). One slot that fails is
enough for the whole block to fail, with the first slot that does (`BlockRecord.ofSlots_eq_error`).

Main theorem `BlockRecord.ofBlock_slotwise`.
-/
namespace ChannelLedger

open Outcome

/-! ## Verdicts -/

/-- The committer's verdict on the slot at a position. -/
def Block.verdict? (block : Block) (position : Nat) : Option UInt8 := do
  let metadata ← block.metadata
  let verdicts ← metadata.metadata[verdictsIndex]?
  verdicts[position]?

/-- Without the entry of the verdicts, and past its end, there is no verdict. -/
theorem Block.getElem?_verdicts (block : Block) (position : Nat) :
    block.verdicts[position]? = block.verdict? position := by
  cases hmetadata : block.metadata with
  | none => simp [verdicts, verdict?, hmetadata]
  | some metadata =>
    cases hverdicts : metadata.metadata[verdictsIndex]? with
    | none => simp [verdicts, verdict?, hmetadata, hverdicts]
    | some verdicts => simp [Block.verdicts, verdict?, hmetadata, hverdicts]

/-- Blocks with the same verdict at every position have the same verdicts. -/
theorem Block.verdicts_congr {block other : Block}
    (h : ∀ position, other.verdict? position = block.verdict? position) :
    other.verdicts = block.verdicts := by
  apply List.ext_getElem?
  intro position
  rw [getElem?_verdicts, getElem?_verdicts, h position]

/-! ## Slots -/

namespace BlockRecord

variable {number : UInt64} {verdicts : Bytes} {index : Nat} {slots : List Bytes}

/-- **The transactions of slots are those of each slot, in its place.** -/
theorem ofSlots_eq_ok {txs : List TransactionRecord} :
    ofSlots number verdicts index slots = .ok txs ↔
      txs.length = slots.length ∧
      ∀ position raw, slots[position]? = some raw →
        ∃ tx, TransactionRecord.ofSlot raw = .ok tx ∧
          txs[position]? = some { tx with validationCode := verdicts[index + position]? } := by
  induction slots generalizing index txs with
  | nil => simp [ofSlots, eq_comm]
  | cons raw slots ih =>
    constructor
    · intro h
      obtain ⟨tx, hfirst, h⟩ := bind_eq_ok.1 h
      obtain ⟨rest, hrest, h⟩ := bind_eq_ok.1 h
      cases h
      obtain ⟨hlength, hslots⟩ := ih.1 hrest
      refine ⟨by simp [hlength], fun position raw' hraw => ?_⟩
      cases position with
      | zero =>
        cases hraw
        cases hslot : TransactionRecord.ofSlot raw with
        | error failure => simp [hslot] at hfirst
        | ok found =>
          obtain rfl : found = tx := by simpa [hslot] using hfirst
          exact ⟨found, rfl, rfl⟩
      | succ position =>
        obtain ⟨tx', hslot, hget⟩ := hslots position raw' hraw
        refine ⟨tx', hslot, ?_⟩
        rw [List.getElem?_cons_succ, hget, Nat.add_right_comm, Nat.add_assoc]
    · rintro ⟨hlength, hslots⟩
      obtain ⟨tx, hslot, hget⟩ := hslots 0 raw rfl
      cases txs with
      | nil => simp at hlength
      | cons first rest =>
        obtain rfl : first = { tx with validationCode := verdicts[index]? } := by simpa using hget
        have hrest : ofSlots number verdicts (index + 1) slots = .ok rest := by
          refine ih.2 ⟨by simpa using hlength, fun position raw' hraw => ?_⟩
          obtain ⟨tx', hslot', hget'⟩ := hslots (position + 1) raw' hraw
          refine ⟨tx', hslot', ?_⟩
          rw [List.getElem?_cons_succ] at hget'
          rw [hget', Nat.add_right_comm, Nat.add_assoc]
        rw [ofSlots, hslot, mapError_ok, ok_bind, hrest, ok_bind, pure_eq]

/-- Slots that all decode have transactions. -/
theorem exists_ofSlots_eq_ok (h : ∀ raw ∈ slots, ∃ tx, TransactionRecord.ofSlot raw = .ok tx)
    (number : UInt64) (verdicts : Bytes) (index : Nat) :
    ∃ txs, ofSlots number verdicts index slots = .ok txs := by
  induction slots generalizing index with
  | nil => exact ⟨[], rfl⟩
  | cons raw slots ih =>
    obtain ⟨tx, hslot⟩ := h raw List.mem_cons_self
    obtain ⟨rest, hrest⟩ := ih (fun other hm => h other (List.mem_cons_of_mem raw hm)) (index + 1)
    exact ⟨_, by rw [ofSlots, hslot, mapError_ok, ok_bind, hrest, ok_bind, pure_eq]⟩

/-- **Slots fail with the first of them that fails.** -/
theorem ofSlots_eq_error {failure : DecodeFailure} :
    ofSlots number verdicts index slots = .error failure ↔
      ∃ position raw cause, slots[position]? = some raw ∧ TransactionRecord.ofSlot raw = .error cause ∧
        (∀ earlier ∈ slots.take position, ∃ tx, TransactionRecord.ofSlot earlier = .ok tx) ∧
        failure = .slot number (index + position) cause := by
  constructor
  · intro h
    induction slots generalizing index with
    | nil => cases h
    | cons raw slots ih =>
      cases hslot : TransactionRecord.ofSlot raw with
      | error cause =>
        rw [ofSlots, hslot, mapError_error, error_bind] at h
        cases h
        exact ⟨0, raw, cause, rfl, hslot, by simp, rfl⟩
      | ok tx =>
        rw [ofSlots, hslot, mapError_ok, ok_bind] at h
        have hrest : ofSlots number verdicts (index + 1) slots = .error failure := by
          rcases bind_eq_error.1 h with h | ⟨txs, -, h⟩
          · exact h
          · cases h
        obtain ⟨position, raw', cause, hraw, hfails, hfirst, heq⟩ := ih hrest
        refine ⟨position + 1, raw', cause, hraw, hfails, ?_, ?_⟩
        · rw [List.take_succ_cons]
          exact List.forall_mem_cons.2 ⟨⟨tx, hslot⟩, hfirst⟩
        · rw [heq, Nat.add_right_comm, Nat.add_assoc]
  · rintro ⟨position, raw, cause, hraw, hfails, hfirst, rfl⟩
    obtain ⟨hlt, hget⟩ := List.getElem?_eq_some_iff.1 hraw
    have hsplit : slots = slots.take position ++ raw :: slots.drop (position + 1) := by
      rw [← hget, List.getElem_cons_drop, List.take_append_drop]
    have hlength : (slots.take position).length = position := List.length_take_of_le hlt.le
    have herror : ofSlots number verdicts index (slots.take position ++ raw :: slots.drop (position + 1)) =
        .error (.slot number (index + (slots.take position).length) cause) :=
      ofSlots_error hfirst hfails index
    rwa [← hsplit, hlength] at herror

/-! ## Blocks -/

/-- What a record says of a block with this header and these slots. -/
structure Describes (record : BlockRecord) (block : Block) (header : BlockHeader) (slots : List Bytes)
    (hash : Bytes) : Prop where
  number_eq : record.overview.number = header.number
  blockHash_eq : record.overview.blockHash = hash.toHex
  previousHash_eq : record.overview.previousHash = header.previousHash.toHex
  transactionCount_eq : record.overview.transactionCount = slots.length
  length_eq : record.transactions.length = slots.length
  /-- In the place of every slot stands its transaction, with the verdict that stands in its place. -/
  transactions_eq : ∀ position raw, slots[position]? = some raw →
    ∃ tx, TransactionRecord.ofSlot raw = .ok tx ∧
      record.transactions[position]? = some { tx with validationCode := block.verdict? position }

variable {block : Block} {header : BlockHeader} {data : BlockData} {hash : Bytes}

/-- A block with a header and slots decodes as its slots do. -/
theorem ofBlock_eq (header_eq : block.header = some header) (data_eq : block.data = some data) :
    ofBlock block hash = (ofSlots header.number block.verdicts 0 data.data).map fun txs =>
      ⟨⟨header.number, hash.toHex, header.previousHash.toHex, txs.length⟩, txs⟩ := by
  simp only [ofBlock, header_eq, data_eq]
  cases ofSlots header.number block.verdicts 0 data.data <;> rfl

theorem ofBlock_eq_ok (header_eq : block.header = some header) (data_eq : block.data = some data)
    {record : BlockRecord} :
    ofBlock block hash = .ok record ↔ record.Describes block header data.data hash := by
  rw [ofBlock_eq header_eq data_eq, map_eq_ok]
  constructor
  · rintro ⟨txs, hslots, rfl⟩
    obtain ⟨hlength, hget⟩ := ofSlots_eq_ok.1 hslots
    refine ⟨rfl, rfl, rfl, hlength, hlength, fun position raw hraw => ?_⟩
    obtain ⟨tx, hslot, htx⟩ := hget position raw hraw
    rw [Nat.zero_add, block.getElem?_verdicts] at htx
    exact ⟨tx, hslot, htx⟩
  · intro h
    refine ⟨record.transactions, ofSlots_eq_ok.2 ⟨h.length_eq, fun position raw hraw => ?_⟩, ?_⟩
    · obtain ⟨tx, hslot, htx⟩ := h.transactions_eq position raw hraw
      exact ⟨tx, hslot, by rw [htx, Nat.zero_add, block.getElem?_verdicts]⟩
    · obtain ⟨⟨number, blockHash, previousHash, transactionCount⟩, transactions⟩ := record
      obtain ⟨rfl, rfl, rfl, rfl, hlength, -⟩ := h
      rw [hlength]

end BlockRecord

/-- Why a block does not decode: it has no header, or no slots, or a slot that fails and is the first
that does. -/
inductive Block.Fails (block : Block) : DecodeFailure → Prop
  | noHeader (header_eq : block.header = none) : Fails block (.missing .block "header")
  | noData {header : BlockHeader} (header_eq : block.header = some header) (data_eq : block.data = none) :
    Fails block (.missing .block "data")
  | slot {header : BlockHeader} {data : BlockData} {position : Nat} {raw : Bytes} {cause : DecodeFailure}
      (header_eq : block.header = some header) (data_eq : block.data = some data)
      (raw_eq : data.data[position]? = some raw) (fails : TransactionRecord.ofSlot raw = .error cause)
      (first : ∀ earlier ∈ data.data.take position, ∃ tx, TransactionRecord.ofSlot earlier = .ok tx) :
    Fails block (.slot header.number position cause)

theorem BlockRecord.ofBlock_eq_error {block : Block} {hash : Bytes} {failure : DecodeFailure} :
    ofBlock block hash = .error failure ↔ block.Fails failure := by
  constructor
  · intro h
    cases hheader : block.header with
    | none =>
      simp only [ofBlock, hheader, throw_eq] at h
      cases h
      exact .noHeader hheader
    | some header =>
      cases hdata : block.data with
      | none =>
        simp only [ofBlock, hheader, hdata, throw_eq] at h
        cases h
        exact .noData hheader hdata
      | some data =>
        rw [ofBlock_eq hheader hdata] at h
        cases hslots : ofSlots header.number block.verdicts 0 data.data with
        | ok txs => simp [hslots] at h
        | error found =>
          obtain rfl : found = failure := by simpa [hslots] using h
          obtain ⟨position, raw, cause, hraw, hfails, hfirst, rfl⟩ := ofSlots_eq_error.1 hslots
          rw [Nat.zero_add]
          exact .slot hheader hdata hraw hfails hfirst
  · intro h
    cases h with
    | noHeader hheader => simp only [ofBlock, hheader, throw_eq]
    | noData hheader hdata => simp only [ofBlock, hheader, hdata, throw_eq]
    | @slot header data position raw cause hheader hdata hraw hfails hfirst =>
      have hslots : ofSlots header.number block.verdicts 0 data.data =
          .error (.slot header.number position cause) :=
        ofSlots_eq_error.2 ⟨position, raw, cause, hraw, hfails, hfirst, by rw [Nat.zero_add]⟩
      rw [ofBlock_eq hheader hdata, hslots, map_error]

/-- **A block decodes slot by slot, or not at all.** It decodes if it has a header and slots and every slot
decodes; its record then has a transaction in the place of each slot, with the verdict of that place. It
fails with the first part that is missing, or else with its first slot that fails. Nothing of the block
counts but its number, the previous hash, the slots and the verdicts. -/
theorem BlockRecord.ofBlock_slotwise (block : Block) (hash : Bytes) :
    ((∃ record, ofBlock block hash = .ok record) ↔
      ∃ header data, block.header = some header ∧ block.data = some data ∧
        ∀ raw ∈ data.data, ∃ tx, TransactionRecord.ofSlot raw = .ok tx) ∧
    (∀ record, ofBlock block hash = .ok record ↔
      ∃ header data, block.header = some header ∧ block.data = some data ∧
        record.Describes block header data.data hash) ∧
    (∀ failure, ofBlock block hash = .error failure ↔ block.Fails failure) ∧
    ∀ other : Block,
      other.header.map (fun header => (header.number, header.previousHash)) =
        block.header.map (fun header => (header.number, header.previousHash)) →
      other.data = block.data → (∀ position, other.verdict? position = block.verdict? position) →
      ofBlock other hash = ofBlock block hash := by
  have hparts {record : BlockRecord} (h : ofBlock block hash = .ok record) :
      ∃ header data, block.header = some header ∧ block.data = some data := by
    have hnot {failure : DecodeFailure} (hfails : block.Fails failure) : False := by
      rw [ofBlock_eq_error.2 hfails] at h
      cases h
    cases hheader : block.header with
    | none => exact (hnot (.noHeader hheader)).elim
    | some header =>
      cases hdata : block.data with
      | none => exact (hnot (.noData hheader hdata)).elim
      | some data => exact ⟨header, data, rfl, rfl⟩
  refine ⟨⟨?_, ?_⟩, fun record => ⟨fun h => ?_, ?_⟩, fun _ => ofBlock_eq_error, ?_⟩
  · rintro ⟨record, h⟩
    obtain ⟨header, data, hheader, hdata⟩ := hparts h
    refine ⟨header, data, hheader, hdata, fun raw hraw => ?_⟩
    obtain ⟨position, hposition⟩ := List.getElem?_of_mem hraw
    obtain ⟨tx, hslot, -⟩ := ((ofBlock_eq_ok hheader hdata).1 h).transactions_eq position raw hposition
    exact ⟨tx, hslot⟩
  · rintro ⟨header, data, hheader, hdata, hslots⟩
    obtain ⟨txs, htxs⟩ := exists_ofSlots_eq_ok hslots header.number block.verdicts 0
    exact ⟨_, by rw [ofBlock_eq hheader hdata, htxs, map_ok]⟩
  · obtain ⟨header, data, hheader, hdata⟩ := hparts h
    exact ⟨header, data, hheader, hdata, (ofBlock_eq_ok hheader hdata).1 h⟩
  · rintro ⟨header, data, hheader, hdata, h⟩
    exact (ofBlock_eq_ok hheader hdata).2 h
  · intro other hheaders hdata hverdicts
    have hsame := Block.verdicts_congr hverdicts
    unfold ofBlock
    rw [hdata, hsame]
    cases hheader : block.header with
    | none =>
      have hnone : other.header = none := by simpa [hheader] using hheaders
      rw [hnone]
    | some header =>
      obtain ⟨header', hheader', heq⟩ : ∃ header', other.header = some header' ∧
          header'.number = header.number ∧ header'.previousHash = header.previousHash := by
        simpa [hheader] using hheaders
      simp only [hheader', heq.1, heq.2]

end ChannelLedger
