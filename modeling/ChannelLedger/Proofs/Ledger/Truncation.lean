import ChannelLedger.Block.Decode
import ChannelLedger.Ledger.Directory
import ChannelLedger.Proofs.Wire.Truncation

/-!
# Block files that break off

A directory may be read while a block is being written into it, so the file may hold any front of the
block. The three fields of a block are its header, its data and its metadata. A file that breaks off inside
one of them is reported; one that breaks off between two holds the fields in front of the break. Without the
header there is nothing to keep, without the data the block does not decode, and without the metadata all
that is missing are the committer's verdicts (`BlockRecord.ofBlock_unjudged`).

Main theorem `DirectoryLedger.open?_cut`.
-/
namespace ChannelLedger

open Wire Outcome

/-! ## Blocks without verdicts -/

/-- The transaction as it is before the committer's verdict. -/
def TransactionRecord.unjudged (tx : TransactionRecord) : TransactionRecord :=
  { tx with validationCode := none }

/-- The block with its transactions as they are before the committer's verdicts. -/
def BlockRecord.unjudged (record : BlockRecord) : BlockRecord :=
  { record with transactions := record.transactions.map TransactionRecord.unjudged }

namespace BlockRecord

theorem ofSlots_unjudged (number : UInt64) (verdicts : Bytes) (index : Nat) (slots : List Bytes) :
    ofSlots number [] index slots =
      (ofSlots number verdicts index slots).map (List.map TransactionRecord.unjudged) := by
  induction slots generalizing index with
  | nil => rfl
  | cons raw slots ih =>
    rw [ofSlots, ofSlots, ih (index + 1)]
    cases TransactionRecord.ofSlot raw with
    | error failure => rfl
    | ok tx => cases ofSlots number verdicts (index + 1) slots <;> rfl

/-- A block that has lost its metadata decodes if the whole block does, and says the same but for the
verdicts. -/
theorem ofBlock_unjudged (block : Block) (hash : Bytes) :
    ofBlock { header := block.header, data := block.data } hash = (ofBlock block hash).map unjudged := by
  unfold ofBlock
  cases block.header with
  | none => rfl
  | some header =>
    cases block.data with
    | none => rfl
    | some data =>
      have hverdicts : Block.verdicts { header := some header, data := some data } = [] := rfl
      dsimp only
      rw [hverdicts, ofSlots_unjudged header.number block.verdicts 0 data.data]
      cases ofSlots header.number block.verdicts 0 data.data with
      | error failure => rfl
      | ok txs => simp only [map_ok, ok_bind, pure_eq, unjudged, List.length_map]

end BlockRecord

/-! ## The fields in front of a break -/

/-- The fields of a block up to a break. -/
theorem Block.keep_cases (count : Nat) (block : Block) :
    Message.keep count block = {} ∨ Message.keep count block = { header := block.header } ∨
      Message.keep count block = { header := block.header, data := block.data } ∨
      Message.keep count block = block := by
  match count with
  | 0 => exact .inl rfl
  | 1 =>
    refine .inr (.inl ?_)
    change Block.mk (Message.ofOptional (Message.toOptional block.header)) none none = _
    rw [Message.ofOptional_toOptional]
  | 2 =>
    refine .inr (.inr (.inl ?_))
    change Block.mk (Message.ofOptional (Message.toOptional block.header))
      (Message.ofOptional (Message.toOptional block.data)) none = _
    rw [Message.ofOptional_toOptional, Message.ofOptional_toOptional]
  | count + 3 => exact .inr (.inr (.inr (Message.ofRecord_toRecord block)))

/-! ## The file -/

/-- What leads to nothing may be left out before. -/
theorem filterMap_filter_of_isSome {α β : Type} {f : α → Option β} {p : α → Bool}
    (h : ∀ a, (f a).isSome → p a = true) (items : List α) :
    (items.filter p).filterMap f = items.filterMap f := by
  rw [List.filterMap_filter]
  refine List.filterMap_congr fun a _ => ?_
  cases hf : f a with
  | none => exact ite_self none
  | some b => exact if_pos (h a (by rw [hf]; rfl))

/-- The only file that is taken for a block is the only one that is read. -/
theorem Directory.blockFiles_eq_singleton {directory : Directory} {name : String} {content : Bytes}
    (only : directory.filter isBlockFile = [(name, .file content)]) :
    directory.blockFiles = [(name, content)] := by
  have hsorted : directory.sorted.filter isBlockFile = [(name, .file content)] :=
    List.perm_singleton.1 (only ▸ (List.mergeSort_perm directory _).filter isBlockFile)
  have hfile : isBlockFile (name, .file content) = true := by
    have hmem : (name, .file content) ∈ directory.filter isBlockFile := only ▸ List.mem_cons_self
    exact (List.mem_filter.1 hmem).2
  unfold blockFiles
  rw [← filterMap_filter_of_isSome (p := isBlockFile) fun entry hentry => ?_, hsorted]
  · simp only [List.filterMap_cons, hfile, if_true, List.filterMap_nil]
  · obtain ⟨name, _ | _⟩ := entry
    · by_contra hno
      simp only [hno] at hentry
      cases hentry
    · cases hentry

/-- A directory with one block file is opened by decoding that file. -/
theorem DirectoryLedger.open?_eq (suite : HashSuite) (path : String) {directory : Directory} {name : String}
    {content : Bytes} (only : directory.filter Directory.isBlockFile = [(name, .file content)]) :
    open? suite path (some directory) =
      ((Message.decode content).mapError (.malformed (Directory.pathOf path name))).map fun block =>
        ⟨path, .ofBlocks suite [block]⟩ := by
  simp only [open?, Directory.blocks, Directory.blockFiles_eq_singleton only, List.mapM_cons, List.mapM_nil]
  cases Message.decode (α := Block) content <;> rfl

/-- **A block file that breaks off is never taken for another block.** It is reported, or there is no block,
or there is one under the number and the hash of the whole block. That one does not decode, or it decodes as
the whole block does, but for the verdicts. -/
theorem DirectoryLedger.open?_cut (suite : HashSuite) (path : String) {block : Block} {header : BlockHeader}
    {data : BlockData} (header_eq : block.header = some header) (data_eq : block.data = some data)
    (short : (Message.encode block).length < 2 ^ 64) {front : Bytes} (hfront : front <+: Message.encode block)
    (strict : front ≠ Message.encode block) {directory : Directory} {name : String}
    (only : directory.filter Directory.isBlockFile = [(name, .file front)]) :
    (∃ fault, open? suite path (some directory) = .error (.malformed (Directory.pathOf path name) fault)) ∨
    ∃ ledger, open? suite path (some directory) = .ok ledger ∧
      (ledger.index.blocks = [] ∨
        ∃ stored, ledger.index.blocks = [stored] ∧ stored.number = header.number ∧
          stored.hash = header.hash suite ∧
          ∀ hash, (∃ failure, BlockRecord.ofBlock stored.block hash = .error failure) ∨
            ∃ record, BlockRecord.ofBlock block hash = .ok record ∧
              BlockRecord.ofBlock stored.block hash = .ok record.unjudged) := by
  rw [open?_eq suite path only]
  cases hcut : Message.decode (α := Block) front with
  | error fault => exact .inl ⟨fault, by rw [mapError_error, map_error]⟩
  | ok kept =>
    rw [mapError_ok, map_ok]
    refine .inr ⟨_, rfl, ?_⟩
    obtain ⟨count, hcount, rfl⟩ := Message.decode_cut (by simp [schemas]) rfl short hfront hcut
    dsimp only
    rcases block.keep_cases count with hkeep | hkeep | hkeep | hkeep
    · rw [hkeep]
      exact .inl rfl
    · rw [hkeep, header_eq]
      exact .inr ⟨⟨_, header, header.hash suite, rfl⟩, rfl, rfl, rfl, fun hash => .inl ⟨_, rfl⟩⟩
    · rw [hkeep, header_eq, data_eq]
      refine .inr ⟨⟨_, header, header.hash suite, rfl⟩, rfl, rfl, rfl, fun hash => ?_⟩
      have hunjudged := BlockRecord.ofBlock_unjudged block hash
      rw [header_eq, data_eq] at hunjudged
      rw [hunjudged]
      cases BlockRecord.ofBlock block hash with
      | error failure => exact .inl ⟨failure, rfl⟩
      | ok record => exact .inr ⟨record, rfl, rfl⟩
    · exact absurd (hkeep ▸ hcount) strict

/-- A file that breaks off in front of the metadata holds the block, though not its verdicts. -/
theorem DirectoryLedger.open?_cut_metadata :
    let slot : Bytes := [0x0a, 0x08, 0x0a, 0x06, 0x0a, 0x04, 0x08, 0x01, 0x1a, 0x00]
    let block : Block := ⟨some { number := 7 }, some ⟨[slot]⟩, some ⟨[[], [], [0x00]]⟩⟩
    let file : Bytes := [0x0a, 0x02, 0x08, 0x07, 0x12, 0x0c, 0x0a, 0x0a] ++ slot
    let directory : Directory := [("notes", .directory), ("7.block", .file file)]
    ∃ ledger stored, open? .sha256 "ledger" (some directory) = .ok ledger ∧ ledger.index.blocks = [stored] ∧
      stored.number = 7 ∧ ∃ record, BlockRecord.ofBlock block [] = .ok record ∧
        BlockRecord.ofBlock stored.block [] = .ok record.unjudged ∧
        record.transactions.map (·.validationCode) = [some 0] ∧
        record.unjudged.transactions.map (·.validationCode) = [none] := by
  intro slot block file directory
  have hfront : file <+: Message.encode block :=
    ⟨[0x1a, 0x07, 0x0a, 0x00, 0x0a, 0x00, 0x0a, 0x01, 0x00], by decide⟩
  have only : directory.filter Directory.isBlockFile = [("7.block", .file file)] := by decide
  have hopen : open? .sha256 "ledger" (some directory) =
      .ok ⟨"ledger", .ofBlocks .sha256 [⟨some { number := 7 }, some ⟨[slot]⟩, none⟩]⟩ := by
    rw [open?_eq .sha256 "ledger" only]
    rfl
  have hjudged : (BlockRecord.ofBlock block []).map (fun record => record.transactions.map (·.validationCode)) =
      .ok [some 0] := by decide +kernel
  obtain ⟨fault, herror⟩ | ⟨ledger, hledger, hempty | ⟨stored, hstored, hnumber, -, hrecord⟩⟩ :=
    open?_cut .sha256 "ledger" rfl rfl (by decide) hfront (by decide) only
  · rw [hopen] at herror
    cases herror
  · rw [hopen] at hledger
    cases hledger
    cases hempty
  · refine ⟨ledger, stored, hledger, hstored, hnumber, ?_⟩
    have hdecodes : (BlockRecord.ofBlock stored.block []).isOk = true := by
      rw [hopen] at hledger
      cases hledger
      cases hstored
      decide +kernel
    obtain ⟨failure, herror⟩ | ⟨record, hwhole, hcut⟩ := hrecord []
    · rw [herror] at hdecodes
      cases hdecodes
    · rw [hwhole, map_ok] at hjudged
      have hverdicts : record.transactions.map (·.validationCode) = [some 0] := Except.ok.inj hjudged
      obtain ⟨tx, htransactions, -⟩ := List.map_eq_singleton_iff.1 hverdicts
      refine ⟨record, hwhole, hcut, hverdicts, ?_⟩
      rw [BlockRecord.unjudged, htransactions]
      rfl

end ChannelLedger
