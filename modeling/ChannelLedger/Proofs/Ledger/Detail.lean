import ChannelLedger.CommandLine.Browse
import ChannelLedger.Proofs.Ledger.Overflow
import ChannelLedger.Proofs.Walk.Target

/-!
# One block, whichever way it is shown

A block is shown in four ways: by a walk that follows hashes, by a walk that counts numbers down, by the
server and on the command line under its number. Each has the hash that the block is shown under from
somewhere else: it is the link that was followed, or computed from the block, or kept beside it, or kept
beside it and otherwise computed; and the block itself comes out of one of two tables.

All of them show the same record, also where hashes collide and where blocks were replaced. What a table
leads to is the block that is held under its own number, and its hash is that of its header
(`BlockIndex.Reflects.held_of_block`), so every way has the same block and the same hash.

Main theorem `DirectoryLedger.shown_alike`.
-/
namespace ChannelLedger

open Outcome

/-! ## Behind either table -/

namespace BlockIndex

variable {suite : HashSuite} {blocks : List Block} {index : BlockIndex} {ref : BlockRef} {block : Block}

/-- What either table leads to is held under its own number, and is shown under the hash of its header. -/
theorem Reflects.held_of_block (h : Reflects suite blocks index) (found : index.block ref = .ok block) :
    ∃ header, block.header = some header ∧ ref.name suite block = header.hash suite ∧
      index.block (.number header.number) = .ok block := by
  cases ref with
  | hash bytes =>
    obtain ⟨header, hh, hhash, hnumber⟩ := h.block_hash_sound found
    exact ⟨header, hh, hhash.symm, hnumber⟩
  | number number =>
    obtain ⟨stored, -, hnumber, rfl⟩ := mem_of_block_number found
    refine ⟨stored.header, stored.header_eq, Block.hash_of_header stored.header_eq, ?_⟩
    rw [show stored.header.number = number from hnumber]
    exact found

/-- The hash that is kept beside a block is that of its header. -/
theorem Reflects.hash?_of_block (h : Reflects suite blocks index) {number : UInt64}
    (found : index.block (.number number) = .ok block) {header : BlockHeader}
    (hh : block.header = some header) : index.hash? number = some (header.hash suite) := by
  rw [h.hash?_eq, h.block_number_ok.1 found]
  simp [hh]

/-- **What either table leads to is shown alike under its number**, whatever would be made of a block
without a hash. -/
theorem Reflects.detailOr_eq (h : Reflects suite blocks index) (found : index.block ref = .ok block)
    {record : BlockRecord} (decodes : BlockRecord.ofBlock block (ref.name suite block) = .ok record)
    (hashOf : Block → Bytes) : index.detailOr hashOf record.overview.number = .ok record := by
  obtain ⟨header, hh, hname, hfound⟩ := h.held_of_block found
  have hnumber : record.overview.number = header.number := by
    rw [BlockRecord.number_of_ofBlock decodes, Block.number_of_header hh]
  have hhash : index.hash? header.number = some (header.hash suite) := h.hash?_of_block hfound hh
  rw [hname] at decodes
  simp [detailOr, hnumber, hfound, hhash, decodes]

end BlockIndex

/-! ## Along a walk -/

namespace Walk.Course

variable {suite : HashSuite} {blocks : List Block} {index : BlockIndex} {way : Way} {rule : StopRule}
  {fetches : List Fetch} {tip : ChainTip} {history : ChannelHistory}

/-- A record that a walk over an index passes is what is shown under its number. -/
theorem detailOr_eq (hi : index.Reflects suite blocks)
    (h : (start tip).Course (index.answers.ledger Unit) suite way rule fetches (some (.ok history)))
    {record : BlockRecord} (hm : record ∈ history.blocks) (hashOf : Block → Bytes) :
    index.detailOr hashOf record.overview.number = .ok record := by
  obtain ⟨i, hget⟩ := List.mem_iff_getElem?.1 hm
  obtain ⟨before, -, -, -, block, ⟨_, found⟩, decodes⟩ :=
    h.visit (stands_start way tip) hget (Nat.zero_le i)
  exact hi.detailOr_eq found decodes hashOf

/-- A transaction that is found in a history stands in one of its blocks. -/
theorem mem_of_findTransaction
    (h : (start tip).Course (index.answers.ledger Unit) suite way rule fetches (some (.ok history)))
    {txId : String} {tx : TransactionRecord} (found : history.findTransaction txId = some tx) :
    tx.txId = txId ∧ ∃ record ∈ history.blocks, tx ∈ record.transactions := by
  have hid : tx.txId = txId := by simpa using List.find?_some found
  have hm : tx ∈ history.transactions := List.mem_of_find?_eq_some found
  rw [h.accounts.transactions] at hm
  exact ⟨hid, List.mem_flatMap.1 hm⟩

end Walk.Course

/-- A history that one of the two walks over an index ends with. -/
inductive BlockIndex.Lists (index : BlockIndex) (suite : HashSuite) (rule : StopRule)
    (history : ChannelHistory) : Prop
  | byHash (walked : index.Browses rule history)
  | byNumber (walked : index.browseByNumber suite rule = .ok history)

theorem BlockIndex.Lists.course {index : BlockIndex} {suite : HashSuite} {rule : StopRule}
    {history : ChannelHistory} (h : index.Lists suite rule history) :
    ∃ way tip fetches, (Walk.start tip).Course (index.answers.ledger Unit) suite way rule fetches
      (some (.ok history)) := by
  cases h with
  | byHash walked =>
    obtain ⟨tip, fetches, -, hcourse⟩ := walked.course suite
    exact ⟨.byHash, tip, fetches, hcourse⟩
  | byNumber walked =>
    obtain ⟨tip, fetches, -, hcourse⟩ := BlockIndex.course_of_browseByNumber walked
    exact ⟨.byNumber, tip, fetches, hcourse⟩

/-! ## On the server and on the command line -/

/-- A record is what the server and the command line show as the block of its number. -/
structure Server.Site.Shows (site : Site) (record : BlockRecord) : Prop where
  served : site.block record.overview.number = .ok record
  printed : ∀ json, CommandLine.showBlock site.suite site.index record.overview.number json =
    CommandLine.printAs json record.toJson (View.blockPage record)

theorem Server.Site.shows_of_detailOr {site : Site} {record : BlockRecord}
    (h : ∀ hashOf, site.index.detailOr hashOf record.overview.number = .ok record) :
    site.Shows record where
  served := by
    rw [block, BlockIndex.detail, h, mapError_ok]
  printed json := by
    rw [CommandLine.showBlock, h]
    rfl

/-- The transaction that the server gives was found in a walk to the end of the channel. -/
theorem Server.Site.lists_of_transaction {site : Site} {txId : String} {tx : TransactionRecord}
    (h : site.transaction txId = .ok tx) :
    ∃ history, site.index.Lists site.suite .unlimited history ∧
      history.findTransaction txId = some tx := by
  obtain ⟨history, hwalk, hfound⟩ := bind_eq_ok.1 h
  have hbrowse : site.index.browse .unlimited = .ok history := by
    cases hresult : site.index.browse .unlimited with
    | error failure => simp [walk, hresult] at hwalk
    | ok found => simpa [walk, hresult] using hwalk
  refine ⟨history, .byHash (BlockIndex.browses_of_browse hbrowse), ?_⟩
  cases hfind : history.findTransaction txId with
  | none => simp [hfind] at hfound
  | some found => simpa [hfind] using hfound

/-- **Every way to a block shows the same block.** Of a ledger that was opened with any suite from any
directory, each block of a history, of either walk and under any rule, is what the server and the command
line show as the block of that number, with the same hash and links, transactions and verdicts; and each
transaction that is found, in a history or by the server, is one of such a block. -/
theorem DirectoryLedger.shown_alike {suite : HashSuite} {path : String} {directory : Option Directory}
    {ledger : DirectoryLedger} (opened : open? suite path directory = .ok ledger)
    (dashboard : Dashboard) :
    let site : Server.Site := ⟨suite, path, ledger.index, dashboard⟩
    (∀ rule history, ledger.index.Lists suite rule history →
      (∀ record ∈ history.blocks, site.Shows record) ∧
      ∀ txId tx, history.findTransaction txId = some tx →
        tx.txId = txId ∧ ∃ record ∈ history.blocks, tx ∈ record.transactions) ∧
    ∀ txId tx, site.transaction txId = .ok tx →
      tx.txId = txId ∧ ∃ record, site.Shows record ∧ tx ∈ record.transactions := by
  intro site
  obtain ⟨blocks, hreflects⟩ := reflects_of_open? opened
  have hshows : ∀ {rule history}, ledger.index.Lists suite rule history →
      ∀ record ∈ history.blocks, site.Shows record := by
    intro rule history hlists record hm
    obtain ⟨way, tip, fetches, hcourse⟩ := hlists.course
    exact Server.Site.shows_of_detailOr (hcourse.detailOr_eq hreflects hm)
  constructor
  · intro rule history hlists
    obtain ⟨way, tip, fetches, hcourse⟩ := hlists.course
    exact ⟨hshows hlists, fun txId tx found => hcourse.mem_of_findTransaction found⟩
  · intro txId tx htx
    obtain ⟨history, hlists, found⟩ := Server.Site.lists_of_transaction htx
    obtain ⟨way, tip, fetches, hcourse⟩ := hlists.course
    obtain ⟨hid, record, hm, hin⟩ := hcourse.mem_of_findTransaction found
    exact ⟨hid, record, hshows hlists record hm, hin⟩

/-! ### Two blocks of one hash -/

namespace Colliding

/-- A suite in which every two headers collide. -/
def suite : HashSuite := ⟨"seven", fun _ => [7]⟩

def lower : Block where
  header := some {}
  data := some ⟨[]⟩

/-- The block above, with one transaction; it names the hash that both blocks have. -/
def upper : Block where
  header := some { number := 1, previousHash := [7] }
  data := some ⟨[[0x0a, 0x08, 0x0a, 0x06, 0x0a, 0x04, 0x08, 0x01, 0x1a, 0x00]]⟩

def directory : Directory :=
  [("0.block", .file (Wire.Message.encode lower)), ("1.block", .file (Wire.Message.encode upper))]

theorem open?_directory :
    DirectoryLedger.open? suite "ledger" (some directory) = .ok ⟨"ledger", .ofBlocks suite [lower, upper]⟩ := by
  have hblocks : directory.blocks "ledger" = .ok [lower, upper] := by
    have hsorted : directory.sorted = directory := List.mergeSort_of_pairwise (by decide)
    unfold Directory.blocks Directory.blockFiles
    rw [hsorted]
    decide +kernel
  simp only [DirectoryLedger.open?, hblocks, ok_bind, pure_eq]

end Colliding

/-- The walk by hash comes to the upper block twice and never to the lower one, the walk by number comes to
both; what they list is what is shown. -/
theorem DirectoryLedger.shown_alike_colliding :
    let index : BlockIndex := .ofBlocks Colliding.suite [Colliding.lower, Colliding.upper]
    open? Colliding.suite "ledger" (some Colliding.directory) = .ok ⟨"ledger", index⟩ ∧
    ∃ byHash byNumber, index.browse (.blockCount 2) = .ok byHash ∧
      byHash.blocks.map (·.overview.number) = [1, 1] ∧
      index.browseByNumber Colliding.suite (.blockCount 2) = .ok byNumber ∧
      byNumber.blocks.map (·.overview.number) = [1, 0] ∧
      ∀ record ∈ byHash.blocks ++ byNumber.blocks,
        Server.Site.Shows ⟨Colliding.suite, "ledger", index, {}⟩ record := by
  intro index
  obtain ⟨byHash, hash_eq, hash_numbers⟩ :
      ∃ history, index.browse (.blockCount 2) = .ok history ∧
        history.blocks.map (·.overview.number) = [1, 1] := ⟨_, rfl, rfl⟩
  obtain ⟨byNumber, number_eq, number_numbers⟩ :
      ∃ history, index.browseByNumber Colliding.suite (.blockCount 2) = .ok history ∧
        history.blocks.map (·.overview.number) = [1, 0] := ⟨_, rfl, rfl⟩
  obtain ⟨hlisted, -⟩ := shown_alike Colliding.open?_directory {}
  refine ⟨Colliding.open?_directory, byHash, byNumber, hash_eq, hash_numbers, number_eq, number_numbers,
    fun record hm => ?_⟩
  rcases List.mem_append.1 hm with hm | hm
  · exact (hlisted _ _ (.byHash (BlockIndex.browses_of_browse hash_eq))).1 record hm
  · exact (hlisted _ _ (.byNumber number_eq)).1 record hm

end ChannelLedger
