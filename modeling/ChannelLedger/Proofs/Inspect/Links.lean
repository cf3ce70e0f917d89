import ChannelLedger.Proofs.Inspect.Verdict
import ChannelLedger.Proofs.Ledger.Detail

/-!
# Links that an inspection reports

A walk by hash follows the links from the tip down, one after the other. An inspection looks at one header
at a time and asks by number whether the next block names its hash. Both come to the same over a ledger
without gaps: the walk shows every block down to the first one exactly if the inspection of every number
below the top says that the next block links back.

What the inspection says stands in one line, which is there exactly if the link holds
(`Inspect.reportsLink_iff`). From there on both sides are about the same links: those of an unbroken index, in
which every block names the hash that is held for the number below (`BlockIndex.Unbroken`).

Main theorem `DirectoryLedger.browse_iff_reportsLink`.
-/
namespace ChannelLedger

open Outcome

/-! ## Unbroken indexes -/

namespace BlockIndex

variable {suite : HashSuite} {blocks : List Block} {index : BlockIndex}

/-- The hash that the block of a number names if nothing is broken: the one that is held for the number
below, and none for the first block. -/
def linkBelow (index : BlockIndex) : (below : Nat) → Bytes
  | 0 => []
  | below + 1 => (index.hash? (UInt64.ofNat below)).getD []

theorem linkBelow_succ {below : Nat} {stored : StoredBlock}
    (found : index.find? (UInt64.ofNat below) = some stored) : index.linkBelow (below + 1) = stored.hash := by
  rw [linkBelow, hash?, found]
  rfl

/-- The blocks of all numbers below a bound are held, and each names the one below it. -/
def Unbroken (index : BlockIndex) (bound : Nat) : Prop :=
  ∀ i < bound, ∃ stored, index.find? (UInt64.ofNat i) = some stored ∧ stored.block.link = index.linkBelow i

/-- The record that the block of a number is decoded as, under its own hash. -/
def record? (index : BlockIndex) (suite : HashSuite) (number : UInt64) : Option BlockRecord :=
  Fetch.record? suite ⟨.number number, index.block (.number number)⟩

/-- The numbers below a bound, from the highest down. -/
def numbersDown (bound : Nat) : List UInt64 :=
  (List.range bound).reverse.map UInt64.ofNat

theorem number_of_record? {number : UInt64} {record : BlockRecord} (h : index.record? suite number = some record) :
    record.overview.number = number := by
  unfold record? Fetch.record? at h
  cases hblock : index.block (.number number) with
  | error cause => simp [hblock] at h
  | ok block =>
    obtain ⟨stored, -, hnumber, rfl⟩ := mem_of_block_number hblock
    cases hdecodes : BlockRecord.ofBlock stored.block (BlockRef.name suite stored.block (.number number)) with
    | error cause => simp [hblock, hdecodes, Except.toOption] at h
    | ok found =>
      obtain rfl : found = record := by simpa [hblock, hdecodes, Except.toOption] using h
      rw [BlockRecord.number_of_ofBlock hdecodes, Block.number_of_header stored.header_eq]
      exact hnumber

/-- Records that are those of some numbers carry these numbers. -/
theorem numbers_of_records {records : List BlockRecord} {numbers : List UInt64}
    (h : records.map some = numbers.map (index.record? suite)) :
    records.map (·.overview.number) = numbers := by
  refine List.map_injective_iff.2 (Option.some_injective UInt64) ?_
  have hmap := congrArg (List.map (Option.map (·.overview.number))) h
  simp only [List.map_map] at hmap ⊢
  refine hmap.trans (List.map_congr_left fun number hm => ?_)
  obtain ⟨record, -, hrecord⟩ := List.mem_map.1 (h ▸ List.mem_map_of_mem hm)
  simp only [Function.comp_apply, ← hrecord, Option.map_some, number_of_record? hrecord.symm]

theorem numbersDown_succ (below : Nat) : numbersDown (below + 1) = UInt64.ofNat below :: numbersDown below := by
  simp [numbersDown, List.range_succ]

theorem getElem?_numbersDown {bound i : Nat} (h : i < bound) :
    (numbersDown bound)[bound - 1 - i]? = some (UInt64.ofNat i) := by
  have hi : bound - 1 - i < bound := by omega
  simp only [numbersDown, List.getElem?_map]
  rw [List.getElem?_reverse (by simpa using hi), List.length_range, List.getElem?_range (by omega)]
  simp only [Option.map_some]
  congr 2
  omega

/-! ### A walk over an unbroken index -/

/-- **From the block that it points to, a walk goes down an unbroken index to the first block.** -/
theorem Unbroken.runHash (h : index.Reflects suite blocks)
    (nonempty : ∀ bytes, suite.hash bytes ≠ []) (free : suite.CollisionFree (Block.headers blocks))
    {bound : Nat} (unbroken : index.Unbroken bound)
    (decodes : ∀ i < bound, ∃ record, index.record? suite (UInt64.ofNat i) = some record)
    {height : UInt64} {passed : List BlockRecord} {walk : Walk} (history : walk.history = .of height passed)
    (pointer : walk.pointer = index.linkBelow bound) {steps : Nat} (enough : bound < steps) :
    ∃ records, (walk.runHash (index.answers.ledger Unit) StopRule.unlimited.plan steps ()).1 =
        some (.ok (.of height (passed ++ records))) ∧
      records.map some = (numbersDown bound).map (index.record? suite) := by
  obtain ⟨steps, rfl⟩ := Nat.exists_eq_add_one_of_ne_zero (Nat.ne_zero_of_lt enough)
  induction bound generalizing passed walk steps with
  | zero =>
    have hover : walk.isOver StopRule.unlimited = true := by simp [Walk.isOver, pointer, linkBelow]
    rw [Walk.runHash_over rfl hover]
    exact ⟨[], by rw [history, List.append_nil], rfl⟩
  | succ below ih =>
    obtain ⟨stored, hfound, hlink⟩ := unbroken below (Nat.lt_succ_self below)
    obtain ⟨record, hrecord⟩ := decodes below (Nat.lt_succ_self below)
    have hhash : stored.hash = stored.header.hash suite := h.hashed stored (mem_of_find? hfound)
    rw [linkBelow_succ hfound, hhash] at pointer
    have hover : walk.isOver StopRule.unlimited = false := by
      have hne : walk.pointer ≠ [] := pointer ▸ nonempty stored.header.der
      simp [Walk.isOver, StopRule.holds, StopRule.unlimited, hne]
    have hnumber : index.block (.number (UInt64.ofNat below)) = .ok stored.block := by
      simp [BlockIndex.block, hfound]
    have hblock : index.block (.hash walk.pointer) = .ok stored.block :=
      pointer ▸ h.block_hash_complete free hnumber stored.header_eq
    have hdecodes : BlockRecord.ofBlock stored.block walk.pointer = .ok record := by
      simp only [record?, Fetch.record?, hnumber, BlockRef.name, Block.hash_of_header stored.header_eq] at hrecord
      rw [pointer]
      cases hr : BlockRecord.ofBlock stored.block (stored.header.hash suite) with
      | error cause => simp [hr, Except.toOption] at hrecord
      | ok found => simpa [hr, Except.toOption] using hrecord
    rw [Walk.runHash_block rfl hover (congrArg (·, ()) hblock), Walk.passHash_ok hdecodes]
    obtain ⟨steps, rfl⟩ := Nat.exists_eq_add_one_of_ne_zero (n := steps) (by omega)
    have hpast : (walk.history.push record) = .of height (passed ++ [record]) := by
      rw [history, ChannelHistory.push_of]
    let next : Walk := ⟨walk.history.push record, stored.block.link, previousNumber stored.block.number⟩
    obtain ⟨records, hrun, hrecords⟩ := ih (fun i hi => unbroken i (Nat.lt_succ_of_lt hi))
      (fun i hi => decodes i (Nat.lt_succ_of_lt hi)) (show next.history = _ from hpast) hlink steps (by omega)
    refine ⟨record :: records, ?_, ?_⟩
    · rw [hrun, List.append_assoc, List.singleton_append]
    · rw [numbersDown_succ, List.map_cons, List.map_cons, hrecord, hrecords]

/-- An unbroken index holds as many blocks as there are numbers. -/
theorem Unbroken.le_size {bound : Nat} (unbroken : index.Unbroken bound) (fits : bound ≤ 2 ^ 64) :
    bound ≤ index.size := by
  refine Nat.le_trans ?_ (countBelow_le_size index bound)
  induction bound with
  | zero => exact Nat.zero_le _
  | succ below ih =>
    obtain ⟨stored, hfound, -⟩ := unbroken below (Nat.lt_succ_self below)
    have hnumber : stored.number.toNat = below := by
      rw [number_of_find? hfound, UInt64.toNat_ofNat_of_lt' fits]
    have hlt := countBelow_lt (mem_of_find? hfound) hnumber
    have hle := ih (fun i hi => unbroken i (Nat.lt_succ_of_lt hi)) (Nat.le_of_succ_le fits)
    omega

/-- The tip of an index that ends with the block of a number. -/
theorem Reflects.tip_of_top (h : index.Reflects suite blocks) {top : UInt64} {stored : StoredBlock}
    (found : index.find? top = some stored)
    (highest : ∀ number stored, index.find? number = some stored → number ≤ top)
    (fits : top < 0xffffffffffffffff) : ∃ link, index.tip = .ok ⟨top + 1, stored.hash, link⟩ := by
  have hlatest : Block.latest? blocks top = some stored.block := by rw [← h.latest, found, Option.map_some]
  refine ⟨stored.header.previousHash, ?_⟩
  rw [h.hashed stored (mem_of_find? found)]
  refine h.tip_eq hlatest stored.header_eq (fun number hsome => ?_) fits
  obtain ⟨block, hblock⟩ := Option.isSome_iff_exists.1 hsome
  obtain ⟨other, hfound, -⟩ := h.find?_of_latest hblock
  exact highest number other hfound

/-- **Browsing an unbroken index shows its blocks from the top down.** -/
theorem Unbroken.browse (h : index.Reflects suite blocks)
    (nonempty : ∀ bytes, suite.hash bytes ≠ []) (free : suite.CollisionFree (Block.headers blocks))
    {top : UInt64} (unbroken : index.Unbroken (top.toNat + 1))
    (highest : ∀ number stored, index.find? number = some stored → number ≤ top)
    (fits : top < 0xffffffffffffffff)
    (decodes : ∀ i < top.toNat + 1, ∃ record, index.record? suite (UInt64.ofNat i) = some record) :
    ∃ history, index.browse .unlimited = .ok history ∧
      history.blocks.map some = (numbersDown (top.toNat + 1)).map (index.record? suite) := by
  obtain ⟨stored, hfound, -⟩ := unbroken top.toNat (Nat.lt_succ_self _)
  have hpointer := linkBelow_succ hfound
  rw [UInt64.ofNat_toNat] at hfound
  obtain ⟨link, htip⟩ := h.tip_of_top hfound highest fits
  have enough : top.toNat + 1 < StopRule.unlimited.steps index.size :=
    lt_steps _ (unbroken.le_size top.toNat_lt)
  have hstart : (Walk.start ⟨top + 1, stored.hash, link⟩).history = .of (top + 1) [] := rfl
  obtain ⟨records, hrun, hrecords⟩ :=
    unbroken.runHash h nonempty free decodes hstart hpointer.symm enough
  refine ⟨.of (top + 1) records, ?_, hrecords⟩
  rw [browse_valid rfl htip, hrun]
  rfl

/-! ### What a walk shows -/

/-- A record that a walk by hash passes shows the hash and the link of the block that is held under its
number. -/
theorem Reflects.shown (h : index.Reflects suite blocks) {rule : StopRule} {tip : ChainTip}
    {fetches : List Fetch} {history : ChannelHistory}
    (course : (Walk.start tip).Course (index.answers.ledger Unit) suite .byHash rule fetches
      (some (.ok history))) {i : Nat} {record : BlockRecord} (hi : history.blocks[i]? = some record) :
    ∃ stored, index.find? record.overview.number = some stored ∧
      record.overview.blockHash = Bytes.toHex stored.hash ∧
      record.overview.previousHash = Bytes.toHex stored.block.link := by
  obtain ⟨before, -, -, -, block, ⟨_, hgives⟩, decodes⟩ :=
    course.visit (Walk.stands_start .byHash tip) hi (Nat.zero_le i)
  have hblock : index.block (Way.byHash.ref before) = .ok block := hgives
  obtain ⟨header, hheader, hname, hnumber⟩ := h.held_of_block hblock
  obtain ⟨stored, hm, hstored, rfl⟩ := mem_of_block_number hnumber
  obtain ⟨found, hfound, hoverview⟩ := BlockRecord.overview_of_ofBlock decodes
  obtain rfl : header = found := Option.some.inj (hheader.symm.trans hfound)
  obtain rfl : stored.header = header := Option.some.inj (stored.header_eq.symm.trans hheader)
  refine ⟨stored, ?_, ?_, ?_⟩
  · rw [hoverview]
    exact h.find?_of_mem hm
  · rw [hoverview, h.hashed stored hm, ← hname]
  · rw [hoverview, Block.link, hheader]

/-- **A walk that shows the blocks from a bound down goes over an unbroken index.** -/
theorem Reflects.unbroken_of_browse (h : index.Reflects suite blocks) {history : ChannelHistory}
    (browses : index.Browses .unlimited history) {bound : Nat}
    (numbers : history.blocks.map (·.overview.number) = numbersDown bound)
    (first : ∀ stored, index.find? 0 = some stored → stored.block.link = []) : index.Unbroken bound := by
  obtain ⟨tip, fetches, -, course⟩ := browses.course suite
  -- the block of a number stands where the numbers, counted down, come to it
  have hplace (i : Nat) (hi : i < bound) : ∃ record, history.blocks[bound - 1 - i]? = some record ∧
      record.overview.number = UInt64.ofNat i := by
    have hget := getElem?_numbersDown hi
    rw [← numbers, List.getElem?_map] at hget
    exact Option.map_eq_some_iff.1 hget
  intro i hi
  obtain ⟨record, hrecord, hnumber⟩ := hplace i hi
  obtain ⟨stored, hfound, -, hlink⟩ := h.shown course hrecord
  rw [hnumber] at hfound
  refine ⟨stored, hfound, ?_⟩
  cases i with
  | zero => exact first stored hfound
  | succ below =>
    obtain ⟨next, hnext, hbelow⟩ := hplace below (Nat.lt_of_succ_lt hi)
    obtain ⟨other, hother, hhash, -⟩ := h.shown course hnext
    rw [hbelow] at hother
    rw [show bound - 1 - below = bound - 1 - (below + 1) + 1 by omega] at hnext
    have hlinked := course.linked.next _ record next hrecord hnext
    rw [linkBelow_succ hother]
    exact Bytes.toHex_inj (hlink.symm.trans (hlinked.symm.trans hhash))

/-! ### What an inspection says -/

theorem linkVerdict_eq_linked {next : UInt64} {hash : Bytes} :
    Inspect.linkVerdict index next hash = .linked ↔
      ∃ stored, index.find? next = some stored ∧ stored.block.link = hash := by
  unfold Inspect.linkVerdict
  cases index.find? next with
  | none => simp
  | some stored => simp

/-- **An index without gaps is unbroken exactly if every inspection below the top says so.** -/
theorem Reflects.unbroken_iff_reportsLink (h : index.Reflects suite blocks) {top : UInt64}
    (held : ∀ number, (∃ stored, index.find? number = some stored) ↔ number ≤ top)
    (fits : top < 0xffffffffffffffff) (first : ∀ stored, index.find? 0 = some stored → stored.block.link = []) :
    index.Unbroken (top.toNat + 1) ↔ ∀ number < top, Inspect.ReportsLink suite index number := by
  -- below the top, the line is about the block that has the number of the next one
  have hreports {number : UInt64} (hlt : number < top) {stored : StoredBlock}
      (hfound : index.find? number = some stored) : Inspect.ReportsLink suite index number ↔
        ∃ next, index.find? (number + 1) = some next ∧ next.block.link = stored.hash := by
    rw [h.hashed stored (mem_of_find? hfound), ← linkVerdict_eq_linked]
    exact Inspect.reportsLink_iff hfound (UInt64.ne_of_lt (UInt64.lt_trans hlt fits))
  constructor
  · intro unbroken number hlt
    obtain ⟨stored, hfound⟩ := (held number).2 (UInt64.le_of_lt hlt)
    obtain ⟨next, hnext, hlink⟩ :=
      unbroken (number.toNat + 1) (Nat.succ_lt_succ (UInt64.lt_iff_toNat_lt.1 hlt))
    rw [linkBelow_succ (by rwa [UInt64.ofNat_toNat])] at hlink
    rw [UInt64.ofNat_add, UInt64.ofNat_toNat] at hnext
    exact (hreports hlt hfound).2 ⟨next, hnext, hlink⟩
  · intro reports i hi
    have hnumber : (UInt64.ofNat i).toNat = i :=
      UInt64.toNat_ofNat_of_lt' (Nat.lt_of_lt_of_le hi top.toNat_lt)
    have hle : UInt64.ofNat i ≤ top := by
      rw [UInt64.le_iff_toNat_le, hnumber]
      exact Nat.le_of_lt_succ hi
    obtain ⟨stored, hfound⟩ := (held _).2 hle
    cases i with
    | zero => exact ⟨stored, hfound, first stored hfound⟩
    | succ below =>
      have hlt : UInt64.ofNat below < top := by
        rw [UInt64.lt_iff_toNat_lt, UInt64.toNat_ofNat_of_lt' (Nat.lt_trans (Nat.lt_of_succ_lt_succ hi) top.toNat_lt)]
        exact Nat.lt_of_succ_lt_succ hi
      obtain ⟨other, hother⟩ := (held _).2 (UInt64.le_of_lt hlt)
      obtain ⟨next, hnext, hlink⟩ := (hreports hlt hother).1 (reports _ hlt)
      refine ⟨next, ?_, by rw [hlink, linkBelow_succ hother]⟩
      rw [UInt64.ofNat_add]
      exact hnext

end BlockIndex

/-! ## The two verdicts -/

/-- **An inspection that reports every link and a walk that shows every block come to the same.** Over a
directory whose ledger holds the numbers up to some top and no other, whose first block names none and
whose blocks all decode, browsing without a limit shows the blocks from the top down to the first one if
and only if the inspection of every number below the top says that the next block links back; and each block
is then shown as it is decoded under its own hash. -/
theorem DirectoryLedger.browse_iff_reportsLink {suite : HashSuite} {path : String} {directory : Directory}
    {blocks : List Block} {ledger : DirectoryLedger} {top : UInt64}
    (read : directory.blocks path = .ok blocks) (opened : open? suite path (some directory) = .ok ledger)
    (nonempty : ∀ bytes, suite.hash bytes ≠ []) (free : suite.CollisionFree (Block.headers blocks))
    (held : ∀ number, (∃ block, ledger.index.block (.number number) = .ok block) ↔ number ≤ top)
    (fits : top < 0xffffffffffffffff)
    (first : ∀ block, ledger.index.block (.number 0) = .ok block → block.link = [])
    (decodes : ∀ number block, ledger.index.block (.number number) = .ok block →
      ∃ record, BlockRecord.ofBlock block (block.hash suite) = .ok record) :
    ((∃ history, ledger.index.browse .unlimited = .ok history ∧
        history.blocks.map (·.overview.number) = BlockIndex.numbersDown (top.toNat + 1)) ↔
      ∀ number < top, Inspect.ReportsLink suite ledger.index number) ∧
    ((∀ number < top, Inspect.ReportsLink suite ledger.index number) →
      ∃ history, ledger.index.browse .unlimited = .ok history ∧
        history.blocks.map some =
          (BlockIndex.numbersDown (top.toNat + 1)).map (ledger.index.record? suite)) := by
  have hledger : ledger = ⟨path, .ofBlocks suite blocks⟩ := by
    rw [open?, read, ok_bind, pure_eq, Except.ok.injEq] at opened
    exact opened.symm
  have h : ledger.index.Reflects suite blocks := by
    rw [hledger]
    exact BlockIndex.reflects_ofBlocks suite blocks
  -- a query by number and the table of numbers are the same thing
  have hblock (number : UInt64) (block : Block) : ledger.index.block (.number number) = .ok block ↔
      ∃ stored, ledger.index.find? number = some stored ∧ stored.block = block := by
    rw [h.block_number_ok, ← h.latest, Option.map_eq_some_iff]
  have hheld (number : UInt64) : (∃ stored, ledger.index.find? number = some stored) ↔ number ≤ top := by
    rw [← held number]
    constructor
    · rintro ⟨stored, hfound⟩
      exact ⟨stored.block, (hblock _ _).2 ⟨stored, hfound, rfl⟩⟩
    · rintro ⟨block, hm⟩
      exact ((hblock _ _).1 hm).imp fun _ => And.left
  have hfirst (stored : StoredBlock) (hfound : ledger.index.find? 0 = some stored) : stored.block.link = [] :=
    first _ ((hblock _ _).2 ⟨stored, hfound, rfl⟩)
  have hdecodes (i : Nat) (hi : i < top.toNat + 1) :
      ∃ record, ledger.index.record? suite (UInt64.ofNat i) = some record := by
    have hle : UInt64.ofNat i ≤ top := by
      rw [UInt64.le_iff_toNat_le, UInt64.toNat_ofNat_of_lt' (Nat.lt_of_lt_of_le hi top.toNat_lt)]
      exact Nat.le_of_lt_succ hi
    obtain ⟨block, hm⟩ := (held _).2 hle
    obtain ⟨record, hrecord⟩ := decodes _ block hm
    exact ⟨record, by simp [BlockIndex.record?, Fetch.record?, hm, BlockRef.name, hrecord, Except.toOption]⟩
  have hunbroken := h.unbroken_iff_reportsLink hheld fits hfirst
  have hbrowse (unbroken : ledger.index.Unbroken (top.toNat + 1)) :=
    unbroken.browse h nonempty free (fun number stored hfound => (hheld number).1 ⟨stored, hfound⟩) fits hdecodes
  refine ⟨⟨?_, fun reports => ?_⟩, fun reports => hbrowse (hunbroken.2 reports)⟩
  · rintro ⟨history, hhistory, hnumbers⟩
    exact hunbroken.1 (h.unbroken_of_browse (BlockIndex.browses_of_browse hhistory) hnumbers hfirst)
  · obtain ⟨history, hhistory, hrecords⟩ := hbrowse (hunbroken.2 reports)
    exact ⟨history, hhistory, BlockIndex.numbers_of_records hrecords⟩

/-- Three blocks whose files are read in another order than that of their numbers, and a file of block 1
that is replaced by the next one: every block is shown, so every link is reported. -/
theorem DirectoryLedger.browse_iff_reportsLink_replaced :
    let chain := Block.chainOf .verbatim [some ⟨[]⟩, some ⟨[]⟩, some ⟨[]⟩]
    let stale : Block := ⟨some ⟨1, [7], []⟩, none, none⟩
    let directory : Directory := [("a.block", .file (Wire.Message.encode stale)),
      ("b.block", .file (Wire.Message.encode chain[2])), ("c.block", .file (Wire.Message.encode chain[1])),
      ("d.block", .file (Wire.Message.encode chain[0])), ("notes", .file [0xff])]
    ∃ ledger history, open? .verbatim "ledger" (some directory) = .ok ledger ∧
      ledger.index.browse .unlimited = .ok history ∧ history.blocks.map (·.overview.number) = [2, 1, 0] ∧
      ∀ number < 2, Inspect.ReportsLink .verbatim ledger.index number := by
  intro chain stale directory
  have read : directory.blocks "ledger" = .ok [stale, chain[2], chain[1], chain[0]] := by
    have hsorted : directory.sorted = directory := List.mergeSort_of_pairwise (by decide)
    unfold Directory.blocks Directory.blockFiles
    rw [hsorted]
    decide +kernel
  let index := BlockIndex.ofBlocks .verbatim [stale, chain[2], chain[1], chain[0]]
  have opened : open? .verbatim "ledger" (some directory) = .ok ⟨"ledger", index⟩ := by
    simp only [open?, read, ok_bind, pure_eq, index]
  have free : HashSuite.verbatim.CollisionFree (Block.headers [stale, chain[2], chain[1], chain[0]]) := by decide
  have held (number : UInt64) : (∃ block, index.block (.number number) = .ok block) ↔ number ≤ 2 := by
    constructor
    · rintro ⟨block, hblock⟩
      obtain ⟨stored, hm, rfl, -⟩ := BlockIndex.mem_of_block_number hblock
      have hall : ∀ stored ∈ index.blocks, stored.number ≤ 2 := by decide
      exact hall stored hm
    · intro hle
      obtain rfl | rfl | rfl : number = 0 ∨ number = 1 ∨ number = 2 := by
        simp only [UInt64.le_iff_toNat_le, ← UInt64.toNat_inj] at hle ⊢
        simp at hle ⊢
        omega
      · exact ⟨_, rfl⟩
      · exact ⟨_, rfl⟩
      · exact ⟨_, rfl⟩
  have first (block : Block) (hblock : index.block (.number 0) = .ok block) : block.link = [] := by
    obtain rfl : chain[0] = block := Except.ok.inj hblock
    rfl
  have decodes (number : UInt64) (block : Block) (hblock : index.block (.number number) = .ok block) :
      ∃ record, BlockRecord.ofBlock block (block.hash .verbatim) = .ok record := by
    have hok : ∀ stored ∈ index.blocks, (BlockRecord.ofBlock stored.block (stored.block.hash .verbatim)).isOk := by
      decide
    obtain ⟨stored, hm, -, rfl⟩ := BlockIndex.mem_of_block_number hblock
    have := hok stored hm
    cases hr : BlockRecord.ofBlock stored.block (stored.block.hash .verbatim) with
    | ok record => exact ⟨record, rfl⟩
    | error cause => simp [hr, Except.isOk, Except.toBool] at this
  obtain ⟨history, hhistory, hnumbers⟩ : ∃ history, index.browse .unlimited = .ok history ∧
      history.blocks.map (·.overview.number) = BlockIndex.numbersDown 3 := ⟨_, rfl, rfl⟩
  have hiff := (browse_iff_reportsLink read opened (fun _ => List.cons_ne_nil _ _) free held (by decide) first
    decodes).1
  exact ⟨_, history, opened, hhistory, hnumbers, hiff.1 ⟨history, hhistory, hnumbers⟩⟩

end ChannelLedger
