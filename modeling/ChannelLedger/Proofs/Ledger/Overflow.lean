import ChannelLedger.CommandLine.Program
import ChannelLedger.Proofs.Ledger.Truncation
import ChannelLedger.Proofs.Walk.Course

/-!
# The last number

A block may carry any number of 64 bits, the last one too, and then there is no number behind it: the height
of the channel is no number, and neither is that of the block which the inspection would look for. This is
the only number at which a sum leaves the 64 bits (`BlockIndex.SafeBelowLast`). Without it a height lies above
every number that is held, and no walk and no inspection overflows; with it every query for the tip does, and
so does every walk that asks for one.

Main theorem `DirectoryLedger.overflow_iff`.
-/
namespace ChannelLedger

open Outcome

/-- A block of the last number is held. -/
def BlockIndex.HoldsLast (index : BlockIndex) : Prop :=
  ∃ stored ∈ index.blocks, stored.number = 0xffffffffffffffff

/-- Sums overflow where a block of the last number is held, and nowhere else. -/
structure BlockIndex.SafeBelowLast (suite : HashSuite) (index : BlockIndex) : Prop where
  tip : index.tip = .error .overflow ↔ index.HoldsLast
  height : ¬ index.HoldsLast →
    ∃ tip, index.tip = .ok tip ∧ ∀ stored ∈ index.blocks, stored.number < tip.height
  browse : ∀ rule, index.browse rule = .error .overflow ↔ rule.validate = .ok () ∧ index.HoldsLast
  browseByNumber : ∀ rule, index.browseByNumber suite rule = .error .overflow ↔
    rule.validate = .ok () ∧ index.HoldsLast
  inspectBlock : ∀ number, (Inspect.inspectBlock suite index number).result = .error .overflow ↔
    number = 0xffffffffffffffff ∧ index.HoldsLast
  inspectAll : (Inspect.inspectAll suite index).result = .error .overflow ↔ index.HoldsLast

/-! ## Walks -/

theorem WalkFailure.ofTip_eq_overflow {cause : LedgerFailure} :
    ofTip cause = .overflow ↔ cause = .overflow := by
  cases cause <;> simp [ofTip]

theorem WalkFailure.ofFetch_eq_overflow {ref : BlockRef} {cause : LedgerFailure} :
    ofFetch ref cause = .overflow ↔ cause = .overflow := by
  cases cause <;> simp [ofFetch]

/-- Behind the tip nothing overflows that the ledger does not report as an overflow. -/
theorem Walk.Course.ne_overflow {σ : Type} {ledger : Ledger σ} {suite : HashSuite} {way : Way}
    {rule : StopRule} {walk : Walk} {fetches : List Fetch} {result : Option (Except WalkFailure ChannelHistory)}
    (h : walk.Course ledger suite way rule fetches result)
    (silent : ∀ ref, ¬ ledger.Gives ref (.error .overflow)) : result ≠ some (.error .overflow) := by
  induction h with
  | halted | cancelled | ended | undecodable => simp
  | missing goesOn answered =>
    intro hresult
    have hcause := WalkFailure.ofFetch_eq_overflow.1 (Except.error.inj (Option.some.inj hresult))
    exact silent _ (hcause ▸ answered)
  | passes _ _ _ _ ih => exact ih

namespace BlockIndex

variable {suite : HashSuite} {index : BlockIndex} {rule : StopRule}

/-- A query for a block does not overflow. -/
theorem not_gives_overflow (index : BlockIndex) (ref : BlockRef) :
    ¬ (index.answers.ledger Unit).Gives ref (.error .overflow) := by
  rintro ⟨state, hanswer⟩
  cases ref with
  | hash bytes =>
    simp only [Answers.ledger, answers, block] at hanswer
    split at hanswer <;> cases hanswer
  | number number =>
    simp only [Answers.ledger, answers, block] at hanswer
    split at hanswer <;> cases hanswer

theorem browse_tip_error {cause : LedgerFailure} (h : rule.validate = .ok ())
    (ht : index.tip = .error cause) : index.browse rule = .error (.ofTip cause) := by
  simp [browse, Ledger.browse, Ledger.startWalk, Answers.ledger, answers, h, ht]

theorem browseByNumber_tip_error {cause : LedgerFailure} (h : rule.validate = .ok ())
    (ht : index.tip = .error cause) : index.browseByNumber suite rule = .error (.ofTip cause) := by
  simp [browseByNumber, Ledger.browseByNumber, Ledger.startWalk, Answers.ledger, answers, h, ht]

/-- A walk by hash overflows where the query for the tip does. -/
theorem browse_eq_overflow : index.browse rule = .error .overflow ↔
    rule.validate = .ok () ∧ index.tip = .error .overflow := by
  cases hv : rule.validate with
  | error cause => simp [browse_invalid hv]
  | ok _ =>
  cases ht : index.tip with
  | error cause => simp [browse_tip_error hv ht, WalkFailure.ofTip_eq_overflow]
  | ok tip =>
    obtain ⟨fetches, -, hcourse⟩ := Walk.runHash_course (index.answers.ledger Unit) .sha256 rule.plan
      (rule.steps index.size) (.start tip) () []
    have hne := hcourse.ne_overflow index.not_gives_overflow
    rw [browse_valid hv ht]
    refine ⟨fun h => ?_, fun ⟨_, h⟩ => nomatch h⟩
    cases hrun : ((Walk.start tip).runHash (index.answers.ledger Unit) rule.plan
      (rule.steps index.size) ()).1 with
    | none =>
      rw [hrun] at h
      cases h
    | some result =>
      rw [hrun, Option.getD_some] at h
      exact absurd (hrun.trans (congrArg some h)) hne

/-- So does a walk by number. -/
theorem browseByNumber_eq_overflow : index.browseByNumber suite rule = .error .overflow ↔
    rule.validate = .ok () ∧ index.tip = .error .overflow := by
  cases hv : rule.validate with
  | error cause => simp [browseByNumber_invalid hv]
  | ok _ =>
  cases ht : index.tip with
  | error cause => simp [browseByNumber_tip_error hv ht, WalkFailure.ofTip_eq_overflow]
  | ok tip =>
    have expects : (Walk.start tip).expected = previousNumber (UInt64.ofNat tip.height.toNat) := by
      rw [UInt64.ofNat_toNat]
      rfl
    obtain ⟨fetches, -, hcourse⟩ := Walk.runNumber_course (index.answers.ledger Unit) suite rule.plan
      tip.height.toNat tip.height.toNat_lt (.start tip) expects () []
    have hne := hcourse.ne_overflow index.not_gives_overflow
    rw [browseByNumber_valid hv ht]
    exact ⟨fun h => absurd (congrArg some h) hne, fun ⟨_, h⟩ => nomatch h⟩

/-! ## The tip -/

theorem eq_last_of_le {n : UInt64} (h : 0xffffffffffffffff ≤ n) : n = 0xffffffffffffffff := by
  have hle := UInt64.le_iff_toNat_le.1 h
  have hlt := n.toNat_lt
  rw [← UInt64.toNat_inj]
  change 0xffffffffffffffff ≤ n.toNat at hle
  change n.toNat = 0xffffffffffffffff
  omega

theorem lt_add_one_of_le {m n : UInt64} (h : m ≤ n) (hn : n ≠ 0xffffffffffffffff) : m < n + 1 := by
  have hle := UInt64.le_iff_toNat_le.1 h
  have hlt := n.toNat_lt
  have hne : n.toNat ≠ 0xffffffffffffffff := fun heq => hn (UInt64.toNat_inj.1 heq)
  rw [UInt64.lt_iff_toNat_lt, UInt64.toNat_add, UInt64.toNat_one, Nat.mod_eq_of_lt (by omega)]
  omega

variable {blocks : List Block}

theorem Reflects.tip_eq_overflow (h : Reflects suite blocks index) :
    index.tip = .error .overflow ↔ index.HoldsLast := by
  rcases h.tip_cases with ⟨hempty, htip⟩ | ⟨last, hm, hmax, htip⟩
  · rw [htip]
    refine ⟨fun h => (nomatch h), ?_⟩
    rintro ⟨stored, hm, -⟩
    rw [hempty] at hm
    cases hm
  · rw [htip]
    constructor
    · intro hoverflow
      split at hoverflow
      case isTrue hlast => exact ⟨last, hm, hlast⟩
      case isFalse => cases hoverflow
    · rintro ⟨stored, hstored, hnumber⟩
      exact if_pos (eq_last_of_le (hnumber ▸ hmax stored hstored))

/-- The height lies above every number. -/
theorem Reflects.lt_height (h : Reflects suite blocks index) (hlast : ¬ index.HoldsLast) :
    ∃ tip, index.tip = .ok tip ∧ ∀ stored ∈ index.blocks, stored.number < tip.height := by
  rcases h.tip_cases with ⟨hempty, htip⟩ | ⟨last, hm, hmax, htip⟩
  · refine ⟨_, htip, fun stored hm => ?_⟩
    rw [hempty] at hm
    cases hm
  · have hne : last.number ≠ 0xffffffffffffffff := fun heq => hlast ⟨last, hm, heq⟩
    refine ⟨_, htip.trans (if_neg hne), fun stored hstored => ?_⟩
    exact lt_add_one_of_le (hmax stored hstored) hne

end BlockIndex

/-! ## Inspections -/

theorem Transcript.result_bind {α β : Type} (t : Transcript α) (f : α → Transcript β) :
    (t >>= f).result = t.result >>= fun a => (f a).result := by
  change (Transcript.bind t f).result = _
  unfold Transcript.bind
  cases t.result <;> rfl

theorem LedgerFailure.stop_eq_overflow {cause : LedgerFailure} :
    cause.stop = .overflow ↔ cause = .overflow := by
  cases cause <;> simp [stop]

namespace Inspect

variable {suite : HashSuite} {index : BlockIndex} {number : UInt64}

theorem inspectBlock_eq_overflow : (inspectBlock suite index number).result = .error .overflow ↔
    number = 0xffffffffffffffff ∧ (index.find? number).isSome := by
  unfold inspectBlock
  cases index.find? number with
  | none => simp [Transcript.fail]
  | some stored =>
    by_cases hlast : number = 0xffffffffffffffff
    · simp only [hlast, if_true, Option.isSome_some, and_self, iff_true]
      rfl
    · simp only [hlast, if_false, false_and, iff_false]
      exact fun h => nomatch h

theorem inspectAll_eq_overflow : (inspectAll suite index).result = .error .overflow ↔
    index.tip = .error .overflow := by
  unfold inspectAll
  cases index.tip with
  | error cause => simp [LedgerFailure.stop_eq_overflow]
  | ok tip => simp [Transcript.print]

theorem checkDirectory_ne_overflow (path : String) (directory : Option Directory) :
    (checkDirectory path directory).result ≠ .error .overflow := by
  unfold checkDirectory
  intro h
  rw [Transcript.result_bind] at h
  cases directory with
  | none => cases h
  | some directory =>
    simp only [Transcript.result_bind, Transcript.print, ok_bind] at h
    split at h <;> cases h

end Inspect

/-! ## Every ledger -/

namespace BlockIndex

variable {suite : HashSuite} {index : BlockIndex} {blocks : List Block}

theorem holdsLast_of_find? (h : (index.find? 0xffffffffffffffff).isSome) : index.HoldsLast := by
  obtain ⟨stored, hstored⟩ := Option.isSome_iff_exists.1 h
  exact ⟨stored, mem_of_find? hstored, number_of_find? hstored⟩

theorem Reflects.find?_last (h : Reflects suite blocks index) :
    (index.find? 0xffffffffffffffff).isSome ↔ index.HoldsLast := by
  refine ⟨holdsLast_of_find?, ?_⟩
  rintro ⟨stored, hm, hnumber⟩
  rw [← hnumber, h.find?_of_mem hm]
  rfl

/-- A block of the last number is held where one was inserted. -/
theorem Reflects.holdsLast_iff (h : Reflects suite blocks index) :
    index.HoldsLast ↔ ∃ header ∈ Block.headers blocks, header.number = 0xffffffffffffffff := by
  constructor
  · rintro ⟨stored, hm, hnumber⟩
    exact ⟨stored.header, h.mem_headers (h.find?_of_mem hm), hnumber⟩
  · rintro ⟨header, hm, hnumber⟩
    obtain ⟨block, hblock, hheader⟩ := List.mem_filterMap.1 hm
    have hnumbered : block.isNumbered 0xffffffffffffffff = true := by
      simp [Block.isNumbered, hheader, hnumber]
    have hlatest : (Block.latest? blocks 0xffffffffffffffff).isSome :=
      List.find?_isSome.2 ⟨block, List.mem_reverse.2 hblock, hnumbered⟩
    rw [← h.latest, Option.isSome_map] at hlatest
    exact holdsLast_of_find? hlatest

theorem Reflects.safeBelowLast (h : Reflects suite blocks index) : index.SafeBelowLast suite where
  tip := h.tip_eq_overflow
  height := h.lt_height
  browse rule := browse_eq_overflow.trans (and_congr_right fun _ => h.tip_eq_overflow)
  browseByNumber rule := browseByNumber_eq_overflow.trans (and_congr_right fun _ => h.tip_eq_overflow)
  inspectBlock number := by
    rw [Inspect.inspectBlock_eq_overflow]
    refine and_congr_right ?_
    rintro rfl
    exact h.find?_last
  inspectAll := Inspect.inspectAll_eq_overflow.trans h.tip_eq_overflow

end BlockIndex

/-- A ledger that was opened has an index of the blocks that were read. -/
theorem DirectoryLedger.reflects_of_open? {suite : HashSuite} {path : String} {directory : Option Directory}
    {ledger : DirectoryLedger} (h : open? suite path directory = .ok ledger) :
    ∃ blocks, BlockIndex.Reflects suite blocks ledger.index := by
  cases directory with
  | none => cases h
  | some directory =>
    obtain ⟨blocks, -, hledger⟩ := bind_eq_ok.1 h
    cases hledger
    exact ⟨blocks, BlockIndex.reflects_ofBlocks suite blocks⟩

/-- Where the inspection of a directory overflows, its ledger holds a block of the last number. -/
theorem CommandLine.inspect_overflow {suite : HashSuite} {path : String} {directory : Option Directory}
    {block : Option UInt64} {all : Bool}
    (h : (inspect suite path directory block all).result = .error .overflow) :
    ∃ ledger, DirectoryLedger.open? suite path directory = .ok ledger ∧ ledger.index.HoldsLast := by
  unfold inspect at h
  simp only [Transcript.result_bind, Transcript.print, ok_bind] at h
  rcases bind_eq_error.1 h with hcheck | ⟨-, -, hopened⟩
  · exact absurd hcheck (Inspect.checkDirectory_ne_overflow path directory)
  cases hopen : DirectoryLedger.open? suite path directory with
  | error cause =>
    rw [hopen] at hopened
    cases hopened
  | ok ledger =>
    refine ⟨ledger, rfl, ?_⟩
    obtain ⟨blocks, hreflects⟩ := DirectoryLedger.reflects_of_open? hopen
    have hsafe := hreflects.safeBelowLast
    simp only [hopen, Transcript.orFail, Transcript.pure, ok_bind] at hopened
    cases all with
    | true => exact hsafe.inspectAll.1 hopened
    | false =>
    cases block with
    | some number => exact ((hsafe.inspectBlock number).1 hopened).2
    | none =>
    cases htip : ledger.index.tip with
    | error cause =>
      simp only [htip, Bool.false_eq_true, if_false, Except.error.injEq,
        LedgerFailure.stop_eq_overflow] at hopened
      exact hsafe.tip.1 (hopened ▸ htip)
    | ok tip =>
      simp only [htip, Bool.false_eq_true, if_false] at hopened
      split at hopened
      case isTrue => cases hopened
      case isFalse =>
        rw [Transcript.result_bind] at hopened
        rcases bind_eq_error.1 hopened with hblock | ⟨-, -, hprint⟩
        · exact ((hsafe.inspectBlock _).1 hblock).2
        · cases hprint

/-- **Sums overflow for one block number and for no other.** Over every sequence of blocks, and so in every
ledger that is opened, the query for the tip, the walks and the inspections overflow where a block of the last
number is held, and where it is not, the height lies above every number. -/
theorem DirectoryLedger.overflow_iff (suite : HashSuite) :
    (∀ blocks, let index := BlockIndex.ofBlocks suite blocks
      index.SafeBelowLast suite ∧
      (index.HoldsLast ↔ ∃ header ∈ Block.headers blocks, header.number = 0xffffffffffffffff)) ∧
    ∀ path directory,
      (∀ ledger, open? suite path directory = .ok ledger → ledger.index.SafeBelowLast suite) ∧
      ∀ block all, (CommandLine.inspect suite path directory block all).result = .error .overflow →
        ∃ ledger, open? suite path directory = .ok ledger ∧ ledger.index.HoldsLast := by
  refine ⟨fun blocks => ?_, fun path directory => ⟨fun ledger hopen => ?_, fun block all => ?_⟩⟩
  · have h := BlockIndex.reflects_ofBlocks suite blocks
    exact ⟨h.safeBelowLast, h.holdsLast_iff⟩
  · obtain ⟨blocks, h⟩ := reflects_of_open? hopen
    exact h.safeBelowLast
  · exact CommandLine.inspect_overflow

/-- A directory with the file of one block. -/
theorem DirectoryLedger.open?_file (suite : HashSuite) (path : String) {name : String} {content : Bytes}
    {block : Block} (isBlockFile : Directory.isBlockFile (name, .file content) = true)
    (decodes : Wire.Message.decode content = .ok block) :
    open? suite path (some [(name, .file content)]) = .ok ⟨path, .ofBlocks suite [block]⟩ := by
  rw [open?_eq suite path (List.filter_cons_of_pos isBlockFile), decodes, mapError_ok, map_ok]

/-- A block below the last number: the height lies above it, and its inspection ends. -/
theorem DirectoryLedger.overflow_iff_below :
    let directory : Directory := [("b.block", .file [0x0a, 0x02, 0x08, 0x07, 0x12, 0x00])]
    ∃ ledger tip, open? .sha256 "ledger" (some directory) = .ok ledger ∧
      ledger.index.tip = .ok tip ∧ 7 < tip.height ∧
      (Inspect.inspectBlock .sha256 ledger.index 7).result ≠ .error .overflow := by
  intro directory
  let block : Block := ⟨some { number := 7 }, some ⟨[]⟩, none⟩
  have decodes : Wire.Message.decode [0x0a, 0x02, 0x08, 0x07, 0x12, 0x00] = .ok block := rfl
  have hopen : open? .sha256 "ledger" (some directory) = .ok ⟨"ledger", .ofBlocks .sha256 [block]⟩ :=
    open?_file .sha256 "ledger" (by decide) decodes
  have hsafe := ((overflow_iff .sha256).2 _ _).1 _ hopen
  have hstored : ⟨block, { number := 7 }, BlockHeader.hash .sha256 { number := 7 }, rfl⟩ ∈
      (BlockIndex.ofBlocks .sha256 [block]).blocks := List.mem_cons_self
  have hbelow : ¬ (BlockIndex.ofBlocks .sha256 [block]).HoldsLast := by
    rintro ⟨stored, hm, hnumber⟩
    rw [List.mem_singleton.1 hm] at hnumber
    exact absurd hnumber (by decide)
  obtain ⟨tip, htip, hheight⟩ := hsafe.height hbelow
  exact ⟨_, tip, hopen, htip, hheight _ hstored, fun h => hbelow ((hsafe.inspectBlock 7).1 h).2⟩

/-- A block of the last number: the query for the tip overflows, and so do the walks and the inspection. -/
theorem DirectoryLedger.overflow_last :
    let file : Bytes :=
      [0x0a, 0x0b, 0x08, 0xff, 0xff, 0xff, 0xff, 0xff, 0xff, 0xff, 0xff, 0xff, 0x01, 0x12, 0x00]
    ∃ ledger, open? .sha256 "ledger" (some [("b.block", .file file)]) = .ok ledger ∧
      ledger.index.tip = .error .overflow ∧ ledger.index.browse .unlimited = .error .overflow ∧
      ledger.index.browseByNumber .sha256 .unlimited = .error .overflow ∧
      (Inspect.inspectBlock .sha256 ledger.index 0xffffffffffffffff).result = .error .overflow := by
  intro file
  have decodes : Wire.Message.decode file =
      .ok (⟨some { number := 0xffffffffffffffff }, some ⟨[]⟩, none⟩ : Block) := rfl
  exact ⟨_, open?_file .sha256 "ledger" (by decide) decodes, rfl, rfl, rfl, rfl⟩

end ChannelLedger
