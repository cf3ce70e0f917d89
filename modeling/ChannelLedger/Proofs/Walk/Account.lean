import ChannelLedger.Proofs.Bytes.Hex
import ChannelLedger.Proofs.Walk.Course

/-!
# What a history accounts for

A ledger may answer anything, and something else on every call. What a walk makes of the answers is
nevertheless exact: a history accounts for every block that was fetched (`ChannelHistory.Accounts`), and
one that came from a walk by hash is linked from the reported tip on (`ChannelHistory.Linked`). A fetch
that brings no block, or one that does not decode, leaves no history at all.

All of it is read off the course of the walk: the history is that of the fetched blocks
(`Walk.Course.history_eq`), and in front of each of them stood a walk whose rule did not hold
(`Walk.Course.visit`).

Main theorem `Ledger.browse_accounts`.
-/
namespace ChannelLedger

/-- A history accounts for what was fetched. -/
structure ChannelHistory.Accounts (suite : HashSuite) (rule : StopRule) (tip : ChainTip)
    (fetches : List Fetch) (history : ChannelHistory) : Prop where
  /-- The height is the reported one. -/
  height : history.height = tip.height
  /-- Every fetch brought a block that decodes, and these are the blocks, in the order of the fetches. -/
  blocks : fetches.map (·.record? suite) = history.blocks.map some
  fetched : history.blocks.length = fetches.length
  /-- A limit is kept. -/
  limit : ∀ limit, rule = .blockCount limit → 0 < limit → history.blocks.length ≤ limit.toNat
  overviews : history.overviews = history.blocks.map (·.overview)
  transactions : history.transactions = history.blocks.flatMap (·.transactions)
  total : history.transactionTotal = history.transactions.length
  counts : history.transactionTotal = (history.blocks.map (·.overview.transactionCount)).sum

/-- A history leads from the tip back, each block to the next one, and not as far as a target hash. -/
structure ChannelHistory.Linked (rule : StopRule) (tip : ChainTip) (history : ChannelHistory) :
    Prop where
  first : ∀ record, history.blocks[0]? = some record →
    record.overview.blockHash = Bytes.toHex tip.currentHash
  next : ∀ (i : Nat) (record next : BlockRecord), history.blocks[i]? = some record →
    history.blocks[i + 1]? = some next → next.overview.blockHash = record.overview.previousHash
  excludes : ∀ target, rule = .hash target → ∀ record ∈ history.blocks,
    record.overview.blockHash ≠ Bytes.toHex target

/-! ## From the course -/

/-- A record counts its transactions. -/
theorem Fetch.transactionCount_of_record? {suite : HashSuite} {fetch : Fetch} {record : BlockRecord}
    (h : fetch.record? suite = some record) :
    record.overview.transactionCount = record.transactions.length := by
  unfold record? at h
  cases ha : fetch.answer with
  | error cause => simp [ha] at h
  | ok block =>
    cases hr : BlockRecord.ofBlock block (fetch.ref.name suite block) with
    | error cause => simp [ha, hr, Except.toOption] at h
    | ok found =>
      obtain rfl : found = record := by simpa [ha, hr, Except.toOption] using h
      obtain ⟨header, -, hoverview⟩ := BlockRecord.overview_of_ofBlock hr
      rw [hoverview]

namespace Walk.Course

variable {σ : Type} {ledger : Ledger σ} {suite : HashSuite} {way : Way} {rule : StopRule}
  {fetches : List Fetch} {tip : ChainTip} {history : ChannelHistory}

/-- A limit is not exceeded, since the rule does not hold in front of any block. -/
theorem length_le (h : (start tip).Course ledger suite way rule fetches (some (.ok history)))
    {limit : UInt64} (hrule : rule = .blockCount limit) (positive : 0 < limit) :
    history.blocks.length ≤ limit.toNat := by
  refine Nat.le_of_not_lt fun hlt => ?_
  obtain ⟨before, -, hblocks, goesOn, -⟩ :=
    h.visit (stands_start way tip) (List.getElem?_eq_getElem hlt) (Nat.zero_le _)
  have hvisited : before.visited = limit.toNat := by
    rw [visited, hblocks, List.length_take, Nat.min_eq_left (Nat.le_of_lt hlt)]
  have hholds := (Way.of_isOver goesOn).1
  simp [StopRule.holds, hrule, positive, hvisited] at hholds

/-- What a walk ends with accounts for what it fetched. -/
theorem accounts (h : (start tip).Course ledger suite way rule fetches (some (.ok history))) :
    history.Accounts suite rule tip fetches := by
  obtain ⟨records, hfetches, rfl⟩ := h.history_eq (stands_start way tip)
  have hcounts : ∀ record ∈ records, record.overview.transactionCount = record.transactions.length := by
    intro record hm
    obtain ⟨fetch, -, hf⟩ := List.mem_map.1 (hfetches ▸ List.mem_map_of_mem hm)
    exact Fetch.transactionCount_of_record? hf
  have hlength := congrArg List.length hfetches
  rw [List.length_map, List.length_map] at hlength
  exact {
    height := rfl
    blocks := hfetches
    fetched := hlength.symm
    limit := fun limit => h.length_le
    overviews := rfl
    transactions := rfl
    total := by
      simp only [ChannelHistory.of, start, List.nil_append, List.length_flatMap]
      exact congrArg List.sum (List.map_congr_left hcounts)
    counts := rfl }

/-- By hash, a block is shown under the link that leads to it, and that link is no target. -/
theorem blockHash_eq (h : (start tip).Course ledger suite .byHash rule fetches (some (.ok history)))
    {i : Nat} {record : BlockRecord} (hi : history.blocks[i]? = some record) :
    record.overview.blockHash = tip.linkBehind (history.blocks.take i) ∧
      ∀ target, rule = .hash target → record.overview.blockHash ≠ Bytes.toHex target := by
  obtain ⟨before, hbefore, hblocks, goesOn, block, -, decodes⟩ :=
    h.visit (stands_start _ tip) hi (Nat.zero_le i)
  obtain ⟨header, -, hoverview⟩ := BlockRecord.overview_of_ofBlock decodes
  have hhash : record.overview.blockHash = Bytes.toHex before.pointer := by
    rw [hoverview]
    rfl
  refine ⟨by rw [hhash, hbefore.pointer, hblocks], fun target hrule heq => ?_⟩
  have hholds := (Way.of_isOver goesOn).1
  rw [hhash] at heq
  simp [StopRule.holds, hrule, Bytes.toHex_inj heq] at hholds

/-- By hash, a history is linked. -/
theorem linked (h : (start tip).Course ledger suite .byHash rule fetches (some (.ok history))) :
    history.Linked rule tip where
  first record hi := (h.blockHash_eq hi).1
  next i record next hi hn := by
    rw [(h.blockHash_eq hn).1, ChainTip.linkBehind, List.getLast?_take]
    simp [hi]
  excludes target hrule record hm := by
    obtain ⟨i, hi⟩ := List.mem_iff_getElem?.1 hm
    exact (h.blockHash_eq hi).2 target hrule

end Walk.Course

namespace Ledger.Course

variable {σ : Type} {ledger : Ledger σ} {suite : HashSuite} {way : Way} {rule : StopRule} {state : σ}
  {fetches : List Fetch} {result : Option (Except WalkFailure ChannelHistory)}

/-- There is a history only where the ledger reported a tip. -/
theorem begun_of_ok {history : ChannelHistory}
    (h : ledger.Course suite way rule state fetches (some (.ok history))) :
    ∃ tip, (ledger.tip state).1 = .ok tip ∧
      (Walk.start tip).Course ledger suite way rule fetches (some (.ok history)) := by
  cases h with
  | begun reported course => exact ⟨_, reported, course⟩

theorem ref_ne (h : ledger.Course suite way rule state fetches result) :
    ∀ fetch ∈ fetches, fetch.ref ≠ .hash [] := by
  cases h with
  | refused => exact fun _ hm => absurd hm List.not_mem_nil
  | begun _ course => exact course.ref_ne

theorem failure_of_fetch (h : ledger.Course suite way rule state fetches result) {fetch : Fetch}
    (hm : fetch ∈ fetches) (hf : fetch.record? suite = none) :
    ∃ failure, result = some (.error failure) := by
  cases h with
  | refused => cases hm
  | begun _ course => exact course.failure_of_fetch hm hf

end Ledger.Course

/-- **What a walk guarantees over any ledger.** A ledger that keeps its answers is walked like the ledger
itself, and what it kept shows: a history that a walk ends with accounts for all that was fetched, and is
linked if the walk went by hash; no block is asked for with the empty hash; and where a fetch brings no
block, or one that does not decode, the walk ends in a failure. -/
theorem Ledger.browse_accounts {σ : Type} (ledger : Ledger σ) (suite : HashSuite) (plan : WalkPlan σ)
    (state : σ) :
    (∀ steps,
      let run := ledger.recording.browse plan.recording steps (state, [])
      (run.1, run.2.1) = ledger.browse plan steps state ∧
      (∀ history, run.1 = some (.ok history) → ∃ tip, (ledger.tip state).1 = .ok tip ∧
        history.Accounts suite plan.rule tip run.2.2 ∧ history.Linked plan.rule tip) ∧
      (∀ fetch ∈ run.2.2, fetch.ref ≠ .hash []) ∧
      ∀ fetch ∈ run.2.2, fetch.record? suite = none → ∃ failure, run.1 = some (.error failure)) ∧
    let run := ledger.recording.browseByNumber suite plan.recording (state, [])
    (run.1, run.2.1) = ledger.browseByNumber suite plan state ∧
    (∀ history, run.1 = .ok history → ∃ tip, (ledger.tip state).1 = .ok tip ∧
      history.Accounts suite plan.rule tip run.2.2) ∧
    ∀ fetch ∈ run.2.2, fetch.record? suite = none → ∃ failure, run.1 = .error failure := by
  refine ⟨fun steps => ?_, ?_⟩
  · obtain ⟨fetches, hrun, hcourse⟩ := ledger.browse_course suite plan steps state
    simp only [hrun]
    refine ⟨trivial, fun history hok => ?_, hcourse.ref_ne, fun _ => hcourse.failure_of_fetch⟩
    obtain ⟨tip, htip, h⟩ := (hok ▸ hcourse).begun_of_ok
    exact ⟨tip, htip, h.accounts, h.linked⟩
  · obtain ⟨fetches, hrun, hcourse⟩ := ledger.browseByNumber_course suite plan state
    simp only [hrun]
    refine ⟨trivial, fun history hok => ?_, fun fetch hm hf => ?_⟩
    · obtain ⟨tip, htip, h⟩ := (hok ▸ hcourse).begun_of_ok
      exact ⟨tip, htip, h.accounts⟩
    · obtain ⟨failure, hfails⟩ := hcourse.failure_of_fetch hm hf
      exact ⟨failure, Option.some.inj hfails⟩

/-- A ledger that has three blocks left and gives the next of them, whatever is asked for. -/
theorem Ledger.browse_accounts_countdown :
    let ledger : Ledger Nat := {
      tip := fun left => (.ok ⟨9, [1], []⟩, left)
      block := fun _ left => (.ok ⟨some ⟨UInt64.ofNat left, if left = 0 then [] else [1], []⟩,
        some ⟨[]⟩, none⟩, left - 1) }
    let run := ledger.recording.browse (WalkPlan.recording ⟨.blockCount 5, fun _ => false⟩) 9 (2, [])
    ∃ history, run.1 = some (.ok history) ∧ history.blocks.map (·.overview.number) = [2, 1, 0] ∧
      history.Accounts .verbatim (.blockCount 5) ⟨9, [1], []⟩ run.2.2 ∧
      history.Linked (.blockCount 5) ⟨9, [1], []⟩ := by
  intro ledger run
  obtain ⟨history, hrun, hnumbers⟩ : ∃ history, run.1 = some (.ok history) ∧
      history.blocks.map (·.overview.number) = [2, 1, 0] := ⟨_, rfl, by decide⟩
  obtain ⟨-, hhistory, -⟩ :=
    (ledger.browse_accounts .verbatim ⟨.blockCount 5, fun _ => false⟩ 2).1 9
  obtain ⟨tip, htip, haccounts, hlinked⟩ := hhistory history hrun
  obtain rfl : ⟨9, [1], []⟩ = tip := Except.ok.inj htip
  exact ⟨history, hrun, hnumbers, haccounts, hlinked⟩

end ChannelLedger
