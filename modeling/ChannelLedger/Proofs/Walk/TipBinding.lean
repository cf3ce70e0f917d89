import ChannelLedger.Proofs.Block.HeaderHash
import ChannelLedger.Proofs.Walk.Chain

/-!
# The tip binds the history

Two ledgers that report one hash for the end of the channel show one history, as far as the headers
go. Nothing is asked of the blocks that were inserted into either: they may lack what lies between,
carry other bodies, or replace each other. All that is asked is that the suite tells apart the headers
that occur, and for that it need only tell apart their encodings
(`HashSuite.collisionFree_of_encodings`).

A walk by hash looks at the pointer, the expected number and the count of visited blocks, and takes all
three from headers it has passed. Two walks that agree in them (`Walk.Alike`) stop together, or come
each to a block of the hash they both point to; what an index finds under a hash has that hash, so both
blocks carry the same header and the walks agree again (`Walk.Alike.pass`).

Main theorem `browse_bound_by_tip`; the induction is `Walk.Alike.ends`.
-/
namespace ChannelLedger

/-- What an overview says of the header of its block: number, hash and previous hash. -/
def BlockOverview.links (overview : BlockOverview) : UInt64 × String × String :=
  (overview.number, overview.blockHash, overview.previousHash)

/-- A record shows the header of its block, and the hash that it was found under. -/
theorem BlockRecord.links_of_ofBlock {block : Block} {header : BlockHeader} {hash : Bytes}
    {record : BlockRecord} (hh : block.header = some header) (h : ofBlock block hash = .ok record) :
    record.overview.links = (header.number, Bytes.toHex hash, Bytes.toHex header.previousHash) := by
  obtain ⟨found, hfound, hoverview⟩ := overview_of_ofBlock h
  obtain rfl : found = header := by simpa [hh] using hfound.symm
  rw [hoverview]
  rfl

/-! ## Histories that show the same headers -/

/-- Two histories show the same headers at the same places. -/
structure ChannelHistory.Alike (history history' : ChannelHistory) : Prop where
  height : history.height = history'.height
  blocks : history.blocks.map (·.overview.links) = history'.blocks.map (·.overview.links)
  overviews : history.overviews.map (·.links) = history'.overviews.map (·.links)

theorem ChannelHistory.Alike.push {history history' : ChannelHistory} (h : history.Alike history')
    {record record' : BlockRecord} (hr : record.overview.links = record'.overview.links) :
    (history.push record).Alike (history'.push record') where
  height := h.height
  blocks := by simp [ChannelHistory.push, h.blocks, hr]
  overviews := by simp [ChannelHistory.push, h.overviews, hr]

/-! ## Walks in lockstep -/

namespace Walk

/-- Two walks that have seen the same headers and go on with the same link. -/
structure Alike (walk walk' : Walk) : Prop where
  history : walk.history.Alike walk'.history
  pointer : walk.pointer = walk'.pointer
  expected : walk.expected = walk'.expected

namespace Alike

variable {walk walk' : Walk}

theorem visited (h : walk.Alike walk') : walk.visited = walk'.visited := by
  simpa [Walk.visited] using congrArg List.length h.history.blocks

/-- A rule stops both walks or neither. -/
theorem isOver (h : walk.Alike walk') (rule : StopRule) : walk.isOver rule = walk'.isOver rule := by
  simp only [Walk.isOver, h.visited, h.pointer, h.expected]

/-- Two walks that pass blocks of one header stay alike. -/
theorem pass (h : walk.Alike walk') {block block' : Block} {header : BlockHeader}
    (hh : block.header = some header) (hh' : block'.header = some header) {next next' : Walk}
    (hn : walk.passHash block = .ok next) (hn' : walk'.passHash block' = .ok next') :
    next.Alike next' := by
  cases hr : BlockRecord.ofBlock block walk.pointer with
  | error cause => simp [passHash_error hr] at hn
  | ok record =>
    cases hr' : BlockRecord.ofBlock block' walk'.pointer with
    | error cause => simp [passHash_error hr'] at hn'
    | ok record' =>
      rw [passHash_ok hr, Except.ok.injEq] at hn
      rw [passHash_ok hr', Except.ok.injEq] at hn'
      subst hn hn'
      have hlinks : record.overview.links = record'.overview.links := by
        rw [BlockRecord.links_of_ofBlock hh hr, BlockRecord.links_of_ofBlock hh' hr', h.pointer]
      exact {
        history := h.history.push hlinks
        pointer := by simp [Block.link, hh, hh']
        expected := by rw [Block.number_of_header hh, Block.number_of_header hh'] }

end Alike

end Walk

/-! ## Two indexes -/

section
variable {suite : HashSuite} {blocks blocks' : List Block} {index index' : BlockIndex}

/-- A header of the one ledger and a header of the other are equal if their hashes are. -/
theorem HashSuite.CollisionFree.across (free : suite.CollisionFree (Block.headers (blocks ++ blocks')))
    {header header' : BlockHeader} (hm : header ∈ Block.headers blocks)
    (hm' : header' ∈ Block.headers blocks') (h : header.hash suite = header'.hash suite) :
    header = header' := by
  rw [Block.headers, List.filterMap_append] at free
  exact free _ (List.mem_append_left _ hm) _ (List.mem_append_right _ hm') h

/-- Without collisions, two indexes find blocks of one header under one hash. -/
theorem BlockIndex.Reflects.same_header (h : Reflects suite blocks index)
    (h' : Reflects suite blocks' index')
    (free : suite.CollisionFree (Block.headers (blocks ++ blocks'))) {hash : Bytes}
    {block block' : Block} (hb : index.block (.hash hash) = .ok block)
    (hb' : index'.block (.hash hash) = .ok block') :
    ∃ header, block.header = some header ∧ block'.header = some header := by
  obtain ⟨header, hh, hhash, hnumber⟩ := h.block_hash_sound hb
  obtain ⟨header', hh', hhash', hnumber'⟩ := h'.block_hash_sound hb'
  obtain rfl := free.across (h.header_mem hnumber hh) (h'.header_mem hnumber' hh')
    (hhash.trans hhash'.symm)
  exact ⟨header, hh, hh'⟩

end

/-- A walk by hash over an index ends with a history: the steps it takes, and no failure among them. -/
inductive Walk.Ends (index : BlockIndex) (rule : StopRule) (history : ChannelHistory) : Walk → Prop
  | stop {walk : Walk} (isOver : walk.isOver rule = true) (eq : walk.history = history) :
    Ends index rule history walk
  | pass {walk next : Walk} {block : Block} (goesOn : walk.isOver rule = false)
      (found : index.block (.hash walk.pointer) = .ok block) (passed : walk.passHash block = .ok next)
      (rest : Ends index rule history next) : Ends index rule history walk

theorem Walk.ends_of_runHash {index : BlockIndex} {rule : StopRule} {history : ChannelHistory}
    {steps : Nat} {walk : Walk}
    (h : (walk.runHash (index.answers.ledger Unit) rule.plan steps ()).1 = some (.ok history)) :
    walk.Ends index rule history := by
  induction steps generalizing walk with
  | zero => simp [Walk.runHash] at h
  | succ steps ih =>
    cases hover : walk.isOver rule with
    | true =>
      rw [Walk.runHash_over rfl hover] at h
      exact .stop hover (by simpa using h)
    | false =>
      cases hb : index.block (.hash walk.pointer) with
      | error cause =>
        rw [Walk.runHash_error rfl hover (congrArg (·, ()) hb)] at h
        simp at h
      | ok block =>
        rw [Walk.runHash_block rfl hover (congrArg (·, ()) hb)] at h
        cases hpass : walk.passHash block with
        | error failure => simp [hpass] at h
        | ok next =>
          rw [hpass] at h
          exact .pass hover hb hpass (ih h)

section
variable {suite : HashSuite} {blocks blocks' : List Block} {index index' : BlockIndex}

/-- **The lockstep.** Over two indexes whose headers do not collide, walks that are alike end alike. -/
theorem Walk.Alike.ends (hi : index.Reflects suite blocks) (hi' : index'.Reflects suite blocks')
    (free : suite.CollisionFree (Block.headers (blocks ++ blocks'))) {rule : StopRule}
    {walk walk' : Walk} (h : walk.Alike walk') {history history' : ChannelHistory}
    (he : walk.Ends index rule history) (he' : walk'.Ends index' rule history') :
    history.Alike history' := by
  -- the steps of the first walk; what they looked at forces the second one to take the same
  induction he generalizing walk' with
  | stop hover heq =>
    cases he' with
    | stop hover' heq' => exact heq ▸ heq' ▸ h.history
    | pass hover' => simp [← h.isOver, hover] at hover'
  | pass hover hb hn rest ih =>
    cases he' with
    | stop hover' heq' => simp [← h.isOver, hover] at hover'
    | pass hover' hb' hn' rest' =>
      obtain ⟨header, hh, hh'⟩ := hi.same_header hi' free (h.pointer ▸ hb) hb'
      exact ih (h.pass hh hh' hn hn') rest'

end

namespace BlockIndex

/-- Browsing an index by hash succeeds with a history, given steps enough. -/
def Browses (index : BlockIndex) (rule : StopRule) (history : ChannelHistory) : Prop :=
  ∃ steps, ((index.answers.ledger Unit).browse rule.plan steps ()).1 = some (.ok history)

/-- The number of steps that `browse` counts out is one of them. -/
theorem browses_of_browse {index : BlockIndex} {rule : StopRule} {history : ChannelHistory}
    (h : index.browse rule = .ok history) : index.Browses rule history := by
  refine ⟨rule.steps index.size, ?_⟩
  unfold browse at h
  cases hr : ((index.answers.ledger Unit).browse rule.plan (rule.steps index.size) ()).1 with
  | none => simp [hr] at h
  | some result => simpa [hr] using h

/-- Who browses starts at the tip. -/
theorem Browses.ends {index : BlockIndex} {rule : StopRule} {history : ChannelHistory}
    (h : index.Browses rule history) {tip : ChainTip} (ht : index.tip = .ok tip) :
    (Walk.start tip).Ends index rule history := by
  obtain ⟨steps, h⟩ := h
  have hrun : ((Walk.start tip).runHash (index.answers.ledger Unit) rule.plan steps ()).1 =
      some (.ok history) := by
    cases hv : rule.validate with
    | error cause => simp [Ledger.browse, Ledger.startWalk, hv] at h
    | ok _ => simpa [Ledger.browse, Ledger.startWalk, Answers.ledger, answers, hv, ht] using h
  exact Walk.ends_of_runHash hrun

variable {suite : HashSuite} {blocks blocks' : List Block} {index index' : BlockIndex}

/-- A tip with a hash is that of one of the inserted headers, whose number is one below the height. -/
theorem Reflects.header_of_tip (h : Reflects suite blocks index) {tip : ChainTip}
    (ht : index.tip = .ok tip) (hne : tip.currentHash ≠ []) :
    ∃ header ∈ Block.headers blocks,
      tip = ⟨header.number + 1, header.hash suite, header.previousHash⟩ := by
  rcases h.tip_cases with ⟨-, htip⟩ | ⟨last, hm, -, htip⟩
  · rw [htip, Except.ok.injEq] at ht
    exact absurd (ht ▸ rfl) hne
  · refine ⟨last.header, h.mem_headers (h.find?_of_mem hm), ?_⟩
    rw [htip] at ht
    split at ht
    · cases ht
    · exact (Except.ok.inj ht).symm

/-- Without collisions, tips of one hash are the same tip. -/
theorem Reflects.tip_eq_of_hash (h : Reflects suite blocks index)
    (h' : Reflects suite blocks' index')
    (free : suite.CollisionFree (Block.headers (blocks ++ blocks'))) {tip tip' : ChainTip}
    (ht : index.tip = .ok tip) (ht' : index'.tip = .ok tip')
    (same : tip.currentHash = tip'.currentHash) (hne : tip.currentHash ≠ []) : tip = tip' := by
  obtain ⟨header, hm, rfl⟩ := h.header_of_tip ht hne
  obtain ⟨header', hm', rfl⟩ := h'.header_of_tip ht' (same ▸ hne)
  obtain rfl := free.across hm hm' same
  rfl

/-- **The hash of the tip binds the history**: what two ledgers that report it can show, under any one
rule, has the same height and the same headers. -/
theorem browse_bound_by_tip (suite : HashSuite) (blocks blocks' : List Block)
    (free : suite.CollisionFree (Block.headers (blocks ++ blocks'))) {tip tip' : ChainTip}
    (reports : (ofBlocks suite blocks).tip = .ok tip)
    (reports' : (ofBlocks suite blocks').tip = .ok tip')
    (same : tip.currentHash = tip'.currentHash) (nonempty : tip.currentHash ≠ [])
    (rule : StopRule) {history history' : ChannelHistory}
    (browses : (ofBlocks suite blocks).Browses rule history)
    (browses' : (ofBlocks suite blocks').Browses rule history') :
    history.Alike history' := by
  have hi := reflects_ofBlocks suite blocks
  have hi' := reflects_ofBlocks suite blocks'
  obtain rfl := hi.tip_eq_of_hash hi' free reports reports' same nonempty
  have start : (Walk.start tip).Alike (Walk.start tip) := ⟨⟨rfl, rfl, rfl⟩, rfl, rfl⟩
  exact start.ends hi hi' free (browses.ends reports) (browses'.ends reports')

/-- A chain of three blocks, and a ledger with other metadata that has another block in place of the
first one: down to number 0 they show the same two blocks. -/
theorem browse_bound_by_tip_tampered :
    let chain := Block.chainOf .verbatim [some ⟨[]⟩, some ⟨[]⟩, some ⟨[]⟩]
    let tampered := [⟨some ⟨0, [], [7]⟩, none, none⟩, { chain[2] with metadata := some ⟨[[1]]⟩ },
      { chain[1] with metadata := some ⟨[[2], [3]]⟩ }]
    ∃ history history', (ofBlocks .verbatim chain).browse (.number 0) = .ok history ∧
      (ofBlocks .verbatim tampered).browse (.number 0) = .ok history' ∧
      history.blocks.length = 2 ∧ history.Alike history' := by
  intro chain tampered
  have free : HashSuite.verbatim.CollisionFree (Block.headers (chain ++ tampered)) :=
    HashSuite.collisionFree_of_encodings (by decide) fun _ _ _ _ h => (List.cons.inj h).2
  obtain ⟨history, hb, hlen⟩ := Outcome.map_eq_ok.1
    (show ((ofBlocks .verbatim chain).browse (.number 0)).map (·.blocks.length) = .ok 2 by decide)
  obtain ⟨history', hb', -⟩ := Outcome.map_eq_ok.1
    (show ((ofBlocks .verbatim tampered).browse (.number 0)).map (·.blocks.length) = .ok 2 by decide)
  let tip : ChainTip := ⟨3, chain[2].hash .verbatim, chain[1].hash .verbatim⟩
  have reports : (ofBlocks .verbatim chain).tip = .ok tip := by decide
  have reports' : (ofBlocks .verbatim tampered).tip = .ok tip := by decide
  exact ⟨history, history', hb, hb', hlen, browse_bound_by_tip .verbatim chain tampered free reports
    reports' rfl (by decide) (.number 0) (browses_of_browse hb) (browses_of_browse hb')⟩

end BlockIndex

end ChannelLedger
