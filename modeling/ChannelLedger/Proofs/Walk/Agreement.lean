import ChannelLedger.Proofs.Walk.Chain

/-!
# Both walks end alike

A walk by hash is led by pointers and ends at an empty one; a walk by number is led by a counter and
ends at zero. Over an index that holds any part of a chain they nevertheless take the same steps: in
front of every block both look at the same pointer, the same number and the same count of visited
blocks, so the rule stops both or neither; then both find the block or both miss it; and the hash that
one followed is the one that the other computes, so the block's record, or its failure, is the same.

The walk by hash is given a number of steps. What bounds it is not the height, which gaps make larger
than the number of blocks, but the number of held blocks below the walk (`countBelow`): passing a block
leaves one less of them.

Main theorem `browse_alike_browseByNumber`; the induction is `Walk.runHash_alike`.
-/
namespace ChannelLedger

/-- Two walks over a chain, of which some blocks are held, end alike. -/
inductive EndAlike (suite : HashSuite) (chain held : List Block) :
    Except WalkFailure ChannelHistory → Except WalkFailure ChannelHistory → Prop
  | history (history : ChannelHistory) : EndAlike suite chain held (.ok history) (.ok history)
  | stopRule (cause : StopRuleFailure) :
    EndAlike suite chain held (.error (.stopRule cause)) (.error (.stopRule cause))
  | decode (number : UInt64) (cause : DecodeFailure) :
    EndAlike suite chain held (.error (.decode number cause)) (.error (.decode number cause))
  /-- The same block of the chain is missing; each walk names it as it asked for it. -/
  | missing (block : Block) (inChain : block ∈ chain) (notHeld : block ∉ held) :
    EndAlike suite chain held
      (.error (.fetch (.hash (block.hash suite))
        (.notFound ("block with hash " ++ Bytes.toHex (block.hash suite)))))
      (.error (.fetch (.number block.number) (.notFound ("block number " ++ toString block.number))))

variable {suite : HashSuite} {chain held : List Block}

theorem EndAlike.eq_ok {result : Except WalkFailure ChannelHistory} {history : ChannelHistory}
    (h : EndAlike suite chain held result (.ok history)) : result = .ok history := by
  cases h
  rfl

/-- **The lockstep.** With `below` blocks of the chain in front of it, the walk by hash ends, and it ends
like the walk by number. -/
theorem Walk.runHash_alike (h : HashChain suite chain)
    (free : suite.CollisionFree (Block.headers chain)) (sub : held ⊆ chain) (rule : StopRule)
    (below : Nat) (walk : Walk) (hw : walk.Before suite chain below) (steps : Nat)
    (hsteps : (BlockIndex.ofBlocks suite held).countBelow below < steps) :
    let ledger := (BlockIndex.ofBlocks suite held).answers.ledger Unit
    ∃ result, (walk.runHash ledger rule.plan steps ()).1 = some result ∧
      EndAlike suite chain held result (walk.runNumber suite ledger rule.plan below ()).1 := by
  intro ledger
  induction below generalizing walk steps with
  | zero =>
    obtain ⟨steps, rfl⟩ := Nat.exists_eq_add_one_of_ne_zero (n := steps) (by omega)
    have hover : walk.isOver rule = true := by simp [Walk.isOver, hw.pointer, linkBelow]
    rw [Walk.runHash_over rfl hover]
    exact ⟨_, rfl, .history _⟩
  | succ below ih =>
    obtain ⟨steps, rfl⟩ := Nat.exists_eq_add_one_of_ne_zero (n := steps) (by omega)
    cases hover : walk.isOver rule with
    | true =>
      rw [Walk.runHash_over rfl hover, Walk.runNumber_over rfl hover]
      exact ⟨_, rfl, .history _⟩
    | false =>
      obtain ⟨block, hb⟩ : ∃ block, chain[below]? = some block :=
        ⟨_, List.getElem?_eq_getElem hw.le⟩
      have hptr : walk.pointer = block.hash suite := hw.pointer.trans (linkBelow_succ hb)
      have hnum := (h.number_eq hb).2
      rcases h.answers free sub hb with ⟨hm, hnumber, hhash⟩ | ⟨hm, hnumber, hhash⟩
      · have hfetch : ledger.block (.hash walk.pointer) () = (.ok block, ()) := by
          rw [hptr]
          exact congrArg (·, ()) hhash
        rw [Walk.runHash_block rfl hover hfetch,
          Walk.runNumber_block rfl hover (congrArg (·, ()) hnumber)]
        cases hrec : BlockRecord.ofBlock block (block.hash suite) with
        | error cause =>
          rw [Walk.passHash_error (hptr ▸ hrec), Walk.passNumber_error hrec, hnum]
          exact ⟨_, rfl, .decode _ _⟩
        | ok record =>
          rw [Walk.passHash_ok (hptr ▸ hrec), Walk.passNumber_ok hrec, ← hnum]
          refine ih _ (h.before_pass hw hb _) steps ?_
          obtain ⟨stored, hmem, hn, -⟩ := BlockIndex.mem_of_block_number hnumber
          have := BlockIndex.countBelow_lt hmem (hn ▸ h.toNat_ofNat hw.le)
          omega
      · have hfetch : ledger.block (.hash walk.pointer) () = (.error (.notFound
            ("block with hash " ++ Bytes.toHex (block.hash suite))), ()) := by
          rw [hptr]
          exact congrArg (·, ()) hhash
        rw [Walk.runHash_error rfl hover hfetch,
          Walk.runNumber_error rfl hover (congrArg (·, ()) hnumber), hptr, ← hnum]
        exact ⟨_, rfl, .missing block (List.mem_of_getElem? hb) hm⟩

/-- **The two traversals agree** on every part of every chain, under every rule. -/
theorem BlockIndex.browse_alike_browseByNumber (suite : HashSuite) (chain held : List Block)
    (linked : HashChain suite chain) (free : suite.CollisionFree (Block.headers chain))
    (sub : held ⊆ chain) (below : ∀ block ∈ held, block.number < 0xffffffffffffffff)
    (rule : StopRule) :
    EndAlike suite chain held ((ofBlocks suite held).browse rule)
      ((ofBlocks suite held).browseByNumber suite rule) := by
  cases hv : rule.validate with
  | error cause =>
    rw [browse_invalid hv, browseByNumber_invalid hv]
    exact .stopRule cause
  | ok _ =>
    obtain ⟨tip, htip, hw, -⟩ := linked.start_before sub below
    rw [browse_valid hv htip, browseByNumber_valid hv htip]
    obtain ⟨result, hres, halike⟩ :=
      Walk.runHash_alike linked free sub rule _ _ hw _ (lt_steps rule (countBelow_le_size _ _))
    rw [hres]
    exact halike

/-- A chain of three blocks with a gap in the middle: both walks visit the tip and miss the block below it. -/
theorem BlockIndex.browse_alike_across_gap :
    let chain := Block.chainOf .verbatim [some ⟨[]⟩, some ⟨[[1], [2]]⟩, some ⟨[]⟩]
    HashChain .verbatim chain ∧ HashSuite.verbatim.CollisionFree (Block.headers chain) ∧
    [chain[2], chain[0]] ⊆ chain ∧
    (∀ block ∈ [chain[2], chain[0]], block.number < 0xffffffffffffffff) ∧
    (ofBlocks .verbatim [chain[2], chain[0]]).browseByNumber .verbatim (.number 0) =
      .error (.fetch (.number 1) (.notFound "block number 1")) ∧
    EndAlike .verbatim chain [chain[2], chain[0]]
      ((ofBlocks .verbatim [chain[2], chain[0]]).browse (.number 0))
      ((ofBlocks .verbatim [chain[2], chain[0]]).browseByNumber .verbatim (.number 0)) := by
  intro chain
  have linked : HashChain .verbatim chain := .chainOf _ _ (by decide)
  have free : HashSuite.verbatim.CollisionFree (Block.headers chain) := by decide
  have sub : [chain[2], chain[0]] ⊆ chain := by decide
  have below : ∀ block ∈ [chain[2], chain[0]], block.number < 0xffffffffffffffff := by decide
  exact ⟨linked, free, sub, below, by decide +kernel,
    browse_alike_browseByNumber .verbatim chain _ linked free sub below (.number 0)⟩

end ChannelLedger
