import ChannelLedger.Proofs.Walk.Agreement

/-!
# What a walk over a whole chain visits

If an index holds a whole chain and every block decodes, a walk visits the blocks from the newest down
to the one that the rule names, and nothing else. Where that is depends on the rule and the chain alone
(`StopRule.lowest`): a count leaves out all but the newest blocks, a number or a hash leaves out the
block that has it and everything below, and a number or a hash that no block has leaves out nothing.

The two facts behind it: a rule holds exactly where the walk comes to that place
(`Walk.isOver_iff`), and what the walk has visited there are the blocks above it
(`Walk.runNumber_chain`). Main theorem `browse_chain`.
-/
namespace ChannelLedger

/-- How many blocks at the bottom of a chain a walk leaves out. -/
def StopRule.lowest (suite : HashSuite) (chain : List Block) : StopRule → Nat
  | .blockCount limit => if limit = 0 then 0 else chain.length - limit.toNat
  | .number target => if target.toNat < chain.length then target.toNat + 1 else 0
  | .hash target =>
    match chain.findIdx? (·.hash suite = target) with
    | some i => i + 1
    | none => 0

variable {suite : HashSuite} {chain : List Block}

theorem StopRule.lowest_le (rule : StopRule) : rule.lowest suite chain ≤ chain.length := by
  cases rule with
  | blockCount limit => simp only [lowest]; split <;> omega
  | number target => simp only [lowest]; split <;> omega
  | hash target =>
    simp only [lowest]
    split
    · rename_i i hi
      have := (List.findIdx?_eq_some_iff_getElem.1 hi).1
      omega
    · omega

namespace HashChain

/-- Without collisions, the blocks of a chain have different hashes. -/
theorem hash_inj (h : HashChain suite chain) (free : suite.CollisionFree (Block.headers chain))
    {i j : Nat} {a b : Block} (ha : chain[i]? = some a) (hb : chain[j]? = some b)
    (hab : a.hash suite = b.hash suite) : i = j := by
  obtain ⟨x, hx, hi⟩ := h.numbered i a ha
  obtain ⟨y, hy, hj⟩ := h.numbered j b hb
  rw [Block.hash_of_header hx, Block.hash_of_header hy] at hab
  have hxm : x ∈ Block.headers chain := List.mem_filterMap.2 ⟨a, List.mem_of_getElem? ha, hx⟩
  have hym : y ∈ Block.headers chain := List.mem_filterMap.2 ⟨b, List.mem_of_getElem? hb, hy⟩
  rw [← hi, ← hj, free x hxm y hym hab]

/-- A hash is searched for exactly where its block is. -/
theorem findIdx?_hash (h : HashChain suite chain) (free : suite.CollisionFree (Block.headers chain))
    {i : Nat} {block : Block} (hb : chain[i]? = some block) (target : Bytes) :
    chain.findIdx? (·.hash suite = target) = some i ↔ block.hash suite = target := by
  obtain ⟨hi, rfl⟩ := List.getElem?_eq_some_iff.1 hb
  rw [List.findIdx?_eq_some_iff_getElem]
  constructor
  · rintro ⟨_, hp, _⟩
    simpa using hp
  · intro ht
    refine ⟨hi, by simpa using ht, fun j hj hp => ?_⟩
    have hlt := Nat.lt_trans hj hi
    have := h.hash_inj free (List.getElem?_eq_getElem hlt) hb (by simpa [ht] using hp)
    omega

end HashChain

/-- **A rule holds where the walk comes to its place**, and nowhere above it. -/
theorem Walk.isOver_iff (h : HashChain suite chain) (free : suite.CollisionFree (Block.headers chain))
    (nonempty : ∀ bytes, suite.hash bytes ≠ []) {rule : StopRule} {walk : Walk} {below : Nat}
    (hw : walk.Before suite chain (below + 1)) (hv : walk.visited = chain.length - (below + 1))
    (hl : rule.lowest suite chain ≤ below + 1) :
    walk.isOver rule = true ↔ rule.lowest suite chain = below + 1 := by
  obtain ⟨block, hb⟩ : ∃ block, chain[below]? = some block := ⟨_, List.getElem?_eq_getElem hw.le⟩
  obtain ⟨header, hh, -⟩ := h.numbered below block hb
  have hptr : walk.pointer = block.hash suite := hw.pointer.trans (linkBelow_succ hb)
  have hne : walk.pointer.isEmpty = false := by
    rw [hptr, Block.hash_of_header hh, List.isEmpty_eq_false_iff]
    exact nonempty header.der
  have hle := hw.le
  have hexp : walk.expected = some (UInt64.ofNat below) := by
    rw [hw.expected, previousNumber_succ hw.fits]
  simp only [Walk.isOver, hne, Bool.or_false]
  cases rule with
  | blockCount limit =>
    have hpos : (0 : UInt64) < limit ↔ limit.toNat ≠ 0 := by
      rw [UInt64.lt_iff_toNat_lt]
      simp only [UInt64.toNat_zero]
      omega
    have hzero : limit = 0 ↔ limit.toNat = 0 := by rw [← UInt64.toNat_inj]; rfl
    simp only [StopRule.holds, StopRule.lowest, decide_eq_true_eq, hpos, hzero, hv] at hl ⊢
    split at hl <;> simp only [*, ↓reduceIte] <;> omega
  | number target =>
    have heq : UInt64.ofNat below = target ↔ target.toNat = below := by
      rw [← UInt64.toNat_inj, h.toNat_ofNat hw.le]
      exact eq_comm
    simp only [StopRule.holds, StopRule.lowest, hexp, Option.some.injEq, decide_eq_true_eq, heq] at hl ⊢
    split at hl <;> simp only [*, ↓reduceIte] <;> omega
  | hash target =>
    simp only [StopRule.holds, StopRule.lowest, hptr, decide_eq_true_eq] at hl ⊢
    rw [← h.findIdx?_hash free hb]
    split
    · rename_i i hi
      simp [hi]
    · rename_i hnone
      simp [hnone]

/-- **What a walk by number visits.** With the blocks from `below` on visited, the walk ends, and it has
then visited the blocks from the lowest one on. -/
theorem Walk.runNumber_chain (h : HashChain suite chain)
    (free : suite.CollisionFree (Block.headers chain)) (nonempty : ∀ bytes, suite.hash bytes ≠ [])
    {held : List Block} (sub : held ⊆ chain) (all : chain ⊆ held)
    (decodes : ∀ block ∈ chain, ∃ record, BlockRecord.ofBlock block (block.hash suite) = .ok record)
    (rule : StopRule) (height : UInt64) (below : Nat) (walk : Walk) (records : List BlockRecord)
    (hw : walk.Before suite chain below) (hl : rule.lowest suite chain ≤ below)
    (hhist : walk.history = .of height records)
    (hrec : (chain.drop below).reverse.map (fun block => BlockRecord.ofBlock block (block.hash suite)) =
      records.map .ok) :
    let ledger := (BlockIndex.ofBlocks suite held).answers.ledger Unit
    ∃ records : List BlockRecord,
      (walk.runNumber suite ledger rule.plan below ()).1 = .ok (.of height records) ∧
      (chain.drop (rule.lowest suite chain)).reverse.map
        (fun block => BlockRecord.ofBlock block (block.hash suite)) = records.map .ok := by
  intro ledger
  induction below generalizing walk records with
  | zero =>
    rw [Nat.le_zero.1 hl]
    exact ⟨records, congrArg _ hhist, hrec⟩
  | succ below ih =>
    have hv : walk.visited = chain.length - (below + 1) := by
      have := congrArg List.length hrec
      simpa [Walk.visited, hhist, ChannelHistory.of] using this.symm
    have hiff := Walk.isOver_iff h free nonempty hw hv hl
    cases hover : walk.isOver rule with
    | true =>
      rw [Walk.runNumber_over rfl hover, hhist, hiff.1 hover]
      exact ⟨records, rfl, hrec⟩
    | false =>
      have hlow : rule.lowest suite chain ≠ below + 1 := fun heq => by simp [hiff.2 heq] at hover
      obtain ⟨block, hb⟩ : ∃ block, chain[below]? = some block := ⟨_, List.getElem?_eq_getElem hw.le⟩
      have hmem := List.mem_of_getElem? hb
      obtain ⟨record, hr⟩ := decodes block hmem
      rcases h.answers free sub hb with ⟨-, hnumber, -⟩ | ⟨hm, -⟩
      · rw [Walk.runNumber_block rfl hover (congrArg (·, ()) hnumber), Walk.passNumber_ok hr,
          ← (h.number_eq hb).2]
        refine ih _ (records ++ [record]) (h.before_pass hw hb _) (by omega) ?_ ?_
        · rw [hhist, ChannelHistory.push_of]
        · have hdrop : chain.drop below = block :: chain.drop (below + 1) := by
            obtain ⟨hlt, rfl⟩ := List.getElem?_eq_some_iff.1 hb
            exact List.drop_eq_getElem_cons hlt
          rw [hdrop, List.reverse_cons, List.map_append, hrec, List.map_append]
          simp [hr]
      · exact absurd (all hmem) hm

/-- **A walk in closed form.** Over any index of a chain whose blocks all decode, in whatever order they
were inserted, a walk visits the blocks from the newest down to the lowest one of its rule. -/
theorem BlockIndex.browse_chain (suite : HashSuite) (chain inserted : List Block)
    (nonempty : ∀ bytes, suite.hash bytes ≠ []) (linked : HashChain suite chain)
    (free : suite.CollisionFree (Block.headers chain)) (short : chain.length < 2 ^ 64)
    (decodes : ∀ block ∈ chain, ∃ record, BlockRecord.ofBlock block (block.hash suite) = .ok record)
    (order : inserted.Perm chain) (rule : StopRule) (valid : rule.validate = .ok ()) :
    ∃ records : List BlockRecord,
      (ofBlocks suite inserted).browse rule = .ok (.of (UInt64.ofNat chain.length) records) ∧
      (chain.drop (rule.lowest suite chain)).reverse.map
        (fun block => BlockRecord.ofBlock block (block.hash suite)) = records.map .ok := by
  have sub : inserted ⊆ chain := order.subset
  have all : chain ⊆ inserted := order.symm.subset
  have hnum : ∀ block ∈ chain, block.number.toNat < chain.length := fun block hm =>
    (List.getElem?_eq_some_iff.1 (linked.getElem?_number hm)).1
  have below : ∀ block ∈ inserted, block.number < 0xffffffffffffffff := by
    intro block hm
    have := hnum block (sub hm)
    rw [UInt64.lt_iff_toNat_lt]
    simp
    omega
  obtain ⟨tip, htip, hw, hall⟩ := linked.start_before sub below
  have hheight : tip.height.toNat = chain.length := by
    have hle := hw.le
    cases hlen : chain.length with
    | zero => omega
    | succ last =>
      have hb : chain[last]? = some chain[last] := List.getElem?_eq_getElem (by omega)
      have := hall _ (all (List.mem_of_getElem? hb))
      rw [(linked.number_eq hb).1] at this
      omega
  obtain ⟨records, hnumber, hrec⟩ := Walk.runNumber_chain linked free nonempty sub all decodes rule
    tip.height tip.height.toNat (Walk.start tip) [] hw (hheight ▸ rule.lowest_le) rfl
    (by rw [hheight, List.drop_length]; rfl)
  obtain ⟨result, hres, halike⟩ :=
    Walk.runHash_alike linked free sub rule _ _ hw _ (lt_steps rule (countBelow_le_size _ _))
  rw [hnumber] at halike
  refine ⟨records, ?_, hrec⟩
  rw [browse_valid valid htip, hres, halike.eq_ok, ← hheight, UInt64.ofNat_toNat]
  rfl

/-- Three blocks, inserted out of order, down to the hash of the first one. -/
theorem BlockIndex.browse_chain_to_hash :
    let chain := Block.chainOf .verbatim [some ⟨[]⟩, some ⟨[]⟩, some ⟨[]⟩]
    let target := chain[0].hash .verbatim
    (StopRule.hash target).lowest .verbatim chain = 1 ∧
    ∃ records : List BlockRecord,
      (ofBlocks .verbatim [chain[1], chain[2], chain[0]]).browse (.hash target) = .ok (.of 3 records) ∧
      (chain.drop ((StopRule.hash target).lowest .verbatim chain)).reverse.map
        (fun block => BlockRecord.ofBlock block (block.hash .verbatim)) = records.map .ok := by
  intro chain target
  have nonempty : ∀ bytes, HashSuite.verbatim.hash bytes ≠ [] := fun _ => List.cons_ne_nil _ _
  have linked : HashChain .verbatim chain := .chainOf _ _ (by decide)
  have free : HashSuite.verbatim.CollisionFree (Block.headers chain) := by decide
  have decodes : ∀ block ∈ chain, ∃ record,
      BlockRecord.ofBlock block (block.hash .verbatim) = .ok record := by
    have hok : ∀ block ∈ chain, (BlockRecord.ofBlock block (block.hash .verbatim)).isOk := by decide
    intro block hm
    have := hok block hm
    cases hr : BlockRecord.ofBlock block (block.hash .verbatim) with
    | ok record => exact ⟨record, rfl⟩
    | error cause => simp [hr, Except.isOk, Except.toBool] at this
  have order : [chain[1], chain[2], chain[0]].Perm chain := by decide
  exact ⟨by decide, browse_chain .verbatim chain _ nonempty linked free (by decide) decodes order
    (.hash target) (by decide)⟩

end ChannelLedger
