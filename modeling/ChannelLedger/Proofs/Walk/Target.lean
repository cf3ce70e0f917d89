import ChannelLedger.Proofs.Walk.Account
import ChannelLedger.Proofs.Walk.TipBinding

/-!
# Which targets a walk stops in front of

A rule may name the block that a walk stops in front of, by its hash or by its number. A walk looks at
what it knows of the next block before it has that block: the link that leads to it and the number that
it is expected to have. By hash the link is what the block is found under, and by number the number is,
so there a target is never visited, whatever the index holds.

The other two pairs go wrong where the blocks do not fit together. By hash, a block behind a gap has
another number than the expected one; by number, a block may have another hash than the one that the
block before it names. Then the target is visited, and this is the only way in which it is
(`BlockIndex.target_excluded`): a visited target is one that the walk was not led to expect.
-/
namespace ChannelLedger

/-! ## In front of every block -/

namespace Walk.Course

variable {σ : Type} {ledger : Ledger σ} {suite : HashSuite} {rule : StopRule}
  {fetches : List Fetch} {tip : ChainTip} {history : ChannelHistory}

/-- By hash, the number that is expected in front of a block is no target. -/
theorem numberBehind_ne (h : (start tip).Course ledger suite .byHash rule fetches (some (.ok history)))
    {i : Nat} {record : BlockRecord} (hi : history.blocks[i]? = some record) {target : UInt64}
    (hrule : rule = .number target) : tip.numberBehind (history.blocks.take i) ≠ some target := by
  obtain ⟨before, hbefore, hblocks, goesOn, -⟩ := h.visit (stands_start _ tip) hi (Nat.zero_le i)
  rw [← hblocks, ← hbefore.expected rfl]
  simpa [StopRule.holds, hrule] using (Way.of_isOver goesOn).1

/-- Either way, the link in front of a block is no target. -/
theorem linkBehind_ne {way : Way}
    (h : (start tip).Course ledger suite way rule fetches (some (.ok history)))
    {i : Nat} {record : BlockRecord} (hi : history.blocks[i]? = some record) {target : Bytes}
    (hrule : rule = .hash target) :
    tip.linkBehind (history.blocks.take i) ≠ Bytes.toHex target := by
  obtain ⟨before, hbefore, hblocks, goesOn, -⟩ := h.visit (stands_start _ tip) hi (Nat.zero_le i)
  rw [← hblocks, ← hbefore.pointer]
  intro heq
  simpa [StopRule.holds, hrule, Bytes.toHex_inj heq] using (Way.of_isOver goesOn).1

/-- By number, an index gives the block of the number that was asked for, and that number is no
target. -/
theorem number_ne {index : BlockIndex}
    (h : (start tip).Course (index.answers.ledger Unit) suite .byNumber rule fetches
      (some (.ok history)))
    {record : BlockRecord} (hm : record ∈ history.blocks) {target : UInt64}
    (hrule : rule = .number target) : record.overview.number ≠ target := by
  obtain ⟨i, hi⟩ := List.mem_iff_getElem?.1 hm
  obtain ⟨before, -, -, goesOn, block, ⟨_, hb⟩, decodes⟩ :=
    h.visit (stands_start _ tip) hi (Nat.zero_le i)
  obtain ⟨stored, -, hnumber, rfl⟩ := BlockIndex.mem_of_block_number hb
  have hexpected : before.expected ≠ none := by
    rintro hnone
    simp [Way.isOver, hnone] at goesOn
  obtain ⟨number, hsome⟩ := Option.ne_none_iff_exists'.1 hexpected
  have hholds := (Way.of_isOver goesOn).1
  rw [BlockRecord.number_of_ofBlock decodes, Block.number_of_header stored.header_eq]
  change stored.number ≠ target
  rw [hnumber, hsome, Option.getD_some]
  simpa [StopRule.holds, hrule, hsome] using hholds

end Walk.Course

namespace BlockIndex

variable {index : BlockIndex} {suite : HashSuite} {rule : StopRule} {history : ChannelHistory}

theorem Browses.course (h : index.Browses rule history) (suite : HashSuite) :
    ∃ tip fetches, index.tip = .ok tip ∧ (Walk.start tip).Course (index.answers.ledger Unit) suite
      .byHash rule fetches (some (.ok history)) := by
  obtain ⟨steps, h⟩ := h
  obtain ⟨fetches, -, hcourse⟩ := (index.answers.ledger Unit).browse_course suite rule.plan steps ()
  obtain ⟨tip, htip, hcourse⟩ := (h ▸ hcourse).begun_of_ok
  exact ⟨tip, fetches, htip, hcourse⟩

theorem course_of_browseByNumber (h : index.browseByNumber suite rule = .ok history) :
    ∃ tip fetches, index.tip = .ok tip ∧ (Walk.start tip).Course (index.answers.ledger Unit) suite
      .byNumber rule fetches (some (.ok history)) := by
  obtain ⟨fetches, -, hcourse⟩ :=
    (index.answers.ledger Unit).browseByNumber_course suite rule.plan ()
  unfold browseByNumber at h
  obtain ⟨tip, htip, hcourse⟩ := (h ▸ hcourse).begun_of_ok
  exact ⟨tip, fetches, htip, hcourse⟩

/-- **When a target is not visited.** Over any index, a walk by hash never visits the block of a target
hash and a walk by number never that of a target number. For the other two pairs, no block of the history
is the target exactly if every block that is the target was to be expected where it stands; in particular
it is so where the visited blocks follow each other in number, or name each other by hash. -/
theorem target_excluded (suite : HashSuite) (blocks : List Block) :
    let index := ofBlocks suite blocks
    (∀ target history, index.Browses (.hash target) history →
      ∀ record ∈ history.blocks, record.overview.blockHash ≠ Bytes.toHex target) ∧
    (∀ target history, index.browseByNumber suite (.number target) = .ok history →
      ∀ record ∈ history.blocks, record.overview.number ≠ target) ∧
    ∀ tip, index.tip = .ok tip →
      (∀ target history, index.Browses (.number target) history →
        ((∀ record ∈ history.blocks, record.overview.number ≠ target) ↔
          ∀ i record, history.blocks[i]? = some record → record.overview.number = target →
            tip.numberBehind (history.blocks.take i) = some target)) ∧
      ∀ target history, index.browseByNumber suite (.hash target) = .ok history →
        ((∀ record ∈ history.blocks, record.overview.blockHash ≠ Bytes.toHex target) ↔
          ∀ i record, history.blocks[i]? = some record →
            record.overview.blockHash = Bytes.toHex target →
            tip.linkBehind (history.blocks.take i) = Bytes.toHex target) := by
  intro index
  refine ⟨fun target history h record hm => ?_, fun target history h record hm => ?_, fun tip htip =>
    ⟨fun target history h => ⟨fun hno i record hi heq => ?_, fun hall record hm heq => ?_⟩,
      fun target history h => ⟨fun hno i record hi heq => ?_, fun hall record hm heq => ?_⟩⟩⟩
  · obtain ⟨tip, fetches, -, hcourse⟩ := h.course suite
    exact hcourse.linked.excludes target rfl record hm
  · obtain ⟨tip, fetches, -, hcourse⟩ := course_of_browseByNumber h
    exact hcourse.number_ne hm rfl
  · exact absurd heq (hno record (List.mem_of_getElem? hi))
  · obtain ⟨tip', fetches, htip', hcourse⟩ := h.course suite
    obtain rfl := Except.ok.inj (htip.symm.trans htip')
    obtain ⟨i, hi⟩ := List.mem_iff_getElem?.1 hm
    exact hcourse.numberBehind_ne hi rfl (hall i record hi heq)
  · exact absurd heq (hno record (List.mem_of_getElem? hi))
  · obtain ⟨tip', fetches, htip', hcourse⟩ := course_of_browseByNumber h
    obtain rfl := Except.ok.inj (htip.symm.trans htip')
    obtain ⟨i, hi⟩ := List.mem_iff_getElem?.1 hm
    exact hcourse.linkBehind_ne hi rfl (hall i record hi heq)

/-- **Both kinds of target can be visited.** Block 2 links over a gap to block 0, and the walk by hash
that is to stop in front of number 0 visits it; block 1 links to nothing that is held, and the walk by
number that is to stop in front of the hash of block 0 visits it. -/
theorem target_visited :
    let bottom : Block := ⟨some ⟨0, [], []⟩, some ⟨[]⟩, none⟩
    let above : Block := ⟨some ⟨2, bottom.hash .sha256, []⟩, some ⟨[]⟩, none⟩
    let astray : Block := ⟨some ⟨1, [7], []⟩, some ⟨[]⟩, none⟩
    ((ofBlocks .sha256 [bottom, above]).browse (.number 0)).map
      (·.blocks.map (·.overview.number)) = .ok [2, 0] ∧
    ((ofBlocks .sha256 [bottom, astray]).browseByNumber .sha256
      (.hash (bottom.hash .sha256))).map (·.blocks.map (·.overview.blockHash)) =
        .ok [Bytes.toHex (astray.hash .sha256), Bytes.toHex (bottom.hash .sha256)] := by
  decide +kernel

end BlockIndex

end ChannelLedger
