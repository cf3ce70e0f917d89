import ChannelLedger.Proofs.Ledger.Store
import Mathlib.Data.List.Induction

/-!
# What an index answers

The reference for an index is the sequence of blocks that were inserted into it: a number stands for
the last of them that has it (`Block.latest?`), and a hash for the block of that header hash which a
number still leads to. `BlockIndex.Reflects` says how the two tables stand to the sequence, one
insertion keeps it (`Reflects.insert`), and so it holds of every index (`reflects_ofBlocks`).

Two parts of the invariant speak of the table of hashes. It is *sound* whatever the suite does: a
colliding hash may lead to the wrong number or to none, but never to a block of another hash. It is
*complete* only as long as the inserted headers do not collide.

Main theorem `ofBlocks_answers`: the answers to every query, for every sequence of insertions.
-/
namespace ChannelLedger

/-! ## The reference -/

/-- The headers that blocks carry. -/
def Block.headers (blocks : List Block) : List BlockHeader :=
  blocks.filterMap (·.header)

/-- Whether a block has a header with that number. -/
def Block.isNumbered (number : UInt64) (block : Block) : Bool :=
  block.header.any (·.number = number)

/-- The block that counts under a number: of several the last one. -/
def Block.latest? (blocks : List Block) (number : UInt64) : Option Block :=
  blocks.reverse.find? (isNumbered number)

/-- The suite tells headers apart: no two different ones have one hash. -/
def HashSuite.CollisionFree (suite : HashSuite) (headers : List BlockHeader) : Prop :=
  ∀ a ∈ headers, ∀ b ∈ headers, a.hash suite = b.hash suite → a = b

instance (suite : HashSuite) (headers : List BlockHeader) :
    Decidable (suite.CollisionFree headers) :=
  inferInstanceAs (Decidable (∀ a ∈ headers, ∀ b ∈ headers, a.hash suite = b.hash suite → a = b))

theorem Block.latest?_concat (blocks : List Block) (block : Block) (number : UInt64) :
    latest? (blocks ++ [block]) number =
      if block.isNumbered number then some block else latest? blocks number := by
  simp [latest?, List.find?_cons]
  cases block.isNumbered number <;> rfl

theorem Block.mem_of_latest? {blocks : List Block} {number : UInt64} {block : Block}
    (h : latest? blocks number = some block) : block ∈ blocks := by
  have := List.mem_of_find?_eq_some h
  simpa using this

namespace BlockIndex

/-! ## The invariant -/

/-- How an index stands to the blocks that were inserted into it. -/
structure Reflects (suite : HashSuite) (blocks : List Block) (index : BlockIndex) : Prop where
  sorted : index.blocks.Pairwise (·.number < ·.number)
  /-- Every held block is held with the hash of its header. -/
  hashed : ∀ stored ∈ index.blocks, stored.hash = stored.header.hash suite
  /-- The block of a number is the last one that was inserted with it. -/
  latest : ∀ number, (index.find? number).map (·.block) = Block.latest? blocks number
  /-- A hash leads only to the block whose hash it is, whether or not hashes collide. -/
  sound : ∀ hash number, index.numbers.lookup hash = some number → index.hash? number = some hash
  /-- Without collisions the hash of every held block leads to it. -/
  complete : suite.CollisionFree (Block.headers blocks) →
    ∀ number hash, index.hash? number = some hash → index.numbers.lookup hash = some number

theorem hash?_eq_some {index : BlockIndex} {number : UInt64} {hash : Bytes} :
    index.hash? number = some hash ↔ ∃ stored, index.find? number = some stored ∧ stored.hash = hash :=
  Option.map_eq_some_iff

theorem number_of_find? {index : BlockIndex} {number : UInt64} {stored : StoredBlock}
    (h : index.find? number = some stored) : stored.number = number := by
  simpa using List.find?_some h

theorem mem_of_find? {index : BlockIndex} {number : UInt64} {stored : StoredBlock}
    (h : index.find? number = some stored) : stored ∈ index.blocks :=
  List.mem_of_find?_eq_some h

theorem reflects_nil (suite : HashSuite) : Reflects suite [] {} where
  sorted := .nil
  hashed := by simp
  latest := by simp [find?, Block.latest?]
  sound := by simp
  complete := by simp [hash?, find?]

namespace Reflects

variable {suite : HashSuite} {blocks : List Block} {index : BlockIndex}

theorem mem_inserted (h : Reflects suite blocks index) {number : UInt64} {stored : StoredBlock}
    (hf : index.find? number = some stored) : stored.block ∈ blocks := by
  have hl := h.latest number
  rw [hf] at hl
  exact Block.mem_of_latest? hl.symm

theorem mem_headers (h : Reflects suite blocks index) {number : UInt64} {stored : StoredBlock}
    (hf : index.find? number = some stored) : stored.header ∈ Block.headers blocks :=
  List.mem_filterMap.2 ⟨stored.block, h.mem_inserted hf, stored.header_eq⟩

/-- A block without a header leaves the index as it is. -/
theorem headerless (h : Reflects suite blocks index) {block : Block} (hnone : block.header = none) :
    Reflects suite (blocks ++ [block]) index := by
  have hheaders : Block.headers (blocks ++ [block]) = Block.headers blocks := by
    simp [Block.headers, hnone]
  have hnumber : ∀ number, block.isNumbered number = false := by simp [Block.isNumbered, hnone]
  refine ⟨h.sorted, h.hashed, fun number => ?_, h.sound, fun hfree => h.complete (hheaders ▸ hfree)⟩
  rw [h.latest, Block.latest?_concat, hnumber]
  rfl

/-- A stored block is the latest of its number. -/
theorem latest_store (h : Reflects suite blocks index) (stored : StoredBlock) (number : UInt64) :
    ((index.store stored).find? number).map (·.block) =
      Block.latest? (blocks ++ [stored.block]) number := by
  have hnumber : stored.block.isNumbered number = decide (stored.number = number) := by
    rw [Block.isNumbered, stored.header_eq]
    rfl
  rw [find?_store, Block.latest?_concat, hnumber]
  by_cases hn : stored.number = number
  · simp [hn]
  · simp [hn, h.latest]

/-- A hash that is still in the table was not the hash of the block that was replaced. -/
theorem sound_store (h : Reflects suite blocks index) (stored : StoredBlock) {hash : Bytes}
    {number : UInt64} (hl : (index.store stored).numbers.lookup hash = some number) :
    (index.store stored).hash? number = some hash := by
  rw [lookup_numbers_store] at hl
  rw [hash?_store]
  split at hl
  · rename_i heq
    cases hl
    simp [heq]
  · split at hl
    · cases hl
    · rename_i hold
      have hs := h.sound hash number hl
      have hne : stored.number ≠ number := fun heq => hold (heq ▸ hs)
      simpa [hne] using hs

/-- A held block of another number has another hash than the stored one, unless their headers
collide. -/
theorem hash_ne_store (h : Reflects suite blocks index) {stored : StoredBlock}
    (hhash : stored.hash = stored.header.hash suite)
    (hfree : suite.CollisionFree (Block.headers blocks ++ [stored.header])) {number : UInt64}
    {hash : Bytes} (hh : index.hash? number = some hash) (hn : stored.number ≠ number) :
    hash ≠ stored.hash := by
  obtain ⟨other, hfind, hother⟩ := hash?_eq_some.1 hh
  intro heq
  have hsame : other.header.hash suite = stored.header.hash suite := by
    rw [← h.hashed other (mem_of_find? hfind), hother, heq, hhash]
  have hheader : other.header = stored.header :=
    hfree _ (List.mem_append_left _ (h.mem_headers hfind)) _ (by simp) hsame
  exact hn ((congrArg BlockHeader.number hheader).symm.trans (number_of_find? hfind))

/-- Without collisions a stored block leaves the hashes of the other numbers in the table. -/
theorem complete_store (h : Reflects suite blocks index) {stored : StoredBlock}
    (hhash : stored.hash = stored.header.hash suite)
    (hfree : suite.CollisionFree (Block.headers blocks ++ [stored.header])) {number : UInt64}
    {hash : Bytes} (hh : (index.store stored).hash? number = some hash) :
    (index.store stored).numbers.lookup hash = some number := by
  have hfree' : suite.CollisionFree (Block.headers blocks) := fun a ha b hb =>
    hfree a (List.mem_append_left _ ha) b (List.mem_append_left _ hb)
  rw [hash?_store] at hh
  rw [lookup_numbers_store]
  by_cases hn : stored.number = number
  · simp only [hn, ↓reduceIte, Option.some.injEq] at hh
    simp [hh, hn]
  · simp only [hn, ↓reduceIte] at hh
    have hl := h.complete hfree' number hash hh
    have hne := h.hash_ne_store hhash hfree hh hn
    -- were it the hash of the block that is replaced, it would lead to the number of both
    have hne' : index.hash? stored.number ≠ some hash := by
      intro heq
      have hboth := h.complete hfree' _ _ heq
      rw [hl] at hboth
      exact hn (Option.some.inj hboth).symm
    simp [hne, hne', hl]

/-- A block with a header is stored under its number. -/
theorem store (h : Reflects suite blocks index) (stored : StoredBlock)
    (hhash : stored.hash = stored.header.hash suite) :
    Reflects suite (blocks ++ [stored.block]) (index.store stored) := by
  have hheaders : Block.headers (blocks ++ [stored.block]) =
      Block.headers blocks ++ [stored.header] := by
    simp [Block.headers, stored.header_eq]
  refine ⟨StoredBlock.sorted_place h.sorted, fun x hx => ?_, h.latest_store stored,
    fun _ _ => h.sound_store stored, fun hfree _ _ => h.complete_store hhash (hheaders ▸ hfree)⟩
  rcases StoredBlock.mem_place hx with rfl | hx
  · exact hhash
  · exact h.hashed x hx

/-- One more block: a headerless one changes nothing, any other one is stored. -/
theorem insert (h : Reflects suite blocks index) (block : Block) :
    Reflects suite (blocks ++ [block]) (index.insert suite block) := by
  unfold BlockIndex.insert
  split
  case h_1 hnone => exact h.headerless hnone
  case h_2 header hsome => exact h.store ⟨block, header, header.hash suite, hsome⟩ rfl

end Reflects

/-- **Every index is what its insertions made it**: the invariant holds after any sequence of blocks. -/
theorem reflects_ofBlocks (suite : HashSuite) (blocks : List Block) :
    Reflects suite blocks (ofBlocks suite blocks) := by
  induction blocks using List.reverseRecOn with
  | nil => exact reflects_nil suite
  | append_singleton blocks block ih =>
    rw [ofBlocks, List.foldl_append]
    exact ih.insert block

/-! ## Answers -/

theorem block_hash_cases (index : BlockIndex) (hash : Bytes) :
    (∃ block, index.block (.hash hash) = .ok block) ∨
      index.block (.hash hash) = .error (.notFound ("block with hash " ++ Bytes.toHex hash)) := by
  simp only [BlockIndex.block]
  cases index.findHash? hash with
  | none => exact .inr rfl
  | some stored => exact .inl ⟨stored.block, rfl⟩

/-- What a query by number finds is held under that number. -/
theorem mem_of_block_number {index : BlockIndex} {number : UInt64} {block : Block}
    (h : index.block (.number number) = .ok block) :
    ∃ stored ∈ index.blocks, stored.number = number ∧ stored.block = block := by
  simp only [BlockIndex.block] at h
  split at h
  · rename_i stored hf
    cases h
    exact ⟨stored, mem_of_find? hf, number_of_find? hf, rfl⟩
  · cases h

namespace Reflects

variable {suite : HashSuite} {blocks : List Block} {index : BlockIndex}

/-- The held block behind the last block that was inserted with a number. -/
theorem find?_of_latest (h : Reflects suite blocks index) {number : UInt64} {block : Block}
    (hl : Block.latest? blocks number = some block) :
    ∃ stored, index.find? number = some stored ∧ stored.block = block :=
  Option.map_eq_some_iff.1 ((h.latest number).trans hl)

/-- A query by number is answered with the last block that was inserted with it. -/
theorem block_number (h : Reflects suite blocks index) (number : UInt64) :
    index.block (.number number) = match Block.latest? blocks number with
      | some block => .ok block
      | none => .error (.notFound ("block number " ++ toString number)) := by
  rw [← h.latest, block]
  cases index.find? number <;> rfl

theorem block_number_ok (h : Reflects suite blocks index) {number : UInt64} {block : Block} :
    index.block (.number number) = .ok block ↔ Block.latest? blocks number = some block := by
  rw [h.block_number]
  cases Block.latest? blocks number <;> simp

/-- What a query by number finds carries one of the inserted headers. -/
theorem header_mem (h : Reflects suite blocks index) {number : UInt64} {block : Block}
    {header : BlockHeader} (hb : index.block (.number number) = .ok block)
    (hh : block.header = some header) : header ∈ Block.headers blocks :=
  List.mem_filterMap.2 ⟨block, Block.mem_of_latest? (h.block_number_ok.1 hb), hh⟩

/-- What a query by hash finds has that hash and is what its number leads to. -/
theorem block_hash_sound (h : Reflects suite blocks index) {hash : Bytes} {block : Block}
    (hb : index.block (.hash hash) = .ok block) :
    ∃ header, block.header = some header ∧ header.hash suite = hash ∧
      index.block (.number header.number) = .ok block := by
  simp only [BlockIndex.block] at hb
  split at hb
  · rename_i stored hfound
    cases hb
    obtain ⟨number, hl, hf⟩ := Option.bind_eq_some_iff.1 hfound
    obtain ⟨other, ho, hh⟩ := hash?_eq_some.1 (h.sound _ _ hl)
    obtain rfl : other = stored := by simpa [hf] using ho.symm
    refine ⟨other.header, other.header_eq, by rw [← hh, h.hashed other (mem_of_find? hf)], ?_⟩
    have hn : other.header.number = number := number_of_find? hf
    simp [BlockIndex.block, hn, hf]
  · cases hb

/-- Without collisions, the hash of a header leads to nothing once no number leads to that header. -/
theorem block_hash_forgotten (h : Reflects suite blocks index)
    (free : suite.CollisionFree (Block.headers blocks)) {header : BlockHeader}
    (hm : header ∈ Block.headers blocks)
    (hgone : ∀ block, index.block (.number header.number) = .ok block → block.header ≠ some header) :
    index.block (.hash (header.hash suite)) =
      .error (.notFound ("block with hash " ++ Bytes.toHex (header.hash suite))) := by
  rcases block_hash_cases index (header.hash suite) with ⟨block, hb⟩ | hb
  · obtain ⟨found, hf, hhash, hn⟩ := h.block_hash_sound hb
    obtain rfl : found = header := free _ (h.header_mem hn hf) _ hm hhash
    exact absurd hf (hgone block hn)
  · exact hb

/-- Without collisions, the hash of what a number leads to leads to the same block. -/
theorem block_hash_complete (h : Reflects suite blocks index)
    (free : suite.CollisionFree (Block.headers blocks)) {number : UInt64} {block : Block}
    {header : BlockHeader} (hb : index.block (.number number) = .ok block)
    (hh : block.header = some header) : index.block (.hash (header.hash suite)) = .ok block := by
  obtain ⟨stored, hf, rfl⟩ := h.find?_of_latest (h.block_number_ok.1 hb)
  obtain rfl : stored.header = header := by simpa [stored.header_eq] using hh
  have hhash : index.hash? number = some (stored.header.hash suite) :=
    hash?_eq_some.2 ⟨stored, hf, h.hashed stored (mem_of_find? hf)⟩
  simp [BlockIndex.block, findHash?, h.complete free _ _ hhash, hf]

/-- The hash that is kept for a number is that of the block it leads to. -/
theorem hash?_eq (h : Reflects suite blocks index) (number : UInt64) :
    index.hash? number =
      ((Block.latest? blocks number).bind (·.header)).map (·.hash suite) := by
  rw [← h.latest, hash?]
  cases hf : index.find? number with
  | none => rfl
  | some stored => simp [stored.header_eq, h.hashed stored (mem_of_find? hf)]

/-- The channel is empty, or it ends with the block of the highest number. -/
theorem tip_cases (h : Reflects suite blocks index) :
    (index.blocks = [] ∧ index.tip = .ok ⟨0, [], []⟩) ∨
    ∃ last ∈ index.blocks, (∀ stored ∈ index.blocks, stored.number ≤ last.number) ∧
      index.tip = if last.number = 0xffffffffffffffff then .error .overflow
        else .ok ⟨last.number + 1, last.header.hash suite, last.header.previousHash⟩ := by
  cases hend : index.blocks.getLast? with
  | none => exact .inl ⟨List.getLast?_eq_none_iff.1 hend, by simp [tip, hend]⟩
  | some last =>
    obtain ⟨init, hinit⟩ := List.getLast?_eq_some_iff.1 hend
    have hmem : last ∈ index.blocks := by simp [hinit]
    refine .inr ⟨last, hmem, fun stored hm => ?_, by simp [tip, hend, h.hashed last hmem]⟩
    have hsorted := h.sorted
    rw [hinit] at hsorted hm
    rcases List.mem_append.1 hm with hm | hm
    · exact UInt64.le_of_lt ((List.pairwise_append.1 hsorted).2.2 stored hm last (by simp))
    · rw [List.mem_singleton.1 hm]
      exact UInt64.le_refl _

theorem find?_of_mem (h : Reflects suite blocks index) {stored : StoredBlock}
    (hm : stored ∈ index.blocks) : index.find? stored.number = some stored :=
  StoredBlock.find?_of_mem h.sorted hm

theorem tip_eq (h : Reflects suite blocks index) {number : UInt64} {block : Block}
    {header : BlockHeader} (hl : Block.latest? blocks number = some block)
    (hh : block.header = some header) (hmax : ∀ n, (Block.latest? blocks n).isSome → n ≤ number)
    (hlast : number < 0xffffffffffffffff) :
    index.tip = .ok ⟨number + 1, header.hash suite, header.previousHash⟩ := by
  obtain ⟨stored, hf, rfl⟩ := h.find?_of_latest hl
  obtain rfl : stored.header = header := by simpa [stored.header_eq] using hh
  have hmem := mem_of_find? hf
  have hnum := number_of_find? hf
  rcases h.tip_cases with ⟨hempty, -⟩ | ⟨last, hm, hge, htip⟩
  · simp [hempty] at hmem
  · have hfl := h.find?_of_mem hm
    have hle : last.number ≤ number := hmax _ (by rw [← h.latest, hfl]; rfl)
    have heq : last.number = number := UInt64.le_antisymm hle (hnum ▸ hge stored hmem)
    obtain rfl : last = stored := by simpa [heq, hf] using hfl.symm
    have hne : number ≠ 0xffffffffffffffff := UInt64.ne_of_lt hlast
    simp [htip, heq, hne]

end Reflects

/-- **What an index answers**, for every sequence of inserted blocks. -/
theorem ofBlocks_answers (suite : HashSuite) (blocks : List Block) :
    let index := ofBlocks suite blocks
    -- a number leads to the last block that was inserted with it
    (∀ number, index.block (.number number) = match Block.latest? blocks number with
      | some block => .ok block
      | none => .error (.notFound ("block number " ++ toString number))) ∧
    -- a hash leads only to a block of that hash, which its number leads to as well
    (∀ hash block, index.block (.hash hash) = .ok block →
      ∃ header, block.header = some header ∧ header.hash suite = hash ∧
        index.block (.number header.number) = .ok block) ∧
    -- without collisions it leads to every such block, and to nothing else
    (suite.CollisionFree (Block.headers blocks) →
      (∀ hash, (∃ block, index.block (.hash hash) = .ok block) ↔
        ∃ number block header, index.block (.number number) = .ok block ∧
          block.header = some header ∧ header.hash suite = hash) ∧
      ∀ block ∈ blocks, ∀ header, block.header = some header →
        (∀ other, index.block (.number header.number) = .ok other → other.header ≠ some header) →
        index.block (.hash (header.hash suite)) =
          .error (.notFound ("block with hash " ++ Bytes.toHex (header.hash suite)))) ∧
    -- the hash kept for a number is that of the block it leads to
    (∀ number, index.hash? number =
      ((Block.latest? blocks number).bind (·.header)).map (·.hash suite)) ∧
    -- the channel ends with the block of the highest number
    ∀ number block header, index.block (.number number) = .ok block → block.header = some header →
      (∀ n, (Block.latest? blocks n).isSome → n ≤ number) → number < 0xffffffffffffffff →
      index.tip = .ok ⟨number + 1, header.hash suite, header.previousHash⟩ := by
  intro index
  have h : Reflects suite blocks index := reflects_ofBlocks suite blocks
  refine ⟨h.block_number, fun _ _ => h.block_hash_sound, fun free => ⟨fun hash => ⟨?_, ?_⟩, ?_⟩,
    h.hash?_eq, fun number block header hb hh hmax hlast => ?_⟩
  · rintro ⟨block, hb⟩
    obtain ⟨header, hh, rfl, hn⟩ := h.block_hash_sound hb
    exact ⟨_, block, header, hn, hh, rfl⟩
  · rintro ⟨number, block, header, hb, hh, rfl⟩
    exact ⟨block, h.block_hash_complete free hb hh⟩
  · intro block hm header hh hgone
    exact h.block_hash_forgotten free (List.mem_filterMap.2 ⟨block, hm, hh⟩) hgone
  · exact h.tip_eq (h.block_number_ok.1 hb) hh hmax hlast

end BlockIndex

end ChannelLedger
