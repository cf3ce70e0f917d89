import ChannelLedger.Proofs.Ledger.Index
import ChannelLedger.Proofs.Walk.Step

/-!
# Chains, and indexes that hold a part of one

A chain is a list of blocks, oldest first, in which every block has its place as its number and names
the one in front of it by hash (`HashChain`). The data of its blocks is not looked at. An index may
hold any part of a chain: what it answers for a block of the chain, by number and by hash, is that
block or nothing (`HashChain.answers`), and where it says that the channel ends, a walk stands in front
of the newest block that is held (`HashChain.start_before`).

`Walk.Before below` is the invariant of both walks on a chain: `below` blocks of the chain are still in
front of the walk, its pointer is the hash of the newest of them and its expected number is that
block's. One passed block takes either walk from `below + 1` to `below` (`HashChain.before_pass`).
-/
namespace ChannelLedger

/-- Blocks linked by the hashes of their headers, oldest first. -/
structure HashChain (suite : HashSuite) (chain : List Block) : Prop where
  /-- The block at a place has the place as its number. -/
  numbered : ∀ (i : Nat) (block : Block), chain[i]? = some block →
    ∃ header, block.header = some header ∧ header.number.toNat = i
  /-- The first block names no block. -/
  first : ∀ block, chain[0]? = some block → block.link = []
  /-- Every other block names the one in front of it. -/
  linked : ∀ (i : Nat) (block next : Block), chain[i]? = some block → chain[i + 1]? = some next →
    next.link = block.hash suite

/-- The link that leads into a chain from above its first `below` blocks. -/
def linkBelow (suite : HashSuite) (chain : List Block) : (below : Nat) → Bytes
  | 0 => []
  | below + 1 => ((chain[below]?).map (·.hash suite)).getD []

theorem linkBelow_succ {suite : HashSuite} {chain : List Block} {below : Nat} {block : Block}
    (h : chain[below]? = some block) : linkBelow suite chain (below + 1) = block.hash suite := by
  simp [linkBelow, h]

/-- How many blocks of an index have a number below a bound. -/
def BlockIndex.countBelow (index : BlockIndex) (below : Nat) : Nat :=
  index.blocks.countP (·.number.toNat < below)

namespace BlockIndex

theorem countBelow_le_size (index : BlockIndex) (below : Nat) : index.countBelow below ≤ index.size :=
  List.countP_le_length

/-- A held block counts from its number on. -/
theorem countBelow_lt {index : BlockIndex} {stored : StoredBlock} {below : Nat}
    (hm : stored ∈ index.blocks) (hn : stored.number.toNat = below) :
    index.countBelow below < index.countBelow (below + 1) := by
  obtain ⟨front, rest, hsplit⟩ := List.append_of_mem hm
  unfold countBelow
  rw [hsplit, List.countP_append, List.countP_append, List.countP_cons, List.countP_cons]
  have hmono : ∀ blocks : List StoredBlock, blocks.countP (·.number.toNat < below) ≤
      blocks.countP (·.number.toNat < below + 1) := fun blocks =>
    List.countP_mono_left fun x _ hx => by
      have : x.number.toNat < below := by simpa using hx
      simp only [decide_eq_true_eq]
      omega
  have h1 := hmono front
  have h2 := hmono rest
  simp only [hn, Nat.lt_irrefl, decide_false, Bool.false_eq_true, ↓reduceIte, Nat.lt_succ_self,
    decide_true]
  omega

end BlockIndex

namespace HashChain

variable {suite : HashSuite} {chain : List Block}

theorem number_eq (h : HashChain suite chain) {i : Nat} {block : Block} (hb : chain[i]? = some block) :
    block.number.toNat = i ∧ block.number = UInt64.ofNat i := by
  obtain ⟨header, hh, hn⟩ := h.numbered i block hb
  rw [Block.number_of_header hh, ← hn]
  simp

theorem length_le (h : HashChain suite chain) : chain.length ≤ 2 ^ 64 := by
  refine Nat.le_of_not_lt fun hlong => ?_
  obtain ⟨header, -, hn⟩ := h.numbered (2 ^ 64) chain[2 ^ 64] (List.getElem?_eq_getElem hlong)
  have := header.number.toNat_lt
  omega

theorem toNat_ofNat (h : HashChain suite chain) {i : Nat} (hi : i < chain.length) :
    (UInt64.ofNat i).toNat = i :=
  UInt64.toNat_ofNat_of_lt' (Nat.lt_of_lt_of_le hi h.length_le)

/-- A block of the chain stands at the place that its number says. -/
theorem getElem?_number (h : HashChain suite chain) {block : Block} (hm : block ∈ chain) :
    chain[block.number.toNat]? = some block := by
  obtain ⟨i, hi, rfl⟩ := List.mem_iff_getElem.1 hm
  rw [(h.number_eq (List.getElem?_eq_getElem hi)).1, List.getElem?_eq_getElem hi]

end HashChain

/-! ## Building chains -/

/-- The block that continues a chain with the given data. -/
def Block.after (suite : HashSuite) (chain : List Block) (data : Option BlockData) : Block where
  header := some {
    number := UInt64.ofNat chain.length
    previousHash := linkBelow suite chain chain.length
    dataHash := (data.map (·.hash suite)).getD [] }
  data := data

/-- The chain whose blocks carry the given data. -/
def Block.chainOf (suite : HashSuite) (bodies : List (Option BlockData)) : List Block :=
  bodies.foldl (fun chain data => chain ++ [after suite chain data]) []

/-- A suite that keeps all of what it hashes. -/
def HashSuite.verbatim : HashSuite where
  name := "verbatim"
  hash bytes := 1 :: bytes

namespace HashChain

variable {suite : HashSuite} {chain : List Block}

theorem nil : HashChain suite [] := by
  constructor <;> simp

theorem concat (h : HashChain suite chain) (short : chain.length < 2 ^ 64) (data : Option BlockData) :
    HashChain suite (chain ++ [Block.after suite chain data]) := by
  have hlast : ∀ (i : Nat) (block : Block), (chain ++ [Block.after suite chain data])[i]? = some block →
      chain[i]? = some block ∨ (i = chain.length ∧ block = Block.after suite chain data) := by
    intro i block hb
    rw [List.getElem?_append] at hb
    split at hb
    · exact .inl hb
    · obtain ⟨hi, hblock⟩ := List.getElem?_eq_some_iff.1 hb
      simp only [List.length_singleton, List.getElem_singleton] at hi hblock
      exact .inr ⟨by omega, hblock.symm⟩
  constructor
  · intro i block hb
    rcases hlast i block hb with hb | ⟨rfl, rfl⟩
    · exact h.numbered i block hb
    · exact ⟨_, rfl, UInt64.toNat_ofNat_of_lt' short⟩
  · intro block hb
    rcases hlast 0 block hb with hb | ⟨hlen, rfl⟩
    · exact h.first block hb
    · simp [Block.after, Block.link, linkBelow, ← hlen]
  · intro i block next hb hn
    rcases hlast (i + 1) next hn with hn | ⟨hlen, rfl⟩
    · have hi : i < chain.length := Nat.lt_of_succ_lt (List.getElem?_eq_some_iff.1 hn).1
      rw [List.getElem?_append_left hi] at hb
      exact h.linked i block next hb hn
    · rw [List.getElem?_append_left (by omega)] at hb
      simp [Block.after, Block.link, ← hlen, linkBelow_succ hb]

end HashChain

theorem Block.chainOf_concat (suite : HashSuite) (bodies : List (Option BlockData))
    (data : Option BlockData) :
    chainOf suite (bodies ++ [data])
      = chainOf suite bodies ++ [after suite (chainOf suite bodies) data] := by
  rw [chainOf, List.foldl_append]
  rfl

theorem Block.length_chainOf (suite : HashSuite) (bodies : List (Option BlockData)) :
    (chainOf suite bodies).length = bodies.length := by
  induction bodies using List.reverseRecOn with
  | nil => rfl
  | append_singleton bodies data ih =>
    rw [chainOf_concat, List.length_append, ih, List.length_append]
    rfl

/-- There is a chain for every sequence of bodies. -/
theorem HashChain.chainOf (suite : HashSuite) (bodies : List (Option BlockData))
    (short : bodies.length ≤ 2 ^ 64) : HashChain suite (Block.chainOf suite bodies) := by
  induction bodies using List.reverseRecOn with
  | nil => exact nil
  | append_singleton bodies data ih =>
    rw [List.length_append, List.length_singleton] at short
    have hlen := Block.length_chainOf suite bodies
    rw [Block.chainOf_concat]
    exact (ih (by omega)).concat (by omega) data

namespace HashChain

variable {suite : HashSuite} {chain : List Block}

/-! ## An index that holds a part of a chain -/

variable {held : List Block}

theorem headers_subset (sub : held ⊆ chain) {header : BlockHeader}
    (hm : header ∈ Block.headers held) : header ∈ Block.headers chain := by
  obtain ⟨block, hb, hh⟩ := List.mem_filterMap.1 hm
  exact List.mem_filterMap.2 ⟨block, sub hb, hh⟩

theorem free_of_subset (sub : held ⊆ chain) (free : suite.CollisionFree (Block.headers chain)) :
    suite.CollisionFree (Block.headers held) := fun a ha b hb =>
  free a (headers_subset sub ha) b (headers_subset sub hb)

/-- The numbers of the held blocks tell them apart, so the last insertion is the only one. -/
theorem latest?_eq (h : HashChain suite chain) (sub : held ⊆ chain) {i : Nat} {block found : Block}
    (hb : chain[i]? = some block) (hf : Block.latest? held (UInt64.ofNat i) = some found) :
    found = block := by
  have hnum := List.find?_some hf
  have hplace := h.getElem?_number (sub (Block.mem_of_latest? hf))
  have hi : i < chain.length := (List.getElem?_eq_some_iff.1 hb).1
  unfold Block.isNumbered at hnum
  cases hh : found.header with
  | none => simp [hh] at hnum
  | some header =>
    simp only [hh, Option.any_some, decide_eq_true_eq] at hnum
    rw [Block.number_of_header hh, hnum, h.toNat_ofNat hi, hb] at hplace
    exact (Option.some.inj hplace).symm

theorem latest?_isSome (h : HashChain suite chain) {i : Nat} {block : Block}
    (hb : chain[i]? = some block) (hm : block ∈ held) :
    (Block.latest? held (UInt64.ofNat i)).isSome := by
  obtain ⟨header, hh, hn⟩ := h.numbered i block hb
  refine List.find?_isSome.2 ⟨block, List.mem_reverse.2 hm, ?_⟩
  simp [Block.isNumbered, hh, ← hn]

/-- **A block of the chain is found both ways or neither way.** -/
theorem answers (h : HashChain suite chain) (free : suite.CollisionFree (Block.headers chain))
    (sub : held ⊆ chain) {i : Nat} {block : Block} (hb : chain[i]? = some block) :
    let index := BlockIndex.ofBlocks suite held
    (block ∈ held ∧ index.block (.number (UInt64.ofNat i)) = .ok block ∧
      index.block (.hash (block.hash suite)) = .ok block) ∨
    (block ∉ held ∧
      index.block (.number (UInt64.ofNat i)) =
        .error (.notFound ("block number " ++ toString (UInt64.ofNat i))) ∧
      index.block (.hash (block.hash suite)) =
        .error (.notFound ("block with hash " ++ Bytes.toHex (block.hash suite)))) := by
  intro index
  have hr := BlockIndex.reflects_ofBlocks suite held
  obtain ⟨header, hh, hn⟩ := h.numbered i block hb
  rw [Block.hash_of_header hh]
  by_cases hm : block ∈ held
  · obtain ⟨found, hf⟩ := Option.isSome_iff_exists.1 (h.latest?_isSome hb hm)
    obtain rfl := h.latest?_eq sub hb hf
    have hnumber := hr.block_number_ok.2 hf
    exact .inl ⟨hm, hnumber, hr.block_hash_complete (free_of_subset sub free) hnumber hh⟩
  · have hnone : Block.latest? held (UInt64.ofNat i) = none := by
      cases hf : Block.latest? held (UInt64.ofNat i) with
      | none => rfl
      | some found => exact absurd (h.latest?_eq sub hb hf ▸ Block.mem_of_latest? hf) hm
    refine .inr ⟨hm, by rw [hr.block_number, hnone], ?_⟩
    rcases BlockIndex.block_hash_cases index (header.hash suite) with ⟨found, hf⟩ | hf
    · -- what has the hash of a header of the chain has that header, and so is the block itself
      obtain ⟨other, ho, hhash, hnumber⟩ := hr.block_hash_sound hf
      have hin := Block.mem_of_latest? (hr.block_number_ok.1 hnumber)
      have hblock : block ∈ chain := List.mem_of_getElem? hb
      obtain rfl : other = header :=
        free _ (List.mem_filterMap.2 ⟨found, sub hin, ho⟩) _
          (List.mem_filterMap.2 ⟨block, hblock, hh⟩) hhash
      have hplace := h.getElem?_number (sub hin)
      rw [Block.number_of_header ho, hn, hb] at hplace
      exact absurd (Option.some.inj hplace ▸ hin) hm
    · exact hf

end HashChain

/-! ## Where a walk stands -/

/-- A walk in front of the first `below` blocks of a chain. -/
structure Walk.Before (suite : HashSuite) (chain : List Block) (below : Nat) (walk : Walk) : Prop where
  le : below ≤ chain.length
  fits : below < 2 ^ 64
  pointer : walk.pointer = linkBelow suite chain below
  expected : walk.expected = previousNumber (UInt64.ofNat below)

theorem previousNumber_succ {below : Nat} (h : below + 1 < 2 ^ 64) :
    previousNumber (UInt64.ofNat (below + 1)) = some (UInt64.ofNat below) := by
  have hne : UInt64.ofNat (below + 1) ≠ 0 := by
    intro h0
    have := congrArg UInt64.toNat h0
    rw [UInt64.toNat_ofNat_of_lt' h] at this
    simp at this
  have hsub : UInt64.ofNat (below + 1) - 1 = UInt64.ofNat below := by
    rw [UInt64.ofNat_add]
    simp
  rw [previousNumber, if_neg hne, hsub]

namespace HashChain

variable {suite : HashSuite} {chain : List Block}

/-- What a block of the chain links to is what lies below it. -/
theorem link_eq (h : HashChain suite chain) {below : Nat} {block : Block}
    (hb : chain[below]? = some block) : block.link = linkBelow suite chain below := by
  cases below with
  | zero => exact h.first block hb
  | succ below =>
    have hlt : below + 1 < chain.length := (List.getElem?_eq_some_iff.1 hb).1
    have hprev := List.getElem?_eq_getElem (Nat.lt_of_succ_lt hlt)
    rw [linkBelow_succ hprev]
    exact h.linked below _ block hprev hb

/-- Past a block of the chain, a walk has one block less in front of it. -/
theorem before_pass (h : HashChain suite chain) {walk : Walk} {below : Nat}
    (hw : walk.Before suite chain (below + 1)) {block : Block} (hb : chain[below]? = some block)
    (history : ChannelHistory) :
    Walk.Before suite chain below ⟨history, block.link, previousNumber block.number⟩ where
  le := Nat.le_of_succ_le hw.le
  fits := Nat.lt_of_succ_lt hw.fits
  pointer := h.link_eq hb
  expected := by rw [(h.number_eq hb).2]

/-- A walk begins in front of the newest block that the index holds. -/
theorem start_before (h : HashChain suite chain) {held : List Block} (sub : held ⊆ chain)
    (below : ∀ block ∈ held, block.number < 0xffffffffffffffff) :
    ∃ tip, (BlockIndex.ofBlocks suite held).tip = .ok tip ∧
      (Walk.start tip).Before suite chain tip.height.toNat ∧
      ∀ block ∈ held, block.number.toNat < tip.height.toNat := by
  have hr := BlockIndex.reflects_ofBlocks suite held
  -- every held block of a chain has a header, so the index has a block of its number
  have hfound : ∀ block ∈ held, ∃ stored ∈ (BlockIndex.ofBlocks suite held).blocks,
      stored.number = block.number := by
    intro block hm
    obtain ⟨found, hf⟩ := Option.isSome_iff_exists.1
      (h.latest?_isSome (h.getElem?_number (sub hm)) hm)
    rw [UInt64.ofNat_toNat] at hf
    obtain ⟨stored, hs, hn, -⟩ := BlockIndex.mem_of_block_number (hr.block_number_ok.2 hf)
    exact ⟨stored, hs, hn⟩
  rcases hr.tip_cases with ⟨hempty, htip⟩ | ⟨last, hm, hge, htip⟩
  · refine ⟨_, htip, ⟨by simp, by simp, rfl, rfl⟩, fun block hb => ?_⟩
    obtain ⟨stored, hs, -⟩ := hfound block hb
    simp [hempty] at hs
  · have hin := hr.mem_inserted (hr.find?_of_mem hm)
    have hnum : last.block.number = last.number := Block.number_of_header last.header_eq
    have hlt : last.number < 0xffffffffffffffff := hnum ▸ below _ hin
    have hplace := h.getElem?_number (sub hin)
    rw [hnum] at hplace
    have hsucc : (last.number + 1).toNat = last.number.toNat + 1 := by
      have := UInt64.lt_iff_toNat_lt.1 hlt
      rw [UInt64.toNat_add]
      simp at this ⊢
      omega
    rw [if_neg (UInt64.ne_of_lt hlt)] at htip
    refine ⟨_, htip, ⟨?_, UInt64.toNat_lt _, ?_, ?_⟩, fun block hb => ?_⟩
    · rw [hsucc]
      exact (List.getElem?_eq_some_iff.1 hplace).1
    · rw [hsucc, linkBelow_succ hplace, Block.hash_of_header last.header_eq]
      rfl
    · rw [UInt64.ofNat_toNat]
      rfl
    · obtain ⟨stored, hs, hn⟩ := hfound block hb
      have := UInt64.le_iff_toNat_le.1 (hn ▸ hge stored hs)
      rw [hsucc]
      omega

end HashChain

end ChannelLedger
