import ChannelLedger.Block.HeaderHash
import ChannelLedger.Ledger.Query

/-!
# Blocks by number and by hash

The blocks that a ledger holds, one for each number, ordered by number; a second table leads from
a header hash to the number of the block that was last inserted under that hash. A block takes the
place of an earlier one with its number, whose hash is then forgotten, and a block without a header
is left out. The channel ends with the block of the highest number.
-/
namespace ChannelLedger

/-- A block that is held, with its header and the hash of its header. -/
structure StoredBlock where
  block : Block
  header : BlockHeader
  hash : Bytes
  header_eq : block.header = some header
  deriving DecidableEq, Repr

namespace StoredBlock

def number (stored : StoredBlock) : UInt64 :=
  stored.header.number

/-- Puts a block in its place in an ordered list. -/
def place (stored : StoredBlock) : List StoredBlock → List StoredBlock
  | [] => [stored]
  | first :: rest =>
    if stored.number < first.number then stored :: first :: rest
    else if stored.number = first.number then stored :: rest
    else first :: place stored rest

end StoredBlock

/-- The blocks that are held (`BlockIndex`). -/
structure BlockIndex where
  /-- The blocks in the order of their numbers, which all differ. -/
  blocks : List StoredBlock := []
  /-- The number of the block that was last inserted under a hash. -/
  numbers : List (Bytes × UInt64) := []
  deriving DecidableEq, Repr

namespace BlockIndex

/-- The block of a number (`by_number`). -/
def find? (index : BlockIndex) (number : UInt64) : Option StoredBlock :=
  index.blocks.find? (·.number = number)

/-- The header hash of the block of a number (`header_hash`). -/
def hash? (index : BlockIndex) (number : UInt64) : Option Bytes :=
  (index.find? number).map (·.hash)

/-- The block that is found under a hash (`by_hash`). -/
def findHash? (index : BlockIndex) (hash : Bytes) : Option StoredBlock :=
  (index.numbers.lookup hash).bind index.find?

/-- How many blocks there are (`block_count`). -/
def size (index : BlockIndex) : Nat :=
  index.blocks.length

/-- The hash table without a hash. -/
def forget (hash : Bytes) (numbers : List (Bytes × UInt64)) : List (Bytes × UInt64) :=
  numbers.filter (·.1 ≠ hash)

/-- The index with one more held block. -/
def store (index : BlockIndex) (stored : StoredBlock) : BlockIndex where
  blocks := stored.place index.blocks
  numbers :=
    let others := match index.hash? stored.number with
      | none => index.numbers
      | some old => forget old index.numbers
    (stored.hash, stored.number) :: forget stored.hash others

/-- The index with one more block (`BlockIndex::insert`). -/
def insert (suite : HashSuite) (index : BlockIndex) (block : Block) : BlockIndex :=
  match h : block.header with
  | none => index
  | some header => index.store ⟨block, header, header.hash suite, h⟩

/-- The index of blocks that are inserted one after the other (`MemoryLedger::new`). -/
def ofBlocks (suite : HashSuite) (blocks : List Block) : BlockIndex :=
  blocks.foldl (insert suite) {}

/-! ## Answers -/

/-- The end of the channel (`chain_info`). The height is one more than the highest number, which is too much
for 64 bits if that number is the last one. -/
def tip (index : BlockIndex) : Except LedgerFailure ChainTip :=
  match index.blocks.getLast? with
  | none => .ok ⟨0, [], []⟩
  | some last =>
    if last.number = 0xffffffffffffffff then .error .overflow
    else .ok ⟨last.number + 1, last.hash, last.header.previousHash⟩

def block (index : BlockIndex) : BlockRef → Except LedgerFailure Block
  | .hash bytes =>
    match index.findHash? bytes with
    | some stored => .ok stored.block
    | none => .error (.notFound ("block with hash " ++ Bytes.toHex bytes))
  | .number n =>
    match index.find? n with
    | some stored => .ok stored.block
    | none => .error (.notFound ("block number " ++ toString n))

/-- What the index answers. -/
def answers (index : BlockIndex) : Answers where
  tip := index.tip
  block := index.block

end BlockIndex

end ChannelLedger
