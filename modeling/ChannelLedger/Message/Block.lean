import ChannelLedger.Wire.Message

/-!
# Blocks

A block is a header, the transaction slots, and metadata that the committer adds. The header
links the block to the one before it; the slots and the metadata entries are byte strings of their
own, decoded later.
-/
namespace ChannelLedger

open Wire

/-- Number and links of a block. -/
structure BlockHeader where
  number : UInt64 := 0
  previousHash : Bytes := []
  dataHash : Bytes := []
  deriving DecidableEq, Repr

instance : Message BlockHeader where
  schema := .of "BlockHeader" [
    (1, "number", .uint64),
    (2, "previous_hash", .bytes),
    (3, "data_hash", .bytes)]
  ofRecord := fun (number, previousHash, dataHash, ()) => ⟨number, previousHash, dataHash⟩
  toRecord m := (m.number, m.previousHash, m.dataHash, ())

/-- The transaction slots of a block. -/
structure BlockData where
  data : List Bytes := []
  deriving DecidableEq, Repr

instance : Message BlockData where
  schema := .of "BlockData" [(1, "data", .repeatedBytes)]
  ofRecord := fun (data, ()) => ⟨data⟩
  toRecord m := (m.data, ())

/-- What the orderer and the committer noted about a block, by position. -/
structure BlockMetadata where
  metadata : List Bytes := []
  deriving DecidableEq, Repr

instance : Message BlockMetadata where
  schema := .of "BlockMetadata" [(1, "metadata", .repeatedBytes)]
  ofRecord := fun (metadata, ()) => ⟨metadata⟩
  toRecord m := (m.metadata, ())

/-- A block of a channel. -/
structure Block where
  header : Option BlockHeader := none
  data : Option BlockData := none
  metadata : Option BlockMetadata := none
  deriving DecidableEq, Repr

instance : Message Block where
  schema := .of "Block" [
    (1, "header", (Message.schema BlockHeader).optional),
    (2, "data", (Message.schema BlockData).optional),
    (3, "metadata", (Message.schema BlockMetadata).optional)]
  ofRecord := fun (header, data, metadata, ()) =>
    ⟨Message.ofOptional header, Message.ofOptional data, Message.ofOptional metadata⟩
  toRecord m := (Message.toOptional m.header,
    Message.toOptional m.data, Message.toOptional m.metadata, ())
  ofRecord_toRecord m := by simp
  toRecord_ofRecord := fun (header, data, metadata, ()) => by simp; rfl

/-- The number of a block; one without a header counts as block 0. -/
def Block.number (block : Block) : UInt64 :=
  match block.header with
  | none => 0
  | some header => header.number

/-- The link from a block to the one before it; the first block has an empty one. -/
def Block.link (block : Block) : Bytes :=
  match block.header with
  | none => []
  | some header => header.previousHash

/-- Height and tip of a channel. -/
structure BlockchainInfo where
  height : UInt64 := 0
  currentBlockHash : Bytes := []
  previousBlockHash : Bytes := []
  deriving DecidableEq, Repr

instance : Message BlockchainInfo where
  schema := .of "BlockchainInfo" [
    (1, "height", .uint64),
    (2, "current_block_hash", .bytes),
    (3, "previous_block_hash", .bytes)]
  ofRecord := fun (height, currentBlockHash, previousBlockHash, ()) =>
    ⟨height, currentBlockHash, previousBlockHash⟩
  toRecord m := (m.height, m.currentBlockHash, m.previousBlockHash, ())

end ChannelLedger
