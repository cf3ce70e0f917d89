import ChannelLedger.Der.Writer
import ChannelLedger.Hash.Suite
import ChannelLedger.Message.Block

/-!
# Block hashes

A block is named by the hash of its header: the suite's hash of the DER sequence of the number,
the previous hash and the data hash. The encoding determines its header, so two headers of one
hash are either equal or a collision of the suite. The data hash covers the transaction slots, one
after the other.
-/
namespace ChannelLedger

/-- The DER encoding of a header that its hash is taken of (`header_der`). -/
def BlockHeader.der (header : BlockHeader) : Bytes :=
  Der.element Der.sequenceTag <|
    Der.element Der.integerTag (Der.unsigned header.number)
      ++ Der.element Der.octetStringTag header.previousHash
      ++ Der.element Der.octetStringTag header.dataHash

/-- The hash that names a block (`block_header_hash`). -/
def BlockHeader.hash (suite : HashSuite) (header : BlockHeader) : Bytes :=
  suite.hash header.der

/-- The hash that names a block; one without a header has none. -/
def Block.hash (suite : HashSuite) (block : Block) : Bytes :=
  match block.header with
  | none => []
  | some header => header.hash suite

/-- The hash that a header states of its transaction slots (`block_data_hash`). -/
def BlockData.hash (suite : HashSuite) (data : BlockData) : Bytes :=
  suite.hash data.data.flatten

end ChannelLedger
