import ChannelLedger.Block.Decode
import ChannelLedger.Ledger.Index

/-!
# One block of a ledger

The record of the block that an index holds under a number, with the hash that it is held under.
-/
namespace ChannelLedger

/-- Why a block cannot be shown. -/
inductive DetailFailure where
  /-- The ledger does not give it. -/
  | fetch (cause : LedgerFailure)
  /-- It cannot be decoded. -/
  | decode (cause : DecodeFailure)
  deriving DecidableEq, Repr

namespace BlockIndex

/-- The record of the block of a number, under the hash that the index holds it under. Where it
holds none, the hash is made of the block. -/
def detailOr (index : BlockIndex) (hashOf : Block → Bytes) (number : UInt64) :
    Except DetailFailure BlockRecord := do
  let block ← (index.block (.number number)).mapError .fetch
  (BlockRecord.ofBlock block ((index.hash? number).getD (hashOf block))).mapError .decode

/-- The record of the block of a number, which has no hash where the index holds none (`read_block`). -/
def detail (index : BlockIndex) (number : UInt64) : Except DetailFailure BlockRecord :=
  index.detailOr (fun _ => []) number

end BlockIndex

end ChannelLedger
