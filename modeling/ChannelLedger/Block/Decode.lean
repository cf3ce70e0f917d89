import ChannelLedger.Message.Block
import ChannelLedger.Record.Block
import ChannelLedger.Slot.Assemble

/-!
# From a block to a record

Every slot of a block decodes on its own and in order; the first that fails decides. The
committer's verdicts stand in one entry of the metadata, a byte for each slot, and may be missing.
The hash of a block is not computed here: the caller knows under which hash the block was found.
-/
namespace ChannelLedger

namespace Block

/-- Where the committer's verdicts stand in the metadata (`TRANSACTIONS_FILTER`). -/
def verdictsIndex : Nat := 2

/-- The committer's verdicts (`transaction_filter`). -/
def verdicts (block : Block) : Bytes :=
  match block.metadata with
  | none => []
  | some metadata => metadata.metadata.getD verdictsIndex []

end Block

namespace BlockRecord

/-- The transactions of the slots from the given position on, as the loop of `decode_block` finds them. -/
def ofSlots (number : UInt64) (verdicts : Bytes) :
    (index : Nat) → List Bytes → Except DecodeFailure (List TransactionRecord)
  | _, [] => .ok []
  | index, raw :: slots => do
    let tx ← (TransactionRecord.ofSlot raw).mapError (.slot number index)
    let txs ← ofSlots number verdicts (index + 1) slots
    return { tx with validationCode := verdicts[index]? } :: txs

/-- The record of a block whose hash is given (`decode_block`). -/
def ofBlock (block : Block) (hash : Bytes) : Except DecodeFailure BlockRecord := do
  let some header := block.header | throw (.missing .block "header")
  let some data := block.data | throw (.missing .block "data")
  let transactions ← ofSlots header.number block.verdicts 0 data.data
  return ⟨⟨header.number, Bytes.toHex hash, Bytes.toHex header.previousHash, transactions.length⟩,
    transactions⟩

end BlockRecord

end ChannelLedger
