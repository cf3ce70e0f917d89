import ChannelLedger.Record.Transaction
import ChannelLedger.Text.Layout

/-!
# Blocks as records

A decoded block with every transaction it carries, and the overview of it: number, hashes and how
many transactions there are.
-/
namespace ChannelLedger

/-- What is shown of a block (`BlockInfoBasic`). -/
structure BlockOverview where
  number : UInt64
  /-- Hashes as hexadecimal text. -/
  blockHash : String
  previousHash : String
  transactionCount : Nat
  deriving DecidableEq, Repr

/-- A block with its transactions (`BlockInfoWithTx`). -/
structure BlockRecord where
  overview : BlockOverview
  transactions : List TransactionRecord
  deriving DecidableEq, Repr

/-- One line that shows a block. -/
def BlockOverview.text (b : BlockOverview) : String :=
  "Block " ++ toString b.number ++ " (" ++ toString b.transactionCount ++ " txs) hash: "
    ++ b.blockHash ++ " previous: " ++ b.previousHash

/-- A block with the lines of its transactions indented below it. -/
def BlockRecord.text (b : BlockRecord) : String :=
  b.overview.text ++ "\n" ++ String.join (b.transactions.map fun tx => Text.indented "    " tx.text)

end ChannelLedger
