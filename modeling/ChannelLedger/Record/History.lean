import ChannelLedger.Record.Block

/-!
# The history of a channel

The result of walking a channel back from its tip: the blocks that were visited, newest first, and
the same blocks' transactions and overviews. The height is the one that the ledger reported, so it
may be larger than the number of blocks.
-/
namespace ChannelLedger

/-- The blocks that a walk has found (`ChannelSummary`). -/
structure ChannelHistory where
  height : UInt64 := 0
  /-- How many transactions the visited blocks have. -/
  transactionTotal : Nat := 0
  blocks : List BlockRecord := []
  transactions : List TransactionRecord := []
  overviews : List BlockOverview := []
  deriving DecidableEq, Repr

namespace ChannelHistory

/-- The history with one more block behind it (`Accumulator::push`). -/
def push (h : ChannelHistory) (block : BlockRecord) : ChannelHistory where
  height := h.height
  transactionTotal := h.transactionTotal + block.overview.transactionCount
  blocks := h.blocks ++ [block]
  transactions := h.transactions ++ block.transactions
  overviews := h.overviews ++ [block.overview]

/-- The first transaction of that identifier (`find_transaction`). -/
def findTransaction (h : ChannelHistory) (txId : String) : Option TransactionRecord :=
  h.transactions.find? (·.txId = txId)

/-- The first block of that number (`find_block`). -/
def findBlock (h : ChannelHistory) (number : UInt64) : Option BlockRecord :=
  h.blocks.find? (·.overview.number = number)

def text (h : ChannelHistory) : String :=
  "Block height: " ++ toString h.height ++ ", transactions in " ++ toString h.blocks.length
    ++ " traversed blocks: " ++ toString h.transactionTotal ++ "\n"
    ++ String.join (h.blocks.map fun b => Text.indented "  " b.text)

end ChannelHistory

end ChannelLedger
