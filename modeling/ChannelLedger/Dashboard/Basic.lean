import ChannelLedger.Record.History

/-!
# Dashboards

What a dashboard shows of a channel's latest blocks: counts over all of them, and a row for each.
The rows are the blocks of the history it was built from, one for one and in order.
-/
namespace ChannelLedger

/-- Counts over the loaded blocks (`ChainStats`). -/
structure ChannelStats where
  height : UInt64 := 0
  blocksLoaded : Nat := 0
  transactionsLoaded : Nat := 0
  /-- How many transactions the committer found valid. -/
  valid : Nat := 0
  /-- How many transactions the committer found invalid. -/
  invalid : Nat := 0
  /-- The first channel name that is not empty. -/
  channelId : Option String := none
  hashSuite : String := ""
  deriving DecidableEq, Repr

/-- What a dashboard shows of one block (`BlockRow`). -/
structure BlockRow where
  number : UInt64
  hash : String
  previousHash : String
  transactionCount : Nat
  /-- When the first transaction was created. -/
  createdAt : Option String
  deriving DecidableEq, Repr

/-- What a dashboard shows (`DashboardData`). -/
structure Dashboard where
  stats : ChannelStats := {}
  recentBlocks : List BlockRow := []
  /-- In seconds since 1970. -/
  lastUpdated : UInt64 := 0
  deriving DecidableEq, Repr

/-- The row of a block, as `from_summary` makes it. -/
def BlockRow.ofBlock (block : BlockRecord) : BlockRow where
  number := block.overview.number
  hash := block.overview.blockHash
  previousHash := block.overview.previousHash
  transactionCount := block.overview.transactionCount
  createdAt := block.transactions.head?.map (·.createdAt)

namespace Dashboard

/-- The dashboard of a history (`from_summary`). -/
def ofHistory (history : ChannelHistory) (hashSuite : String) (now : UInt64) : Dashboard where
  stats := {
    height := history.height
    blocksLoaded := history.blocks.length
    transactionsLoaded := history.transactionTotal
    valid := history.transactions.countP (·.isValid = some true)
    invalid := history.transactions.countP (·.isValid = some false)
    channelId := (history.transactions.map (·.channelId)).find? (· ≠ "")
    hashSuite := hashSuite }
  recentBlocks := history.blocks.map .ofBlock
  lastUpdated := now

/-- How many transactions have a verdict. -/
def checked (dashboard : Dashboard) : Nat :=
  dashboard.stats.valid + dashboard.stats.invalid

/-- How many of a hundred transactions with a verdict are valid, rounded down. -/
def validPercentage (dashboard : Dashboard) : Nat :=
  dashboard.stats.valid * 100 / dashboard.checked

end Dashboard

end ChannelLedger
