import ChannelLedger.Dashboard.Basic
import ChannelLedger.Json.Record

/-!
# The JSON form of dashboards

Like every record: an object whose fields stand in a fixed order, with `null` for what is absent.
-/
namespace ChannelLedger

namespace ChannelStats

def toJson (s : ChannelStats) : Json := .object [
  ("block_height", .nat s.height.toNat), ("blocks_loaded", .nat s.blocksLoaded),
  ("transactions_loaded", .nat s.transactionsLoaded), ("valid_transactions", .nat s.valid),
  ("invalid_transactions", .nat s.invalid), ("channel_id", .optional .string s.channelId),
  ("hash_suite", .string s.hashSuite)]

def fieldNames : List String := [
  "block_height", "blocks_loaded", "transactions_loaded", "valid_transactions",
  "invalid_transactions", "channel_id", "hash_suite"]

def ofJson? (json : Json) : Option ChannelStats := do
  match ← json.components? fieldNames with
  | [height, blocksLoaded, transactionsLoaded, valid, invalid, channelId, hashSuite] =>
    return {
      height := ← Json.required Json.uint64? height
      blocksLoaded := ← Json.required Json.nat64? blocksLoaded
      transactionsLoaded := ← Json.required Json.nat64? transactionsLoaded
      valid := ← Json.required Json.nat64? valid
      invalid := ← Json.required Json.nat64? invalid
      channelId := ← Json.optional? Json.string? channelId
      hashSuite := ← Json.required Json.string? hashSuite }
  | _ => none

end ChannelStats

namespace BlockRow

def toJson (row : BlockRow) : Json := .object [
  ("number", .nat row.number.toNat), ("hash", .string row.hash),
  ("previous_hash", .string row.previousHash),
  ("transaction_count", .nat row.transactionCount),
  ("created_at", .optional .string row.createdAt)]

def ofJson? (json : Json) : Option BlockRow := do
  match ← json.components?
      ["number", "hash", "previous_hash", "transaction_count", "created_at"] with
  | [number, hash, previousHash, transactionCount, createdAt] =>
    return {
      number := ← Json.required Json.uint64? number
      hash := ← Json.required Json.string? hash
      previousHash := ← Json.required Json.string? previousHash
      transactionCount := ← Json.required Json.nat64? transactionCount
      createdAt := ← Json.optional? Json.string? createdAt }
  | _ => none

end BlockRow

namespace Dashboard

def toJson (d : Dashboard) : Json := .object [
  ("chain_stats", d.stats.toJson), ("recent_blocks", .array (d.recentBlocks.map BlockRow.toJson)),
  ("last_updated", .nat d.lastUpdated.toNat)]

def ofJson? (json : Json) : Option Dashboard := do
  match ← json.components? ["chain_stats", "recent_blocks", "last_updated"] with
  | [stats, recentBlocks, lastUpdated] =>
    return {
      stats := ← Json.required ChannelStats.ofJson? stats
      recentBlocks := ← Json.required (Json.list? BlockRow.ofJson?) recentBlocks
      lastUpdated := ← Json.required Json.uint64? lastUpdated }
  | _ => none

end Dashboard

end ChannelLedger
