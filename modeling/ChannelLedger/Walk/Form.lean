import ChannelLedger.Text.Decimal
import ChannelLedger.Text.Percent
import ChannelLedger.Walk.StopRule

/-!
# Rules in a query

The numeric form of a rule as the query of a web address. Every component has a default, other
names are ignored, and numbers are decimal.
-/
namespace ChannelLedger

/-- The rule in numbers that a query states. -/
def NumericStopRule.ofQuery? (query : String) : Option NumericStopRule := do
  let pairs := Form.pairs query
  return {
    kind := ← Form.component? pairs "limit_type" 0 Decimal.int32?
    blockCount := ← Form.component? pairs "block_count_limit" 0 Decimal.uint64?
    hash := ← Form.component? pairs "last_block_hash" "" some
    number := ← Form.component? pairs "last_block_num" 0 Decimal.uint64? }

end ChannelLedger
