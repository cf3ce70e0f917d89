import ChannelLedger.Ledger.Query
import ChannelLedger.Slot.Failure
import ChannelLedger.Walk.StopRule

/-!
# Why a walk ends without a history

A walk that meets a failure has no result, however many blocks it has visited. The overflow of a
height is not the failure of a query: it ends everything that was going on.
-/
namespace ChannelLedger

/-- Why a walk gives no history (`BrowseError`). -/
inductive WalkFailure where
  /-- The rule cannot be used; the ledger was not asked. -/
  | stopRule (cause : StopRuleFailure)
  /-- The ledger does not say where the channel ends. -/
  | tip (cause : LedgerFailure)
  /-- A block cannot be had. -/
  | fetch (ref : BlockRef) (cause : LedgerFailure)
  /-- A block does not decode. -/
  | decode (number : UInt64) (cause : DecodeFailure)
  /-- The walk was called off after that many blocks. -/
  | cancelled (blocks : Nat)
  /-- The height is no number of 64 bits. -/
  | overflow
  /-- The links of the ledger lead round in a circle that no rule leaves. -/
  | endless
  deriving DecidableEq, Repr

namespace WalkFailure

def message : WalkFailure → String
  | .stopRule cause => "invalid browse configuration: " ++ cause.message
  | .tip cause => "failed to query chain info: " ++ cause.message
  | .fetch ref cause => "failed to fetch block " ++ ref.text ++ ": " ++ cause.message
  | .decode number cause => "failed to decode block " ++ toString number ++ ": " ++ cause.message
  | .cancelled blocks => "traversal cancelled after " ++ toString blocks ++ " blocks"
  | .overflow => overflowMessage
  | .endless => "the links of the ledger lead round in a circle"

/-- The wordings of what brought the failure about, nearest first. -/
def sources : WalkFailure → List String
  | .stopRule cause => cause.message :: cause.sources
  | .tip cause => cause.message :: cause.sources
  | .fetch _ cause => cause.message :: cause.sources
  | .decode _ cause => cause.message :: cause.sources
  | _ => []

/-- The failure of a walk whose first query fails. -/
def ofTip : LedgerFailure → WalkFailure
  | .overflow => .overflow
  | cause => .tip cause

/-- The failure of a walk that cannot have a block. -/
def ofFetch (ref : BlockRef) : LedgerFailure → WalkFailure
  | .overflow => .overflow
  | cause => .fetch ref cause

end WalkFailure

end ChannelLedger
