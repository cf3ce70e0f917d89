import ChannelLedger.Wire.Fault

/-!
# Why a ledger does not answer

The failures of a ledger, whatever keeps its blocks. A failure that another one brought about
names it as its source.
-/
namespace ChannelLedger

/-- Why a ledger does not answer (`LedgerError`). -/
inductive LedgerFailure where
  /-- No block answers the query. -/
  | notFound (what : String)
  /-- The store cannot be read or written. -/
  | io (reason : String)
  /-- A stored block does not decode. -/
  | malformed (path : String) (fault : Wire.Fault)
  /-- There is no store to ask. -/
  | unavailable (reason : String)
  /-- The height would not be a number of 64 bits. -/
  | overflow
  deriving DecidableEq, Repr

/-- What is said where a sum leaves the 64-bit range. -/
def overflowMessage : String := "attempt to add with overflow"

namespace LedgerFailure

def message : LedgerFailure → String
  | .notFound what => "not found: " ++ what
  | .io reason => "I/O error: " ++ reason
  | .malformed path fault => "failed to decode " ++ path ++ ": " ++ fault.message
  | .unavailable reason => "ledger unavailable: " ++ reason
  | .overflow => overflowMessage

/-- The wordings of what brought the failure about, nearest first. -/
def sources : LedgerFailure → List String
  | .io reason => [reason]
  | .malformed _ fault => [fault.message]
  | _ => []

end LedgerFailure

end ChannelLedger
