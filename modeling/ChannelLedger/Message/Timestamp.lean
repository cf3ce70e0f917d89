import ChannelLedger.Wire.Message

/-!
# Times

A moment in time, as messages carry it.
-/
namespace ChannelLedger

open Wire

/-- A moment: seconds since the start of 1970, and nanoseconds. -/
structure Timestamp where
  seconds : Int64 := 0
  nanos : Int32 := 0
  deriving DecidableEq, Repr

instance : Message Timestamp where
  schema := .of "Timestamp" [(1, "seconds", .int64), (2, "nanos", .int32)]
  ofRecord := fun (seconds, nanos, ()) => ⟨seconds, nanos⟩
  toRecord m := (m.seconds, m.nanos, ())

end ChannelLedger
