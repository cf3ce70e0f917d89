import ChannelLedger.Bytes.Hex

/-!
# Where a walk stops

A walk goes from the tip of a channel back towards its first block; a rule says where it stops on
its way. A rule can be stated in two forms: as it is, and as a set of numbers and texts in which the
kind of the rule is a number of its own and only the component of that kind counts.
-/
namespace ChannelLedger

/-- When a walk stops (`StopCondition`). -/
inductive StopRule where
  /-- Stop after this many blocks; zero means never. -/
  | blockCount (limit : UInt64)
  /-- Stop in front of the block with this header hash. -/
  | hash (target : Bytes)
  /-- Stop in front of the block with this number. -/
  | number (target : UInt64)
  deriving DecidableEq, Repr

/-- Why a rule cannot be used (`ConfigError`). -/
inductive StopRuleFailure where
  /-- No kind of rule has that number. -/
  | unknownKind (kind : Int32)
  /-- A hash is called for and there is none. -/
  | noHash
  /-- A hash is not hexadecimal. -/
  | notHex (fault : Hex.Fault)
  deriving DecidableEq, Repr

namespace StopRuleFailure

def message : StopRuleFailure → String
  | .unknownKind kind =>
    "unsupported stop condition kind " ++ toString kind.toInt ++ " (expected 0, 1 or 2)"
  | .noHash => "target previous hash is required for this stop condition"
  | .notHex fault => "target previous hash is not valid hex: " ++ fault.message

/-- The wordings of what brought the failure about, nearest first. -/
def sources : StopRuleFailure → List String
  | .notHex fault => [fault.message]
  | _ => []

end StopRuleFailure

namespace StopRule

/-- The rule that never stops a walk. -/
def unlimited : StopRule := .blockCount 0

/-- The rule that stops in front of a hash in hexadecimal (`target_previous_hash`). -/
def ofHash (text : String) : Except StopRuleFailure StopRule :=
  if text = "" then .error .noHash
  else ((Bytes.ofHex text).mapError .notHex).map .hash

/-- A walk is not begun in search of the empty hash (`validate`). -/
def validate : StopRule → Except StopRuleFailure Unit
  | .hash [] => .error .noHash
  | _ => .ok ()

/-- Whether a walk stops that has visited `visited` blocks and comes to the block of a hash (`should_stop`).
The number is the one that the block is expected to have, if it is expected to have any. -/
def holds (rule : StopRule) (visited : Nat) (pointer : Bytes) (number : Option UInt64) : Bool :=
  match rule with
  | .blockCount limit => 0 < limit ∧ limit.toNat ≤ visited
  | .hash target => pointer = target
  | .number target => number = some target

end StopRule

/-- A rule in numbers (`RawBrowseConfig`): kind 0 counts blocks, kind 1 looks for a hash, kind 2 for a number. -/
structure NumericStopRule where
  kind : Int32 := 0
  blockCount : UInt64 := 0
  /-- In hexadecimal. -/
  hash : String := ""
  number : UInt64 := 0
  deriving DecidableEq, Repr

/-- The rule that the numbers mean (`try_from`). -/
def NumericStopRule.rule (form : NumericStopRule) : Except StopRuleFailure StopRule :=
  if form.kind = 0 then .ok (.blockCount form.blockCount)
  else if form.kind = 1 then StopRule.ofHash form.hash
  else if form.kind = 2 then .ok (.number form.number)
  else .error (.unknownKind form.kind)

end ChannelLedger
