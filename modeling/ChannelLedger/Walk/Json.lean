import ChannelLedger.Record.Json
import ChannelLedger.Walk.Browse

/-!
# The JSON form of tips and stop rules

A rule is written under the name of its kind. In the numeric form every component has a default,
so an object may leave out any of them and an array may end early.
-/
namespace ChannelLedger

namespace ChainTip

def toJson (tip : ChainTip) : Json := .object [
  ("height", .nat tip.height.toNat), ("current_block_hash", tip.currentHash.toJson),
  ("previous_block_hash", tip.previousHash.toJson)]

def ofJson? (json : Json) : Option ChainTip := do
  match ← json.components? ["height", "current_block_hash", "previous_block_hash"] with
  | [height, currentHash, previousHash] =>
    return {
      height := ← Json.required Json.uint64? height
      currentHash := ← Json.required Bytes.ofJson? currentHash
      previousHash := ← Json.required Bytes.ofJson? previousHash }
  | _ => none

end ChainTip

namespace StopRule

/-- The rule under the name of its kind. -/
def toJson (rule : StopRule) : Json :=
  .object [("stop", .object [match rule with
    | .blockCount limit => ("BlockCountLimit", .nat limit.toNat)
    | .hash target => ("TargetPreviousHash", target.toJson)
    | .number target => ("TargetBlockNumber", .nat target.toNat)])]

/-- The rule of a kind. -/
def ofKind? : Json → Option StopRule
  | .object [("BlockCountLimit", limit)] => limit.uint64?.map .blockCount
  | .object [("TargetPreviousHash", target)] => (Bytes.ofJson? target).map .hash
  | .object [("TargetBlockNumber", target)] => target.uint64?.map .number
  | _ => none

def ofJson? (json : Json) : Option StopRule := do
  match ← json.components? ["stop"] with
  | [stop] => Json.required ofKind? stop
  | _ => none

end StopRule

namespace NumericStopRule

def toJson (form : NumericStopRule) : Json := .object [
  ("limit_type", .int form.kind.toInt), ("block_count_limit", .nat form.blockCount.toNat),
  ("last_block_hash", .string form.hash), ("last_block_num", .nat form.number.toNat)]

def fieldNames : List String :=
  ["limit_type", "block_count_limit", "last_block_hash", "last_block_num"]

/-- The components of the form, absent where the array ends early. -/
def components? : Json → Option (List (Option Json))
  | .array (first :: rest) =>
    let items := first :: rest
    if items.length ≤ fieldNames.length then
      some (items.map some ++ List.replicate (fieldNames.length - items.length) none)
    else none
  | json => json.components? fieldNames

def ofJson? (json : Json) : Option NumericStopRule := do
  match ← components? json with
  | [kind, blockCount, hash, number] =>
    return {
      kind := ← Json.withDefault 0 Json.int32? kind
      blockCount := ← Json.withDefault 0 Json.uint64? blockCount
      hash := ← Json.withDefault "" Json.string? hash
      number := ← Json.withDefault 0 Json.uint64? number }
  | _ => none

end NumericStopRule

end ChannelLedger
