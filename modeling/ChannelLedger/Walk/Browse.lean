import ChannelLedger.Block.Decode
import ChannelLedger.Ledger.Index
import ChannelLedger.Record.History
import ChannelLedger.Walk.Failure

/-!
# Walking a channel

From the tip of a channel back to its first block, or to where a rule stops the walk. There are two
ways to go: by hash, where each block names the one before it, and by number, counting down. Both
stop where a rule holds and where the link to go on with is empty, both decode every block they
come to, and both can be called off in front of each block.

The walk by number ends by itself. The one by hash goes on as long as the ledger gives it links, so
it is told how many steps to take at most, and has no result if that many were not enough. For a
ledger whose answers never change, a bound can be computed that only endless walks exceed.
-/
namespace ChannelLedger

/-- How a walk is told what to do (`BrowseConfig` and `CancelToken`). -/
structure WalkPlan (σ : Type) where
  rule : StopRule
  /-- Whether the walk is called off, as the state of the ledger says in front of a block. -/
  cancelled : σ → Bool := fun _ => false

/-- Where a walk stands: what it has seen, the link to go on with, and the number that the next
block is expected to have. -/
structure Walk where
  history : ChannelHistory
  pointer : Bytes
  expected : Option UInt64
  deriving DecidableEq, Repr

/-- The number in front of another one. -/
def previousNumber (number : UInt64) : Option UInt64 :=
  if number = 0 then none else some (number - 1)

namespace Walk

/-- How many blocks were visited. -/
def visited (walk : Walk) : Nat :=
  walk.history.blocks.length

/-- The walk in front of its first block. -/
def start (tip : ChainTip) : Walk where
  history := { height := tip.height }
  pointer := tip.currentHash
  expected := previousNumber tip.height

/-- Whether the walk is over. -/
def isOver (rule : StopRule) (walk : Walk) : Bool :=
  rule.holds walk.visited walk.pointer walk.expected || walk.pointer.isEmpty

/-! ## By hash -/

/-- The walk past a block that was found under the pointer. -/
def passHash (walk : Walk) (block : Block) : Except WalkFailure Walk := do
  let record ← (BlockRecord.ofBlock block walk.pointer).mapError (.decode block.number)
  return ⟨walk.history.push record, block.link, previousNumber record.overview.number⟩

/-- The end of a walk, or the walk one block further. -/
abbrev Step := Except WalkFailure ChannelHistory ⊕ Walk

/-- One turn of the loop of `browse`: look whether the walk is over, and if not, go past the next block. -/
def stepHash {σ : Type} (ledger : Ledger σ) (plan : WalkPlan σ) (walk : Walk) (state : σ) :
    Step × σ :=
  if plan.cancelled state then (.inl (.error (.cancelled walk.visited)), state)
  else if walk.isOver plan.rule then (.inl (.ok walk.history), state)
  else
    match ledger.block (.hash walk.pointer) state with
    | (.error cause, state) => (.inl (.error (.ofFetch (.hash walk.pointer) cause)), state)
    | (.ok block, state) =>
      match walk.passHash block with
      | .error failure => (.inl (.error failure), state)
      | .ok walk => (.inr walk, state)

/-- The end of a walk by hash, if it comes within that many steps. -/
def runHash {σ : Type} (ledger : Ledger σ) (plan : WalkPlan σ) :
    (steps : Nat) → Walk → σ → Option (Except WalkFailure ChannelHistory) × σ
  | 0, _, state => (none, state)
  | steps + 1, walk, state =>
    match stepHash ledger plan walk state with
    | (.inl result, state) => (some result, state)
    | (.inr walk, state) => runHash ledger plan steps walk state

/-! ## By number -/

/-- The walk past a block that was found under its number. -/
def passNumber (suite : HashSuite) (number : UInt64) (walk : Walk) (block : Block) :
    Except WalkFailure Walk := do
  let hash := match block.header with
    | none => []
    | some header => header.hash suite
  let record ← (BlockRecord.ofBlock block hash).mapError (.decode number)
  return ⟨walk.history.push record, block.link, previousNumber number⟩

/-- The end of a walk by number that has `below` numbers to go, turn by turn of the loop of `browse_by_number`. -/
def runNumber {σ : Type} (suite : HashSuite) (ledger : Ledger σ) (plan : WalkPlan σ) :
    (below : Nat) → Walk → σ → Except WalkFailure ChannelHistory × σ
  | 0, walk, state => (.ok walk.history, state)
  | below + 1, walk, state =>
    let number := UInt64.ofNat below
    if plan.cancelled state then (.error (.cancelled walk.visited), state)
    else if walk.isOver plan.rule then (.ok walk.history, state)
    else
      match ledger.block (.number number) state with
      | (.error cause, state) => (.error (.ofFetch (.number number) cause), state)
      | (.ok block, state) =>
        match walk.passNumber suite number block with
        | .error failure => (.error failure, state)
        | .ok walk => runNumber suite ledger plan below walk state

end Walk

namespace Ledger

variable {σ : Type} (ledger : Ledger σ)

/-- Asks for the tip and stands in front of the first block. -/
def startWalk (rule : StopRule) (state : σ) : Except WalkFailure Walk × σ :=
  match rule.validate with
  | .error cause => (.error (.stopRule cause), state)
  | .ok () =>
    match ledger.tip state with
    | (.error cause, state) => (.error (.ofTip cause), state)
    | (.ok tip, state) => (.ok (.start tip), state)

/-- Walks the channel by hash, at most that many steps (`browse`). -/
def browse (plan : WalkPlan σ) (steps : Nat) (state : σ) :
    Option (Except WalkFailure ChannelHistory) × σ :=
  match ledger.startWalk plan.rule state with
  | (.error failure, state) => (some (.error failure), state)
  | (.ok walk, state) => walk.runHash ledger plan steps state

/-- Walks the channel by number (`browse_by_number`). -/
def browseByNumber (suite : HashSuite) (plan : WalkPlan σ) (state : σ) :
    Except WalkFailure ChannelHistory × σ :=
  match ledger.startWalk plan.rule state with
  | (.error failure, state) => (.error failure, state)
  | (.ok walk, state) => walk.runNumber suite ledger plan walk.history.height.toNat state

end Ledger

/-! ## Ledgers that always answer the same -/

/-- How many steps a walk by hash can take over that many blocks before it is known to be endless,
unless the rule counts further than that. -/
def StopRule.steps (rule : StopRule) (blocks : Nat) : Nat :=
  match rule with
  | .blockCount limit => max limit.toNat blocks + 1
  | _ => blocks + 1

namespace BlockIndex

/-- Walks the channel of an index by hash. -/
def browse (index : BlockIndex) (rule : StopRule) : Except WalkFailure ChannelHistory :=
  ((index.answers.ledger Unit).browse ⟨rule, fun _ => false⟩ (rule.steps index.size) ()).1.getD
    (.error .endless)

/-- Walks the channel of an index by number. -/
def browseByNumber (index : BlockIndex) (suite : HashSuite) (rule : StopRule) :
    Except WalkFailure ChannelHistory :=
  ((index.answers.ledger Unit).browseByNumber suite ⟨rule, fun _ => false⟩ ()).1

end BlockIndex

end ChannelLedger
