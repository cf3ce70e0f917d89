import Mathlib
import ChannelLedger.Proofs.Outcome
import ChannelLedger.Walk.Browse

/-!
# One step of a walk

What a step of either walk does, one equation for each of its outcomes: the walk is over, the ledger
has no block to go on with, or it has one, which decodes or does not. They hold for every ledger,
also one whose answers change. Passing a block adds its record to the history (`passHash_ok`,
`passNumber_ok`), and a history that was built block by block is determined by the records
(`ChannelHistory.of`): its sums, lists and projections are never out of step with them.
-/
namespace ChannelLedger

namespace ChannelHistory

/-- The history that consists of these blocks. -/
def of (height : UInt64) (records : List BlockRecord) : ChannelHistory where
  height := height
  transactionTotal := (records.map (·.overview.transactionCount)).sum
  blocks := records
  transactions := records.flatMap (·.transactions)
  overviews := records.map (·.overview)

theorem push_of (height : UInt64) (records : List BlockRecord) (record : BlockRecord) :
    (of height records).push record = of height (records ++ [record]) := by
  simp [of, push]

end ChannelHistory

namespace Block

theorem hash_of_header {suite : HashSuite} {block : Block} {header : BlockHeader}
    (h : block.header = some header) : block.hash suite = header.hash suite := by
  simp [hash, h]

theorem number_of_header {block : Block} {header : BlockHeader} (h : block.header = some header) :
    block.number = header.number := by
  simp [number, h]

end Block

namespace BlockRecord

/-- The overview of a record shows the header of its block, and the hash that was given. -/
theorem overview_of_ofBlock {block : Block} {hash : Bytes} {record : BlockRecord}
    (h : ofBlock block hash = .ok record) :
    ∃ header, block.header = some header ∧ record.overview = ⟨header.number, Bytes.toHex hash,
      Bytes.toHex header.previousHash, record.transactions.length⟩ := by
  unfold ofBlock at h
  cases hh : block.header with
  | none => simp [hh] at h
  | some header =>
    cases hd : block.data with
    | none => simp [hh, hd] at h
    | some data =>
      simp only [hh, hd] at h
      obtain ⟨transactions, -, h⟩ := Outcome.bind_eq_ok.1 h
      simp only [Outcome.pure_eq, Except.ok.injEq] at h
      exact ⟨header, rfl, by rw [← h]⟩

/-- A record carries the number of its block. -/
theorem number_of_ofBlock {block : Block} {hash : Bytes} {record : BlockRecord}
    (h : ofBlock block hash = .ok record) : record.overview.number = block.number := by
  obtain ⟨header, hh, hoverview⟩ := overview_of_ofBlock h
  rw [hoverview, Block.number_of_header hh]

end BlockRecord

namespace Walk

/-! ## Passing a block -/

theorem passHash_ok {walk : Walk} {block : Block} {record : BlockRecord}
    (h : BlockRecord.ofBlock block walk.pointer = .ok record) :
    walk.passHash block = .ok ⟨walk.history.push record, block.link, previousNumber block.number⟩ := by
  rw [← BlockRecord.number_of_ofBlock h]
  simp [passHash, h]

theorem passHash_error {walk : Walk} {block : Block} {cause : DecodeFailure}
    (h : BlockRecord.ofBlock block walk.pointer = .error cause) :
    walk.passHash block = .error (.decode block.number cause) := by
  simp [passHash, h]

theorem passNumber_eq (suite : HashSuite) (number : UInt64) (walk : Walk) (block : Block) :
    walk.passNumber suite number block =
      ((BlockRecord.ofBlock block (block.hash suite)).mapError (.decode number)).map
        fun record => ⟨walk.history.push record, block.link, previousNumber number⟩ := by
  change ((BlockRecord.ofBlock block (block.hash suite)).mapError (WalkFailure.decode number) >>= _) = _
  cases BlockRecord.ofBlock block (block.hash suite) <;> rfl

theorem passNumber_ok {suite : HashSuite} {number : UInt64} {walk : Walk} {block : Block}
    {record : BlockRecord} (h : BlockRecord.ofBlock block (block.hash suite) = .ok record) :
    walk.passNumber suite number block =
      .ok ⟨walk.history.push record, block.link, previousNumber number⟩ := by
  rw [passNumber_eq, h]
  rfl

theorem passNumber_error {suite : HashSuite} {number : UInt64} {walk : Walk} {block : Block}
    {cause : DecodeFailure} (h : BlockRecord.ofBlock block (block.hash suite) = .error cause) :
    walk.passNumber suite number block = .error (.decode number cause) := by
  rw [passNumber_eq, h]
  rfl

section
variable {σ : Type} {ledger : Ledger σ} {plan : WalkPlan σ} {walk : Walk} {state state' : σ}

/-! ## By hash -/

variable {steps : Nat}

theorem runHash_over (hc : plan.cancelled state = false) (ho : walk.isOver plan.rule = true) :
    runHash ledger plan (steps + 1) walk state = (some (.ok walk.history), state) := by
  simp [runHash, stepHash, hc, ho]

theorem runHash_error {cause : LedgerFailure} (hc : plan.cancelled state = false)
    (ho : walk.isOver plan.rule = false)
    (hb : ledger.block (.hash walk.pointer) state = (.error cause, state')) :
    runHash ledger plan (steps + 1) walk state =
      (some (.error (.ofFetch (.hash walk.pointer) cause)), state') := by
  simp [runHash, stepHash, hc, ho, hb]

theorem runHash_block {block : Block} (hc : plan.cancelled state = false)
    (ho : walk.isOver plan.rule = false)
    (hb : ledger.block (.hash walk.pointer) state = (.ok block, state')) :
    runHash ledger plan (steps + 1) walk state =
      match walk.passHash block with
      | .error failure => (some (.error failure), state')
      | .ok walk => runHash ledger plan steps walk state' := by
  cases hpass : walk.passHash block <;>
    simp only [runHash, stepHash, hc, ho, hb, hpass, Bool.false_eq_true, ↓reduceIte]

/-! ## By number -/

variable {suite : HashSuite} {below : Nat}

theorem runNumber_over (hc : plan.cancelled state = false) (ho : walk.isOver plan.rule = true) :
    runNumber suite ledger plan (below + 1) walk state = (.ok walk.history, state) := by
  simp [runNumber, hc, ho]

theorem runNumber_error {cause : LedgerFailure} (hc : plan.cancelled state = false)
    (ho : walk.isOver plan.rule = false)
    (hb : ledger.block (.number (UInt64.ofNat below)) state = (.error cause, state')) :
    runNumber suite ledger plan (below + 1) walk state =
      (.error (.ofFetch (.number (UInt64.ofNat below)) cause), state') := by
  simp [runNumber, hc, ho, hb]

theorem runNumber_block {block : Block} (hc : plan.cancelled state = false)
    (ho : walk.isOver plan.rule = false)
    (hb : ledger.block (.number (UInt64.ofNat below)) state = (.ok block, state')) :
    runNumber suite ledger plan (below + 1) walk state =
      match walk.passNumber suite (UInt64.ofNat below) block with
      | .error failure => (.error failure, state')
      | .ok walk => runNumber suite ledger plan below walk state' := by
  cases hpass : walk.passNumber suite (UInt64.ofNat below) block <;>
    simp only [runNumber, hc, ho, hb, hpass, Bool.false_eq_true, ↓reduceIte]

end

end Walk

/-! ## The walks of an index -/

/-- The plan of a walk that nothing calls off. -/
abbrev StopRule.plan (rule : StopRule) : WalkPlan Unit := ⟨rule, fun _ => false⟩

namespace BlockIndex

variable {index : BlockIndex} {suite : HashSuite} {rule : StopRule}

theorem browse_invalid {cause : StopRuleFailure} (h : rule.validate = .error cause) :
    index.browse rule = .error (.stopRule cause) := by
  simp [browse, Ledger.browse, Ledger.startWalk, h]

theorem browseByNumber_invalid {cause : StopRuleFailure} (h : rule.validate = .error cause) :
    index.browseByNumber suite rule = .error (.stopRule cause) := by
  simp [browseByNumber, Ledger.browseByNumber, Ledger.startWalk, h]

theorem browse_valid {tip : ChainTip} (h : rule.validate = .ok ()) (ht : index.tip = .ok tip) :
    index.browse rule = (((Walk.start tip).runHash (index.answers.ledger Unit) rule.plan
      (rule.steps index.size) ()).1).getD (.error .endless) := by
  simp [browse, Ledger.browse, Ledger.startWalk, Answers.ledger, answers, h, ht]

theorem browseByNumber_valid {tip : ChainTip} (h : rule.validate = .ok ())
    (ht : index.tip = .ok tip) :
    index.browseByNumber suite rule = ((Walk.start tip).runNumber suite (index.answers.ledger Unit)
      rule.plan tip.height.toNat ()).1 := by
  simp [browseByNumber, Ledger.browseByNumber, Ledger.startWalk, Answers.ledger, answers, h, ht,
    Walk.start]

/-- A walk by hash may take more steps than there are blocks. -/
theorem lt_steps (rule : StopRule) {count blocks : Nat} (h : count ≤ blocks) :
    count < rule.steps blocks := by
  cases rule <;> simp only [StopRule.steps] <;> omega

end BlockIndex

end ChannelLedger
