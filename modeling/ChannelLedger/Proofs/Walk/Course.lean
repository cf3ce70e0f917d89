import ChannelLedger.Proofs.Walk.Chain

/-!
# The course of a walk

The two walks do the same thing in front of every block and differ in a few words only: what they ask
for, which number they take a block for, and that a walk by number also ends where no number is left.
`Way` holds these words. `Walk.Course` is the course of either walk over a ledger whose answers may
change from call to call: what it fetches, one answer after the other, and how it ends. It says nothing
of the states of the ledger, so what follows from it holds whatever the ledger answers.

A ledger that keeps what it was asked and what it answered (`Ledger.recording`) shows the course of a
walk without changing it (`runHash_course`, `runNumber_course`). What is preserved by passing a block
holds in front of every block of the history (`Course.visit`), and the history is that of the fetched
blocks, in their order (`Course.history_eq`).
-/
namespace ChannelLedger

/-! ## Keeping the answers -/

/-- A query for a block, and what was answered. -/
structure Fetch where
  ref : BlockRef
  answer : Except LedgerFailure Block

/-- The hash under which a block is shown: the one that it was asked for with, or else its own. -/
def BlockRef.name (suite : HashSuite) (block : Block) : BlockRef → Bytes
  | .hash bytes => bytes
  | .number _ => block.hash suite

/-- The record that a fetch leads to, if it brought a block and the block decodes. -/
def Fetch.record? (suite : HashSuite) (fetch : Fetch) : Option BlockRecord :=
  match fetch.answer with
  | .error _ => none
  | .ok block => (BlockRecord.ofBlock block (fetch.ref.name suite block)).toOption

/-- The ledger that also keeps each query for a block with its answer, the last one at the end. -/
def Ledger.recording {σ : Type} (ledger : Ledger σ) : Ledger (σ × List Fetch) where
  tip := fun (state, fetches) =>
    let (answer, state) := ledger.tip state
    (answer, state, fetches)
  block ref := fun (state, fetches) =>
    let (answer, state) := ledger.block ref state
    (answer, state, fetches ++ [⟨ref, answer⟩])

/-- The same plan, for the ledger that keeps its answers. -/
def WalkPlan.recording {σ : Type} (plan : WalkPlan σ) : WalkPlan (σ × List Fetch) where
  rule := plan.rule
  cancelled := fun (state, _) => plan.cancelled state

/-- Whether a ledger gives an answer in some state. -/
def Ledger.Gives {σ : Type} (ledger : Ledger σ) (ref : BlockRef)
    (answer : Except LedgerFailure Block) : Prop :=
  ∃ state, (ledger.block ref state).1 = answer

/-! ## What lies behind some blocks -/

namespace ChainTip

/-- The link that leads on behind these blocks of a walk: that of the last one, or else the tip's. -/
def linkBehind (tip : ChainTip) (records : List BlockRecord) : String :=
  (records.getLast?.map (·.overview.previousHash)).getD (Bytes.toHex tip.currentHash)

/-- The number that is expected behind these blocks of a walk. -/
def numberBehind (tip : ChainTip) (records : List BlockRecord) : Option UInt64 :=
  previousNumber ((records.getLast?.map (·.overview.number)).getD tip.height)

end ChainTip

/-! ## Both walks in one -/

/-- How a walk goes back. -/
inductive Way where
  | byHash
  | byNumber
  deriving DecidableEq, Repr

namespace Way

/-- What a walk asks for next. -/
def ref (way : Way) (walk : Walk) : BlockRef :=
  match way with
  | .byHash => .hash walk.pointer
  | .byNumber => .number (walk.expected.getD 0)

/-- Whether a walk is over. -/
def isOver (way : Way) (rule : StopRule) (walk : Walk) : Bool :=
  match way with
  | .byHash => walk.isOver rule
  | .byNumber => walk.expected.isNone || walk.isOver rule

/-- The number that a walk takes a block for. -/
def number (way : Way) (walk : Walk) (block : Block) : UInt64 :=
  match way with
  | .byHash => block.number
  | .byNumber => walk.expected.getD 0

/-- The walk behind a block. -/
def next (way : Way) (walk : Walk) (block : Block) (record : BlockRecord) : Walk where
  history := walk.history.push record
  pointer := block.link
  expected := previousNumber (way.number walk block)

@[simp] theorem blocks_next (way : Way) (walk : Walk) (block : Block) (record : BlockRecord) :
    (way.next walk block record).history.blocks = walk.history.blocks ++ [record] := rfl

/-- Where a walk is not over, its rule does not hold, and it has a link to go on with. -/
theorem of_isOver {way : Way} {rule : StopRule} {walk : Walk} (h : way.isOver rule walk = false) :
    rule.holds walk.visited walk.pointer walk.expected = false ∧ walk.pointer ≠ [] := by
  have hwalk : walk.isOver rule = false := by
    cases way with
    | byHash => exact h
    | byNumber => exact (Bool.or_eq_false_iff.1 h).2
  simpa [Walk.isOver, List.isEmpty_iff] using hwalk

end Way

/-- The course of a walk: what it fetches and how it ends, if it does. -/
inductive Walk.Course {σ : Type} (ledger : Ledger σ) (suite : HashSuite) (way : Way)
    (rule : StopRule) : Walk → List Fetch → Option (Except WalkFailure ChannelHistory) → Prop
  /-- It may take no further step. -/
  | halted (walk : Walk) : Course ledger suite way rule walk [] none
  | cancelled (walk : Walk) :
    Course ledger suite way rule walk [] (some (.error (.cancelled walk.visited)))
  | ended {walk : Walk} (isOver : way.isOver rule walk = true) :
    Course ledger suite way rule walk [] (some (.ok walk.history))
  | missing {walk : Walk} {cause : LedgerFailure} (goesOn : way.isOver rule walk = false)
      (answered : ledger.Gives (way.ref walk) (.error cause)) :
    Course ledger suite way rule walk [⟨way.ref walk, .error cause⟩]
      (some (.error (.ofFetch (way.ref walk) cause)))
  | undecodable {walk : Walk} {block : Block} {cause : DecodeFailure}
      (goesOn : way.isOver rule walk = false) (answered : ledger.Gives (way.ref walk) (.ok block))
      (fails : BlockRecord.ofBlock block ((way.ref walk).name suite block) = .error cause) :
    Course ledger suite way rule walk [⟨way.ref walk, .ok block⟩]
      (some (.error (.decode (way.number walk block) cause)))
  | passes {walk : Walk} {block : Block} {record : BlockRecord} {fetches : List Fetch}
      {result : Option (Except WalkFailure ChannelHistory)} (goesOn : way.isOver rule walk = false)
      (answered : ledger.Gives (way.ref walk) (.ok block))
      (decodes : BlockRecord.ofBlock block ((way.ref walk).name suite block) = .ok record)
      (rest : Course ledger suite way rule (way.next walk block record) fetches result) :
    Course ledger suite way rule walk (⟨way.ref walk, .ok block⟩ :: fetches) result

namespace Walk

section
variable {σ : Type} (ledger : Ledger σ) (suite : HashSuite) (plan : WalkPlan σ)

/-- **A walk by hash takes its course**, and a ledger that keeps its answers shows it. -/
theorem runHash_course (steps : Nat) (walk : Walk) (state : σ) (earlier : List Fetch) :
    let run := walk.runHash ledger plan steps state
    ∃ fetches, walk.runHash ledger.recording plan.recording steps (state, earlier) =
        (run.1, run.2, earlier ++ fetches) ∧
      walk.Course ledger suite .byHash plan.rule fetches run.1 := by
  intro run
  induction steps generalizing walk state earlier with
  | zero => exact ⟨[], by simp [run, runHash], .halted walk⟩
  | succ steps ih =>
    cases hc : plan.cancelled state with
    | true =>
      refine ⟨[], ?_, ?_⟩ <;> simp only [run, runHash, stepHash, WalkPlan.recording, hc, if_true]
      · rw [List.append_nil]
      · exact .cancelled walk
    | false =>
    have hc' : plan.recording.cancelled (state, earlier) = false := hc
    cases ho : walk.isOver plan.rule with
    | true =>
      refine ⟨[], ?_, ?_⟩
      · simp only [run, runHash_over hc ho, runHash_over hc' ho, List.append_nil]
      · simp only [run, runHash_over hc ho]
        exact .ended ho
    | false =>
    obtain ⟨answer, state', hb⟩ : ∃ answer state', ledger.block (.hash walk.pointer) state =
      (answer, state') := ⟨_, _, rfl⟩
    have gives : ledger.Gives (.hash walk.pointer) answer := ⟨state, by rw [hb]⟩
    have hb' : ledger.recording.block (.hash walk.pointer) (state, earlier) =
        (answer, state', earlier ++ [⟨.hash walk.pointer, answer⟩]) := by
      simp only [Ledger.recording, hb]
    cases answer with
    | error cause =>
      refine ⟨[⟨.hash walk.pointer, .error cause⟩], ?_, ?_⟩
      · simp only [run, runHash_error hc ho hb, runHash_error hc' ho hb']
      · simp only [run, runHash_error hc ho hb]
        exact .missing ho gives
    | ok block =>
    simp only [run, runHash_block hc ho hb, runHash_block hc' ho hb']
    cases hr : BlockRecord.ofBlock block walk.pointer with
    | error cause =>
      simp only [passHash_error hr]
      exact ⟨_, rfl, .undecodable ho gives hr⟩
    | ok record =>
      simp only [passHash_ok hr]
      obtain ⟨fetches, hrun, hcourse⟩ := ih (Way.next .byHash walk block record) state'
        (earlier ++ [⟨.hash walk.pointer, .ok block⟩])
      refine ⟨⟨.hash walk.pointer, .ok block⟩ :: fetches, ?_, .passes ho gives hr hcourse⟩
      rw [List.append_assoc] at hrun
      exact hrun

/-- **A walk by number takes its course**, with as many numbers to go as it expects. -/
theorem runNumber_course (below : Nat) (fits : below < 2 ^ 64) (walk : Walk)
    (expects : walk.expected = previousNumber (UInt64.ofNat below)) (state : σ)
    (earlier : List Fetch) :
    let run := walk.runNumber suite ledger plan below state
    ∃ fetches, walk.runNumber suite ledger.recording plan.recording below (state, earlier) =
        (run.1, run.2, earlier ++ fetches) ∧
      walk.Course ledger suite .byNumber plan.rule fetches (some run.1) := by
  intro run
  induction below generalizing walk state earlier with
  | zero =>
    have hover : Way.byNumber.isOver plan.rule walk = true := by
      simp [Way.isOver, expects, previousNumber]
    exact ⟨[], by simp [run, runNumber], .ended hover⟩
  | succ below ih =>
    rw [previousNumber_succ fits] at expects
    cases hc : plan.cancelled state with
    | true =>
      refine ⟨[], ?_, ?_⟩ <;> simp only [run, runNumber, WalkPlan.recording, hc, if_true]
      · rw [List.append_nil]
      · exact .cancelled walk
    | false =>
    have hc' : plan.recording.cancelled (state, earlier) = false := hc
    cases ho : walk.isOver plan.rule with
    | true =>
      refine ⟨[], ?_, ?_⟩
      · simp only [run, runNumber_over hc ho, runNumber_over hc' ho, List.append_nil]
      · simp only [run, runNumber_over hc ho]
        exact .ended (by simp [Way.isOver, ho])
    | false =>
    have goesOn : Way.byNumber.isOver plan.rule walk = false := by
      simp [Way.isOver, expects, ho]
    have hnumber : walk.expected.getD 0 = UInt64.ofNat below := by rw [expects, Option.getD_some]
    have href : Way.byNumber.ref walk = .number (UInt64.ofNat below) := congrArg _ hnumber
    obtain ⟨answer, state', hb⟩ : ∃ answer state', ledger.block (.number (UInt64.ofNat below)) state =
      (answer, state') := ⟨_, _, rfl⟩
    have gives : ledger.Gives (Way.byNumber.ref walk) answer := ⟨state, by rw [href, hb]⟩
    have hb' : ledger.recording.block (.number (UInt64.ofNat below)) (state, earlier) =
        (answer, state', earlier ++ [⟨Way.byNumber.ref walk, answer⟩]) := by
      simp only [Ledger.recording, hb, href]
    cases answer with
    | error cause =>
      refine ⟨[⟨Way.byNumber.ref walk, .error cause⟩], ?_, ?_⟩
      · simp only [run, runNumber_error hc ho hb, runNumber_error hc' ho hb']
      · simp only [run, runNumber_error hc ho hb, ← href]
        exact .missing goesOn gives
    | ok block =>
    simp only [run, runNumber_block hc ho hb, runNumber_block hc' ho hb']
    cases hr : BlockRecord.ofBlock block (block.hash suite) with
    | error cause =>
      simp only [passNumber_error hr, ← hnumber]
      exact ⟨_, rfl, .undecodable goesOn gives hr⟩
    | ok record =>
      simp only [passNumber_ok hr]
      have hnext : Way.next .byNumber walk block record =
          ⟨walk.history.push record, block.link, previousNumber (UInt64.ofNat below)⟩ := by
        rw [Way.next, ← hnumber]
        rfl
      obtain ⟨fetches, hrun, hcourse⟩ := ih (Nat.lt_of_succ_lt fits)
        ⟨walk.history.push record, block.link, previousNumber (UInt64.ofNat below)⟩ rfl state'
        (earlier ++ [⟨Way.byNumber.ref walk, .ok block⟩])
      refine ⟨⟨Way.byNumber.ref walk, .ok block⟩ :: fetches, ?_,
        .passes goesOn gives hr (hnext ▸ hcourse)⟩
      rw [List.append_assoc] at hrun
      exact hrun

end

/-! ## What holds along the way -/

/-- Where a walk stands that began at a tip: its history is that of its blocks, and its link is the one
behind them. By hash, so is the number that it expects. -/
structure Stands (way : Way) (tip : ChainTip) (walk : Walk) : Prop where
  history : walk.history = .of tip.height walk.history.blocks
  pointer : Bytes.toHex walk.pointer = tip.linkBehind walk.history.blocks
  expected : way = .byHash → walk.expected = tip.numberBehind walk.history.blocks

theorem stands_start (way : Way) (tip : ChainTip) : (start tip).Stands way tip :=
  ⟨rfl, rfl, fun _ => rfl⟩

/-- A passed block is the last one of the history behind it. -/
theorem Stands.next {way : Way} {tip : ChainTip} {walk : Walk} (h : walk.Stands way tip)
    {block : Block} {hash : Bytes} {record : BlockRecord}
    (decodes : BlockRecord.ofBlock block hash = .ok record) :
    (way.next walk block record).Stands way tip := by
  obtain ⟨header, hh, hoverview⟩ := BlockRecord.overview_of_ofBlock decodes
  have hlink : Bytes.toHex block.link = record.overview.previousHash := by
    simp [Block.link, hh, hoverview]
  have hnumber : block.number = record.overview.number :=
    (BlockRecord.number_of_ofBlock decodes).symm
  refine ⟨?_, ?_, ?_⟩
  · rw [Way.blocks_next, ← ChannelHistory.push_of, ← h.history]
    rfl
  · rw [Way.blocks_next, ChainTip.linkBehind, List.getLast?_concat]
    exact hlink
  · rintro rfl
    rw [Way.blocks_next, ChainTip.numberBehind, List.getLast?_concat]
    exact congrArg previousNumber hnumber

namespace Course

variable {σ : Type} {ledger : Ledger σ} {suite : HashSuite} {way : Way} {rule : StopRule} {walk : Walk}
  {fetches : List Fetch} {result : Option (Except WalkFailure ChannelHistory)}
  {tip : ChainTip} {history : ChannelHistory}

/-- What a passed block is fetched and decoded as. -/
theorem record?_of_ofBlock {ref : BlockRef} {block : Block} {record : BlockRecord}
    (decodes : BlockRecord.ofBlock block (ref.name suite block) = .ok record) :
    Fetch.record? suite ⟨ref, .ok block⟩ = some record := by
  simp [Fetch.record?, decodes, Except.toOption]

/-- **The history is that of the fetched blocks**, behind those that the walk had passed before. -/
theorem history_eq (h : walk.Course ledger suite way rule fetches (some (.ok history)))
    (hw : walk.Stands way tip) :
    ∃ records, fetches.map (·.record? suite) = records.map some ∧
      history = .of tip.height (walk.history.blocks ++ records) := by
  generalize hresult : some (Except.ok history) = result at h
  induction h with
  | halted => cases hresult
  | cancelled => cases hresult
  | ended isOver =>
    cases hresult
    exact ⟨[], rfl, by rw [List.append_nil, ← hw.history]⟩
  | missing => cases hresult
  | undecodable => cases hresult
  | @passes walk block record _ _ goesOn answered decodes rest ih =>
    obtain ⟨records, hfetches, hhistory⟩ := ih (hw.next decodes) hresult
    refine ⟨record :: records, ?_, ?_⟩
    · rw [List.map_cons, record?_of_ofBlock decodes, hfetches, List.map_cons]
    · rw [hhistory, Way.blocks_next, List.append_assoc, List.singleton_append]

/-- **In front of every block of the history** stood a walk that was not over, and the block is what
the ledger gave it. -/
theorem visit (h : walk.Course ledger suite way rule fetches (some (.ok history)))
    (hw : walk.Stands way tip) {i : Nat} {record : BlockRecord}
    (hi : history.blocks[i]? = some record) (passed : walk.visited ≤ i) :
    ∃ before : Walk, before.Stands way tip ∧ before.history.blocks = history.blocks.take i ∧
      way.isOver rule before = false ∧ ∃ block, ledger.Gives (way.ref before) (.ok block) ∧
        BlockRecord.ofBlock block ((way.ref before).name suite block) = .ok record := by
  generalize hresult : some (Except.ok history) = result at h
  induction h with
  | halted => cases hresult
  | cancelled => cases hresult
  | ended isOver =>
    cases hresult
    have hlt := (List.getElem?_eq_some_iff.1 hi).1
    exact absurd hlt (Nat.not_lt.2 passed)
  | missing => cases hresult
  | undecodable => cases hresult
  | @passes walk block passedRecord _ _ goesOn answered decodes onward ih =>
    rcases Nat.eq_or_lt_of_le passed with rfl | hlt
    · subst hresult
      -- the block at this place is the one that the walk passes next
      obtain ⟨records, -, hhistory⟩ := onward.history_eq (hw.next decodes)
      have hblocks : history.blocks = walk.history.blocks ++ passedRecord :: records := by
        simp [hhistory, ChannelHistory.of]
      have hrecord : passedRecord = record := by
        simpa [hblocks, visited] using hi
      exact ⟨walk, hw, by simp [hblocks, visited], goesOn, block, answered, hrecord ▸ decodes⟩
    · refine ih (hw.next decodes) ?_ hresult
      simpa [visited] using hlt

/-- No block is asked for with the empty hash. -/
theorem ref_ne (h : walk.Course ledger suite way rule fetches result) :
    ∀ fetch ∈ fetches, fetch.ref ≠ .hash [] := by
  have hne : ∀ walk : Walk, way.isOver rule walk = false → way.ref walk ≠ .hash [] := by
    intro walk goesOn
    cases way with
    | byHash => simpa [Way.ref] using (Way.of_isOver goesOn).2
    | byNumber => simp [Way.ref]
  induction h with
  | halted => simp
  | cancelled => simp
  | ended => simp
  | missing goesOn => exact List.forall_mem_singleton.2 (hne _ goesOn)
  | undecodable goesOn => exact List.forall_mem_singleton.2 (hne _ goesOn)
  | passes goesOn _ _ _ ih => exact List.forall_mem_cons.2 ⟨hne _ goesOn, ih⟩

/-- **A fetch that brings no record ends the walk in a failure.** -/
theorem failure_of_fetch (h : walk.Course ledger suite way rule fetches result) {fetch : Fetch}
    (hm : fetch ∈ fetches) (hf : fetch.record? suite = none) :
    ∃ failure, result = some (.error failure) := by
  induction h with
  | halted => cases hm
  | cancelled => cases hm
  | ended => cases hm
  | missing => exact ⟨_, rfl⟩
  | undecodable => exact ⟨_, rfl⟩
  | passes goesOn answered decodes rest ih =>
    rcases List.mem_cons.1 hm with rfl | hm
    · rw [record?_of_ofBlock decodes] at hf
      cases hf
    · exact ih hm

end Course

end Walk

/-! ## From the first query on -/

/-- The course of a walk that begins with the query for the tip. -/
inductive Ledger.Course {σ : Type} (ledger : Ledger σ) (suite : HashSuite) (way : Way)
    (rule : StopRule) (state : σ) : List Fetch → Option (Except WalkFailure ChannelHistory) → Prop
  /-- The rule cannot be used, or the ledger does not say where the channel ends. -/
  | refused (failure : WalkFailure) : Course ledger suite way rule state [] (some (.error failure))
  | begun {tip : ChainTip} {fetches : List Fetch}
      {result : Option (Except WalkFailure ChannelHistory)}
      (reported : (ledger.tip state).1 = .ok tip)
      (course : (Walk.start tip).Course ledger suite way rule fetches result) :
    Course ledger suite way rule state fetches result

namespace Ledger

variable {σ : Type} (ledger : Ledger σ) (suite : HashSuite) (plan : WalkPlan σ)

/-- Before its first block a walk is refused, or it stands at the tip; no block is asked for. -/
theorem startWalk_cases (rule : StopRule) (state : σ) :
    (∃ failure state', ledger.startWalk rule state = (.error failure, state') ∧
      ledger.recording.startWalk rule (state, []) = (.error failure, state', [])) ∨
    ∃ tip state', (ledger.tip state).1 = .ok tip ∧
      ledger.startWalk rule state = (.ok (.start tip), state') ∧
      ledger.recording.startWalk rule (state, []) = (.ok (.start tip), state', []) := by
  obtain ⟨answer, state', ht⟩ : ∃ answer state', ledger.tip state = (answer, state') := ⟨_, _, rfl⟩
  have ht' : ledger.recording.tip (state, []) = (answer, state', []) := by
    simp only [recording, ht]
  cases hv : rule.validate with
  | error cause => exact .inl ⟨.stopRule cause, state, by simp only [startWalk, hv, and_self]⟩
  | ok _ =>
    cases answer with
    | error cause => exact .inl ⟨.ofTip cause, state', by simp only [startWalk, hv, ht, ht', and_self]⟩
    | ok tip => exact .inr ⟨tip, state', by simp only [startWalk, hv, ht, ht', and_self]⟩

theorem browse_course (steps : Nat) (state : σ) :
    let run := ledger.browse plan steps state
    ∃ fetches, ledger.recording.browse plan.recording steps (state, []) = (run.1, run.2, fetches) ∧
      ledger.Course suite .byHash plan.rule state fetches run.1 := by
  intro run
  rcases ledger.startWalk_cases plan.rule state with
    ⟨failure, state', hs, hs'⟩ | ⟨tip, state', ht, hs, hs'⟩
  · refine ⟨[], ?_, ?_⟩ <;> simp only [run, browse, WalkPlan.recording, hs, hs']
    exact .refused failure
  · obtain ⟨fetches, hrun, hcourse⟩ :=
      Walk.runHash_course ledger suite plan steps (.start tip) state' []
    refine ⟨fetches, ?_, ?_⟩ <;> simp only [run, browse, hs]
    · simp only [WalkPlan.recording, hs']
      exact hrun
    · exact .begun ht hcourse

theorem browseByNumber_course (state : σ) :
    let run := ledger.browseByNumber suite plan state
    ∃ fetches, ledger.recording.browseByNumber suite plan.recording (state, []) =
        (run.1, run.2, fetches) ∧
      ledger.Course suite .byNumber plan.rule state fetches (some run.1) := by
  intro run
  rcases ledger.startWalk_cases plan.rule state with
    ⟨failure, state', hs, hs'⟩ | ⟨tip, state', ht, hs, hs'⟩
  · refine ⟨[], ?_, ?_⟩ <;> simp only [run, browseByNumber, WalkPlan.recording, hs, hs']
    exact .refused failure
  · have expects : (Walk.start tip).expected = previousNumber (UInt64.ofNat tip.height.toNat) := by
      rw [UInt64.ofNat_toNat]
      rfl
    obtain ⟨fetches, hrun, hcourse⟩ := Walk.runNumber_course ledger suite plan tip.height.toNat
      tip.height.toNat_lt (.start tip) expects state' []
    refine ⟨fetches, ?_, ?_⟩ <;> simp only [run, browseByNumber, hs]
    · simp only [WalkPlan.recording, hs']
      exact hrun
    · exact .begun ht hcourse

end Ledger

end ChannelLedger
