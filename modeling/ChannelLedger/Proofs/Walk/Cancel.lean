import ChannelLedger.Proofs.Walk.Course

/-!
# Walks that are called off

A walk looks in front of every block whether it has been called off. Over answers that never change, a walk
that is called off behind `count` blocks does the same as one that is not for as long as it goes on: it
fetches the same blocks, and ends in the same way if it ends earlier (`Answers.trace_cut`). Only where both
would end together, behind the last block, may the one be called off and the other have its history.

For this the two walks, by hash and by number, are brought into one form (`Answers.trace`), which keeps no
state: what a walk ends with, what it has fetched by then, and when it is called off, as a function of the
number of blocks that it has passed.

Main theorem `Answers.browse_calledOff`.
-/
namespace ChannelLedger

/-- What a walk ends with, if it does, and what it has fetched by then. -/
abbrev Trace := Option (Except WalkFailure ChannelHistory) × List Fetch

/-- The plan of a walk that is called off in front of each block behind the first `count`. -/
def StopRule.planUpTo (rule : StopRule) (count : Nat) : WalkPlan (Unit × List Fetch) where
  rule := rule
  cancelled := fun (_, fetches) => count ≤ fetches.length

namespace Trace

/-- How a walk that is called off behind `count` blocks stands to the whole walk, if `left` of these blocks
are still in front of both. -/
structure Cut (count left : Nat) (whole cut : Trace) : Prop where
  /-- If the whole walk goes on behind these blocks, the other one ends there. -/
  inFront : left < whole.2.length → cut = (some (.error (.cancelled count)), whole.2.take left)
  /-- Else they are the same, unless the whole walk ends well behind just these blocks. -/
  atEnd : whole.2.length ≤ left → cut = whole ∨
    cut = (some (.error (.cancelled count)), whole.2) ∧
      ∃ history, whole.1 = some (.ok history) ∧ history.blocks.length = count

/-- How a walk that is called off behind `count` blocks stands to the whole walk, and what it says of
itself. -/
structure CalledOff (suite : HashSuite) (count : Nat) (whole cut : Trace) : Prop extends
    Cut count count whole cut where
  /-- No history has more blocks. -/
  limited : ∀ history, cut.1 = some (.ok history) → history.blocks.length ≤ count
  /-- The blocks that are counted are those that were fetched, and each of them decodes. -/
  counted : ∀ blocks, cut.1 = some (.error (.cancelled blocks)) →
    blocks = cut.2.length ∧ ∀ fetch ∈ cut.2, (fetch.record? suite).isSome

variable {count left : Nat} {whole cut : Trace}

theorem Cut.refl (short : whole.2.length ≤ left) : whole.Cut count left whole :=
  ⟨fun h => absurd h (Nat.not_lt.2 short), fun _ => .inl rfl⟩

/-- Where a walk is not called off, it is the whole walk. -/
theorem Cut.eq_whole (h : whole.Cut count left cut) (goesOn : cut.1 ≠ some (.error (.cancelled count))) :
    cut = whole ∧ whole.2.length ≤ left := by
  rcases Nat.lt_or_ge left whole.2.length with hlt | hle
  · exact absurd (congrArg Prod.fst (h.inFront hlt)) goesOn
  · refine ⟨(h.atEnd hle).resolve_right ?_, hle⟩
    rintro ⟨hoff, -⟩
    exact goesOn (congrArg Prod.fst hoff)

/-- One more block in front of both. -/
theorem Cut.cons (h : whole.Cut count left cut) (fetch : Fetch) :
    Cut count (left + 1) (whole.1, fetch :: whole.2) (cut.1, fetch :: cut.2) := by
  constructor
  · intro hlt
    rw [h.inFront (Nat.lt_of_succ_lt_succ hlt), List.take_succ_cons]
  · intro hle
    refine (h.atEnd (Nat.le_of_succ_le_succ hle)).imp (fun hsame => by rw [hsame]) ?_
    rintro ⟨rfl, hhistory⟩
    exact ⟨rfl, hhistory⟩

end Trace

/-! ## Both walks in one form -/

theorem WalkFailure.ofTip_ne_cancelled (cause : LedgerFailure) (blocks : Nat) :
    ofTip cause ≠ .cancelled blocks := by
  cases cause <;> simp [ofTip]

theorem WalkFailure.ofFetch_ne_cancelled (ref : BlockRef) (cause : LedgerFailure) (blocks : Nat) :
    ofFetch ref cause ≠ .cancelled blocks := by
  cases cause <;> simp [ofFetch]

namespace Way

/-- Whether no number is left, so that the walk ends without a further look. -/
def isDone (way : Way) (walk : Walk) : Bool :=
  match way with
  | .byHash => false
  | .byNumber => walk.expected.isNone

/-- What a walk makes of the answer to its query. -/
def pass (way : Way) (suite : HashSuite) (walk : Walk) : Except LedgerFailure Block → Walk.Step
  | .error cause => .inl (.error (.ofFetch (way.ref walk) cause))
  | .ok block =>
    match BlockRecord.ofBlock block ((way.ref walk).name suite block) with
    | .error cause => .inl (.error (.decode (way.number walk block) cause))
    | .ok record => .inr (way.next walk block record)

/-- Where the walk goes on, the answer brought a block, which decodes. -/
theorem next_of_pass {way : Way} {suite : HashSuite} {walk walk' : Walk}
    {answer : Except LedgerFailure Block} (h : way.pass suite walk answer = .inr walk') :
    ∃ block record, Fetch.record? suite ⟨way.ref walk, answer⟩ = some record ∧
      walk' = way.next walk block record := by
  cases answer with
  | error cause => cases h
  | ok block =>
    simp only [pass] at h
    cases hr : BlockRecord.ofBlock block ((way.ref walk).name suite block) with
    | error cause =>
      rw [hr] at h
      cases h
    | ok record =>
      rw [hr] at h
      cases h
      exact ⟨block, record, Walk.Course.record?_of_ofBlock hr, rfl⟩

theorem visited_of_pass {way : Way} {suite : HashSuite} {walk walk' : Walk}
    {answer : Except LedgerFailure Block} (h : way.pass suite walk answer = .inr walk') :
    walk'.visited = walk.visited + 1 := by
  obtain ⟨block, record, -, rfl⟩ := next_of_pass h
  simp [Walk.visited]

/-- The answer to a query does not call the walk off. -/
theorem ne_cancelled_of_pass {way : Way} {suite : HashSuite} {walk : Walk}
    {answer : Except LedgerFailure Block} {result : Except WalkFailure ChannelHistory}
    (h : way.pass suite walk answer = .inl result) : ∃ failure, result = .error failure ∧
      ∀ blocks, failure ≠ .cancelled blocks := by
  cases answer with
  | error cause =>
    cases h
    exact ⟨_, rfl, WalkFailure.ofFetch_ne_cancelled _ cause⟩
  | ok block =>
    simp only [pass] at h
    cases hr : BlockRecord.ofBlock block ((way.ref walk).name suite block) with
    | error cause =>
      rw [hr] at h
      cases h
      exact ⟨_, rfl, fun blocks => by simp⟩
    | ok record =>
      rw [hr] at h
      cases h

end Way

namespace Answers

section
variable (answers : Answers) (suite : HashSuite) (way : Way) (rule : StopRule) (last : Option Nat)

/-- The walk from some place on, called off behind `last` blocks, if at all. -/
def trace : (steps : Nat) → Walk → Trace
  | 0, _ => (none, [])
  | steps + 1, walk =>
    if way.isDone walk then (some (.ok walk.history), [])
    else if last.any (· ≤ walk.visited) then (some (.error (.cancelled walk.visited)), [])
    else if walk.isOver rule then (some (.ok walk.history), [])
    else
      let fetch : Fetch := ⟨way.ref walk, answers.block (way.ref walk)⟩
      match way.pass suite walk fetch.answer with
      | .inl result => (some result, [fetch])
      | .inr walk =>
        let (result, fetches) := trace steps walk
        (result, fetch :: fetches)

end

variable {answers : Answers} {suite : HashSuite} {way : Way} {rule : StopRule} {last : Option Nat}
  {steps : Nat} {walk : Walk}

/-! ## One step -/

theorem trace_done (hd : way.isDone walk = true) :
    answers.trace suite way rule last (steps + 1) walk = (some (.ok walk.history), []) := by
  simp only [trace, hd, ↓reduceIte]

theorem trace_off (hd : way.isDone walk = false) (hoff : last.any (· ≤ walk.visited) = true) :
    answers.trace suite way rule last (steps + 1) walk = (some (.error (.cancelled walk.visited)), []) := by
  simp only [trace, hd, hoff, Bool.false_eq_true, ↓reduceIte]

theorem trace_over (hd : way.isDone walk = false) (hon : last.any (· ≤ walk.visited) = false)
    (ho : walk.isOver rule = true) :
    answers.trace suite way rule last (steps + 1) walk = (some (.ok walk.history), []) := by
  simp only [trace, hd, hon, ho, Bool.false_eq_true, ↓reduceIte]

theorem trace_ends (hd : way.isDone walk = false) (hon : last.any (· ≤ walk.visited) = false)
    (ho : walk.isOver rule = false) {result : Except WalkFailure ChannelHistory}
    (hpass : way.pass suite walk (answers.block (way.ref walk)) = .inl result) :
    answers.trace suite way rule last (steps + 1) walk =
      (some result, [⟨way.ref walk, answers.block (way.ref walk)⟩]) := by
  simp only [trace, hd, hon, ho, hpass, Bool.false_eq_true, ↓reduceIte]

theorem trace_passes (hd : way.isDone walk = false) (hon : last.any (· ≤ walk.visited) = false)
    (ho : walk.isOver rule = false) {walk' : Walk}
    (hpass : way.pass suite walk (answers.block (way.ref walk)) = .inr walk') :
    answers.trace suite way rule last (steps + 1) walk =
      ((answers.trace suite way rule last steps walk').1, ⟨way.ref walk, answers.block (way.ref walk)⟩ ::
        (answers.trace suite way rule last steps walk').2) := by
  simp only [trace, hd, hon, ho, hpass, Bool.false_eq_true, ↓reduceIte]

/-- A walk that is not over asks for a block. -/
theorem trace_ne_nil (hd : way.isDone walk = false) (hon : last.any (· ≤ walk.visited) = false)
    (ho : walk.isOver rule = false) : (answers.trace suite way rule last (steps + 1) walk).2 ≠ [] := by
  cases hpass : way.pass suite walk (answers.block (way.ref walk)) with
  | inl result => rw [trace_ends hd hon ho hpass]; exact List.cons_ne_nil _ _
  | inr walk' => rw [trace_passes hd hon ho hpass]; exact List.cons_ne_nil _ _

/-! ## Whole runs -/

/-- A history has the blocks that were passed before and those that were fetched. -/
theorem length_of_trace {history : ChannelHistory}
    (h : (answers.trace suite way rule last steps walk).1 = some (.ok history)) :
    history.blocks.length = walk.visited + (answers.trace suite way rule last steps walk).2.length := by
  fun_induction trace answers suite way rule last steps walk with
  | case1 => cases h
  | case2 => cases h; rfl
  | case3 => cases h
  | case4 => cases h; rfl
  | case5 steps walk _ _ _ fetch result hpass =>
    cases h
    obtain ⟨failure, hfailure, -⟩ := Way.ne_cancelled_of_pass hpass
    cases hfailure
  | case6 steps walk _ _ _ fetch walk' hpass result fetches hrest ih =>
    simp only [hrest] at ih
    rw [ih h, Way.visited_of_pass hpass, List.length_cons]
    omega

/-- The blocks that are counted where a walk is called off are those that it has passed. -/
theorem counted_of_trace {blocks : Nat}
    (h : (answers.trace suite way rule last steps walk).1 = some (.error (.cancelled blocks))) :
    blocks = walk.visited + (answers.trace suite way rule last steps walk).2.length ∧
      ∀ fetch ∈ (answers.trace suite way rule last steps walk).2, (fetch.record? suite).isSome := by
  fun_induction trace answers suite way rule last steps walk with
  | case1 => cases h
  | case2 => cases h
  | case3 => cases h; exact ⟨rfl, fun _ hm => absurd hm List.not_mem_nil⟩
  | case4 => cases h
  | case5 steps walk _ _ _ fetch result hpass =>
    cases h
    obtain ⟨failure, hfailure, hne⟩ := Way.ne_cancelled_of_pass hpass
    cases hfailure
    exact absurd rfl (hne blocks)
  | case6 steps walk _ _ _ fetch walk' hpass result fetches hrest ih =>
    simp only [hrest] at ih
    obtain ⟨block, record, hrecord, -⟩ := Way.next_of_pass hpass
    obtain ⟨hblocks, hall⟩ := ih h
    refine ⟨?_, List.forall_mem_cons.2 ⟨Option.isSome_of_eq_some hrecord, hall⟩⟩
    rw [hblocks, Way.visited_of_pass hpass, List.length_cons]
    omega

/-- A walk that has not ended has fetched a block in each of its steps. -/
theorem length_of_trace_none (h : (answers.trace suite way rule last steps walk).1 = none) :
    (answers.trace suite way rule last steps walk).2.length = steps := by
  fun_induction trace answers suite way rule last steps walk with
  | case1 => rfl
  | case2 | case3 | case4 | case5 => cases h
  | case6 steps walk _ _ _ fetch walk' hpass result fetches hrest ih =>
    simp only [hrest] at ih
    rw [List.length_cons, ih h]

/-- **A walk that is called off is cut behind as many blocks.** -/
theorem trace_cut (left : Nat) : (answers.trace suite way rule none steps walk).Cut (walk.visited + left) left
    (answers.trace suite way rule (some (walk.visited + left)) steps walk) := by
  induction steps generalizing walk left with
  | zero => exact .refl (Nat.zero_le left)
  | succ steps ih =>
    cases hd : way.isDone walk with
    | true =>
      rw [trace_done hd, trace_done hd]
      exact .refl (Nat.zero_le left)
    | false =>
    cases left with
    | zero =>
      -- the one is called off here; the other is over as well, or asks for one block more
      have hoff : (some (walk.visited + 0)).any (· ≤ walk.visited) = true := decide_eq_true (Nat.le_refl _)
      rw [trace_off hd hoff]
      cases ho : walk.isOver rule with
      | true =>
        rw [trace_over hd rfl ho]
        exact ⟨fun h => absurd h (Nat.not_lt_zero 0), fun _ => .inr ⟨rfl, _, rfl, rfl⟩⟩
      | false =>
        refine ⟨fun _ => rfl, fun hle => ?_⟩
        exact absurd (List.length_eq_zero_iff.1 (Nat.le_zero.1 hle)) (trace_ne_nil hd rfl ho)
    | succ left =>
      have hon : (some (walk.visited + (left + 1))).any (· ≤ walk.visited) = false :=
        decide_eq_false (by omega)
      cases ho : walk.isOver rule with
      | true =>
        rw [trace_over hd hon ho, trace_over hd rfl ho]
        exact .refl (Nat.zero_le _)
      | false =>
      cases hpass : way.pass suite walk (answers.block (way.ref walk)) with
      | inl result =>
        rw [trace_ends hd hon ho hpass, trace_ends hd rfl ho hpass]
        exact .refl (Nat.succ_le_succ (Nat.zero_le left))
      | inr walk' =>
        have hvisited : walk.visited + (left + 1) = walk'.visited + left := by
          rw [Way.visited_of_pass hpass]
          omega
        rw [trace_passes hd hon ho hpass, trace_passes hd rfl ho hpass, hvisited]
        exact (ih left).cons _

/-- A walk from the tip that is called off behind `count` blocks. -/
theorem trace_calledOff (answers : Answers) (suite : HashSuite) (way : Way) (rule : StopRule)
    (steps count : Nat) (tip : ChainTip) :
    (answers.trace suite way rule none steps (.start tip)).CalledOff suite count
      (answers.trace suite way rule (some count) steps (.start tip)) := by
  have hstart : (Walk.start tip).visited + count = count := Nat.zero_add count
  have hcut : (answers.trace suite way rule none steps (.start tip)).Cut ((Walk.start tip).visited + count) count
      (answers.trace suite way rule (some ((Walk.start tip).visited + count)) steps (.start tip)) :=
    trace_cut count
  rw [hstart] at hcut
  refine ⟨hcut, fun history hok => ?_, fun blocks hcancelled => ?_⟩
  · obtain ⟨hsame, hshort⟩ := hcut.eq_whole (by rw [hok]; simp)
    rw [length_of_trace hok, hsame]
    exact (Nat.zero_add _).trans_le hshort
  · obtain ⟨hblocks, hall⟩ := counted_of_trace hcancelled
    exact ⟨hblocks.trans (Nat.zero_add _), hall⟩

/-- A walk that is called off behind `count` blocks ends, even if the whole walk goes on for ever. -/
theorem trace_isSome {count : Nat} (h : count < steps) (tip : ChainTip) :
    (answers.trace suite way rule (some count) steps (.start tip)).1.isSome := by
  refine Option.isSome_iff_ne_none.2 fun hnone => ?_
  obtain ⟨hsame, hshort⟩ :=
    (trace_calledOff answers suite way rule steps count tip).eq_whole (by rw [hnone]; simp)
  rw [← hsame, length_of_trace_none hnone] at hshort
  exact absurd h (Nat.not_lt.2 hshort)

end Answers

/-! ## The two walks -/

theorem Answers.recording_block {answers : Answers} (fetches : List Fetch) (ref : BlockRef) :
    (answers.ledger Unit).recording.block ref ((), fetches) =
      (answers.block ref, (), fetches ++ [⟨ref, answers.block ref⟩]) := rfl

namespace Walk

section
variable {σ : Type} {ledger : Ledger σ} {plan : WalkPlan σ} {walk : Walk} {state state' : σ}
  {answer : Except LedgerFailure Block} (suite : HashSuite)

theorem runHash_pass {steps : Nat} (hc : plan.cancelled state = false) (ho : walk.isOver plan.rule = false)
    (hb : ledger.block (Way.byHash.ref walk) state = (answer, state')) :
    walk.runHash ledger plan (steps + 1) state =
      match Way.byHash.pass suite walk answer with
      | .inl result => (some result, state')
      | .inr walk => walk.runHash ledger plan steps state' := by
  cases answer with
  | error cause => exact runHash_error hc ho hb
  | ok block =>
    rw [runHash_block hc ho hb]
    cases hr : BlockRecord.ofBlock block walk.pointer with
    | error cause => simp only [passHash_error hr, Way.pass, Way.ref, BlockRef.name, hr, Way.number]
    | ok record => simp only [passHash_ok hr, Way.pass, Way.ref, BlockRef.name, hr, Way.next, Way.number]

theorem runNumber_pass {below : Nat} (expects : walk.expected = some (UInt64.ofNat below))
    (hc : plan.cancelled state = false) (ho : walk.isOver plan.rule = false)
    (hb : ledger.block (Way.byNumber.ref walk) state = (answer, state')) :
    walk.runNumber suite ledger plan (below + 1) state =
      match Way.byNumber.pass suite walk answer with
      | .inl result => (result, state')
      | .inr walk => walk.runNumber suite ledger plan below state' := by
  have hnumber : walk.expected.getD 0 = UInt64.ofNat below := by rw [expects, Option.getD_some]
  have href : Way.byNumber.ref walk = .number (UInt64.ofNat below) := congrArg _ hnumber
  rw [href] at hb
  cases answer with
  | error cause => rw [runNumber_error hc ho hb, Way.pass, href]
  | ok block =>
    rw [runNumber_block hc ho hb]
    cases hr : BlockRecord.ofBlock block (block.hash suite) with
    | error cause =>
      simp only [passNumber_error hr, Way.pass, Way.ref, BlockRef.name, hr, Way.number, hnumber]
    | ok record =>
      simp only [passNumber_ok hr, Way.pass, Way.ref, BlockRef.name, hr, Way.next, Way.number, hnumber]

end

section
variable {answers : Answers} (suite : HashSuite) {plan : WalkPlan (Unit × List Fetch)} {last : Option Nat}
  (hplan : ∀ fetches, plan.cancelled ((), fetches) = last.any (· ≤ fetches.length))

include hplan

theorem runHash_trace (steps : Nat) {walk : Walk} {fetches : List Fetch} (h : fetches.length = walk.visited) :
    walk.runHash (answers.ledger Unit).recording plan steps ((), fetches) =
      ((answers.trace suite .byHash plan.rule last steps walk).1, (),
        fetches ++ (answers.trace suite .byHash plan.rule last steps walk).2) := by
  induction steps generalizing walk fetches with
  | zero => simp only [runHash, Answers.trace, List.append_nil]
  | succ steps ih =>
    have hc := hplan fetches
    rw [h] at hc
    cases hoff : last.any (· ≤ walk.visited) with
    | true =>
      rw [Answers.trace_off rfl hoff]
      simp only [runHash, stepHash, hc, hoff, if_true, List.append_nil]
    | false =>
    rw [hoff] at hc
    cases ho : walk.isOver plan.rule with
    | true => rw [runHash_over hc ho, Answers.trace_over rfl hoff ho, List.append_nil]
    | false =>
    rw [runHash_pass suite hc ho (Answers.recording_block fetches _)]
    cases hpass : Way.byHash.pass suite walk (answers.block (Way.byHash.ref walk)) with
    | inl result => rw [Answers.trace_ends rfl hoff ho hpass]
    | inr walk' =>
      have hlength (fetch : Fetch) : (fetches ++ [fetch]).length = walk'.visited := by
        rw [List.length_append, h, Way.visited_of_pass hpass, List.length_singleton]
      rw [Answers.trace_passes rfl hoff ho hpass]
      dsimp only
      rw [ih (hlength _), List.append_assoc, List.singleton_append]

theorem runNumber_trace {below : Nat} (fits : below < 2 ^ 64) {walk : Walk} {fetches : List Fetch}
    (expects : walk.expected = previousNumber (UInt64.ofNat below)) (h : fetches.length = walk.visited) :
    let run := walk.runNumber suite (answers.ledger Unit).recording plan below ((), fetches)
    ∃ rest, run.2.2 = fetches ++ rest ∧
      answers.trace suite .byNumber plan.rule last (below + 1) walk = (some run.1, rest) := by
  intro run
  induction below generalizing walk fetches with
  | zero =>
    have hd : Way.byNumber.isDone walk = true := by
      rw [Way.isDone, expects]
      rfl
    exact ⟨[], (List.append_nil fetches).symm, Answers.trace_done hd⟩
  | succ below ih =>
    rw [previousNumber_succ fits] at expects
    have hd : Way.byNumber.isDone walk = false := by
      rw [Way.isDone, expects]
      rfl
    have hc := hplan fetches
    rw [h] at hc
    cases hoff : last.any (· ≤ walk.visited) with
    | true =>
      rw [Answers.trace_off hd hoff]
      simp only [run, runNumber, hc, hoff, if_true]
      exact ⟨[], (List.append_nil fetches).symm, rfl⟩
    | false =>
    rw [hoff] at hc
    cases ho : walk.isOver plan.rule with
    | true =>
      simp only [run, runNumber_over hc ho]
      exact ⟨[], (List.append_nil fetches).symm, Answers.trace_over hd hoff ho⟩
    | false =>
    simp only [run, runNumber_pass suite expects hc ho (Answers.recording_block fetches _)]
    cases hpass : Way.byNumber.pass suite walk (answers.block (Way.byNumber.ref walk)) with
    | inl result => exact ⟨_, rfl, Answers.trace_ends hd hoff ho hpass⟩
    | inr walk' =>
      have hlength (fetch : Fetch) : (fetches ++ [fetch]).length = walk'.visited := by
        rw [List.length_append, h, Way.visited_of_pass hpass, List.length_singleton]
      have hexpects : walk'.expected = previousNumber (UInt64.ofNat below) := by
        obtain ⟨block, record, -, rfl⟩ := Way.next_of_pass hpass
        rw [Way.next, Way.number, expects, Option.getD_some]
      obtain ⟨rest, hfetches, htrace⟩ := ih (Nat.lt_of_succ_lt fits) hexpects (hlength _)
      refine ⟨_ :: rest, hfetches.trans (by rw [List.append_assoc, List.singleton_append]), ?_⟩
      rw [Answers.trace_passes hd hoff ho hpass, htrace]

end

end Walk

/-! ## From the first query on -/

/-- A walk is not called off before it has begun. -/
theorem Ledger.startWalk_ne_cancelled {σ : Type} {ledger : Ledger σ} {rule : StopRule} {state state' : σ}
    {failure : WalkFailure} (h : ledger.startWalk rule state = (.error failure, state')) (blocks : Nat) :
    failure ≠ .cancelled blocks := by
  unfold startWalk at h
  cases hv : rule.validate with
  | error cause =>
    rw [hv] at h
    cases h
    exact WalkFailure.noConfusion
  | ok _ =>
    obtain ⟨answer, state'', ht⟩ : ∃ answer state'', ledger.tip state = (answer, state'') := ⟨_, _, rfl⟩
    simp only [hv, ht] at h
    cases answer with
    | error cause =>
      cases h
      exact WalkFailure.ofTip_ne_cancelled cause blocks
    | ok tip => cases h

section
variable {answers : Answers} (suite : HashSuite) {plan : WalkPlan (Unit × List Fetch)} {last : Option Nat}
  {tip : ChainTip} (hplan : ∀ fetches, plan.cancelled ((), fetches) = last.any (· ≤ fetches.length))
  (hbegun : (answers.ledger Unit).recording.startWalk plan.rule ((), []) = (.ok (.start tip), (), []))

include hplan hbegun

theorem Answers.browse_trace (steps : Nat) : (answers.ledger Unit).recording.browse plan steps ((), []) =
    ((answers.trace suite .byHash plan.rule last steps (.start tip)).1, (),
      (answers.trace suite .byHash plan.rule last steps (.start tip)).2) := by
  rw [Ledger.browse, hbegun]
  exact Walk.runHash_trace suite hplan steps rfl

theorem Answers.browseByNumber_trace :
    answers.trace suite .byNumber plan.rule last (tip.height.toNat + 1) (.start tip) =
      (some ((answers.ledger Unit).recording.browseByNumber suite plan ((), [])).1,
        ((answers.ledger Unit).recording.browseByNumber suite plan ((), [])).2.2) := by
  have expects : (Walk.start tip).expected = previousNumber (UInt64.ofNat tip.height.toNat) := by
    rw [UInt64.ofNat_toNat]
    rfl
  have hnone : ([] : List Fetch).length = (Walk.start tip).visited := rfl
  obtain ⟨fetches, hfetches, htrace⟩ := Walk.runNumber_trace suite hplan tip.height.toNat_lt expects hnone
  rw [htrace, Ledger.browseByNumber, hbegun]
  exact congrArg _ hfetches.symm

end

/-- What is refused in front of the first block is refused whether or not it is called off. -/
theorem Trace.calledOff_refused (suite : HashSuite) (count : Nat) {failure : WalkFailure}
    (h : ∀ blocks, failure ≠ .cancelled blocks) :
    Trace.CalledOff suite count (some (.error failure), []) (some (.error failure), []) where
  toCut := .refl (Nat.zero_le count)
  limited := fun history hok => by cases hok
  counted := fun blocks hoff => by
    cases hoff
    exact absurd rfl (h blocks)

/-- **A walk is called off between two blocks and nowhere else.** For either walk, over all answers and under
every rule: if the whole walk asks for more than `count` blocks, the one that is called off behind `count`
blocks asks for just these and says so; else it ends as the whole walk does, unless that one ends well behind
just these blocks. No history has more than `count` blocks, and the count is that of the blocks that were
fetched and decoded. So even the walk by hash ends, round in a circle or not. -/
theorem Answers.browse_calledOff (answers : Answers) (suite : HashSuite) (rule : StopRule) (count : Nat) :
    let ledger := (answers.ledger Unit).recording
    (∀ steps,
      let whole := ledger.browse rule.plan.recording steps ((), [])
      let cut := ledger.browse (rule.planUpTo count) steps ((), [])
      Trace.CalledOff suite count (whole.1, whole.2.2) (cut.1, cut.2.2) ∧ (count < steps → cut.1.isSome)) ∧
    let whole := ledger.browseByNumber suite rule.plan.recording ((), [])
    let cut := ledger.browseByNumber suite (rule.planUpTo count) ((), [])
    Trace.CalledOff suite count (some whole.1, whole.2.2) (some cut.1, cut.2.2) := by
  intro ledger
  have hnever (fetches : List Fetch) : rule.plan.recording.cancelled ((), fetches) =
      (none : Option Nat).any (· ≤ fetches.length) := rfl
  have hbehind (fetches : List Fetch) : (rule.planUpTo count).cancelled ((), fetches) =
      (some count).any (· ≤ fetches.length) := rfl
  rcases (answers.ledger Unit).startWalk_cases rule () with
    ⟨failure, state', hstart, hrefused⟩ | ⟨tip, state', -, -, hbegun⟩
  · have hne := Ledger.startWalk_ne_cancelled hstart
    refine ⟨fun steps => ?_, ?_⟩
    · simp only [ledger, Ledger.browse, WalkPlan.recording, StopRule.planUpTo, hrefused]
      exact ⟨Trace.calledOff_refused suite count hne, fun _ => rfl⟩
    · simp only [ledger, Ledger.browseByNumber, WalkPlan.recording, StopRule.planUpTo, hrefused]
      exact Trace.calledOff_refused suite count hne
  · refine ⟨fun steps => ?_, ?_⟩
    · dsimp only [ledger]
      rw [browse_trace suite hnever hbegun steps, browse_trace suite hbehind hbegun steps]
      exact ⟨trace_calledOff answers suite .byHash rule steps count tip, fun h => trace_isSome h tip⟩
    · dsimp only [ledger]
      rw [← browseByNumber_trace suite hnever hbegun, ← browseByNumber_trace suite hbehind hbegun]
      exact trace_calledOff answers suite .byNumber rule _ count tip

/-- A block that links to itself is fetched twice by a walk that is called off behind two blocks. -/
theorem Answers.browse_calledOff_circle :
    let answers : Answers := {
      tip := .ok ⟨9, [1], []⟩
      block := fun _ => .ok ⟨some ⟨8, [1], []⟩, some ⟨[]⟩, none⟩ }
    let run := (answers.ledger Unit).recording.browse (StopRule.unlimited.planUpTo 2) 9 ((), [])
    run.1 = some (.error (.cancelled 2)) ∧ run.2.2.length = 2 := by
  intro answers run
  obtain ⟨⟨hcut, -, -⟩, -⟩ := (answers.browse_calledOff .verbatim .unlimited 2).1 9
  have hlong : 2 < ((answers.ledger Unit).recording.browse StopRule.unlimited.plan.recording 9
      ((), [])).2.2.length := by decide
  obtain ⟨hresult, hfetches⟩ := Prod.mk.inj (hcut.inFront hlong)
  exact ⟨hresult, by rw [hfetches, List.length_take, Nat.min_eq_left (Nat.le_of_lt hlong)]⟩

end ChannelLedger
