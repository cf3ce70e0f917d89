import ChannelLedger.Proofs.Bytes.Hex
import ChannelLedger.Proofs.Walk.Course

/-!
# Every rule cuts one and the same walk

Over answers that never change there is one walk by hash, the unlimited one, and a rule only says where it
is cut. `Answers.place count` is where the unlimited walk stands behind `count` blocks; it has a last place
or goes on for ever. A rule is looked at in every place and in no other (`browse_of_place`): where it holds
first, the walk ends with what it has seen so far, so that no block behind the cut is even asked for; and
where it holds nowhere, the walk is the unlimited one. Nothing is assumed of the answers: they may be
dishonest, and the links may lead round in a circle.

A step depends on the link alone, apart from the history (`place_congr`). So a walk that comes to an empty
link has never come to the same link twice (`pointer_ne`), and the hash of any of its blocks tells where to
cut it.

Main theorem `Answers.browse_cuts`.
-/
namespace ChannelLedger

/-- The history of the first `count` blocks of a history. -/
def ChannelHistory.first (history : ChannelHistory) (count : Nat) : ChannelHistory :=
  .of history.height (history.blocks.take count)

@[simp] theorem StopRule.unlimited_holds (visited : Nat) (pointer : Bytes) (number : Option UInt64) :
    unlimited.holds visited pointer number = false := by
  simp [unlimited, holds]

namespace Answers

section
variable (answers : Answers)

/-- One step by hash under a rule. -/
def step (rule : StopRule) (walk : Walk) : Walk.Step :=
  (walk.stepHash (answers.ledger Unit) rule.plan ()).1

/-- The end of a walk by hash under a rule, if it comes within that many steps. -/
def run (rule : StopRule) (steps : Nat) (walk : Walk) : Option (Except WalkFailure ChannelHistory) :=
  (walk.runHash (answers.ledger Unit) rule.plan steps ()).1

/-- What a walk by hash from the tip ends with, if it ends within that many steps. -/
def browse (rule : StopRule) (steps : Nat) : Option (Except WalkFailure ChannelHistory) :=
  ((answers.ledger Unit).browse rule.plan steps ()).1

/-- Where the unlimited walk stands behind `count` blocks, if it passes that many. -/
def place : (count : Nat) → Option Walk
  | 0 => answers.tip.toOption.map .start
  | count + 1 => (place count).bind fun walk => (answers.step .unlimited walk).getRight?

/-- A rule holds in a place of the unlimited walk. -/
def HoldsAt (rule : StopRule) (count : Nat) (walk : Walk) : Prop :=
  answers.place count = some walk ∧ rule.holds count walk.pointer walk.expected = true

/-- A rule holds in a place of the unlimited walk, and in none before it. -/
def StopsAt (rule : StopRule) (count : Nat) (walk : Walk) : Prop :=
  answers.HoldsAt rule count walk ∧ ∀ earlier < count, ∀ before, ¬ answers.HoldsAt rule earlier before

/-- Other answers agree with these up to a place: the tip is the same, and so is what is found under every
link of the unlimited walk in front of that place. -/
structure AgreesUpTo (other : Answers) (count : Nat) : Prop where
  tip : other.tip = answers.tip
  block : ∀ i < count, ∀ walk, answers.place i = some walk →
    other.block (.hash walk.pointer) = answers.block (.hash walk.pointer)

end

variable {answers : Answers} {rule : StopRule} {walk : Walk} {count : Nat}

/-! ## One step -/

theorem step_of_holds (h : rule.holds walk.visited walk.pointer walk.expected = true) :
    answers.step rule walk = .inl (.ok walk.history) := by
  simp [step, Walk.stepHash, Walk.isOver, h]

/-- Where a rule does not hold, it has no say in the step. -/
theorem step_of_not_holds (h : rule.holds walk.visited walk.pointer walk.expected = false) :
    answers.step rule walk = answers.step .unlimited walk := by
  simp [step, Walk.stepHash, Walk.isOver, h]

/-- What a step of the unlimited walk can do: end at an empty link, fail, or pass a block that is found
under the link and decodes. -/
theorem step_cases (answers : Answers) (walk : Walk) :
    (walk.pointer = [] ∧ answers.step .unlimited walk = .inl (.ok walk.history)) ∨
    (∃ failure, answers.step .unlimited walk = .inl (.error failure)) ∨
    ∃ block record, walk.pointer ≠ [] ∧ answers.block (.hash walk.pointer) = .ok block ∧
      BlockRecord.ofBlock block walk.pointer = .ok record ∧
      answers.step .unlimited walk = .inr (Way.next .byHash walk block record) := by
  by_cases hp : walk.pointer = []
  · exact .inl ⟨hp, by simp [step, Walk.stepHash, Walk.isOver, hp]⟩
  have hover : walk.isOver .unlimited = false := by
    simp [Walk.isOver, hp]
  refine .inr ?_
  cases hb : answers.block (.hash walk.pointer) with
  | error cause =>
    refine .inl ⟨.ofFetch (.hash walk.pointer) cause, ?_⟩
    simp [step, Walk.stepHash, hover, ledger, hb]
  | ok block =>
    cases hr : BlockRecord.ofBlock block walk.pointer with
    | error cause =>
      refine .inl ⟨.decode block.number cause, ?_⟩
      simp [step, Walk.stepHash, hover, ledger, hb, Walk.passHash_error hr]
    | ok record =>
      refine .inr ⟨block, record, hp, rfl, hr, ?_⟩
      simp [step, Walk.stepHash, hover, ledger, hb, Walk.passHash_ok hr, Way.next, Way.number]

theorem of_step_inr {next : Walk} (h : answers.step .unlimited walk = .inr next) :
    walk.pointer ≠ [] ∧ ∃ block record, answers.block (.hash walk.pointer) = .ok block ∧
      BlockRecord.ofBlock block walk.pointer = .ok record ∧
      next = Way.next .byHash walk block record := by
  rcases answers.step_cases walk with ⟨-, hstep⟩ | ⟨_, hstep⟩ | ⟨block, record, hp, hb, hr, hstep⟩
  · simp [hstep] at h
  · simp [hstep] at h
  · rw [hstep] at h
    exact ⟨hp, block, record, hb, hr, (Sum.inr.inj h).symm⟩

/-- The unlimited walk ends with a history at an empty link only. -/
theorem of_step_ok {history : ChannelHistory} (h : answers.step .unlimited walk = .inl (.ok history)) :
    walk.pointer = [] ∧ history = walk.history := by
  rcases answers.step_cases walk with ⟨hp, hstep⟩ | ⟨_, hstep⟩ | ⟨_, _, -, -, -, hstep⟩
  · rw [hstep] at h
    exact ⟨hp, (Except.ok.inj (Sum.inl.inj h)).symm⟩
  · simp [hstep] at h
  · simp [hstep] at h

/-- A history that a step ends with is what was seen so far. -/
theorem history_of_step {history : ChannelHistory} (h : answers.step rule walk = .inl (.ok history)) :
    history = walk.history := by
  cases hr : rule.holds walk.visited walk.pointer walk.expected with
  | true =>
    rw [step_of_holds hr] at h
    exact (Except.ok.inj (Sum.inl.inj h)).symm
  | false =>
    rw [step_of_not_holds hr] at h
    exact (of_step_ok h).2

theorem run_succ (steps : Nat) : answers.run rule (steps + 1) walk =
    match answers.step rule walk with
    | .inl result => some result
    | .inr next => answers.run rule steps next := by
  rw [run, step, Walk.runHash]
  rcases walk.stepHash (answers.ledger Unit) rule.plan () with ⟨_ | _, ⟨⟩⟩ <;> rfl

/-! ## The places of the unlimited walk -/

theorem place_succ {next : Walk} : answers.place (count + 1) = some next ↔
    ∃ walk, answers.place count = some walk ∧ answers.step .unlimited walk = .inr next := by
  simp [place, Option.bind_eq_some_iff, Sum.getRight?_eq_some_iff]

/-- In front of every place there are all the places before it. -/
theorem place_of_le {i : Nat} (hle : i ≤ count) (h : answers.place count = some walk) :
    ∃ before, answers.place i = some before := by
  induction hle generalizing walk with
  | refl => exact ⟨walk, h⟩
  | step _ ih =>
    obtain ⟨previous, hprevious, -⟩ := place_succ.1 h
    exact ih hprevious

/-- Behind `count` blocks, the unlimited walk has visited that many. -/
theorem stands_of_place (h : answers.place count = some walk) :
    ∃ tip, answers.tip = .ok tip ∧ walk.Stands .byHash tip ∧ walk.visited = count := by
  induction count generalizing walk with
  | zero =>
    cases htip : answers.tip with
    | error cause => simp [place, htip, Except.toOption] at h
    | ok tip =>
      obtain rfl : Walk.start tip = walk := by simpa [place, htip, Except.toOption] using h
      exact ⟨tip, rfl, Walk.stands_start _ tip, rfl⟩
  | succ count ih =>
    obtain ⟨previous, hprevious, hstep⟩ := place_succ.1 h
    obtain ⟨tip, htip, hstands, hvisited⟩ := ih hprevious
    obtain ⟨-, block, record, -, decodes, rfl⟩ := of_step_inr hstep
    refine ⟨tip, htip, hstands.next decodes, ?_⟩
    rw [Walk.visited, Way.blocks_next, List.length_append, ← Walk.visited, hvisited,
      List.length_singleton]

/-- What was seen in a place is seen first in every later one. -/
theorem history_of_place {i : Nat} {before : Walk} (hle : i ≤ count)
    (hbefore : answers.place i = some before) (h : answers.place count = some walk) :
    before.history = walk.history.first i := by
  obtain ⟨tip, htip, hstands, hvisited⟩ := stands_of_place hbefore
  have hblocks : before.history.blocks = walk.history.blocks.take i := by
    induction hle generalizing walk with
    | refl =>
      obtain rfl := Option.some.inj (hbefore.symm.trans h)
      rw [← hvisited, Walk.visited, List.take_length]
    | step hle ih =>
      obtain ⟨previous, hprevious, hstep⟩ := place_succ.1 h
      obtain ⟨-, -, -, hpassed⟩ := stands_of_place hprevious
      obtain ⟨-, block, record, -, -, rfl⟩ := of_step_inr hstep
      have hlength : previous.history.blocks.length = _ := hpassed
      rw [ih hprevious, Way.blocks_next, List.take_append_of_le_length (hlength ▸ hle)]
  obtain ⟨tip', htip', hstands', -⟩ := stands_of_place h
  obtain rfl := Except.ok.inj (htip.symm.trans htip')
  rw [hstands.history, hblocks, ChannelHistory.first, hstands'.history]
  rfl

/-- A block of the history was found under the link of its place. -/
theorem record_of_place (h : answers.place count = some walk) {i : Nat} {record : BlockRecord}
    (hi : walk.history.blocks[i]? = some record) :
    i < count ∧ ∃ before, answers.place i = some before ∧ before.pointer ≠ [] ∧
      record.overview.blockHash = Bytes.toHex before.pointer := by
  obtain ⟨-, -, -, hvisited⟩ := stands_of_place h
  have hlt : i < count := hvisited ▸ (List.getElem?_eq_some_iff.1 hi).1
  obtain ⟨behind, hbehind⟩ := place_of_le hlt h
  obtain ⟨before, hbefore, hstep⟩ := place_succ.1 hbehind
  obtain ⟨-, -, -, hpassed⟩ := stands_of_place hbefore
  obtain ⟨hp, block, passed, -, decodes, rfl⟩ := of_step_inr hstep
  have hlast : (before.history.blocks ++ [passed])[i]? = some record := by
    rw [← Way.blocks_next .byHash before block, history_of_place hlt hbehind h]
    simpa [ChannelHistory.first, ChannelHistory.of, List.getElem?_take] using hi
  rw [← hpassed, Walk.visited, List.getElem?_concat_length] at hlast
  obtain rfl := Option.some.inj hlast
  obtain ⟨header, -, hoverview⟩ := BlockRecord.overview_of_ofBlock decodes
  exact ⟨hlt, before, hbefore, hp, by rw [hoverview]⟩

/-! ## A walk that comes to an empty link -/

/-- What is found under a link decides which link comes next. -/
theorem pointer_congr {other next next' : Walk} (h : answers.step .unlimited walk = .inr next)
    (h' : answers.step .unlimited other = .inr next') (hp : walk.pointer = other.pointer) :
    next.pointer = next'.pointer := by
  obtain ⟨-, block, record, hb, -, rfl⟩ := of_step_inr h
  obtain ⟨-, block', record', hb', -, rfl⟩ := of_step_inr h'
  obtain rfl := Except.ok.inj (hb.symm.trans (hp ▸ hb'))
  rfl

/-- Behind two places with one link, the walk goes the same way. -/
theorem place_congr {i j : Nat} {a b : Walk} (ha : answers.place i = some a)
    (hb : answers.place j = some b) (hp : a.pointer = b.pointer) (k : Nat) {a' b' : Walk}
    (ha' : answers.place (i + k) = some a') (hb' : answers.place (j + k) = some b') :
    a'.pointer = b'.pointer := by
  induction k generalizing a' b' with
  | zero =>
    obtain rfl := Option.some.inj (ha.symm.trans ha')
    obtain rfl := Option.some.inj (hb.symm.trans hb')
    exact hp
  | succ k ih =>
    obtain ⟨a'', ha'', hstep⟩ := place_succ.1 ha'
    obtain ⟨b'', hb'', hstep'⟩ := place_succ.1 hb'
    exact pointer_congr hstep hstep' (ih ha'' hb'')

/-- **A walk that comes to an empty link has never come to one link twice.** Else it would have gone the
same way from both places, and would have come to an empty link before. -/
theorem pointer_ne (h : answers.place count = some walk) (hend : walk.pointer = []) {i j : Nat}
    (hlt : j < i) (hle : i ≤ count) {a b : Walk} (ha : answers.place i = some a)
    (hb : answers.place j = some b) : b.pointer ≠ a.pointer := by
  intro hp
  have hi : i + (count - i) = count := by omega
  obtain ⟨next, hnext⟩ := place_of_le (i := j + (count - i) + 1) (by omega) h
  obtain ⟨b', hb', hstep⟩ := place_succ.1 hnext
  have hempty := place_congr hb ha hp (count - i) hb' (hi.symm ▸ h)
  exact (of_step_inr hstep).1 (hempty.trans hend)

/-! ## A walk under a rule -/

theorem step_of_holdsAt (h : answers.HoldsAt rule count walk) :
    answers.step rule walk = .inl (.ok walk.history) := by
  obtain ⟨-, -, -, hvisited⟩ := stands_of_place h.1
  exact step_of_holds (hvisited ▸ h.2)

theorem step_of_not_holdsAt (hplace : answers.place count = some walk)
    (h : ¬ answers.HoldsAt rule count walk) :
    answers.step rule walk = answers.step .unlimited walk := by
  obtain ⟨-, -, -, hvisited⟩ := stands_of_place hplace
  exact step_of_not_holds (Bool.eq_false_iff.2 fun hholds => h ⟨hplace, hvisited ▸ hholds⟩)

theorem browse_of_tip_error {cause : LedgerFailure} (valid : rule.validate = .ok ())
    (h : answers.tip = .error cause) (steps : Nat) :
    answers.browse rule steps = some (.error (.ofTip cause)) := by
  simp [browse, Ledger.browse, Ledger.startWalk, ledger, valid, h]

/-- Up to the first place in which its rule holds, a walk is in the places of the unlimited one. -/
theorem browse_of_place (valid : rule.validate = .ok ()) (h : answers.place count = some walk)
    (goesOn : ∀ i < count, ∀ before, ¬ answers.HoldsAt rule i before) (steps : Nat) :
    answers.browse rule (count + steps) = answers.run rule steps walk := by
  induction count generalizing walk steps with
  | zero =>
    obtain ⟨tip, htip, -⟩ := stands_of_place h
    obtain rfl : Walk.start tip = walk := by simpa [place, htip, Except.toOption] using h
    simp [browse, run, Ledger.browse, Ledger.startWalk, ledger, valid, htip]
  | succ count ih =>
    obtain ⟨previous, hprevious, hstep⟩ := place_succ.1 h
    have hsteps : count + 1 + steps = count + (steps + 1) := by omega
    rw [hsteps, ih hprevious (fun i hi => goesOn i (Nat.lt_succ_of_lt hi)), run_succ,
      step_of_not_holdsAt hprevious (goesOn count (Nat.lt_succ_self count) previous), hstep]

/-- How far a walk under a rule comes in that many steps. -/
theorem furthest (rule : StopRule) (steps : Nat) :
    (∃ cause, answers.tip = .error cause) ∨
    (∃ walk, answers.place steps = some walk ∧
      ∀ i < steps, ∀ before, ¬ answers.HoldsAt rule i before) ∨
    ∃ count < steps, ∃ walk result, answers.place count = some walk ∧
      (∀ i < count, ∀ before, ¬ answers.HoldsAt rule i before) ∧
      answers.step rule walk = .inl result := by
  induction steps with
  | zero =>
    cases htip : answers.tip with
    | error cause => exact .inl ⟨cause, rfl⟩
    | ok tip => exact .inr (.inl ⟨.start tip, by simp [place, htip, Except.toOption], by simp⟩)
  | succ steps ih =>
    rcases ih with htip | ⟨walk, hplace, goesOn⟩ | ⟨count, hlt, hend⟩
    · exact .inl htip
    · refine .inr ?_
      cases hstep : answers.step rule walk with
      | inl result => exact .inr ⟨steps, Nat.lt_succ_self steps, walk, result, hplace, goesOn, hstep⟩
      | inr next =>
        have hno : ∀ before, ¬ answers.HoldsAt rule steps before := by
          intro before hholds
          obtain rfl := Option.some.inj (hplace.symm.trans hholds.1)
          simp [step_of_holdsAt hholds] at hstep
        refine .inl ⟨next, place_succ.2 ⟨walk, hplace, ?_⟩, fun i hi => ?_⟩
        · rw [← step_of_not_holdsAt hplace (hno walk), hstep]
        · rcases Nat.lt_succ_iff_lt_or_eq.1 hi with hi | rfl
          · exact goesOn i hi
          · exact hno
    · exact .inr (.inr ⟨count, Nat.lt_succ_of_lt hlt, hend⟩)

/-- **What a walk under a rule ends with**: if the tip is known, with what the step brings in a place of the
unlimited walk in front of which the rule has held nowhere. -/
theorem browse_eq_some (valid : rule.validate = .ok ()) {steps : Nat}
    {result : Except WalkFailure ChannelHistory} :
    answers.browse rule steps = some result ↔
      (∃ cause, answers.tip = .error cause ∧ result = .error (.ofTip cause)) ∨
      ∃ count < steps, ∃ walk, answers.place count = some walk ∧
        (∀ i < count, ∀ before, ¬ answers.HoldsAt rule i before) ∧
        answers.step rule walk = .inl result := by
  have hends : ∀ {count walk result}, count < steps → answers.place count = some walk →
      (∀ i < count, ∀ before, ¬ answers.HoldsAt rule i before) →
      answers.step rule walk = .inl result → answers.browse rule steps = some result := by
    intro count walk result hlt hplace goesOn hstep
    obtain ⟨more, rfl⟩ := Nat.exists_eq_add_of_lt hlt
    rw [Nat.add_assoc, browse_of_place valid hplace goesOn, run_succ, hstep]
  refine ⟨fun h => ?_, ?_⟩
  · rcases answers.furthest rule steps with ⟨cause, htip⟩ | ⟨walk, hplace, goesOn⟩ |
      ⟨count, hlt, walk, result', hplace, goesOn, hstep⟩
    · rw [browse_of_tip_error valid htip] at h
      exact .inl ⟨cause, htip, (Option.some.inj h).symm⟩
    · have hnone := browse_of_place valid hplace goesOn 0
      rw [Nat.add_zero, h] at hnone
      cases hnone
    · rw [hends hlt hplace goesOn hstep] at h
      exact .inr ⟨count, hlt, walk, hplace, goesOn, hstep.trans (congrArg _ (Option.some.inj h))⟩
  · rintro (⟨cause, htip, rfl⟩ | ⟨count, hlt, walk, hplace, goesOn, hstep⟩)
    · exact browse_of_tip_error valid htip steps
    · exact hends hlt hplace goesOn hstep

/-- A rule cuts the walk where it holds first. -/
theorem browse_of_stopsAt (valid : rule.validate = .ok ()) (h : answers.StopsAt rule count walk)
    {steps : Nat} (hlt : count < steps) : answers.browse rule steps = some (.ok walk.history) :=
  (browse_eq_some valid).2 (.inr ⟨count, hlt, walk, h.1.1, h.2, step_of_holdsAt h.1⟩)

/-- A rule that holds in no place has no say. -/
theorem browse_of_never (valid : rule.validate = .ok ())
    (never : ∀ count walk, ¬ answers.HoldsAt rule count walk) (steps : Nat) :
    answers.browse rule steps = answers.browse .unlimited steps := by
  have hunlimited : ∀ count walk, ¬ answers.HoldsAt .unlimited count walk := by
    simp [HoldsAt]
  refine Option.ext fun result => ?_
  rw [browse_eq_some valid, browse_eq_some rfl]
  refine or_congr Iff.rfl (exists_congr fun count => and_congr_right fun _ => exists_congr fun walk =>
    and_congr_right fun hplace => ?_)
  simp only [never, hunlimited, not_false_iff, implies_true, true_and,
    step_of_not_holdsAt hplace (never count walk)]

/-! ## What lies behind the cut -/

/-- A step looks at nothing but what is found under its link. -/
theorem step_congr {other : Answers}
    (h : other.block (.hash walk.pointer) = answers.block (.hash walk.pointer)) :
    other.step rule walk = answers.step rule walk := by
  simp [step, Walk.stepHash, ledger, h]

theorem AgreesUpTo.place_eq {other : Answers} (h : answers.AgreesUpTo other count) {i : Nat}
    (hle : i ≤ count) : other.place i = answers.place i := by
  induction i with
  | zero => rw [place, place, h.tip]
  | succ i ih =>
    rw [place, place, ih (Nat.le_of_succ_le hle)]
    refine Option.bind_congr fun walk hwalk => ?_
    rw [step_congr (h.block i hle walk hwalk)]

theorem AgreesUpTo.stopsAt {other : Answers} (h : answers.AgreesUpTo other count)
    (hstops : answers.StopsAt rule count walk) : other.StopsAt rule count walk := by
  refine ⟨⟨?_, hstops.1.2⟩, fun i hi before hholds => hstops.2 i hi before ⟨?_, hholds.2⟩⟩
  · rw [h.place_eq (Nat.le_refl count), hstops.1.1]
  · rw [← h.place_eq (Nat.le_of_lt hi), hholds.1]

/-! ## Limits -/

theorem holdsAt_blockCount {limit : UInt64} : answers.HoldsAt (.blockCount limit) count walk ↔
    answers.place count = some walk ∧ 0 < limit ∧ limit.toNat ≤ count := by
  simp [HoldsAt, StopRule.holds]

/-- What holds the larger limit holds the smaller one. -/
theorem not_holdsAt_larger {limit larger : UInt64} (positive : 0 < limit)
    (hle : larger = 0 ∨ limit ≤ larger) (h : ¬ answers.HoldsAt (.blockCount limit) count walk) :
    ¬ answers.HoldsAt (.blockCount larger) count walk := by
  rw [holdsAt_blockCount] at h ⊢
  rintro ⟨hplace, hlarger, hcount⟩
  rcases hle with rfl | hle
  · exact absurd hlarger (UInt64.lt_irrefl 0)
  · exact h ⟨hplace, positive, Nat.le_trans (UInt64.le_iff_toNat_le.1 hle) hcount⟩

/-- **A smaller limit leaves a prefix of what a larger one leaves.** -/
theorem browse_smaller {limit larger : UInt64} (positive : 0 < limit)
    (hle : larger = 0 ∨ limit ≤ larger) {steps : Nat} {longer : ChannelHistory}
    (h : answers.browse (.blockCount larger) steps = some (.ok longer)) :
    answers.browse (.blockCount limit) steps = some (.ok (longer.first limit.toNat)) := by
  rcases (browse_eq_some rfl).1 h with ⟨_, -, hfails⟩ | ⟨count, hlt, walk, hplace, goesOn, hstep⟩
  · cases hfails
  obtain rfl := history_of_step hstep
  rcases Nat.lt_or_ge count limit.toNat with hshort | hlong
  · -- the larger walk ends by itself before the smaller limit
    have hno : ∀ i ≤ count, ∀ before, ¬ answers.HoldsAt (.blockCount limit) i before := by
      intro i hi before
      rw [holdsAt_blockCount]
      omega
    have hsame : answers.step (.blockCount limit) walk = answers.step (.blockCount larger) walk := by
      rw [step_of_not_holdsAt hplace (hno count (Nat.le_refl count) walk), step_of_not_holdsAt hplace
        (not_holdsAt_larger positive hle (hno count (Nat.le_refl count) walk))]
    have hwhole : walk.history.first limit.toNat = walk.history := by
      obtain ⟨tip, -, hstands, hvisited⟩ := stands_of_place hplace
      have hlength : walk.history.blocks.length = count := hvisited
      rw [ChannelHistory.first, List.take_of_length_le (hlength ▸ Nat.le_of_lt hshort),
        hstands.history]
      rfl
    rw [hwhole]
    exact (browse_eq_some rfl).2 (.inr ⟨count, hlt, walk, hplace,
      fun i hi => hno i (Nat.le_of_lt hi), hsame.trans hstep⟩)
  · obtain ⟨cut, hcut⟩ := place_of_le hlong hplace
    have hstops : answers.StopsAt (.blockCount limit) limit.toNat cut := by
      refine ⟨holdsAt_blockCount.2 ⟨hcut, positive, Nat.le_refl _⟩, fun i hi before hholds => ?_⟩
      exact Nat.not_le_of_lt hi (holdsAt_blockCount.1 hholds).2.2
    rw [← history_of_place hlong hcut hplace]
    exact browse_of_stopsAt rfl hstops (Nat.lt_of_le_of_lt hlong hlt)

/-- A failure in front of a smaller limit is in front of a larger one as well. -/
theorem browse_larger {limit larger : UInt64} (positive : 0 < limit)
    (hle : larger = 0 ∨ limit ≤ larger) {steps : Nat} {failure : WalkFailure}
    (h : answers.browse (.blockCount limit) steps = some (.error failure)) :
    answers.browse (.blockCount larger) steps = some (.error failure) := by
  refine (browse_eq_some rfl).2 ?_
  refine ((browse_eq_some rfl).1 h).imp_right fun ⟨count, hlt, walk, hplace, goesOn, hstep⟩ => ?_
  have hno : ¬ answers.HoldsAt (.blockCount limit) count walk := by
    intro hholds
    rw [step_of_holdsAt hholds] at hstep
    cases hstep
  refine ⟨count, hlt, walk, hplace, fun i hi before =>
    not_holdsAt_larger positive hle (goesOn i hi before), ?_⟩
  rw [step_of_not_holdsAt hplace (not_holdsAt_larger positive hle hno),
    ← step_of_not_holdsAt hplace hno, hstep]

/-! ## Hashes -/

/-- **The hash that a block is shown under tells where to cut the walk in front of it.** -/
theorem browse_ofHash {steps : Nat} {history : ChannelHistory}
    (h : answers.browse .unlimited steps = some (.ok history)) {i : Nat} {record : BlockRecord}
    (hi : history.blocks[i]? = some record) {text : String}
    (htext : text.toLower = record.overview.blockHash) :
    ∃ rule, StopRule.ofHash text = .ok rule ∧
      answers.browse rule steps = some (.ok (history.first i)) := by
  rcases (browse_eq_some rfl).1 h with ⟨_, -, hfails⟩ | ⟨count, hlt, walk, hplace, -, hstep⟩
  · cases hfails
  obtain ⟨hend, rfl⟩ := of_step_ok hstep
  obtain ⟨hcount, before, hbefore, hlink, hhash⟩ := record_of_place hplace hi
  have hread := Bytes.ofHex_of_toLower (htext.trans hhash)
  have hsome : text ≠ "" := by
    rintro rfl
    exact hlink (Except.ok.inj (hread.symm.trans (by rfl)))
  have hvalid : (StopRule.hash before.pointer).validate = .ok () := by
    cases hp : before.pointer with
    | nil => exact absurd hp hlink
    | cons => rfl
  have hstops : answers.StopsAt (.hash before.pointer) i before := by
    refine ⟨⟨hbefore, by simp [StopRule.holds]⟩, fun j hj earlier hholds => ?_⟩
    refine pointer_ne hplace hend hj (Nat.le_of_lt hcount) hbefore hholds.1 ?_
    simpa [StopRule.holds] using hholds.2
  refine ⟨.hash before.pointer, by simp [StopRule.ofHash, hsome, hread], ?_⟩
  rw [← history_of_place (Nat.le_of_lt hcount) hbefore hplace]
  exact browse_of_stopsAt hvalid hstops (Nat.lt_trans hcount hlt)

/-- **Every rule cuts one and the same walk**, whatever the answers are. -/
theorem browse_cuts (answers : Answers) :
    -- the unlimited walk ends with what the step brings in its last place, if it has one
    (∀ steps result, answers.browse .unlimited steps = some result ↔
      (∃ cause, answers.tip = .error cause ∧ result = .error (.ofTip cause)) ∨
      ∃ count < steps, ∃ walk, answers.place count = some walk ∧
        answers.step .unlimited walk = .inl result) ∧
    -- its places are one block apart
    (∀ count walk, answers.place count = some walk → walk.visited = count ∧
      ∀ i ≤ count, ∃ before, answers.place i = some before ∧
        before.history = walk.history.first i) ∧
    -- a rule cuts it where it holds first, whatever is found behind
    (∀ rule count walk, rule.validate = .ok () → answers.StopsAt rule count walk →
      ∀ other, answers.AgreesUpTo other count → ∀ steps, count < steps →
        other.browse rule steps = some (.ok walk.history)) ∧
    -- and does not change it if it holds nowhere
    (∀ rule, rule.validate = .ok () → (∀ count walk, ¬ answers.HoldsAt rule count walk) →
      ∀ steps, answers.browse rule steps = answers.browse .unlimited steps) ∧
    -- limits leave prefixes of each other, and a failure stays in front of every larger limit
    (∀ limit larger : UInt64, 0 < limit → larger = 0 ∨ limit ≤ larger → ∀ steps,
      (∀ longer, answers.browse (.blockCount larger) steps = some (.ok longer) →
        answers.browse (.blockCount limit) steps = some (.ok (longer.first limit.toNat))) ∧
      ∀ failure, answers.browse (.blockCount limit) steps = some (.error failure) →
        answers.browse (.blockCount larger) steps = some (.error failure)) ∧
    -- the hash of a block, in either case, cuts in front of it
    ∀ steps history, answers.browse .unlimited steps = some (.ok history) →
      ∀ i record, history.blocks[i]? = some record →
        ∀ text : String, text.toLower = record.overview.blockHash →
          ∃ rule, StopRule.ofHash text = .ok rule ∧
            answers.browse rule steps = some (.ok (history.first i)) := by
  refine ⟨fun steps result => ?_, fun count walk h => ⟨?_, fun i hi => ?_⟩,
    fun rule count walk valid h other hagrees steps hlt => ?_, fun rule => browse_of_never,
    fun limit larger positive hle steps => ⟨fun longer => browse_smaller positive hle,
      fun failure => browse_larger positive hle⟩,
    fun steps history h i record hi text => browse_ofHash h hi⟩
  · rw [browse_eq_some rfl]
    simp [HoldsAt]
  · obtain ⟨-, -, -, hvisited⟩ := stands_of_place h
    exact hvisited
  · obtain ⟨before, hbefore⟩ := place_of_le hi h
    exact ⟨before, hbefore, history_of_place hi hbefore h⟩
  · exact browse_of_stopsAt valid (hagrees.stopsAt h) hlt

/-- The third block is missing, and the walk that is cut in front of it ends well. -/
theorem browse_cuts_missing :
    let answers : Answers := {
      tip := .ok ⟨9, [3], []⟩
      block := fun ref =>
        if ref = .hash [3] then .ok ⟨some ⟨8, [2], []⟩, some ⟨[]⟩, none⟩
        else if ref = .hash [2] then .ok ⟨some ⟨4, [1], []⟩, some ⟨[]⟩, none⟩
        else .error (.notFound "block") }
    answers.browse .unlimited 9 = some (.error (.fetch (.hash [1]) (.notFound "block"))) ∧
    ∃ walk, answers.StopsAt (.hash [1]) 2 walk ∧
      answers.browse (.hash [1]) 9 = some (.ok walk.history) := by
  intro answers
  obtain ⟨walk, hwalk, hpointer⟩ : ∃ walk, answers.place 2 = some walk ∧ walk.pointer = [1] :=
    ⟨_, rfl, rfl⟩
  have hstops : answers.StopsAt (.hash [1]) 2 walk := by
    refine ⟨⟨hwalk, by simp [StopRule.holds, hpointer]⟩, ?_⟩
    have hearlier : ∀ i < 2, ∀ before ∈ answers.place i, before.pointer ≠ [1] := by decide
    exact fun i hi before hholds => hearlier i hi before hholds.1
      (by simpa [StopRule.holds] using hholds.2)
  exact ⟨by decide, walk, hstops, answers.browse_cuts.2.2.1 (.hash [1]) 2 walk rfl hstops answers
    ⟨rfl, fun _ _ _ _ => rfl⟩ 9 (by decide)⟩

end Answers

end ChannelLedger
