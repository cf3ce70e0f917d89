import ChannelLedger.Proofs.Walk.Account

/-!
# Walks end

A walk by number has a number less to go with every block, and a walk under a limit has a block less, so both
end over every ledger, whatever it answers and however often it changes its mind. A walk by hash has nothing
that it counts: what it goes down by is the number of the block that it is led to, and over a ledger whose
links lead round in a circle it has no end.

Over an index it has one as soon as no link leads up (`BlockIndex.LinksDown`), and nothing else is asked: the
numbers may have gaps, the links may skip blocks or lead nowhere, and hashes may collide. What is found under
the link of a block then has a smaller number than the block (`LinksDown.leadsBelow_next`), so the walk comes
to each block once at most.

Main theorem `Ledger.walks_end`.
-/
namespace ChannelLedger

/-- The height that a ledger reports; zero if it does not say where the channel ends. -/
def Ledger.height {σ : Type} (ledger : Ledger σ) (state : σ) : Nat :=
  match (ledger.tip state).1 with
  | .ok tip => tip.height.toNat
  | .error _ => 0

/-- What a block names as the hash before it is that of no held block with the same or a higher number. -/
def BlockIndex.LinksDown (suite : HashSuite) (index : BlockIndex) : Prop :=
  ∀ stored ∈ index.blocks, ∀ other ∈ index.blocks, stored.number ≤ other.number →
    stored.header.previousHash ≠ other.header.hash suite

instance (suite : HashSuite) (index : BlockIndex) : Decidable (index.LinksDown suite) :=
  inferInstanceAs (Decidable (∀ stored ∈ index.blocks, ∀ other ∈ index.blocks,
    stored.number ≤ other.number → stored.header.previousHash ≠ other.header.hash suite))

/-- What is found under the link of a walk has a number below a bound. -/
def Walk.LeadsBelow (index : BlockIndex) (bound : Nat) (walk : Walk) : Prop :=
  ∀ block, index.block (.hash walk.pointer) = .ok block → block.number.toNat < bound

/-- How many numbers a walk has to go. -/
def Walk.left (walk : Walk) : Nat :=
  match walk.expected with
  | none => 0
  | some number => number.toNat + 1

theorem toNat_of_previousNumber {number next : UInt64} (h : previousNumber number = some next) :
    next.toNat + 1 = number.toNat := by
  unfold previousNumber at h
  split at h
  · cases h
  · rename_i hne
    cases h
    have hpos : number.toNat ≠ 0 := fun hzero => hne (UInt64.toNat_inj.1 hzero)
    rw [UInt64.toNat_sub_of_le]
    · simp only [UInt64.toNat_one]
      omega
    · rw [UInt64.le_iff_toNat_le, UInt64.toNat_one]
      omega

/-! ## How many blocks are asked for -/

namespace Walk.Course

variable {σ : Type} {ledger : Ledger σ} {suite : HashSuite} {way : Way} {rule : StopRule} {walk : Walk}
  {fetches : List Fetch} {result : Option (Except WalkFailure ChannelHistory)}

/-- **By number, no more blocks are asked for than there are numbers to go.** -/
theorem length_le_left (h : walk.Course ledger suite .byNumber rule fetches result) :
    fetches.length ≤ walk.left := by
  have hpos : ∀ walk : Walk, Way.byNumber.isOver rule walk = false → 0 < walk.left := by
    intro walk goesOn
    cases hexpected : walk.expected with
    | none => simp [Way.isOver, hexpected] at goesOn
    | some number => simp [left, hexpected]
  induction h with
  | halted => exact Nat.zero_le _
  | cancelled => exact Nat.zero_le _
  | ended => exact Nat.zero_le _
  | missing goesOn => exact hpos _ goesOn
  | undecodable goesOn => exact hpos _ goesOn
  | @passes walk block record fetches _ goesOn answered decodes rest ih =>
    have hnext : (Way.byNumber.next walk block record).left + 1 ≤ walk.left := by
      have hleft := hpos walk goesOn
      cases hexpected : walk.expected with
      | none => simp [left, hexpected] at hleft
      | some number =>
        simp only [left, Way.next, Way.number, hexpected, Option.getD_some]
        cases hprevious : previousNumber number with
        | none => exact Nat.succ_le_succ (Nat.zero_le _)
        | some next => exact Nat.succ_le_succ (Nat.le_of_eq (toNat_of_previousNumber hprevious))
    exact (Nat.succ_le_succ ih).trans hnext

/-- **Under a limit, no more blocks are asked for than are missing to it.** -/
theorem length_le_limit {limit : UInt64}
    (h : walk.Course ledger suite way (.blockCount limit) fetches result) (positive : 0 < limit)
    (short : walk.visited ≤ limit.toNat) : walk.visited + fetches.length ≤ limit.toNat := by
  have hlt : ∀ walk : Walk, way.isOver (.blockCount limit) walk = false → walk.visited < limit.toNat := by
    intro walk goesOn
    have hholds := (Way.of_isOver goesOn).1
    simpa [StopRule.holds, positive] using hholds
  induction h with
  | halted => exact short
  | cancelled => exact short
  | ended => exact short
  | missing goesOn => exact hlt _ goesOn
  | undecodable goesOn => exact hlt _ goesOn
  | @passes walk block record fetches _ goesOn answered decodes rest ih =>
    have hvisited : (way.next walk block record).visited = walk.visited + 1 := by
      simp [visited]
    have := ih (hvisited ▸ hlt walk goesOn)
    rw [hvisited] at this
    rw [List.length_cons]
    omega

/-- A walk that may take no further step has been given every block that it asked for. -/
theorem isOk_of_none (h : walk.Course ledger suite way rule fetches none) :
    fetches.countP (·.answer.isOk) = fetches.length := by
  generalize hresult : (none : Option (Except WalkFailure ChannelHistory)) = result at h
  induction h with
  | halted => rfl
  | cancelled => rfl
  | ended => rfl
  | missing => cases hresult
  | undecodable => cases hresult
  | passes _ _ _ _ ih =>
    rw [List.countP_cons, ih hresult]
    rfl

end Walk.Course

/-! ## Where no link leads up -/

namespace BlockIndex

/-- More blocks have a number below a larger bound. -/
theorem countBelow_mono (index : BlockIndex) {below bound : Nat} (h : below ≤ bound) :
    index.countBelow below ≤ index.countBelow bound :=
  List.countP_mono_left fun stored _ hlt => by
    simp only [decide_eq_true_eq] at hlt ⊢
    exact Nat.lt_of_lt_of_le hlt h

variable {suite : HashSuite} {blocks : List Block} {index : BlockIndex} {block : Block}

/-- What is found under a hash is a held block of that hash. -/
theorem Reflects.stored_of_block_hash (h : Reflects suite blocks index) {hash : Bytes}
    (found : index.block (.hash hash) = .ok block) :
    ∃ stored ∈ index.blocks, stored.block = block ∧ stored.header.hash suite = hash := by
  obtain ⟨header, hh, hhash, hnumber⟩ := h.block_hash_sound found
  obtain ⟨stored, hm, -, rfl⟩ := mem_of_block_number hnumber
  obtain rfl : stored.header = header := by simpa [stored.header_eq] using hh
  exact ⟨stored, hm, rfl, hhash⟩

/-- **Where no link leads up, each block leads below itself.** -/
theorem LinksDown.leadsBelow_next (down : index.LinksDown suite) (h : Reflects suite blocks index)
    {walk : Walk} (found : index.block (.hash walk.pointer) = .ok block) (record : BlockRecord) :
    (Way.byHash.next walk block record).LeadsBelow index block.number.toNat := by
  intro next hnext
  obtain ⟨stored, hm, rfl, -⟩ := h.stored_of_block_hash found
  obtain ⟨other, hm', rfl, hhash⟩ := h.stored_of_block_hash hnext
  have hlink : stored.header.previousHash = other.header.hash suite := by
    rw [hhash]
    simp [Way.next, Block.link, stored.header_eq]
  have hlt : other.number < stored.number :=
    UInt64.not_le.1 fun hle => down stored hm other hm' hle hlink
  rw [Block.number_of_header stored.header_eq, Block.number_of_header other.header_eq]
  exact UInt64.lt_iff_toNat_lt.1 hlt

end BlockIndex

/-- Whatever block a walk is led to, it has a number. -/
theorem Walk.leadsBelow_top (walk : Walk) (index : BlockIndex) : walk.LeadsBelow index (2 ^ 64) :=
  fun block _ => block.number.toNat_lt

namespace Walk.Course

variable {suite : HashSuite} {blocks : List Block} {index : BlockIndex} {rule : StopRule} {walk : Walk}
  {fetches : List Fetch} {result : Option (Except WalkFailure ChannelHistory)} {bound : Nat}

/-- **No more blocks are fetched than have a number below the one that the walk is led to.** -/
theorem countP_le_countBelow (down : index.LinksDown suite) (hi : index.Reflects suite blocks)
    (h : walk.Course (index.answers.ledger Unit) suite .byHash rule fetches result)
    (below : walk.LeadsBelow index bound) :
    fetches.countP (·.answer.isOk) ≤ index.countBelow bound := by
  -- a block that is found is a held one, and those behind it are counted below its number
  have hfound : ∀ {walk : Walk} {block : Block} {bound : Nat},
      (index.answers.ledger Unit).Gives (Way.byHash.ref walk) (.ok block) →
      walk.LeadsBelow index bound →
      index.block (.hash walk.pointer) = .ok block ∧
        index.countBelow block.number.toNat + 1 ≤ index.countBelow bound := by
    rintro walk block bound ⟨_, found⟩ below
    obtain ⟨stored, hm, rfl, -⟩ := hi.stored_of_block_hash found
    have hnumber : stored.number.toNat = stored.block.number.toNat := by
      rw [Block.number_of_header stored.header_eq]
      rfl
    exact ⟨found, (index.countBelow_lt hm hnumber).trans_le (index.countBelow_mono (below _ found))⟩
  induction h generalizing bound with
  | halted => exact Nat.zero_le _
  | cancelled => exact Nat.zero_le _
  | ended => exact Nat.zero_le _
  | missing => exact Nat.zero_le _
  | undecodable goesOn answered fails =>
    have hcount := (hfound answered below).2
    exact (Nat.succ_le_succ (Nat.zero_le _)).trans hcount
  | @passes walk block record fetches _ goesOn answered decodes rest ih =>
    obtain ⟨found, hcount⟩ := hfound answered below
    have hrest := ih (down.leadsBelow_next hi found record)
    rw [List.countP_cons]
    exact (Nat.add_le_add_right hrest 1).trans hcount

/-- **The numbers of the blocks go down**, so no block comes twice. -/
theorem numbers_descend (down : index.LinksDown suite) (hi : index.Reflects suite blocks)
    {history : ChannelHistory}
    (h : walk.Course (index.answers.ledger Unit) suite .byHash rule fetches (some (.ok history)))
    (below : walk.LeadsBelow index bound) :
    ∃ records, history.blocks = walk.history.blocks ++ records ∧
      (records.map (·.overview.number)).Pairwise (· > ·) ∧
      ∀ record ∈ records, record.overview.number.toNat < bound := by
  generalize hresult : some (Except.ok history) = result at h
  induction h generalizing bound with
  | halted => cases hresult
  | cancelled => cases hresult
  | ended =>
    cases hresult
    exact ⟨[], (List.append_nil _).symm, .nil, fun _ hm => absurd hm List.not_mem_nil⟩
  | missing => cases hresult
  | undecodable => cases hresult
  | @passes walk block record fetches _ goesOn answered decodes rest ih =>
    obtain ⟨_, found⟩ := answered
    obtain ⟨records, hblocks, hdescend, hbelow⟩ := ih (down.leadsBelow_next hi found record) hresult
    have hnumber := BlockRecord.number_of_ofBlock decodes
    have hlt := below block found
    refine ⟨record :: records, ?_, ?_, ?_⟩
    · rw [hblocks, Way.blocks_next, List.append_assoc, List.singleton_append]
    · refine List.pairwise_cons.2 ⟨fun number hm => ?_, hdescend⟩
      obtain ⟨other, hother, rfl⟩ := List.mem_map.1 hm
      change other.overview.number < record.overview.number
      rw [hnumber]
      exact UInt64.lt_iff_toNat_lt.2 (hbelow other hother)
    · refine List.forall_mem_cons.2 ⟨hnumber ▸ hlt, fun other hother => ?_⟩
      exact (hbelow other hother).trans hlt

end Walk.Course

/-! ## How many steps are enough -/

namespace Walk

section
variable {σ : Type} {ledger : Ledger σ} {plan : WalkPlan σ} {walk : Walk} {state state' : σ}

/-- A walk that has ended is not changed by further steps. -/
theorem runHash_of_le {steps more : Nat} {result : Except WalkFailure ChannelHistory}
    (h : walk.runHash ledger plan steps state = (some result, state')) (hle : steps ≤ more) :
    walk.runHash ledger plan more state = (some result, state') := by
  induction steps generalizing walk state more with
  | zero => simp [runHash] at h
  | succ steps ih =>
    obtain ⟨more, rfl⟩ := Nat.exists_eq_add_of_le' (Nat.one_le_of_lt hle)
    rw [runHash] at h ⊢
    generalize walk.stepHash ledger plan state = step at h ⊢
    rcases step with ⟨ended | next, after⟩
    · exact h
    · exact ih h (Nat.le_of_succ_le_succ hle)

/-- A walk that has not ended has asked for a block in every step. -/
theorem length_of_runHash_none {steps : Nat} {earlier : List Fetch}
    (h : (walk.runHash ledger.recording plan.recording steps (state, earlier)).1 = none) :
    (walk.runHash ledger.recording plan.recording steps (state, earlier)).2.2.length =
      earlier.length + steps := by
  induction steps generalizing walk state earlier with
  | zero => rfl
  | succ steps ih =>
    cases hc : plan.recording.cancelled (state, earlier) with
    | true => simp [runHash, stepHash, hc] at h
    | false =>
    cases ho : walk.isOver plan.recording.rule with
    | true => simp [runHash_over hc ho] at h
    | false =>
    obtain ⟨answer, state', hb⟩ : ∃ answer state', ledger.block (.hash walk.pointer) state =
      (answer, state') := ⟨_, _, rfl⟩
    have hb' : ledger.recording.block (.hash walk.pointer) (state, earlier) =
        (answer, state', earlier ++ [⟨.hash walk.pointer, answer⟩]) := by
      simp only [Ledger.recording, hb]
    cases answer with
    | error cause => simp [runHash_error hc ho hb'] at h
    | ok block =>
    rw [runHash_block hc ho hb'] at h ⊢
    cases hpass : walk.passHash block with
    | error failure => simp [hpass] at h
    | ok next =>
      simp only [hpass] at h ⊢
      rw [ih h, List.length_append, List.length_singleton]
      omega

end

end Walk

namespace Ledger

variable {σ : Type} (ledger : Ledger σ) (plan : WalkPlan σ) (state : σ)

theorem browse_of_le {steps more : Nat} {result : Except WalkFailure ChannelHistory} {state' : σ}
    (h : ledger.browse plan steps state = (some result, state')) (hle : steps ≤ more) :
    ledger.browse plan more state = (some result, state') := by
  unfold browse at h ⊢
  generalize ledger.startWalk plan.rule state = start at h ⊢
  rcases start with ⟨failure | walk, after⟩
  · exact h
  · exact Walk.runHash_of_le h hle

theorem length_of_browse_none {steps : Nat}
    (h : (ledger.recording.browse plan.recording steps (state, [])).1 = none) :
    (ledger.recording.browse plan.recording steps (state, [])).2.2.length = steps := by
  unfold browse at h ⊢
  rcases ledger.startWalk_cases plan.rule state with
    ⟨failure, state', -, hs⟩ | ⟨tip, state', -, -, hs⟩ <;>
  simp only [WalkPlan.recording, hs] at h ⊢
  · cases h
  · exact (Walk.length_of_runHash_none h).trans (Nat.zero_add steps)

/-- **A walk ends if the blocks that it can be given are bounded**: one step more than there are such blocks
is enough, and more steps change nothing. -/
theorem browse_ends (suite : HashSuite) {bound : Nat}
    (bounded : ∀ fetches, ledger.Course suite .byHash plan.rule state fetches none →
      fetches.length ≤ bound) :
    ∃ result state' fetches, ledger.Course suite .byHash plan.rule state fetches (some result) ∧
      ∀ steps, bound < steps →
        ledger.recording.browse plan.recording steps (state, []) = (some result, state', fetches) ∧
        ledger.browse plan steps state = (some result, state') := by
  obtain ⟨fetches, hrun, hcourse⟩ := ledger.browse_course suite plan (bound + 1) state
  obtain ⟨ended, state', hend⟩ : ∃ ended state', ledger.browse plan (bound + 1) state = (ended, state') :=
    ⟨_, _, rfl⟩
  rw [hend] at hrun hcourse
  cases ended with
  | none =>
    have hsteps := ledger.length_of_browse_none plan state (congrArg Prod.fst hrun)
    have hlength : fetches.length = bound + 1 := by rwa [hrun] at hsteps
    have hle := bounded fetches hcourse
    omega
  | some result =>
    exact ⟨result, state', fetches, hcourse, fun steps hlt =>
      ⟨ledger.recording.browse_of_le plan.recording (state, []) hrun hlt,
        ledger.browse_of_le plan state hend hlt⟩⟩

namespace Course

variable {ledger : Ledger σ} {state : σ} {suite : HashSuite} {rule : StopRule} {fetches : List Fetch}
  {result : Option (Except WalkFailure ChannelHistory)}

theorem length_le_height (h : ledger.Course suite .byNumber rule state fetches result) :
    fetches.length ≤ ledger.height state := by
  cases h with
  | refused => exact Nat.zero_le _
  | @begun tip _ _ reported course =>
    refine course.length_le_left.trans ?_
    simp only [height, reported, Walk.left, Walk.start]
    cases hprevious : previousNumber tip.height with
    | none => exact Nat.zero_le _
    | some next => exact Nat.le_of_eq (toNat_of_previousNumber hprevious)

theorem length_le_limit {way : Way} {limit : UInt64}
    (h : ledger.Course suite way (.blockCount limit) state fetches result) (positive : 0 < limit) :
    fetches.length ≤ limit.toNat := by
  cases h with
  | refused => exact Nat.zero_le _
  | begun _ course =>
    have hle := course.length_le_limit positive (Nat.zero_le _)
    rwa [Walk.visited, Walk.start, List.length_nil, Nat.zero_add] at hle

variable {blocks : List Block} {index : BlockIndex}

theorem countP_le_size (down : index.LinksDown suite) (hi : index.Reflects suite blocks)
    (h : (index.answers.ledger Unit).Course suite .byHash rule () fetches result) :
    fetches.countP (·.answer.isOk) ≤ index.size := by
  cases h with
  | refused => exact Nat.zero_le _
  | begun _ course =>
    exact (course.countP_le_countBelow down hi (Walk.leadsBelow_top _ _)).trans (index.countBelow_le_size _)

theorem isOk_of_none {way : Way} (h : ledger.Course suite way rule state fetches none) :
    fetches.countP (·.answer.isOk) = fetches.length := by
  cases h with
  | begun _ course => exact course.isOk_of_none

end Course

end Ledger

/-- **The walks end.** By number, over every ledger and under every plan, at most as many blocks are asked
for as the reported height. By hash and under a limit, over every ledger, the walk ends, and at most that many
blocks are asked for. By hash over an index in which no link leads up, the walk ends under every rule, at most
as many blocks are fetched as are held, and their numbers go down, so that none comes twice. -/
theorem Ledger.walks_end :
    (∀ (σ : Type) (ledger : Ledger σ) (suite : HashSuite) (plan : WalkPlan σ) (state : σ),
      let run := ledger.recording.browseByNumber suite plan.recording (state, [])
      (run.1, run.2.1) = ledger.browseByNumber suite plan state ∧
      run.2.2.length ≤ ledger.height state) ∧
    (∀ (σ : Type) (ledger : Ledger σ) (plan : WalkPlan σ) (state : σ) (limit : UInt64),
      plan.rule = .blockCount limit → 0 < limit →
      ∃ result state' fetches, fetches.length ≤ limit.toNat ∧ ∀ steps, limit.toNat < steps →
        ledger.recording.browse plan.recording steps (state, []) = (some result, state', fetches) ∧
        ledger.browse plan steps state = (some result, state')) ∧
    ∀ (suite : HashSuite) (blocks : List Block),
      let index := BlockIndex.ofBlocks suite blocks
      index.LinksDown suite → ∀ rule : StopRule,
        ∃ fetches, fetches.countP (·.answer.isOk) ≤ index.size ∧
          (∀ steps, index.size < steps →
            (index.answers.ledger Unit).recording.browse rule.plan.recording steps ((), []) =
              (some (index.browse rule), (), fetches)) ∧
          ∀ history, index.browse rule = .ok history →
            (history.blocks.map (·.overview.number)).Pairwise (· > ·) := by
  refine ⟨fun σ ledger suite plan state => ?_, fun σ ledger plan state limit hrule positive => ?_,
    fun suite blocks => ?_⟩
  · obtain ⟨fetches, hrun, hcourse⟩ := ledger.browseByNumber_course suite plan state
    simp only [hrun]
    exact ⟨trivial, hcourse.length_le_height⟩
  · -- which suite the course names the blocks with does not matter by hash
    obtain ⟨result, state', fetches, hcourse, hends⟩ := ledger.browse_ends plan state .sha256
      (fun fetches hcourse => (hrule ▸ hcourse).length_le_limit positive)
    exact ⟨result, state', fetches, (hrule ▸ hcourse).length_le_limit positive, hends⟩
  · intro index down rule
    have hi : index.Reflects suite blocks := BlockIndex.reflects_ofBlocks suite blocks
    obtain ⟨result, ⟨⟩, fetches, hcourse, hends⟩ := (index.answers.ledger Unit).browse_ends rule.plan ()
      suite (fun fetches hcourse => hcourse.isOk_of_none ▸ hcourse.countP_le_size down hi)
    have hbrowse : index.browse rule = result := by
      have hrun := (hends _ (BlockIndex.lt_steps rule (Nat.le_refl index.size))).2
      rw [BlockIndex.browse, hrun]
      rfl
    refine ⟨fetches, hcourse.countP_le_size down hi, fun steps hlt => hbrowse ▸ (hends steps hlt).1,
      fun history hok => ?_⟩
    rw [hbrowse] at hok
    obtain ⟨tip, -, hwalk⟩ := (hok ▸ hcourse).begun_of_ok
    obtain ⟨records, hblocks, hdescend, -⟩ := hwalk.numbers_descend down hi (Walk.leadsBelow_top _ _)
    rw [hblocks]
    exact hdescend

/-- A ledger that gives one and the same block for ever, under a limit of four; and an index of blocks 9, 5
and 3, each of which links to the next one over a gap, and the last one to nothing. -/
theorem Ledger.walks_end_circle_and_gaps :
    let same : Answers := ⟨.ok ⟨9, [1], []⟩, fun _ => .ok ⟨some ⟨8, [1], []⟩, some ⟨[]⟩, none⟩⟩
    let plan := (StopRule.blockCount 4).plan
    let lowest : Block := ⟨some ⟨3, [7], []⟩, some ⟨[]⟩, none⟩
    let middle : Block := ⟨some ⟨5, lowest.hash .verbatim, []⟩, some ⟨[]⟩, none⟩
    let highest : Block := ⟨some ⟨9, middle.hash .verbatim, []⟩, some ⟨[]⟩, none⟩
    let index := BlockIndex.ofBlocks .verbatim [middle, highest, lowest]
    (∃ history fetches, history.blocks.length = 4 ∧ fetches.length ≤ 4 ∧ ∀ steps, 4 < steps →
      (same.ledger Unit).recording.browse plan.recording steps ((), []) =
        (some (.ok history), (), fetches)) ∧
    index.LinksDown .verbatim ∧ ∃ history fetches, fetches.countP (·.answer.isOk) ≤ 3 ∧
      (∀ steps, 3 < steps →
        (index.answers.ledger Unit).recording.browse (StopRule.number 2).plan.recording steps ((), []) =
          (some (.ok history), (), fetches)) ∧
      history.blocks.map (·.overview.number) = [9, 5, 3] := by
  intro same plan lowest middle highest index
  obtain ⟨-, hlimit, hdown⟩ := Ledger.walks_end
  have down : index.LinksDown .verbatim := by decide
  refine ⟨?_, down, ?_⟩
  · obtain ⟨history, hrun, hlength⟩ : ∃ history, (same.ledger Unit).browse plan 5 () =
        (some (.ok history), ()) ∧ history.blocks.length = 4 := ⟨_, rfl, by decide⟩
    obtain ⟨result, ⟨⟩, fetches, hle, hends⟩ :=
      hlimit Unit (same.ledger Unit) plan () 4 rfl (by decide)
    obtain rfl : result = .ok history := by
      simpa [hrun] using (hends 5 (by decide)).2.symm
    exact ⟨history, fetches, hlength, hle, fun steps hlt => (hends steps hlt).1⟩
  · obtain ⟨history, hok, hnumbers⟩ := Outcome.map_eq_ok.1
      (show (index.browse (.number 2)).map (·.blocks.map (·.overview.number)) = .ok [9, 5, 3] by decide)
    obtain ⟨fetches, hle, hends, -⟩ := hdown .verbatim [middle, highest, lowest] down (.number 2)
    exact ⟨history, fetches, hle, fun steps hlt => hok ▸ hends steps hlt, hnumbers⟩

end ChannelLedger
