import ChannelLedger.Proofs.Walk.Account
import ChannelLedger.Terminal.Screen

/-!
# The terminal dashboard along a run

The dashboard keeps the loaded blocks twice, as a history and as the rows of a table, and beside them the
position of the selected row. Refreshes that succeed or fail, keys and redraws come in any order, and the
blocks may be more, fewer or none from one refresh to the next. `App.Aligned` is what every one of them
keeps: the dashboard is the one of the history, and there is a selection exactly if there are blocks, which
is one of them (`App.Aligned.act`, `App.Aligned.run`).

The table of blocks belongs to the library that draws. All that is used of it is that it leaves a selection
alone that is one of its rows (`App.Redrawn`); drawing as it is modelled does so (`App.redrawn_draw`).

Main theorem `App.aligned_along_runs`.
-/
namespace ChannelLedger

/-! ## What a walk can end with -/

/-- A history that some walk ends with, by hash or by number, over a ledger that answers whatever. -/
inductive ChannelHistory.Walked (history : ChannelHistory) : Prop
  | byHash {σ : Type} (ledger : Ledger σ) (plan : WalkPlan σ) (steps : Nat) (state : σ)
    (walked : (ledger.browse plan steps state).1 = some (.ok history))
  | byNumber {σ : Type} (ledger : Ledger σ) (suite : HashSuite) (plan : WalkPlan σ) (state : σ)
    (walked : (ledger.browseByNumber suite plan state).1 = .ok history)

namespace ChannelHistory.Walked

variable {history : ChannelHistory}

theorem accounts (h : history.Walked) :
    ∃ suite rule tip fetches, history.Accounts suite rule tip fetches := by
  cases h with
  | byHash ledger plan steps state walked =>
    obtain ⟨fetches, -, hcourse⟩ := ledger.browse_course .sha256 plan steps state
    obtain ⟨tip, -, hcourse⟩ := (walked ▸ hcourse).begun_of_ok
    exact ⟨_, _, tip, fetches, hcourse.accounts⟩
  | byNumber ledger suite plan state walked =>
    obtain ⟨fetches, -, hcourse⟩ := ledger.browseByNumber_course suite plan state
    obtain ⟨tip, -, hcourse⟩ := (walked ▸ hcourse).begun_of_ok
    exact ⟨_, _, tip, fetches, hcourse.accounts⟩

/-- Every block is shown with the number of its transactions. -/
theorem counted (h : history.Walked) :
    ∀ record ∈ history.blocks, record.overview.transactionCount = record.transactions.length := by
  intro record hm
  obtain ⟨suite, rule, tip, fetches, haccounts⟩ := h.accounts
  have hfetched : some record ∈ fetches.map (·.record? suite) := by
    rw [haccounts.blocks]
    exact List.mem_map_of_mem hm
  obtain ⟨fetch, -, hrecord⟩ := List.mem_map.1 hfetched
  exact Fetch.transactionCount_of_record? hrecord

end ChannelHistory.Walked

/-- Of a hundred transactions with a verdict, no more than a hundred are valid. -/
theorem Dashboard.validPercentage_le (dashboard : Dashboard) : dashboard.validPercentage ≤ 100 := by
  apply Nat.div_le_of_le_mul
  simp only [checked]
  omega

namespace Terminal

/-- One thing that happens to the dashboard. -/
inductive Act where
  /-- A refresh gives that, at that time. -/
  | refresh (suiteName : String) (now : UInt64) (result : Except Report ChannelHistory)
  | handle (event : Event)
  /-- The dashboard is drawn, of which the table of blocks leaves that. -/
  | redraw (table : App → App)

namespace App

/-- The dashboard after one act. -/
def act (app : App) : Act → App
  | .refresh suiteName now result => app.refresh suiteName now result
  | .handle event => app.handle event
  | .redraw table => table app

/-- The dashboard after acts in that order. -/
def run (acts : List Act) (app : App) : App :=
  acts.foldl act app

/-- Drawing scrolls the table, and changes a selection only if that is none of the rows. -/
structure Redrawn (before after : App) : Prop where
  others : after = { before with selected := after.selected, firstRow := after.firstRow }
  selected : (∀ i, before.selected = some i → i < before.dashboard.recentBlocks.length) →
    after.selected = before.selected

end App

/-- What an act may be: a refresh gives what a walk can end with, and drawing keeps to its table. -/
def Act.Lawful : Act → Prop
  | .refresh _ _ (.ok history) => history.Walked
  | .refresh _ _ (.error _) | .handle _ => True
  | .redraw table => ∀ app : App, app.Redrawn (table app)

namespace App

variable {app : App}

/-- The dashboard of the program, drawn on a screen of any size. -/
theorem redrawn_draw (app : App) (path : String) (width height : Nat) :
    app.Redrawn (app.draw path width height).1 := by
  have hscroll : ∀ room, (app.scroll room).selected = app.selected ∧
      app.scroll room = { app with selected := app.selected, firstRow := (app.scroll room).firstRow } := by
    intro room
    unfold scroll
    cases hselected : app.selected with
    | none => simp [← hselected]
    | some i =>
      dsimp only
      split
      · simp [← hselected]
      · split <;> simp [← hselected]
  obtain ⟨hselected, hothers⟩ := hscroll (height - 12 - 4)
  exact ⟨by rw [draw, hselected]; exact hothers, fun _ => hselected⟩

/-! ## What every act keeps -/

/-- Rows, blocks and selection fit together. -/
structure Aligned (app : App) : Prop where
  /-- The dashboard is the one of the history. -/
  dashboard : ∃ suiteName now, app.dashboard = .ofHistory app.history suiteName now
  counted : ∀ block ∈ app.history.blocks,
    block.overview.transactionCount = block.transactions.length
  selection : app.selected = none ↔ app.history.blocks = []
  inBounds : ∀ i, app.selected = some i → i < app.history.blocks.length

namespace Aligned

theorem start : ({} : App).Aligned where
  dashboard := ⟨"", 0, rfl⟩
  counted := by simp
  selection := by simp
  inBounds := by simp

/-- The rows are those of the blocks, one for one. -/
theorem recentBlocks_eq (h : app.Aligned) :
    app.dashboard.recentBlocks = app.history.blocks.map .ofBlock := by
  obtain ⟨suiteName, now, hdashboard⟩ := h.dashboard
  rw [hdashboard]
  rfl

/-- One of the blocks can be selected. -/
theorem select (h : app.Aligned) {i : Nat} (hi : i < app.history.blocks.length) :
    (app.select (some i)).Aligned where
  dashboard := h.dashboard
  counted := h.counted
  selection := by
    have hne : app.history.blocks ≠ [] := List.ne_nil_of_length_pos (by omega)
    simp [App.select, hne]
  inBounds j hj := by
    obtain rfl : i = j := by simpa [App.select] using hj
    exact hi

theorem display (app : App) (suiteName : String) (now : UInt64) {history : ChannelHistory}
    (walked : history.Walked) : (app.display suiteName now history).Aligned := by
  unfold App.display
  cases hblocks : history.blocks with
  | nil =>
    simp only [List.isEmpty_nil, if_true, App.select]
    exact ⟨⟨suiteName, now, rfl⟩, walked.counted, by simp [hblocks], by simp⟩
  | cons block blocks =>
    simp only [List.isEmpty_cons, Bool.false_eq_true, if_false, App.select]
    refine ⟨⟨suiteName, now, rfl⟩, walked.counted, by simp [hblocks], ?_⟩
    intro i hi
    simp only [Option.some.injEq] at hi
    simp only [hblocks, List.length_cons] at hi ⊢
    omega

theorem refresh (h : app.Aligned) (suiteName : String) (now : UInt64)
    {result : Except Report ChannelHistory} (lawful : (Act.refresh suiteName now result).Lawful) :
    (app.refresh suiteName now result).Aligned := by
  cases result with
  | ok history => exact display app suiteName now lawful
  | error report => exact ⟨h.dashboard, h.counted, h.selection, h.inBounds⟩

/-- Where there is a selection, a key moves it by one row, if there is one there. -/
theorem press_arrow (h : app.Aligned) {i : Nat} (hi : app.selected = some i) :
    app.press .up = app.select (some (i - 1)) ∧
      app.press .down =
        app.select (some (if i + 1 < app.history.blocks.length then i + 1 else i)) := by
  have hlt := h.inBounds i hi
  have hpos : app.history.blocks.length ≠ 0 := by omega
  have hmin : min (i + 1) (app.history.blocks.length - 1) =
      if i + 1 < app.history.blocks.length then i + 1 else i := by
    split <;> omega
  simp [press, hpos, hi, hmin]

/-- Without blocks, no key selects anything. -/
theorem press_arrow_of_nil (h : app.history.blocks = []) :
    app.press .up = app ∧ app.press .down = app := by
  simp [press, h]

/-- Any other key leaves blocks, rows and selection alone. -/
theorem press_other {key : Key} (hup : key ≠ .up) (hdown : key ≠ .down) :
    ∃ wantsRefresh quit, app.press key = { app with wantsRefresh := wantsRefresh, quit := quit } := by
  unfold App.press
  split
  case h_1 | h_2 => exact ⟨app.wantsRefresh, true, rfl⟩
  case h_3 => exact ⟨true, app.quit, rfl⟩
  case h_4 => exact absurd rfl hdown
  case h_5 => exact absurd rfl hup
  case h_6 => exact ⟨app.wantsRefresh, app.quit, rfl⟩

theorem press (h : app.Aligned) (key : Key) : (app.press key).Aligned := by
  by_cases harrow : key = .up ∨ key = .down
  · have hboth : (app.press .up).Aligned ∧ (app.press .down).Aligned := by
      cases hi : app.selected with
      | none =>
        obtain ⟨hup, hdown⟩ := press_arrow_of_nil (h.selection.1 hi)
        rw [hup, hdown]
        exact ⟨h, h⟩
      | some i =>
        have hlt := h.inBounds i hi
        obtain ⟨hup, hdown⟩ := h.press_arrow hi
        rw [hup, hdown]
        exact ⟨h.select (by omega), h.select (by split <;> omega)⟩
    rcases harrow with rfl | rfl
    · exact hboth.1
    · exact hboth.2
  · rw [not_or] at harrow
    obtain ⟨wantsRefresh, quit, hpress⟩ := press_other harrow.1 harrow.2
    rw [hpress]
    exact ⟨h.dashboard, h.counted, h.selection, h.inBounds⟩

theorem handle (h : app.Aligned) (event : Event) : (app.handle event).Aligned := by
  cases event with
  | key key => exact h.press key
  | other => exact h
  | idle => exact h

/-- A selection that is one of the rows is out of the table's reach. -/
theorem redrawn (h : app.Aligned) {after : App} (drawn : app.Redrawn after) : after.Aligned := by
  have hrows : app.dashboard.recentBlocks.length = app.history.blocks.length := by
    rw [h.recentBlocks_eq, List.length_map]
  have hselected : after.selected = app.selected := by
    apply drawn.selected
    rw [hrows]
    exact h.inBounds
  rw [drawn.others, hselected]
  exact ⟨h.dashboard, h.counted, h.selection, h.inBounds⟩

/-- **Every act keeps rows, blocks and selection together.** -/
theorem act (h : app.Aligned) {act : Act} (lawful : act.Lawful) : (app.act act).Aligned := by
  cases act with
  | refresh suiteName now result => exact h.refresh suiteName now lawful
  | handle event => exact h.handle event
  | redraw table => exact h.redrawn (lawful app)

theorem run (h : app.Aligned) {acts : List Act} (lawful : ∀ act ∈ acts, act.Lawful) :
    (app.run acts).Aligned := by
  induction acts generalizing app with
  | nil => exact h
  | cons act acts ih =>
    have hfirst : (app.act act).Aligned := h.act (lawful act List.mem_cons_self)
    exact ih hfirst fun other hm => lawful other (List.mem_cons_of_mem act hm)

/-- The block whose transactions are shown is the one of the highlighted row. -/
theorem selectedBlock_eq (h : app.Aligned) {i : Nat} (hi : app.selected = some i) :
    ∃ block, app.selectedBlock = some block ∧
      app.dashboard.recentBlocks[i]? = some (.ofBlock block) := by
  have hlt := h.inBounds i hi
  have hblock := List.getElem?_eq_getElem hlt
  refine ⟨app.history.blocks[i], ?_, ?_⟩
  · rw [selectedBlock, hi]
    exact hblock
  · rw [h.recentBlocks_eq, List.getElem?_map, hblock, Option.map_some]

end Aligned

/-- **Rows, blocks and selection stay together.** After any refreshes, keys and redraws in any order there is
a selection exactly if there are blocks, and it is one of them. Each row is that of the block in its place,
so the transactions that are shown are those of the highlighted row. A refresh that fails changes nothing
but what the last one failed of, and one that succeeds forgets that; the arrow keys move the selection by one
row, if there is one; and the share of valid transactions is no more than a hundred percent. -/
theorem aligned_along_runs {acts : List Act} (lawful : ∀ act ∈ acts, act.Lawful) :
    let app := App.run acts {}
    (app.selected = none ↔ app.history.blocks = []) ∧
    (∀ i, app.selected = some i → i < app.history.blocks.length) ∧
    app.dashboard.recentBlocks.length = app.history.blocks.length ∧
    (∀ (i : Nat) row block, app.dashboard.recentBlocks[i]? = some row →
      app.history.blocks[i]? = some block →
        row.number = block.overview.number ∧ row.hash = block.overview.blockHash ∧
        row.transactionCount = block.overview.transactionCount ∧
        row.transactionCount = block.transactions.length) ∧
    (∀ i, app.selected = some i → ∃ block, app.selectedBlock = some block ∧
      app.history.blocks[i]? = some block ∧ app.dashboard.recentBlocks[i]? = some (.ofBlock block)) ∧
    (∀ suiteName now report, app.refresh suiteName now (.error report) =
      { app with lastError := some report.oneLine, wantsRefresh := false }) ∧
    (∀ suiteName now history, (app.refresh suiteName now (.ok history)).lastError = none) ∧
    (app.history.blocks = [] → app.press .up = app ∧ app.press .down = app) ∧
    (∀ i, app.selected = some i →
      app.press .up = { app with selected := some (i - 1) } ∧
      app.press .down =
        { app with selected := some (if i + 1 < app.history.blocks.length then i + 1 else i) }) ∧
    app.dashboard.validPercentage ≤ 100 := by
  intro app
  have h : app.Aligned := Aligned.start.run lawful
  refine ⟨h.selection, h.inBounds, by rw [h.recentBlocks_eq, List.length_map], ?_, ?_, fun _ _ _ => rfl, ?_,
    Aligned.press_arrow_of_nil, fun i hi => h.press_arrow hi, app.dashboard.validPercentage_le⟩
  · intro i row block hrow hblock
    rw [h.recentBlocks_eq, List.getElem?_map, hblock, Option.map_some, Option.some.injEq] at hrow
    subst hrow
    exact ⟨rfl, rfl, rfl, h.counted block (List.mem_of_getElem? hblock)⟩
  · intro i hi
    obtain ⟨block, hselected, hrow⟩ := h.selectedBlock_eq hi
    refine ⟨block, hselected, ?_, hrow⟩
    rwa [selectedBlock, hi] at hselected
  · intro suiteName now history
    rw [refresh, display]
    split <;> rfl

/-! ### A window that shrinks -/

namespace Shrinking

/-- A channel of two blocks. -/
def answers : Answers where
  tip := .ok ⟨2, [2], [1]⟩
  block
    | .hash [2] => .ok ⟨some ⟨1, [1], []⟩, some ⟨[]⟩, none⟩
    | _ => .ok ⟨some {}, some ⟨[]⟩, none⟩

def upper : BlockRecord := ⟨⟨1, "02", "01", 0⟩, []⟩

def lower : BlockRecord := ⟨⟨0, "01", "", 0⟩, []⟩

/-- Both blocks are loaded and the lower one is selected; a refresh fails, and another one loads only the
upper block. -/
def acts : List Act := [
  .refresh "seven" 1 (.ok (.of 2 [upper, lower])),
  .handle (.key .down),
  .redraw fun app => (app.draw "ledger" 80 24).1,
  .refresh "seven" 2 (.error ⟨"mid-write", []⟩),
  .refresh "seven" 3 (.ok (.of 2 [upper]))]

theorem lawful : ∀ act ∈ acts, act.Lawful := by
  have hboth : (ChannelHistory.of 2 [upper, lower]).Walked :=
    .byHash (answers.ledger Unit) ⟨.blockCount 20, fun _ => false⟩ 3 () rfl
  have hone : (ChannelHistory.of 2 [upper]).Walked :=
    .byHash (answers.ledger Unit) ⟨.blockCount 1, fun _ => false⟩ 2 () rfl
  simp only [acts, List.forall_mem_cons]
  exact ⟨hboth, trivial, fun app => app.redrawn_draw "ledger" 80 24, trivial, hone, by simp⟩

end Shrinking

/-- The selection follows to the one block that is left. -/
theorem aligned_along_runs_shrinking :
    let app := App.run Shrinking.acts {}
    app.selected = some 0 ∧ app.selectedBlock = some Shrinking.upper ∧ app.lastError = none ∧
    app.dashboard.recentBlocks[0]? = some (.ofBlock Shrinking.upper) ∧
    app.press .down = { app with selected := some 0 } := by
  intro app
  have hselected : app.selected = some 0 := rfl
  obtain ⟨-, -, -, -, hshown, -, -, -, harrows, -⟩ := aligned_along_runs Shrinking.lawful
  obtain ⟨block, hblock, hget, hrow⟩ := hshown 0 hselected
  obtain rfl : Shrinking.upper = block := Option.some.inj hget
  exact ⟨hselected, hblock, rfl, hrow, (harrows 0 hselected).2⟩

end App

end Terminal

end ChannelLedger
