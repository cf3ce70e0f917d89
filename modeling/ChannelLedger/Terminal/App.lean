import ChannelLedger.Dashboard.Basic
import ChannelLedger.Ledger.Directory
import ChannelLedger.Output.Transcript
import ChannelLedger.Walk.Browse

/-!
# The dashboard on a terminal

What the dashboard holds and how it changes: a refresh loads the latest blocks or keeps what was
there and notes why, and keys move the selection, ask for a refresh, or end the program. The rows
are those of the loaded blocks, and the selection is one of them whenever there are any after a
refresh.
-/
namespace ChannelLedger.Terminal

/-- How many blocks a refresh loads (`DASHBOARD_WINDOW`). -/
def window : UInt64 := 20

/-- Loads the latest blocks of the ledger that a path leads to (`load_summary`). -/
def load (suite : HashSuite) (path : String) (directory : Option Directory) :
    Except Stop ChannelHistory := do
  let ledger ← (DirectoryLedger.open? suite path directory).mapError LedgerFailure.stop
  (ledger.index.browse (.blockCount window)).mapError WalkFailure.stop

inductive Key where
  | up
  | down
  | escape
  | enter
  | char (c : Char)
  deriving DecidableEq, Repr

/-- The dashboard as it is (`TuiApp`). -/
structure App where
  dashboard : Dashboard := {}
  history : ChannelHistory := {}
  /-- The row that is selected. -/
  selected : Option Nat := none
  /-- The first row that is shown. -/
  firstRow : Nat := 0
  /-- Why the last refresh failed, if it did. -/
  lastError : Option String := none
  /-- Whether a refresh was asked for. -/
  wantsRefresh : Bool := false
  quit : Bool := false
  deriving DecidableEq, Repr

namespace App

/-- The block that is selected (`selected_block`). -/
def selectedBlock (app : App) : Option BlockRecord :=
  app.selected.bind fun i => app.history.blocks[i]?

/-- Selects a row or none; without a selection the first row is shown first again. -/
def select (app : App) : Option Nat → App
  | none => { app with selected := none, firstRow := 0 }
  | some i => { app with selected := some i }

/-- Shows what was loaded. The selection stays where it was as far as there are rows. -/
def display (app : App) (suiteName : String) (now : UInt64) (history : ChannelHistory) : App :=
  let shown := { app with
    dashboard := .ofHistory history suiteName now
    history := history
    lastError := none
    wantsRefresh := false }
  if history.blocks.isEmpty then shown.select none
  else shown.select (some (min (app.selected.getD 0) (history.blocks.length - 1)))

/-- Takes what a refresh gave, as `update_data` does. -/
def refresh (app : App) (suiteName : String) (now : UInt64) : Except Report ChannelHistory → App
  | .ok history => app.display suiteName now history
  | .error report => { app with lastError := some report.oneLine, wantsRefresh := false }

/-- Loads the latest blocks and takes what that gave, unless a number leaves the 64-bit range (`update_data`). -/
def reload (app : App) (suite : HashSuite) (path : String) (directory : Option Directory)
    (now : UInt64) : Option App :=
  match load suite path directory with
  | .error .overflow => none
  | .error (.failure report) => some (app.refresh suite.name now (.error report))
  | .ok history => some (app.refresh suite.name now (.ok history))

/-- Whether to load again, that many seconds after the last time (`event_loop`). -/
def needsReload (app : App) (interval elapsed : UInt64) : Bool :=
  app.wantsRefresh || interval ≤ elapsed

/-- Takes a key (`handle_input`). -/
def press (app : App) (key : Key) : App :=
  let rows := app.history.blocks.length
  match key with
  | .escape | .char 'q' => { app with quit := true }
  | .char 'r' => { app with wantsRefresh := true }
  | .down =>
    if rows = 0 then app
    else app.select (some (match app.selected with
      | none => 0
      | some i => min (i + 1) (rows - 1)))
  | .up =>
    if rows = 0 then app
    else app.select (some (match app.selected with
      | none => 0
      | some i => i - 1))
  | _ => app

/-- The first row to show where that many rows have room, so that the selected one is shown. -/
def scroll (app : App) (room : Nat) : App :=
  let rows := app.dashboard.recentBlocks.length
  let first := min app.firstRow (rows - 1)
  match app.selected with
  | none => { app with firstRow := first }
  | some i =>
    let i := min i (rows - 1)
    if i < first then { app with firstRow := i }
    else if first + room ≤ i then { app with firstRow := i + 1 - room }
    else { app with firstRow := first }

end App

end ChannelLedger.Terminal
