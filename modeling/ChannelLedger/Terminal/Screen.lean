import ChannelLedger.Terminal.App
import ChannelLedger.Text.Columns
import ChannelLedger.Text.Layout
import ChannelLedger.Text.Quoted

/-!
# The screen of the terminal dashboard

The dashboard as lines of text: a header, a row of counts, the latest blocks beside the
transactions of the selected one, and a footer with a hint or the last error. Everything stands in
boxes, one cell away from the edge of the screen. Boxes side by side share the width by
percentages, each border between them rounded to the nearest column.
-/
namespace ChannelLedger.Terminal

open Text

/-! ## Boxes -/

/-- A box of the given size around lines, with its title in the upper border. -/
def box (width height : Nat) (title : String) (lines : List String) : List String :=
  let inner := width - 2
  let row (line : String) : String := "│" ++ line ++ "│"
  ["┌" ++ Columns.place "─" inner (Columns.clusters title) ++ "┐"]
    ++ (lines.take (height - 2)).map row
    ++ List.replicate (height - 2 - lines.length) (row (spaces inner))
    ++ ["└" ++ repeated inner "─" ++ "┘"]

/-- Boxes of equal height side by side. -/
def beside : List (List String) → List String
  | [] => []
  | [lines] => lines
  | lines :: boxes => List.zipWith (· ++ ·) lines (beside boxes)

/-- The border after so many hundredths of a width. -/
def hundredths (width percent : Nat) : Nat :=
  (2 * width * percent + 100) / 200

/-- Cells side by side, each in its width, one column apart. -/
def cells (widths : List Nat) (texts : List String) : String :=
  " ".intercalate (List.zipWith (fun width s => Columns.fit width ((Text.lines s).headD "")) widths
    texts)

/-- A table in a box: headings, an empty line, and rows. -/
def table (width height : Nat) (title : String) (widths : List Nat) (headings : List String)
    (rows : List (List String)) : List String :=
  let line (texts : List String) : String := Columns.fit (width - 2) (cells widths texts)
  box width height title ([line headings, spaces (width - 2)] ++ rows.map line)

/-! ## Parts of the screen -/

/-- What stands at the top (`render_header`). -/
def header (width : Nat) (path : String) (stats : ChannelStats) : List String :=
  box width 4 "Fabric Channel Explorer" [
    Columns.fitLine (width - 2) ["🔍 ", "Fabric Ledger Inspector", " - Terminal Dashboard"],
    Columns.fitLine (width - 2) ["Ledger: ", Quoted.path path, "  Channel: ",
      stats.channelId.getD "-", "  Hash: ", stats.hashSuite]]

/-- How many cells of a gauge are filled. -/
def filledCells (width percent : Nat) : Nat :=
  (Float.ofNat width * (Float.ofNat percent / 100)).round.toUInt64.toNat

/-- A gauge with its label in the middle; one cell behind the label stays empty too. -/
def gauge (width percent : Nat) (label : String) : String :=
  let label := label.toList.take width
  let start := (width - label.length) / 2
  let filled := filledCells width percent
  String.ofList <| (List.range width).map fun i =>
    if start ≤ i ∧ i < start + label.length then label.getD (i - start) ' '
    else if i < filled ∧ i ≠ start + label.length then '█'
    else ' '

/-- The counts of the channel (`render_chain_stats`). -/
def counts (width : Nat) (dashboard : Dashboard) : List String :=
  let stats := dashboard.stats
  let first := hundredths width 33
  let second := hundredths width 66
  let third := width - second
  beside [
    box first 3 "📦 Height" [Columns.fitLine (first - 2)
      [toString stats.height ++ " (loaded " ++ toString stats.blocksLoaded ++ ")"]],
    box (second - first) 3 "⚡ Transactions" [Columns.fitLine (second - first - 2)
      [toString stats.transactionsLoaded]],
    box third 3 "✅ Valid" [gauge (third - 2) dashboard.validPercentage
      (toString stats.valid ++ "/" ++ toString dashboard.checked)]]

/-- A hash cut to sixteen digits. -/
def shortHash (hash : String) : String :=
  if hash.length > 16 then cut 16 hash ++ "..." else hash

/-- The time of day in a date and time. -/
def timeOfDay (createdAt : Option String) : String :=
  match createdAt.map (·.splitOn " ") with
  | some (_ :: time :: _) => time
  | _ => "-"

def blockCells (row : BlockRow) : List String :=
  [toString row.number, shortHash row.hash, timeOfDay row.createdAt,
    toString row.transactionCount]

/-- The latest blocks from the first row shown on (`render_recent_blocks`). -/
def recentBlocks (width height : Nat) (app : App) : List String :=
  table width height "📊 Recent Blocks" [8, 20, 10, 5] ["Number", "Hash", "Created", "TXs"]
    ((app.dashboard.recentBlocks.drop app.firstRow).map blockCells)

def transactionCells (tx : TransactionRecord) : List String := [
  if tx.txId.length > 12 then cut 12 tx.txId ++ "..." else tx.txId,
  if tx.chaincodeId = "" then "type " ++ toString tx.kind.toInt else tx.chaincodeId,
  tx.callerMspId ++ "/" ++ tx.callerName,
  toString tx.reads.length ++ "/" ++ toString tx.writes.length,
  match tx.isValid with
  | some true => "yes"
  | some false => "no"
  | none => "-"]

/-- The transactions of a block (`render_block_transactions`). -/
def transactions (width height : Nat) (block : Option BlockRecord) : List String :=
  let title := match block with
    | none => "⚡ Transactions"
    | some block => "⚡ Block " ++ toString block.overview.number ++ " Transactions"
  table width height title [16, 14, width - 2 - 46, 7, 5]
    ["TxID", "Chaincode", "Caller", "R/W", "Valid"]
    ((block.elim [] (·.transactions)).map transactionCells)

/-- What stands at the bottom (`render_footer`). -/
def footer (width : Nat) (lastError : Option String) : List String :=
  let line := match lastError with
    | some text => "⚠️  " ++ text
    | none => "Press 'q' to quit, 'r' to refresh, ↑/↓ to select a block"
  box width 3 "" [Columns.fitLine (width - 2) [(Text.lines line).headD ""]]

/-! ## The screen -/

/-- A line without the blanks at its end. -/
def trimmed (line : String) : String :=
  String.ofList (line.toList.reverse.dropWhile (· = ' ')).reverse

namespace App

/-- Draws the dashboard of the ledger that a path leads to (`ui`). Scrolling changes which rows are shown the
next time. -/
def draw (app : App) (path : String) (width height : Nat) : App × List String :=
  let inner := width - 2
  let body := height - 12
  let app := app.scroll (body - 4)
  let left := hundredths inner 45
  let lines := header inner path app.dashboard.stats ++ counts inner app.dashboard
    ++ beside [recentBlocks left body app, transactions (inner - left) body app.selectedBlock]
    ++ footer inner app.lastError
  (app, (["" ] ++ lines.map (fun line => trimmed (" " ++ line)) ++ [""]))

end App

/-- What happens at the terminal. -/
inductive Event where
  | key (key : Key)
  /-- Something that is no key. -/
  | other
  /-- Nothing, for a while. -/
  | idle
  deriving DecidableEq, Repr

/-- What an event does to the dashboard. -/
def App.handle (app : App) : Event → App
  | .key key => app.press key
  | .other | .idle => app

/-- The line that is printed when the dashboard is left. -/
def farewell : String := "👋 Fabric Ledger Inspector - Dashboard closed"

end ChannelLedger.Terminal
