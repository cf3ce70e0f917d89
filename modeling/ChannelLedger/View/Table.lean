import ChannelLedger.Record.Block
import ChannelLedger.Text.Layout

/-!
# Boxed tables

Blocks and transactions as boxes on a terminal: a table of blocks, a page for one block, and a box
for one transaction. A column is as wide as its heading says, counted in characters; text that is
too long is cut where it is a hash or a transaction's identifier and pushes the border out
elsewhere. Of the reads and writes of a transaction, five of each are listed and the others
counted.
-/
namespace ChannelLedger.View

open Text

/-- A horizontal border. -/
def rule (n : Nat) : String := repeated n "─"

/-- The lines of a page's border. -/
def top : String := "╭─" ++ rule 70 ++ "─╮"

def middle : String := "├─" ++ rule 70 ++ "─┤"

def bottom : String := "╰─" ++ rule 70 ++ "─╯"

/-- The table of some blocks (`render_block_table`). -/
def blockTable (blocks : List BlockOverview) : List String :=
  let border (left cross right : String) : String :=
    left ++ "─" ++ rule 8 ++ "─" ++ cross ++ "─" ++ rule 64 ++ "─" ++ cross ++ "─" ++ rule 6
      ++ "─" ++ right
  let row (number hash count : String) : String :=
    "│ " ++ number ++ " │ " ++ hash ++ " │ " ++ count ++ " │"
  ["", border "╭" "┬" "╮", row (center 8 "Number") (center 64 "Hash") (center 6 "TXs"),
    border "├" "┼" "┤"]
    ++ blocks.map (fun b => row (padLeft 8 (toString b.number))
      (padRight 64 (cut 64 b.blockHash)) (padLeft 6 (toString b.transactionCount)))
    ++ [border "╰" "┴" "╯"]

/-- How many reads and how many writes of a transaction are listed. -/
def listed : Nat := 5

/-- The listed ones of some entries, and how many more there are. -/
def entries (what : String) (width : Nat) (lines : List String) : List String :=
  lines.take listed ++
    if lines.length > listed then
      ["│      ... and " ++ toString (lines.length - listed) ++ " more " ++ what ++ spaces width
        ++ "│"]
    else []

def readLine (r : ReadRecord) : String :=
  "│      📥 " ++ padRight 63 (r.namespaceName ++ ":" ++ r.key ++ " @ " ++ toString r.blockNum
    ++ ":" ++ toString r.txNum) ++ "│"

def writeLine (w : WriteRecord) : String :=
  "│      📤 " ++ padRight 63 (w.namespaceName ++ ":" ++ w.key ++ " = "
    ++ (if w.isDelete then "<deleted>" else cut 32 w.value)) ++ "│"

/-- The lines of the call, which a transaction without a chaincode does not have. -/
def callLines (tx : TransactionRecord) : List String :=
  if tx.chaincodeId = "" then []
  else [
    "│      Chaincode: " ++ padRight 55 (tx.chaincodeId ++ " " ++ tx.chaincodeVersion) ++ "│",
    "│      Args: " ++ padRight 60 (Quoted.list tx.args) ++ "│"]

/-- The line of the committer's verdict, if there is one. -/
def verdictLines (tx : TransactionRecord) : List String :=
  match tx.validationCode with
  | none => []
  | some code =>
    ["│      Validation: " ++ padRight 54
      (if code = 0 then "✅ VALID" else "❌ code " ++ toString code.toNat) ++ "│"]

/-- A transaction as a part of a page, under its position (`render_transaction_section`). -/
def transactionLines (position : Nat) (tx : TransactionRecord) : List String :=
  ["│ " ++ padLeft 3 (toString position) ++ ". " ++ padRight 65 (cut 65 tx.txId) ++ " │",
    "│      Created: " ++ padRight 19 tx.createdAt ++ "  Type: "
      ++ padLeft 3 (toString tx.kind.toInt) ++ "  Channel: " ++ padRight 16 tx.channelId ++ " │"]
    ++ callLines tx
    ++ ["│      Caller: " ++ padRight 58
      (tx.callerMspId ++ " / " ++ tx.callerName ++ " / " ++ tx.callerUnit) ++ "│"]
    ++ verdictLines tx
    ++ entries "reads" 44 (tx.reads.map readLine)
    ++ entries "writes" 43 (tx.writes.map writeLine)
    ++ [middle]

/-- The page of one block (`render_block_detail`). -/
def blockPage (block : BlockRecord) : List String :=
  let b := block.overview
  ["", "🔍 Block Detail View", top,
    "│ Number: " ++ padLeft 8 (toString b.number) ++ "  Transactions: "
      ++ padLeft 6 (toString b.transactionCount) ++ spaces 38 ++ " │",
    "│ Hash:     " ++ padRight 60 (cut 60 b.blockHash) ++ " │",
    "│ Previous: " ++ padRight 60 (cut 60 b.previousHash) ++ " │", middle]
    ++ (block.transactions.zipIdx 1).flatMap (fun (tx, position) => transactionLines position tx)
    ++ [bottom]

/-- The box of one transaction (`render_transaction`). -/
def transactionBox (tx : TransactionRecord) : List String :=
  ["", top] ++ transactionLines 1 tx ++ [bottom]

end ChannelLedger.View
