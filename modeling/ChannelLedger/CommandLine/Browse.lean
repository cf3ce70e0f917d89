import ChannelLedger.Json.Printer
import ChannelLedger.Ledger.Detail
import ChannelLedger.Ledger.Directory
import ChannelLedger.Output.Transcript
import ChannelLedger.View.Table
import ChannelLedger.Walk.Json

/-!
# Browsing from the command line

Shows the latest blocks of a channel with some counts, or one block with its transactions, or one
transaction; each either as tables or as JSON.
-/
namespace ChannelLedger.CommandLine

/-- What to show (`CliOptions`). -/
structure BrowseOptions where
  /-- How many blocks; zero means all. -/
  count : UInt64 := 0
  untilHash : Option String := none
  untilNumber : Option UInt64 := none
  /-- Walk by number and not by hash. -/
  byNumber : Bool := false
  /-- Show the block of that number. -/
  detail : Option UInt64 := none
  /-- Show the transaction of that identifier. -/
  tx : Option String := none
  json : Bool := false
  deriving DecidableEq, Repr

/-- The rule that the options state (`create_browse_config`). The two targets exclude each other. -/
def BrowseOptions.rule (options : BrowseOptions) : Except Report StopRule :=
  match options.untilHash, options.untilNumber with
  | some _, some _ => .error ⟨"Cannot specify both --until-hash and --until-number options", []⟩
  | some hash, none => (StopRule.ofHash hash).mapError StopRuleFailure.report
  | none, some number => .ok (.number number)
  | none, none => .ok (.blockCount options.count)

/-- The counts below the table of blocks (`print_channel_statistics`). -/
def statistics (history : ChannelHistory) : List String :=
  let count (label : String) (n : Nat) : String := label ++ Text.padLeft 8 (toString n)
  let total (size : TransactionRecord → Nat) : Nat :=
    history.transactions.foldl (fun n tx => n + size tx) 0
  ["", "📊 Channel height: " ++ toString history.height,
    count "  📦 Blocks traversed:     " history.blocks.length,
    count "  ⚡ Transactions:         " history.transactionTotal,
    count "  📥 Reads:                " (total (·.reads.length)),
    count "  📤 Writes:               " (total (·.writes.length))]

/-- Prints as JSON or as lines. -/
def printAs (json : Bool) (value : Json) (lines : List String) : Transcript Unit :=
  .print (if json then [value.pretty 0] else lines)

/-- The history that a walk gives, or the end of the command. -/
def finish (result : Except WalkFailure ChannelHistory) : Transcript ChannelHistory :=
  match result with
  | .ok history => .pure history
  | .error failure => ⟨[], .error failure.stop⟩

/-- Shows the blocks of a walk (`show_channel`). -/
def showChannel (suite : HashSuite) (index : BlockIndex) (options : BrowseOptions) :
    Transcript Unit := do
  let rule ← Transcript.orFail id options.rule
  let history ← finish <|
    if options.byNumber then index.browseByNumber suite rule else index.browse rule
  printAs options.json history.toJson <|
    if history.blocks.isEmpty then ["No blocks found matching the criteria."]
    else View.blockTable history.overviews ++ statistics history

/-- Shows the block of a number (`show_block_detail`). -/
def showBlock (suite : HashSuite) (index : BlockIndex) (number : UInt64) (json : Bool) :
    Transcript Unit := do
  let record ← Transcript.orFail (fun
    | .fetch cause => cause.report
    | .decode cause => cause.report.within ("failed to decode block " ++ toString number))
    (index.detailOr (·.hash suite) number)
  printAs json record.toJson (View.blockPage record)

/-- Shows the transaction of an identifier, wherever in the channel it is (`show_transaction`). -/
def showTransaction (index : BlockIndex) (txId : String) (json : Bool) : Transcript Unit := do
  let history ← finish (index.browse .unlimited)
  match history.findTransaction txId with
  | none => .fail ⟨"Transaction " ++ txId ++ " not found in " ++ toString history.blocks.length
      ++ " blocks", []⟩
  | some tx => printAs json tx.toJson (View.transactionBox tx)

/-- Runs the command on the directory that a path leads to (`run_cli_mode`). -/
def browse (suite : HashSuite) (path : String) (directory : Option Directory)
    (options : BrowseOptions) : Transcript Unit := do
  let ledger ← Transcript.orFail
    (fun failure => failure.report.within ("failed to open ledger at " ++ path))
    (DirectoryLedger.open? suite path directory)
  match options.detail, options.tx with
  | some number, none => showBlock suite ledger.index number options.json
  | none, some txId => showTransaction ledger.index txId options.json
  | none, none => showChannel suite ledger.index options
  | some _, some _ => .fail ⟨"Cannot specify both --detail and --tx options", []⟩

end ChannelLedger.CommandLine
