import ChannelLedger.CommandLine.Arguments
import ChannelLedger.Inspect.Block
import ChannelLedger.Server.Launch

/-!
# The program

From an invocation and the directory it names to what is printed and how the program ends. The
dashboards need a terminal or a network, which a transcript does not have: the one ends at once, the
other when it has said where it could be reached.
-/
namespace ChannelLedger.CommandLine

/-- Inspects the block of a number, all blocks, or else the last block (`run_inspector_mode`). -/
def inspect (suite : HashSuite) (path : String) (directory : Option Directory)
    (block : Option UInt64) (all : Bool) : Transcript Unit := do
  .print ["📋 Checking ledger availability..."]
  Inspect.checkDirectory path directory
  let ledger ← Transcript.orFail LedgerFailure.report (DirectoryLedger.open? suite path directory)
  if all then Inspect.inspectAll suite ledger.index
  else match block with
    | some number => Inspect.inspectBlock suite ledger.index number
    | none =>
      match ledger.index.tip with
      | .error failure => ⟨[], .error failure.stop⟩
      | .ok tip =>
        if tip.height = 0 then .fail ⟨"Ledger holds no blocks", []⟩
        Inspect.inspectBlock suite ledger.index (tip.height - 1)
        .print ["", "💡 INVESTIGATION COMPLETE", "Next steps:",
          "  • Use -b/--block <NUMBER> to investigate a specific block",
          "  • Use -a/--all to investigate every block"]

namespace Invocation

/-- Does what an invocation asks for (`main`). -/
def run (invocation : Invocation) (directory : Option Directory) : Transcript Unit := do
  if directory.isNone then
    .fail ⟨"Ledger path is not a directory: " ++ Quoted.path invocation.ledger, []⟩
  match invocation.command with
  | .browse options =>
    unless options.json do .print ["🔍 Fabric Ledger Inspector - CLI Mode"]
    CommandLine.browse invocation.suite invocation.ledger directory options
  | .inspect block all =>
    .print ["🔍 Fabric Ledger Inspector - Block Structure Investigation"]
    CommandLine.inspect invocation.suite invocation.ledger directory block all
  | .terminal _ => .fail ⟨"the dashboard needs a terminal", []⟩
  | .serve port bind cors =>
    .print ["🌐 Fabric Ledger Inspector - Web Server Mode"]
    discard (Server.launch invocation.suite invocation.ledger directory 0 ⟨bind, port⟩ cors)
    .fail ⟨"the dashboard needs a network", []⟩

end Invocation

/-- How a program ends. -/
structure Exit where
  code : UInt8
  stdout : String
  stderr : String
  deriving DecidableEq, Repr

/-- The end of a program that ran. -/
def Exit.ofTranscript (transcript : Transcript Unit) : Exit :=
  match transcript.result with
  | .ok () => ⟨0, transcript.text, ""⟩
  | .error (.failure report) => ⟨1, transcript.text, report.text⟩
  | .error .overflow => ⟨101, transcript.text, overflowMessage ++ "\n"⟩

/-- The end of a program whose arguments name nothing to do. -/
def Exit.ofUsage : UsageFailure → Exit
  | .help => ⟨0, usage, ""⟩
  | .version => ⟨0, "fabric-ledger-inspector 0.4.0\n", ""⟩
  | .wrong what => ⟨2, "", "error: " ++ what ++ "\n\n" ++ usage⟩
where
  usage : String :=
    "Usage: --ledger <LEDGER_DIR> [--hash sha256|sha384] <cli|inspect> [OPTIONS]\n"

end ChannelLedger.CommandLine
