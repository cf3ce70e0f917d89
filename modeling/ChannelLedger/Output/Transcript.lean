import ChannelLedger.Output.Report

/-!
# Transcripts

A command prints lines and then either ends well or fails; what it had printed before it failed
stays printed. A sum that leaves the 64-bit range stops a command at once and is nobody's report.
-/
namespace ChannelLedger

/-- Why a command does not end well. -/
inductive Stop where
  | failure (report : Report)
  | overflow
  deriving DecidableEq, Repr

/-- What a command printed, and what came of it. -/
structure Transcript (α : Type) where
  lines : List String
  result : Except Stop α

namespace Transcript

protected def pure {α : Type} (a : α) : Transcript α := ⟨[], .ok a⟩

protected def bind {α β : Type} (t : Transcript α) (f : α → Transcript β) : Transcript β :=
  match t.result with
  | .error stop => ⟨t.lines, .error stop⟩
  | .ok a => ⟨t.lines ++ (f a).lines, (f a).result⟩

instance : Monad Transcript where
  pure := Transcript.pure
  bind := Transcript.bind

/-- Prints lines. -/
def print (lines : List String) : Transcript Unit := ⟨lines, .ok ()⟩

/-- Ends with a report. -/
def fail {α : Type} (report : Report) : Transcript α := ⟨[], .error (.failure report)⟩

/-- Goes on with a result or ends with the report of a failure. -/
def orFail {α ε : Type} (report : ε → Report) : Except ε α → Transcript α
  | .ok a => .pure a
  | .error e => fail (report e)

/-- Everything that was printed. -/
def text {α : Type} (t : Transcript α) : String :=
  String.join (t.lines.map (· ++ "\n"))

end Transcript

/-- How a command ends that a ledger does not answer. -/
def LedgerFailure.stop : LedgerFailure → Stop
  | .overflow => .overflow
  | f => .failure f.report

/-- How a command ends whose walk fails. -/
def WalkFailure.stop : WalkFailure → Stop
  | .overflow => .overflow
  | f => .failure f.report

end ChannelLedger
