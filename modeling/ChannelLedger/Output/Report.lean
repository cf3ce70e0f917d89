import ChannelLedger.Text.Layout
import ChannelLedger.Walk.Failure

/-!
# Reports of failures

What a user is told of a failure: what went wrong, and below it what brought that about, nearest
first. On one line the parts stand behind each other; at the end of a program they stand in a list.
-/
namespace ChannelLedger

structure Report where
  headline : String
  causes : List String := []
  deriving DecidableEq, Repr

namespace Report

/-- The report of what was going on when something failed. -/
def within (what : String) (report : Report) : Report :=
  ⟨what, report.headline :: report.causes⟩

/-- Everything on one line. -/
def oneLine (report : Report) : String :=
  ": ".intercalate (report.headline :: report.causes)

/-- A text whose further lines are indented. -/
def hanging (indentation : Nat) (s : String) : String :=
  s.replace "\n" ("\n" ++ Text.spaces indentation)

/-- The causes, one a line; if there are several, each behind its number. -/
def causeLines : List String → List String
  | [cause] => ["    " ++ hanging 4 cause]
  | causes => causes.mapIdx fun i cause =>
    Text.padLeft 5 (toString i) ++ ": " ++ hanging 7 cause

/-- The form at the end of a program. -/
def text (report : Report) : String :=
  "Error: " ++ report.headline
    ++ (if report.causes.isEmpty then ""
      else "\n\nCaused by:\n" ++ "\n".intercalate (causeLines report.causes)) ++ "\n"

end Report

def LedgerFailure.report (f : LedgerFailure) : Report := ⟨f.message, f.sources⟩

def DecodeFailure.report (f : DecodeFailure) : Report := ⟨f.message, f.sources⟩

def StopRuleFailure.report (f : StopRuleFailure) : Report := ⟨f.message, f.sources⟩

def WalkFailure.report (f : WalkFailure) : Report := ⟨f.message, f.sources⟩

end ChannelLedger
