import ChannelLedger.Ledger.Directory

/-!
# Changes in the directory

Which changes make the server renew what it shows: those where a file that holds a block appears or
is written. Removals count for nothing.
-/
namespace ChannelLedger.Server

/-- What can be noticed of a directory. -/
inductive ChangeKind where
  | create
  | modify
  | remove
  | access
  /-- The change could not be noticed properly. -/
  | fault
  deriving DecidableEq, Repr

structure Change where
  kind : ChangeKind
  paths : List String
  deriving DecidableEq, Repr

/-- The last name of a path, unless that leads upwards. -/
def lastName? (path : String) : Option String :=
  match ((path.splitOn "/").filter fun part => part ≠ "" ∧ part ≠ ".").getLast? with
  | some ".." => none
  | last => last

/-- Whether a path leads to what could hold a block. -/
def isBlockPath (path : String) : Bool :=
  (lastName? path).bind Directory.extension? = some Directory.blockExtension

/-- Whether a change calls for a renewal, as `start_ledger_file_watcher` asks. -/
def Change.counts (change : Change) : Bool :=
  match change.kind with
  | .create | .modify => change.paths.any isBlockPath
  | .remove | .access | .fault => false

end ChannelLedger.Server
