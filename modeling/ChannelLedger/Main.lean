import ChannelLedger.CommandLine.Program

/-!
# The command line

Reads the directory of a ledger and does with it what the arguments ask for. The names that stand in
the directory come in on standard input, one a line and in any order, as tools that list directories
print them.
-/
namespace ChannelLedger

/-- The lines of a stream up to its end. -/
partial def readLines (stream : IO.FS.Stream) (lines : List String) : IO (List String) := do
  let line ← stream.getLine
  if line.isEmpty then return lines.reverse
  readLines stream ((if line.endsWith "\n" then (line.dropEnd 1).toString else line) :: lines)

/-- Whether a file that was opened is a directory, which has no bytes to read. -/
def hasNoBytes (handle : IO.FS.Handle) : IO Bool := do
  try
    discard (handle.read 1)
    return false
  catch _ => return true

/-- Whether a path leads to a directory. -/
def isDirectory (path : String) : IO Bool := do
  try hasNoBytes (← IO.FS.Handle.mk path .read)
  catch _ => return false

/-- What stands under a path. -/
def readEntry (path : String) : IO DirectoryEntry := do
  if ← isDirectory path then return .directory
  return .file (← IO.FS.readBinFile path).toList

/-- The directory that a path leads to. -/
def readDirectory (path : String) : IO (Option Directory) := do
  if !(← isDirectory path) then return none
  let names ← readLines (← IO.getStdin) []
  return some (← names.mapM fun name => do
    return (name, ← readEntry (Directory.pathOf path name)))

/-- Runs the program on its arguments. -/
def runProgram (args : List String) : IO UInt32 := do
  let exit ← match CommandLine.Invocation.ofArguments args with
    | .error failure => pure (CommandLine.Exit.ofUsage failure)
    | .ok invocation =>
      pure (CommandLine.Exit.ofTranscript (invocation.run (← readDirectory invocation.ledger)))
  IO.print exit.stdout
  IO.eprint exit.stderr
  return exit.code.toUInt32

end ChannelLedger

def main (args : List String) : IO UInt32 :=
  ChannelLedger.runProgram args
