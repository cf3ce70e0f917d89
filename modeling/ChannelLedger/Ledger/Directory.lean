import ChannelLedger.Ledger.Index

/-!
# Ledgers in a directory

A directory holds a block in every file whose name ends in `.block`; everything else in it is
ignored. The files are read in the order of their names, whatever order the directory lists them
in, so that of several blocks with one number the one in the last file stays. The first file that
holds no block is reported, and then there is no ledger. A block is written to a file named for its
number.
-/
namespace ChannelLedger

/-- What stands under a name of a directory. -/
inductive DirectoryEntry where
  | file (content : Bytes)
  | directory
  deriving DecidableEq, Repr

/-- What a directory lists; the names all differ. -/
abbrev Directory := List (String × DirectoryEntry)

namespace Directory

/-- The entries in the order of their names. -/
def sorted (directory : Directory) : Directory :=
  directory.mergeSort fun a b => !decide (b.1 < a.1)

/-- The part of a name behind its last dot, unless the name has no other dot than at its start. -/
def extension? (name : String) : Option String :=
  match name.toList.reverse.span (· ≠ '.') with
  | (suffix, _ :: _ :: _) => some (String.ofList suffix.reverse)
  | _ => none

/-- The extension of files that hold a block (`BLOCK_FILE_EXTENSION`). -/
def blockExtension : String := "block"

/-- Whether an entry is taken for a block (`is_block_file`). -/
def isBlockFile : String × DirectoryEntry → Bool
  | (name, .file _) => extension? name = some blockExtension
  | (_, .directory) => false

/-- The name and the content of the files that hold a block, in the order of their names. -/
def blockFiles (directory : Directory) : List (String × Bytes) :=
  directory.sorted.filterMap fun entry =>
    match entry with
    | (name, .file content) => if isBlockFile entry then some (name, content) else none
    | (_, .directory) => none

/-- The path of an entry. -/
def pathOf (path name : String) : String :=
  if path = "" ∨ path.endsWith "/" then path ++ name else path ++ "/" ++ name

/-- The blocks of a directory, which the path leads to, in the order of the names of their
files. -/
def blocks (path : String) (directory : Directory) : Except LedgerFailure (List Block) :=
  directory.blockFiles.mapM fun (name, content) =>
    (Wire.Message.decode content).mapError (.malformed (pathOf path name))

/-- The entry of a name. -/
def find? (directory : Directory) (name : String) : Option DirectoryEntry :=
  directory.lookup name

/-- The directory with a file of that content in place of what the name stood for. -/
def write (directory : Directory) (name : String) (content : Bytes) : Directory :=
  directory.filter (·.1 ≠ name) ++ [(name, .file content)]

end Directory

/-- A ledger that was read from a directory (`FileLedger`). -/
structure DirectoryLedger where
  path : String
  index : BlockIndex

namespace DirectoryLedger

/-- Reads the ledger that a path leads to; `none` stands for a path that leads to no directory
(`FileLedger::open`). -/
def open? (suite : HashSuite) (path : String) :
    Option Directory → Except LedgerFailure DirectoryLedger
  | none => .error (.unavailable (path ++ " is not a directory"))
  | some directory => do
    return ⟨path, .ofBlocks suite (← directory.blocks path)⟩

end DirectoryLedger

namespace Block

/-- The name of the file that a block is written to: its number, with at least eight digits. -/
def fileName (block : Block) : String :=
  let digits := toString block.number
  String.ofList (List.replicate (8 - digits.length) '0') ++ digits ++ "."
    ++ Directory.blockExtension

/-- Writes a block into a directory (`write_block_file`). -/
def writeTo (block : Block) : Option Directory → Except LedgerFailure Directory
  | none => .error (.io "No such file or directory (os error 2)")
  | some directory =>
    match directory.find? block.fileName with
    | some .directory => .error (.io "Is a directory (os error 21)")
    | _ => .ok (directory.write block.fileName (Wire.Message.encode block))

end Block

end ChannelLedger
