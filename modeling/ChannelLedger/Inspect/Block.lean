import ChannelLedger.Inspect.Slot
import ChannelLedger.Ledger.Directory
import ChannelLedger.Output.Transcript

/-!
# Inspecting blocks

The structure of a block: its header, whether the next block links back to it, whether its data
hash is that of its slots, its metadata, and its slots one by one. A whole ledger is inspected
block by block, whatever becomes of any of them; and before that one can look at which files of a
directory are taken for blocks.
-/
namespace ChannelLedger.Inspect

open Text

def line (n : Nat) (c : String) : String := repeated n c

/-! ## Links and hashes -/

/-- What the next block says of a header. -/
inductive LinkVerdict where
  /-- It links back to this header. -/
  | linked
  /-- It links to something else. -/
  | broken (link : Bytes)
  /-- There is no next block. -/
  | unchecked
  deriving DecidableEq, Repr

/-- Compares a header's hash with the link of the next block (`inspect_header`). -/
def linkVerdict (index : BlockIndex) (next : UInt64) (hash : Bytes) : LinkVerdict :=
  match index.find? next with
  | none => .unchecked
  | some stored => if stored.block.link = hash then .linked else .broken stored.block.link

def LinkVerdict.text (next : UInt64) : LinkVerdict → String
  | .linked => "  ✅ Block " ++ toString next ++ " links back to this header"
  | .broken link => "  ❌ Block " ++ toString next ++ " previous hash " ++ Bytes.toHex link
    ++ " does not match"
  | .unchecked => "  ℹ️  No block " ++ toString next ++ " to check the link against"

/-- Whether a header states the hash of the slots. -/
def dataHashHolds (suite : HashSuite) (header : BlockHeader) (data : BlockData) : Bool :=
  data.hash suite = header.dataHash

def dataHashLine (holds : Bool) : String :=
  if holds then "  ✅ Data hash matches transaction slots"
  else "  ❌ Data hash does not match transaction slots"

/-! ## Parts of a block -/

/-- The name of a metadata entry. -/
def metadataName : Nat → String
  | 0 => "SIGNATURES"
  | 1 => "LAST_CONFIG"
  | 2 => "TRANSACTIONS_FILTER"
  | 4 => "COMMIT_HASH"
  | _ => "UNKNOWN"

/-- The lines of the metadata (`inspect_metadata`): of each entry its length and its first bytes. -/
def metadataLines : Option BlockMetadata → List String
  | none => ["", "📋 Metadata: none"]
  | some metadata => ["", "📋 Metadata entries:"] ++ metadata.metadata.mapIdx fun i entry =>
    "  [" ++ toString i ++ "] " ++ padRight 20 (metadataName i) ++ " "
      ++ padLeft 6 (toString entry.length) ++ " bytes  " ++ Bytes.toHex (entry.take 16)

/-- The lines of the header itself. -/
def headerFields (suite : HashSuite) (header : BlockHeader) (hash : Bytes) : List String := [
  "📋 Header:",
  "  Number:        " ++ toString header.number,
  "  Previous hash: " ++ Bytes.toHex header.previousHash,
  "  Data hash:     " ++ Bytes.toHex header.dataHash,
  "  Header hash:   " ++ Bytes.toHex hash ++ " (" ++ suite.name ++ ")"]

/-- The lines of the slots. -/
def dataLines (suite : HashSuite) : Option BlockData → List String
  | none => ["❌ Block has no data section"]
  | some data => ["", "📊 Transaction slots: " ++ toString data.data.length]
    ++ (data.data.zipIdx).flatMap fun (raw, index) =>
      ["", "--- Slot " ++ toString index ++ " (" ++ toString raw.length ++ " bytes) ---"]
        ++ slotLines suite raw

/-- The lines of a block whose header is followed by those about its hashes (`inspect_header`). -/
def checkLines (suite : HashSuite) (index : BlockIndex) (stored : StoredBlock) (hash : Bytes) :
    List String :=
  let next := stored.number + 1
  [(linkVerdict index next hash).text next]
    ++ (match stored.block.data with
      | none => []
      | some data => [dataHashLine (dataHashHolds suite stored.header data)])

/-! ## Commands -/

/-- Inspects the block of a number (`inspect_block`). The number of the next block has to be one of 64 bits. -/
def inspectBlock (suite : HashSuite) (index : BlockIndex) (number : UInt64) : Transcript Unit :=
  match index.find? number with
  | none => .fail (LedgerFailure.notFound ("block number " ++ toString number)).report
  | some stored => do
    let hash := stored.header.hash suite
    .print (["", "🔍 Block Structure Investigation for Block " ++ toString number, line 70 "="]
      ++ headerFields suite stored.header hash)
    if number = 0xffffffffffffffff then ⟨[], .error .overflow⟩
    .print (checkLines suite index stored hash)
    .print (metadataLines stored.block.metadata)
    .print (dataLines suite stored.block.data)

/-- The lines of one block among all of them. -/
def blockAmongAll (suite : HashSuite) (index : BlockIndex) (number : UInt64) : List String :=
  let transcript := inspectBlock suite index number
  transcript.lines
    ++ [match transcript.result with
      | .ok () => "✅ Block " ++ toString number ++ " investigation completed"
      | .error (.failure report) =>
        "❌ Error investigating block " ++ toString number ++ ": " ++ report.headline
      | .error .overflow =>
        "❌ Error investigating block " ++ toString number ++ ": " ++ overflowMessage,
      line 70 "-"]

/-- Inspects every number below the height (`inspect_all_blocks`). -/
def inspectAll (suite : HashSuite) (index : BlockIndex) : Transcript Unit :=
  match index.tip with
  | .error failure => ⟨[], .error failure.stop⟩
  | .ok tip => .print <|
    ["🔍 Inspecting " ++ toString tip.height ++ " blocks"]
      ++ (List.range tip.height.toNat).flatMap fun number =>
        blockAmongAll suite index (UInt64.ofNat number)

/-- The line of an entry of a directory. -/
def entryLine (entry : String × DirectoryEntry) : String :=
  match Directory.isBlockFile entry, entry with
  | true, (name, .file content) =>
    "  ✅ " ++ padRight 30 name ++ " - " ++ toString content.length ++ " bytes"
  | _, (name, _) => "  ❌ " ++ padRight 30 name ++ " - Not a block file"

/-- Lists a directory and says which of its entries are taken for blocks (`check_ledger_availability`). -/
def checkDirectory (path : String) (directory : Option Directory) : Transcript Unit := do
  .print ["📋 Ledger Availability Check:", "Path: " ++ Quoted.path path, line 70 "-"]
  match directory with
  | none => .fail ⟨"cannot read ledger directory " ++ path,
      ["No such file or directory (os error 2)"]⟩
  | some directory =>
    let entries := directory.sorted
    let blockFiles := (entries.filter Directory.isBlockFile).length
    .print (entries.map entryLine)
    .print [line 70 "-", "📊 Summary: " ++ toString blockFiles ++ "/" ++ toString entries.length
      ++ " entries are block files"]
    if blockFiles = 0 then .fail ⟨"No block files found. Check ledger path.", []⟩

end ChannelLedger.Inspect
