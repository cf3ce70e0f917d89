import ChannelLedger.Message.ReadWriteSet
import ChannelLedger.Record.ReadWrite
import ChannelLedger.Slot.Envelope

/-!
# What a transaction read and wrote

The results of a call hold one read and write set for each namespace, encoded on its own. The
records are listed in the order of the encoding. The namespace in which chaincode definitions are
kept is left out before its set is decoded, so its bytes do not matter.
-/
namespace ChannelLedger

/-- The namespace of chaincode definitions, never reported (`LIFECYCLE_NAMESPACE`). -/
def lifecycleNamespace : String := "_lifecycle"

/-- Bytes that stand in front of some keys and do not belong to them (`UNKNOWN_KEY_HEADER`). -/
def foreignKeyHeader : Bytes := [0, 244, 143, 191, 191]

/-- A key without the foreign header, if it has one (`trim_unknown_header`). -/
def trimKey (key : Bytes) : Bytes :=
  if foreignKeyHeader.isPrefixOf key then key.drop foreignKeyHeader.length else key

/-- A key as text (`key_to_string`). -/
def keyText (key : Bytes) : String :=
  Utf8.lossy (trimKey key)

/-- A read, under its namespace. A key that did not exist counts as version 0:0. -/
def KvRead.record (namespaceName : String) (read : KvRead) : ReadRecord :=
  let version := read.version.getD ⟨0, 0⟩
  ⟨namespaceName, keyText read.key, version.blockNum, version.txNum⟩

/-- A write, under its namespace. -/
def KvWrite.record (namespaceName : String) (write : KvWrite) : WriteRecord :=
  ⟨namespaceName, keyText write.key, Utf8.lossy write.value, write.isDelete⟩

/-- Reads and writes, each in order. -/
structure ReadWrites where
  reads : List ReadRecord := []
  writes : List WriteRecord := []
  deriving DecidableEq, Repr

namespace ReadWrites

/-- The reads and writes of both, those of the first in front. -/
def append (a b : ReadWrites) : ReadWrites :=
  ⟨a.reads ++ b.reads, a.writes ++ b.writes⟩

/-- The reads and writes of one namespace. -/
def ofNamespace (set : NsReadWriteSet) : Except DecodeFailure ReadWrites := do
  if set.namespaceName = lifecycleNamespace then return {}
  let kv : KvRwSet ← Layer.kvRwSet.decode set.rwset
  return ⟨kv.reads.map (·.record set.namespaceName), kv.writes.map (·.record set.namespaceName)⟩

/-- The reads and writes of several namespaces. -/
def ofNamespaces : List NsReadWriteSet → Except DecodeFailure ReadWrites
  | [] => .ok {}
  | set :: sets => do
    let first ← ofNamespace set
    return first.append (← ofNamespaces sets)

/-- The reads and writes of a transaction's results (`collect_read_write_sets`). -/
def decode (results : Bytes) : Except DecodeFailure ReadWrites := do
  let sets : TxReadWriteSet ← Layer.txReadWriteSet.decode results
  ofNamespaces sets.nsRwset

end ReadWrites

end ChannelLedger
