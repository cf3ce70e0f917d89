import ChannelLedger.Wire.Message

/-!
# Read and write sets

The keys that a call read, with the version it saw, and the keys it wrote, by namespace. Keys are
byte strings: composite and private keys need not be text.
-/
namespace ChannelLedger

open Wire

/-- The transaction that last wrote a key. -/
structure Version where
  blockNum : UInt64 := 0
  txNum : UInt64 := 0
  deriving DecidableEq, Repr

instance : Message Version where
  schema := .of "Version" [(1, "block_num", .uint64), (2, "tx_num", .uint64)]
  ofRecord := fun (blockNum, txNum, ()) => ⟨blockNum, txNum⟩
  toRecord m := (m.blockNum, m.txNum, ())

/-- A key that was read; the version is absent if the key did not exist. -/
structure KvRead where
  key : Bytes := []
  version : Option Version := none
  deriving DecidableEq, Repr

instance : Message KvRead where
  schema := .of "KvRead" [(1, "key", .bytes), (2, "version", (Message.schema Version).optional)]
  ofRecord := fun (key, version, ()) => ⟨key, Message.ofOptional version⟩
  toRecord m := (m.key, Message.toOptional m.version, ())
  ofRecord_toRecord m := by simp
  toRecord_ofRecord := fun (key, version, ()) => by simp; rfl

/-- A key that was written or deleted. -/
structure KvWrite where
  key : Bytes := []
  isDelete : Bool := false
  value : Bytes := []
  deriving DecidableEq, Repr

instance : Message KvWrite where
  schema := .of "KvWrite" [(1, "key", .bytes), (2, "is_delete", .bool), (3, "value", .bytes)]
  ofRecord := fun (key, isDelete, value, ()) => ⟨key, isDelete, value⟩
  toRecord m := (m.key, m.isDelete, m.value, ())

/-- The reads and writes of one namespace. -/
structure KvRwSet where
  reads : List KvRead := []
  writes : List KvWrite := []
  deriving DecidableEq, Repr

instance : Message KvRwSet where
  schema := .of "KvRwSet" [
    (1, "reads", (Message.schema KvRead).repeated),
    (3, "writes", (Message.schema KvWrite).repeated)]
  ofRecord := fun (reads, writes, ()) => ⟨Message.ofRepeated reads, Message.ofRepeated writes⟩
  toRecord m := (Message.toRepeated m.reads, Message.toRepeated m.writes, ())
  ofRecord_toRecord m := by simp
  toRecord_ofRecord := fun (reads, writes, ()) => by simp; rfl

/-- A namespace with its encoded reads and writes. -/
structure NsReadWriteSet where
  namespaceName : String := ""
  rwset : Bytes := []
  deriving DecidableEq, Repr

instance : Message NsReadWriteSet where
  schema := .of "NsReadWriteSet" [(1, "namespace", .string), (2, "rwset", .bytes)]
  ofRecord := fun (namespaceName, rwset, ()) => ⟨namespaceName, rwset⟩
  toRecord m := (m.namespaceName, m.rwset, ())

/-- The read and write sets of a transaction. -/
structure TxReadWriteSet where
  dataModel : Int32 := 0
  nsRwset : List NsReadWriteSet := []
  deriving DecidableEq, Repr

instance : Message TxReadWriteSet where
  schema := .of "TxReadWriteSet" [
    (1, "data_model", .int32),
    (2, "ns_rwset", (Message.schema NsReadWriteSet).repeated)]
  ofRecord := fun (dataModel, nsRwset, ()) => ⟨dataModel, Message.ofRepeated nsRwset⟩
  toRecord m := (m.dataModel, Message.toRepeated m.nsRwset, ())
  ofRecord_toRecord m := by simp
  toRecord_ofRecord := fun (dataModel, nsRwset, ()) => by simp; rfl

end ChannelLedger
