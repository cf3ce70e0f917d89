/-!
# Reads and writes as records

What a transaction read and wrote, one record a key, with the namespace repeated in each.
-/
namespace ChannelLedger

/-- A key that a transaction read, and the transaction that had last written it (`ReadEntry`). -/
structure ReadRecord where
  namespaceName : String
  key : String
  blockNum : UInt64
  txNum : UInt64
  deriving DecidableEq, Repr

/-- A key that a transaction wrote or deleted (`WriteEntry`). -/
structure WriteRecord where
  namespaceName : String
  key : String
  value : String
  isDelete : Bool
  deriving DecidableEq, Repr

def ReadRecord.text (r : ReadRecord) : String :=
  "NameSpace: " ++ r.namespaceName ++ ", ReadKey: " ++ r.key ++ ", ReadBlockNum: "
    ++ toString r.blockNum ++ ", ReadTxNumInBlock: " ++ toString r.txNum

def WriteRecord.text (w : WriteRecord) : String :=
  "NameSpace: " ++ w.namespaceName ++ ", WriteKey: " ++ w.key ++ ", WriteValue: " ++ w.value
    ++ ", IsDelete: " ++ (if w.isDelete then "true" else "false")

end ChannelLedger
