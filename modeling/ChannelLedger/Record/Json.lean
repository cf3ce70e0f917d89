import ChannelLedger.Json.Record
import ChannelLedger.Record.History

/-!
# The JSON form of records

Every record is an object whose fields stand in a fixed order; byte strings are hexadecimal text
and absent values are `null`. A block is its overview and its transactions in one object, and is
read from an object only. Reading what was written gives the record back.
-/
namespace ChannelLedger

/-- A byte string as hexadecimal text. -/
def Bytes.toJson (bytes : Bytes) : Json := .string bytes.toHex

def Bytes.ofJson? : Json → Option Bytes
  | .string s => (Bytes.ofHex s).toOption
  | _ => none

namespace ReadRecord

def toJson (r : ReadRecord) : Json := .object [
  ("namespace", .string r.namespaceName), ("key", .string r.key),
  ("block_num", .nat r.blockNum.toNat), ("tx_num", .nat r.txNum.toNat)]

def ofJson? (json : Json) : Option ReadRecord := do
  match ← json.components? ["namespace", "key", "block_num", "tx_num"] with
  | [namespaceName, key, blockNum, txNum] =>
    return {
      namespaceName := ← Json.required Json.string? namespaceName
      key := ← Json.required Json.string? key
      blockNum := ← Json.required Json.uint64? blockNum
      txNum := ← Json.required Json.uint64? txNum }
  | _ => none

end ReadRecord

namespace WriteRecord

def toJson (w : WriteRecord) : Json := .object [
  ("namespace", .string w.namespaceName), ("key", .string w.key), ("value", .string w.value),
  ("is_delete", .bool w.isDelete)]

def ofJson? (json : Json) : Option WriteRecord := do
  match ← json.components? ["namespace", "key", "value", "is_delete"] with
  | [namespaceName, key, value, isDelete] =>
    return {
      namespaceName := ← Json.required Json.string? namespaceName
      key := ← Json.required Json.string? key
      value := ← Json.required Json.string? value
      isDelete := ← Json.required Json.bool? isDelete }
  | _ => none

end WriteRecord

namespace TransactionRecord

def toJson (tx : TransactionRecord) : Json := .object [
  ("tx_id", .string tx.txId), ("tx_type", .int tx.kind.toInt),
  ("channel_id", .string tx.channelId), ("created_at", .string tx.createdAt),
  ("chaincode_id", .string tx.chaincodeId), ("chaincode_version", .string tx.chaincodeVersion),
  ("args", .array (tx.args.map .string)), ("caller_msp_id", .string tx.callerMspId),
  ("caller_name", .string tx.callerName), ("caller_ou", .string tx.callerUnit),
  ("nonce", tx.nonce.toJson), ("reads", .array (tx.reads.map ReadRecord.toJson)),
  ("writes", .array (tx.writes.map WriteRecord.toJson)),
  ("response_status", .optional (fun s => .int s.toInt) tx.responseStatus),
  ("response_message", .optional .string tx.responseMessage),
  ("validation_code", .optional (fun c => .nat c.toNat) tx.validationCode)]

/-- The names of the fields. -/
def fieldNames : List String := [
  "tx_id", "tx_type", "channel_id", "created_at", "chaincode_id", "chaincode_version", "args",
  "caller_msp_id", "caller_name", "caller_ou", "nonce", "reads", "writes", "response_status",
  "response_message", "validation_code"]

def ofJson? (json : Json) : Option TransactionRecord := do
  match ← json.components? fieldNames with
  | [txId, kind, channelId, createdAt, chaincodeId, chaincodeVersion, args, callerMspId,
      callerName, callerUnit, nonce, reads, writes, responseStatus, responseMessage,
      validationCode] =>
    return {
      txId := ← Json.required Json.string? txId
      kind := ← Json.required Json.int32? kind
      channelId := ← Json.required Json.string? channelId
      createdAt := ← Json.required Json.string? createdAt
      chaincodeId := ← Json.required Json.string? chaincodeId
      chaincodeVersion := ← Json.required Json.string? chaincodeVersion
      args := ← Json.required (Json.list? Json.string?) args
      callerMspId := ← Json.required Json.string? callerMspId
      callerName := ← Json.required Json.string? callerName
      callerUnit := ← Json.required Json.string? callerUnit
      nonce := ← Json.required Bytes.ofJson? nonce
      reads := ← Json.required (Json.list? ReadRecord.ofJson?) reads
      writes := ← Json.required (Json.list? WriteRecord.ofJson?) writes
      responseStatus := ← Json.optional? Json.int32? responseStatus
      responseMessage := ← Json.optional? Json.string? responseMessage
      validationCode := ← Json.optional? Json.uint8? validationCode }
  | _ => none

end TransactionRecord

namespace BlockOverview

/-- The fields of an overview. -/
def toFields (b : BlockOverview) : List (String × Json) := [
  ("number", .nat b.number.toNat), ("block_hash", .string b.blockHash),
  ("previous_hash", .string b.previousHash), ("transaction_count", .nat b.transactionCount)]

def toJson (b : BlockOverview) : Json := .object b.toFields

def fieldNames : List String := ["number", "block_hash", "previous_hash", "transaction_count"]

/-- The overview whose components are given. -/
def ofComponents? : List (Option Json) → Option BlockOverview
  | [number, blockHash, previousHash, transactionCount] => do
    return {
      number := ← Json.required Json.uint64? number
      blockHash := ← Json.required Json.string? blockHash
      previousHash := ← Json.required Json.string? previousHash
      transactionCount := ← Json.required Json.nat64? transactionCount }
  | _ => none

def ofJson? (json : Json) : Option BlockOverview := do
  ofComponents? (← json.components? fieldNames)

end BlockOverview

namespace BlockRecord

def toJson (b : BlockRecord) : Json := .object <|
  b.overview.toFields ++ [("transactions", .array (b.transactions.map TransactionRecord.toJson))]

def ofJson? : Json → Option BlockRecord
  | .object fields => do
    match ← Json.fieldsOf? ["transactions"] fields with
    | [transactions] =>
      return {
        overview := ← BlockOverview.ofJson? (.object fields)
        transactions := ← Json.required (Json.list? TransactionRecord.ofJson?) transactions }
    | _ => none
  | _ => none

end BlockRecord

namespace ChannelHistory

def toJson (h : ChannelHistory) : Json := .object [
  ("block_height", .nat h.height.toNat), ("transaction_total", .nat h.transactionTotal),
  ("blocks", .array (h.blocks.map BlockRecord.toJson)),
  ("transactions", .array (h.transactions.map TransactionRecord.toJson)),
  ("block_basics", .array (h.overviews.map BlockOverview.toJson))]

def ofJson? (json : Json) : Option ChannelHistory := do
  match ← json.components?
      ["block_height", "transaction_total", "blocks", "transactions", "block_basics"] with
  | [height, transactionTotal, blocks, transactions, overviews] =>
    return {
      height := ← Json.required Json.uint64? height
      transactionTotal := ← Json.required Json.nat64? transactionTotal
      blocks := ← Json.required (Json.list? BlockRecord.ofJson?) blocks
      transactions := ← Json.required (Json.list? TransactionRecord.ofJson?) transactions
      overviews := ← Json.required (Json.list? BlockOverview.ofJson?) overviews }
  | _ => none

end ChannelHistory

end ChannelLedger
