import ChannelLedger.Bytes.Hex
import ChannelLedger.Record.ReadWrite

/-!
# Transactions as records

One transaction slot with all its layers flattened: what the transaction is, who called which
chaincode with which arguments, what it read and wrote, and what came of it.
-/
namespace ChannelLedger

/-- A transaction in one flat record (`TransactionInfo`). -/
structure TransactionRecord where
  txId : String
  /-- The kind of transaction, by its number. -/
  kind : Int32
  channelId : String
  /-- Date and time of creation. -/
  createdAt : String
  chaincodeId : String
  chaincodeVersion : String
  args : List String
  callerMspId : String
  callerName : String
  callerUnit : String
  nonce : Bytes
  reads : List ReadRecord
  writes : List WriteRecord
  /-- What the chaincode returned, if the transaction carries a response. -/
  responseStatus : Option Int32
  responseMessage : Option String
  /-- The committer's verdict, if the block has one. -/
  validationCode : Option UInt8
  deriving DecidableEq, Repr

namespace TransactionRecord

/-- The committer's verdict (`is_valid`): code 0 means valid. -/
def isValid (tx : TransactionRecord) : Option Bool :=
  tx.validationCode.map (· == 0)

/-- Several lines that show a transaction. -/
def text (tx : TransactionRecord) : String :=
  "TxID: " ++ tx.txId ++ "\n"
    ++ "  Type: " ++ toString tx.kind.toInt ++ "  Channel: " ++ tx.channelId ++ "  Created: "
    ++ tx.createdAt ++ "\n"
    ++ "  Chaincode: " ++ tx.chaincodeId ++ " " ++ tx.chaincodeVersion ++ "\n"
    ++ "  Args: " ++ Quoted.list tx.args ++ "\n"
    ++ "  Caller: " ++ tx.callerMspId ++ " / " ++ tx.callerName ++ " / " ++ tx.callerUnit ++ "\n"
    ++ (match tx.validationCode with
      | none => ""
      | some code => "  Validation code: " ++ toString code.toNat ++ "\n")
    ++ String.join (tx.reads.map fun r => "  R " ++ r.text ++ "\n")
    ++ String.join (tx.writes.map fun w => "  W " ++ w.text ++ "\n")

end TransactionRecord

end ChannelLedger
