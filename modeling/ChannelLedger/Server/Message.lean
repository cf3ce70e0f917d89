import ChannelLedger.Dashboard.Json
import ChannelLedger.Json.Reader
import ChannelLedger.Record.Json

/-!
# Messages on a socket

What a client asks of the server and what the server says to a client. Both are one type: a message
is an object whose `type` names its kind, with the components of that kind beside it. It may also
be written as the array of its kind and its components.
-/
namespace ChannelLedger

/-- What is said on a socket (`WebSocketMessage`). -/
inductive SocketMessage where
  | getDashboard
  | dashboard (data : Dashboard)
  | getBlock (number : UInt64)
  | block (record : BlockRecord)
  | getTransaction (txId : String)
  | transaction (record : TransactionRecord)
  | error (text : String)
  | ping
  | pong
  deriving DecidableEq, Repr

namespace SocketMessage

/-- Whether a message is a question about the ledger. -/
def asksLedger : SocketMessage → Bool
  | .getBlock _ | .getTransaction _ => true
  | _ => false

/-- The name of a message's kind. -/
def kind : SocketMessage → String
  | .getDashboard => "GetDashboard"
  | .dashboard _ => "DashboardData"
  | .getBlock _ => "GetBlockDetail"
  | .block _ => "BlockDetail"
  | .getTransaction _ => "GetTransaction"
  | .transaction _ => "TransactionDetail"
  | .error _ => "Error"
  | .ping => "Ping"
  | .pong => "Pong"

/-- The components of a message. -/
def components : SocketMessage → List (String × Json)
  | .getDashboard | .ping | .pong => []
  | .dashboard data => [("data", data.toJson)]
  | .getBlock number => [("number", .nat number.toNat)]
  | .block record => [("block", record.toJson)]
  | .getTransaction txId => [("tx_id", .string txId)]
  | .transaction record => [("transaction", record.toJson)]
  | .error text => [("message", .string text)]

def toJson (message : SocketMessage) : Json :=
  .object (("type", .string message.kind) :: message.components)

/-- The message of a kind, of what stands beside it. -/
def ofParts? (kind : String) (beside : Json) : Option SocketMessage :=
  match kind with
  | "GetDashboard" => bare .getDashboard
  | "DashboardData" => one "data" Dashboard.ofJson? .dashboard
  | "GetBlockDetail" => one "number" Json.uint64? .getBlock
  | "BlockDetail" => one "block" BlockRecord.ofJson? .block
  | "GetTransaction" => one "tx_id" Json.string? .getTransaction
  | "TransactionDetail" => one "transaction" TransactionRecord.ofJson? .transaction
  | "Error" => one "message" Json.string? .error
  | "Ping" => bare .ping
  | "Pong" => bare .pong
  | _ => none
where
  /-- A kind without components; an object may hold other fields, an array nothing. -/
  bare (message : SocketMessage) : Option SocketMessage :=
    match beside with
    | .object _ | .array [] => some message
    | _ => none
  /-- A kind with one component. -/
  one {α : Type} (name : String) (read : Json → Option α) (message : α → SocketMessage) :
      Option SocketMessage := do
    match ← beside.components? [name] with
    | [component] => (Json.required read component).map message
    | _ => none

def ofJson? : Json → Option SocketMessage
  | .object fields => do
    match ← Json.fieldsOf? ["type"] fields with
    | [some (.string kind)] => ofParts? kind (.object fields)
    | _ => none
  | .array (.string kind :: beside) => ofParts? kind (.array beside)
  | _ => none

/-- The message that a text is the JSON of. -/
def ofText? (text : String) : Option SocketMessage :=
  (Json.parse? text).bind ofJson?

end SocketMessage

end ChannelLedger
