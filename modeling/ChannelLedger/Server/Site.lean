import ChannelLedger.Dashboard.Basic
import ChannelLedger.Ledger.Detail
import ChannelLedger.Ledger.Directory
import ChannelLedger.Output.Report
import ChannelLedger.Server.Message
import ChannelLedger.Walk.Browse

/-!
# What the server shows

A site is the ledger in use and the dashboard that was last made of one. It answers what a client
asks: the dashboard, a part of the channel, a block, a transaction. Every answer is made of the
site as it is at one moment. What cannot be answered is refused, and a refusal has a status that
tells whether the client asked for something wrong, for something that is not there, or for
something that the ledger cannot give.

A site is renewed in two parts: the directory is read and its ledger taken into use, and the
dashboard is made anew of the ledger in use. Either can fail and then changes nothing.
-/
namespace ChannelLedger.Server

/-- How many blocks a dashboard shows (`DASHBOARD_WINDOW`). -/
def window : UInt64 := 200

/-- Why a client gets no answer (`ApiError`). -/
inductive Refusal where
  /-- The part of the channel that it asks for is not stated properly. -/
  | rule (cause : StopRuleFailure)
  | walk (cause : WalkFailure)
  | detail (cause : DetailFailure)
  | noTransaction (txId : String)
  deriving DecidableEq, Repr

namespace Refusal

def status : Refusal → Nat
  | .rule _ | .walk (.stopRule _) => 400
  | .detail (.fetch (.notFound _)) | .noTransaction _ => 404
  | .detail (.decode _) => 422
  | .walk _ | .detail (.fetch _) => 500

def message : Refusal → String
  | .rule cause => cause.message
  | .walk cause => cause.message
  | .detail (.fetch cause) => cause.message
  | .detail (.decode cause) => cause.message
  | .noTransaction txId => "transaction " ++ txId ++ " not found"

end Refusal

/-- What the server holds (`AppState`). -/
structure Site where
  suite : HashSuite
  /-- The path that leads to the ledger. -/
  path : String
  /-- The blocks of the ledger in use. -/
  index : BlockIndex
  dashboard : Dashboard := {}

namespace Site

/-! ## Answers -/

/-- Walks the channel of the ledger in use (`browse`). -/
def walk (site : Site) (rule : StopRule) : Except Refusal ChannelHistory :=
  (site.index.browse rule).mapError .walk

/-- The part of the channel that a rule in numbers leaves (`get_channel`). -/
def channel (site : Site) (form : NumericStopRule) : Except Refusal ChannelHistory := do
  site.walk (← form.rule.mapError .rule)

/-- The block of a number (`read_block`). -/
def block (site : Site) (number : UInt64) : Except Refusal BlockRecord :=
  (site.index.detail number).mapError .detail

/-- The transaction of an identifier, wherever in the channel it is (`find_transaction`). -/
def transaction (site : Site) (txId : String) : Except Refusal TransactionRecord := do
  match (← site.walk .unlimited).findTransaction txId with
  | some record => return record
  | none => throw (.noTransaction txId)

/-- What is answered to a message on a socket (`handle_websocket_message`). -/
def reply (site : Site) : SocketMessage → SocketMessage
  | .getDashboard => .dashboard site.dashboard
  | .getBlock number =>
    match site.block number with
    | .ok record => .block record
    | .error refusal =>
      .error ("Failed to get block " ++ toString number ++ ": " ++ refusal.message)
  | .getTransaction txId =>
    match site.transaction txId with
    | .ok record => .transaction record
    | .error refusal => .error refusal.message
  | .ping => .pong
  | .dashboard _ | .block _ | .transaction _ | .error _ | .pong =>
    .error "Unsupported message type"

/-- What is answered to a text on a socket. To one that is no message the program adds what its reader of JSON says
of it; here a fixed text stands for that. -/
def replyToText (site : Site) (text : String) : SocketMessage :=
  match SocketMessage.ofText? text with
  | some request => site.reply request
  | none => .error "Invalid message: this is not the JSON of a message"

/-! ## Renewal -/

/-- The blocks of the ledger that the site's path leads to now (`load_ledger`). -/
def load (suite : HashSuite) (path : String) (directory : Option Directory) :
    Except Report BlockIndex :=
  ((DirectoryLedger.open? suite path directory).mapError LedgerFailure.report).map (·.index)

/-- The site with that ledger in use. -/
def use (site : Site) (index : BlockIndex) : Site :=
  { site with index := index }

/-- The dashboard of the ledger in use. -/
def makeDashboard (site : Site) (seconds : UInt64) : Except Refusal Dashboard :=
  (site.walk (.blockCount window)).map fun history => .ofHistory history site.suite.name seconds

/-- The site with that dashboard. -/
def display (site : Site) (dashboard : Dashboard) : Site :=
  { site with dashboard := dashboard }

/-- Reads the directory and takes its ledger into use (`reload_ledger`). -/
def reload (site : Site) (directory : Option Directory) : Except Report Site :=
  (load site.suite site.path directory).map site.use

/-- Makes the dashboard anew (`update_dashboard_data`). -/
def rebuild (site : Site) (seconds : UInt64) : Except Refusal Site :=
  (site.makeDashboard seconds).map site.display

end Site

end ChannelLedger.Server
