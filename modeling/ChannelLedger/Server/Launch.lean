import ChannelLedger.Output.Transcript
import ChannelLedger.Server.Address
import ChannelLedger.Server.Live

/-!
# Starting the server

Before the server answers anything it loads the ledger, makes the first dashboard, and then looks at
the address it is to listen on. If all goes well it prints where it can be reached.
-/
namespace ChannelLedger.Server

/-- Where to listen. -/
structure Endpoint where
  bind : String := "127.0.0.1"
  port : UInt16 := 8080
  deriving DecidableEq, Repr

/-- The address of an endpoint. -/
def Endpoint.address? (endpoint : Endpoint) : Option SocketAddress :=
  SocketAddress.ofText? (endpoint.bind ++ ":" ++ toString endpoint.port)

/-- What is printed about where the server can be reached. -/
def announcement (address : SocketAddress) : List String := [
  "🌐 Web dashboard available at: http://" ++ address.text,
  "🔌 WebSocket endpoint: ws://" ++ address.text ++ "/ws",
  "📊 API endpoints:",
  "   GET /api/dashboard - Dashboard data",
  "   GET /api/channel?limit_type=0&block_count_limit=N - Channel traversal",
  "   GET /api/block/:number - Block details",
  "   GET /api/tx/:tx_id - Transaction details"]

/-- Loads the site of the ledger that a path leads to; no dashboard has been made yet. -/
def Site.ofDirectory (suite : HashSuite) (path : String) (directory : Option Directory) :
    Except Report Site := do
  return { suite := suite, path := path, index := ← Site.load suite path directory }

/-- Starts the server (`run_web_mode`). -/
def launch (suite : HashSuite) (path : String) (directory : Option Directory) (seconds : UInt64)
    (endpoint : Endpoint) (shared : Bool) : Transcript Live := do
  let site ← Transcript.orFail id (Site.ofDirectory suite path directory)
  let site ← Transcript.orFail (fun refusal => ⟨refusal.message, []⟩) (site.rebuild seconds)
  match endpoint.address? with
  | none => .fail ⟨"invalid socket address syntax", []⟩
  | some address =>
    .print (announcement address)
    return { site := site, shared := shared }

end ChannelLedger.Server
