import ChannelLedger.Json.Printer
import ChannelLedger.Record.Json
import ChannelLedger.Server.Page
import ChannelLedger.Server.Site
import ChannelLedger.Text.Decimal
import ChannelLedger.Walk.Form

/-!
# Requests to the server

Which path leads to what, and what a request is answered. A path is taken as it is written; only the
part of it that names a block or a transaction is decoded, after the path has been found. Every path
that leads somewhere can be asked for with or without the body of the answer, and in no other way.

If scripts of other sites are let in, every answer says so, and what a script asks beforehand is
always granted.
-/
namespace ChannelLedger.Server

/-- Where a path leads, as `run_web_mode` routes it. -/
inductive Route where
  | page
  | dashboard
  | channel
  /-- The block whose number the last part of the path writes. -/
  | block (written : String)
  /-- The transaction whose identifier the last part of the path writes. -/
  | transaction (written : String)
  /-- A socket can be opened here. -/
  | socket
  deriving DecidableEq, Repr

/-- Where a path leads, if anywhere. -/
def Route.ofPath? (path : String) : Option Route :=
  match path.splitOn "/" with
  | ["", ""] => some .page
  | ["", "ws"] => some .socket
  | ["", "api", "dashboard"] => some .dashboard
  | ["", "api", "channel"] => some .channel
  | ["", "api", "block", written] => if written = "" then none else some (.block written)
  | ["", "api", "tx", written] => if written = "" then none else some (.transaction written)
  | _ => none

structure HttpRequest where
  method : String := "GET"
  target : String
  deriving DecidableEq, Repr

namespace HttpRequest

/-- The path and the query of what is asked for. -/
def pathAndQuery (request : HttpRequest) : String × String :=
  let target := request.target.toList.takeWhile (· ≠ '#')
  let (path, query) := target.span (· ≠ '?')
  (String.ofList path, String.ofList (query.drop 1))

end HttpRequest

/-- What is wrong with a request itself. -/
inductive RequestFault where
  | badQuery
  | badNumber
  /-- A part of the path is not UTF-8. -/
  | notUtf8
  /-- The request does not open a socket. -/
  | noUpgrade
  /-- A socket is asked for with the wrong method. -/
  | wrongMethod
  deriving DecidableEq, Repr

namespace RequestFault

def status : RequestFault → Nat
  | .wrongMethod => 405
  | _ => 400

def message : RequestFault → String
  | .badQuery => "the query is not a form of the expected kind"
  | .badNumber => "the path holds no block number"
  | .notUtf8 => "the path is not UTF-8"
  | .noUpgrade => "the request does not ask for a socket"
  | .wrongMethod => "a socket is opened with GET"

end RequestFault

/-- What a response carries. -/
inductive HttpBody where
  | empty
  | page
  | json (value : Json)
  | plain (content : String)
  | fault (fault : RequestFault)

namespace HttpBody

/-- The type of what is sent. -/
def contentType? : HttpBody → Option String
  | .empty => none
  | .page => some "text/html; charset=utf-8"
  | .json _ => some "application/json"
  | .plain _ | .fault _ => some "text/plain; charset=utf-8"

/-- What is sent. -/
def text : HttpBody → String
  | .empty => ""
  | .page => Server.page
  | .json value => value.print
  | .plain content => content
  | .fault f => f.message

end HttpBody

structure HttpResponse where
  status : Nat
  /-- Names, in lower case, and values. -/
  headers : List (String × String) := []
  body : HttpBody := .empty

namespace HttpResponse

/-- A response with the type of its body. -/
def ofBody (status : Nat) (body : HttpBody) : HttpResponse :=
  ⟨status, (body.contentType?.map fun type => ("content-type", type)).toList, body⟩

def ofFault (fault : RequestFault) : HttpResponse :=
  .ofBody fault.status (.fault fault)

/-- The response with a record, or the one that tells why there is none. -/
def ofAnswer {α : Type} (toJson : α → Json) : Except Refusal α → HttpResponse
  | .ok a => .ofBody 200 (.json (toJson a))
  | .error refusal => .ofBody refusal.status (.plain refusal.message)

def notFound : HttpResponse := { status := 404 }

/-- The header that names the methods of a path. -/
def allow : String × String := ("allow", "GET,HEAD")

def methodNotAllowed : HttpResponse := { status := 405, headers := [allow] }

end HttpResponse

/-- The text that a part of a path writes. -/
def decodePart? (written : String) : Option String :=
  Utf8.decode? (Percent.decode (Bytes.ofText written))

namespace Site

/-- What a path leads to, asked for with one of its methods (`dashboard_html`, `get_dashboard_data`, `get_channel`,
`get_block_detail`, `get_transaction` and `websocket_handler`). -/
def get (site : Site) (method query : String) : Route → HttpResponse
  | .page => .ofBody 200 .page
  | .dashboard => .ofBody 200 (.json site.dashboard.toJson)
  | .channel =>
    match NumericStopRule.ofQuery? query with
    | none => .ofFault .badQuery
    | some form => .ofAnswer ChannelHistory.toJson (site.channel form)
  | .block written =>
    match decodePart? written with
    | none => .ofFault .notUtf8
    | some part =>
      match Decimal.uint64? part with
      | none => .ofFault .badNumber
      | some number => .ofAnswer BlockRecord.toJson (site.block number)
  | .transaction written =>
    match decodePart? written with
    | none => .ofFault .notUtf8
    | some txId => .ofAnswer TransactionRecord.toJson (site.transaction txId)
  | .socket => .ofFault (if method = "GET" then .noUpgrade else .wrongMethod)

/-- The answer to a request. -/
def respond (site : Site) (request : HttpRequest) : HttpResponse :=
  let (path, query) := request.pathAndQuery
  match Route.ofPath? path with
  | none => .notFound
  | some route =>
    match request.method with
    | "GET" => site.get "GET" query route
    | "HEAD" => { site.get "HEAD" query route with body := .empty }
    | _ => .methodNotAllowed

/-- The answer to a request where scripts of other sites are let in. -/
def respondShared (site : Site) (request : HttpRequest) : HttpResponse :=
  let origin := ("access-control-allow-origin", "*")
  if request.method = "OPTIONS" then
    let granted := [origin, ("access-control-allow-methods", "*"),
      ("access-control-allow-headers", "*")]
    { status := 200
      headers := if (Route.ofPath? request.pathAndQuery.1).isSome then
        HttpResponse.allow :: granted else granted }
  else
    let response := site.respond request
    { response with headers := origin :: response.headers }

end Site

end ChannelLedger.Server
