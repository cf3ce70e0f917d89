import ChannelLedger.Server.Connection
import ChannelLedger.Server.Http
import ChannelLedger.Server.Watch

/-!
# A running server

What a server does between its start and its end: it keeps a site and the connections of its
clients, and renews the site some time after the directory has changed. A further change in the
meantime puts the renewal off, and one that comes while a renewal is under way takes its place.

A renewal takes several steps: it reads the directory, takes the ledger into use, makes a dashboard
of it, shows that, and announces it to the connections. It ends early where reading the directory or
making the dashboard fails. So a ledger can be in use of which no dashboard could be made.
-/
namespace ChannelLedger.Server

/-- What a renewal is about to do. -/
inductive Renewal where
  /-- To wait until that time. -/
  | waiting (due : Nat)
  | reading
  | adopting (index : BlockIndex)
  | making
  | displaying (dashboard : Dashboard)
  | announcing

/-- How long to wait after a change, in milliseconds. -/
def delay : Nat := 500

structure Live where
  site : Site
  /-- Whether scripts of other sites are let in. -/
  shared : Bool := false
  /-- Whether changes of the directory are noticed. -/
  watching : Bool := true
  /-- In milliseconds. -/
  clock : Nat := 0
  renewal : Option Renewal := none
  /-- The connections by the names of their clients. -/
  clients : List (String × Connection) := []

namespace Live

/-- The answer to a request. -/
def respond (live : Live) (request : HttpRequest) : HttpResponse :=
  if live.shared then live.site.respondShared request else live.site.respond request

/-! ## Clients -/

/-- The connection of a client. -/
def client? (live : Live) (name : String) : Option Connection :=
  live.clients.lookup name

/-- Does something with every connection. -/
def mapClients (f : Connection → Connection) (live : Live) : Live :=
  { live with clients := live.clients.map fun (name, connection) => (name, f connection) }

/-- Does something with the connection of a client. -/
def mapClient (name : String) (f : Connection → Connection) (live : Live) : Live :=
  { live with clients := live.clients.map fun (other, connection) =>
      (other, if other = name then f connection else connection) }

/-- A client vanishes. -/
def leave (live : Live) (name : String) : Live :=
  { live with clients := live.clients.filter (·.1 ≠ name) }

/-- A client opens a socket. -/
def connect (live : Live) (name : String) : Live :=
  { live.leave name with clients := (live.leave name).clients ++ [(name, {})] }

/-- Whether the socket of a client is open. -/
def isOpen (live : Live) (name : String) : Bool :=
  (live.client? name).any (·.phase ≠ .closed)

/-- The connections go on until none has anything to do. -/
def settle (live : Live) : Live :=
  live.mapClients (Connection.settle live.site)

/-! ## Renewals -/

/-- The directory changes (`start_ledger_file_watcher`). -/
def notice (live : Live) (change : Change) : Live :=
  if live.watching && change.counts then
    { live with renewal := some (.waiting (live.clock + delay)) }
  else live

/-- One step of the renewal under way, which `start_ledger_file_watcher` leaves to a task of its own; with the
directory as it is now and the time in seconds since 1970. -/
def stepRenewal (directory : Option Directory) (seconds : UInt64) (live : Live) : Live :=
  match live.renewal with
  | none => live
  | some (.waiting due) =>
    if due ≤ live.clock then { live with renewal := some .reading } else live
  | some .reading =>
    match Site.load live.site.suite live.site.path directory with
    | .error _ => { live with renewal := none }
    | .ok index => { live with renewal := some (.adopting index) }
  | some (.adopting index) => { live with site := live.site.use index, renewal := some .making }
  | some .making =>
    match live.site.makeDashboard seconds with
    | .error _ => { live with renewal := none }
    | .ok dashboard => { live with renewal := some (.displaying dashboard) }
  | some (.displaying dashboard) =>
    { live with site := live.site.display dashboard, renewal := some .announcing }
  | some .announcing =>
    { live.mapClients (·.announce live.site.dashboard) with renewal := none }

/-- A renewal that is due, from its first step to its last. -/
def renew (directory : Option Directory) (seconds : UInt64) (live : Live) : Live :=
  Nat.repeat (stepRenewal directory seconds) 6 live

/-- Time passes. A renewal that becomes due is carried out when it is due. -/
def pass (directory : Option Directory) (seconds : UInt64) (milliseconds : Nat) (live : Live) :
    Live :=
  let stop := live.clock + milliseconds
  match live.renewal with
  | some (.waiting due) =>
    if due ≤ stop then
      { (renew directory seconds { live with clock := due }).settle with clock := stop }
    else { live with clock := stop }
  | _ => { live with clock := stop }

end Live

end ChannelLedger.Server
