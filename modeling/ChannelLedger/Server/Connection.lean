import ChannelLedger.Server.Site

/-!
# Connections

A client that opens a socket is first sent the dashboard as it is. Then its connection asks for the
updates to come, and from there on listens to two things: updates, which it passes on, and what the
client sends, of which every text is answered. It does one thing at a time, and a step of the server
may fall between any two of its steps; so an update that falls between the look at the dashboard and
the request for updates is one that the client is not told of. A question about the ledger takes two
steps: the ledger in use is taken hold of, and the answer is looked for in that ledger, also if another
one has come into use by then.

The updates that wait for a connection are the latest ones; when there are too many, the oldest are
dropped.
-/
namespace ChannelLedger.Server

/-- What comes from a client. -/
inductive Frame where
  | text (content : String)
  /-- Bytes, or a sign of life. Nothing is answered to it. -/
  | other
  /-- The client takes its leave or is gone. -/
  | close
  deriving DecidableEq, Repr

/-- What a connection is about to do. -/
inductive Phase where
  /-- To look at the dashboard. -/
  | opening
  /-- To send the dashboard that it saw. -/
  | greeting (seen : Dashboard)
  /-- To ask for updates. -/
  | greeted
  | listening
  /-- To pass on an update. -/
  | passing (update : Dashboard)
  /-- To read a text. -/
  | asked (content : String)
  /-- To look for the answer to a request in the ledger that it got hold of. -/
  | looking (index : BlockIndex) (request : SocketMessage)
  | answering (reply : SocketMessage)
  | closed
  deriving DecidableEq, Repr

/-- Whether a connection in that phase gets updates. -/
def Phase.getsUpdates : Phase → Bool
  | .opening | .greeting _ | .greeted | .closed => false
  | .listening | .passing _ | .asked _ | .looking .. | .answering _ => true

/-- How many steps a connection in that phase has to take until it listens again. -/
def Phase.stepsLeft : Phase → Nat
  | .opening | .asked _ => 3
  | .greeting _ | .looking .. => 2
  | .greeted | .passing _ | .answering _ => 1
  | .listening | .closed => 0

/-- What a connection does that has read a text, with the site as it is then. -/
def Site.takeUp (site : Site) (content : String) : Phase :=
  match SocketMessage.ofText? content with
  | none => .answering (site.replyToText content)
  | some request =>
    if request.asksLedger then .looking site.index request else .answering (site.reply request)

/-- Whose turn it is at a connection that listens. -/
inductive Turn where
  | update
  | frame
  deriving DecidableEq, Repr

/-- How many updates can wait. Room is asked for 100; the queue has the next power of two. -/
def updateRoom : Nat := 128

/-- What stands between the server and one client (`handle_websocket`). -/
structure Connection where
  phase : Phase := .opening
  /-- The updates that wait, the oldest first. -/
  updates : List Dashboard := []
  /-- What has come from the client and not been looked at, the oldest first. -/
  frames : List Frame := []
  /-- What has been sent to the client, the oldest first. -/
  sent : List SocketMessage := []
  deriving DecidableEq, Repr

namespace Connection

/-- Something comes from the client. -/
def receive (connection : Connection) (frame : Frame) : Connection :=
  { connection with frames := connection.frames ++ [frame] }

/-- The latest updates, as many as there is room for. -/
def latest (updates : List Dashboard) : List Dashboard :=
  updates.drop (updates.length - updateRoom)

/-- An update is announced. -/
def announce (connection : Connection) (update : Dashboard) : Connection :=
  if connection.phase.getsUpdates then
    { connection with updates := latest (connection.updates ++ [update]) }
  else connection

/-- Sends a message and goes on to a phase. -/
def send (connection : Connection) (message : SocketMessage) (phase : Phase) : Connection :=
  { connection with sent := connection.sent ++ [message], phase := phase }

/-- Takes up what has come from the client first. -/
def takeFrame? (connection : Connection) : Option Connection :=
  match connection.frames with
  | [] => none
  | .text content :: frames => some { connection with phase := .asked content, frames := frames }
  | .other :: frames => some { connection with frames := frames }
  | .close :: _ => some { connection with phase := .closed, updates := [], frames := [] }

/-- Takes up the update that has waited longest. -/
def takeUpdate? (connection : Connection) : Option Connection :=
  match connection.updates with
  | [] => none
  | update :: updates =>
    some { connection with phase := .passing update, updates := updates }

/-- The next step, if there is one: what `handle_websocket` does until it waits again. Only at a connection that
listens does the turn matter. -/
def step? (site : Site) (turn : Turn) (connection : Connection) : Option Connection :=
  match connection.phase with
  | .opening => some { connection with phase := .greeting site.dashboard }
  | .greeting seen => some (connection.send (.dashboard seen) .greeted)
  | .greeted => some { connection with phase := .listening }
  | .listening =>
    match turn with
    | .update => connection.takeUpdate?
    | .frame => connection.takeFrame?
  | .passing update => some (connection.send (.dashboard update) .listening)
  | .asked content => some { connection with phase := site.takeUp content }
  | .looking index request =>
    some { connection with phase := .answering ((site.use index).reply request) }
  | .answering reply => some (connection.send reply .listening)
  | .closed => none

/-- How many steps a connection has to take, unless something new comes, until it has nothing to
do. -/
def stepsLeft (connection : Connection) : Nat :=
  connection.phase.stepsLeft + 2 * connection.updates.length + 4 * connection.frames.length

/-- The next step, with updates first; nothing changes if there is none. -/
def step (site : Site) (connection : Connection) : Connection :=
  ((connection.step? site .update).or (connection.step? site .frame)).getD connection

/-- Goes on until there is nothing to do. -/
def settle (site : Site) (connection : Connection) : Connection :=
  Nat.repeat (step site) connection.stepsLeft connection

end Connection

end ChannelLedger.Server
