import Mathlib.Data.List.Forall2
import Mathlib.Data.List.Induction
import ChannelLedger.Proofs.Server.Acts

/-!
# What a client is answered

Between the texts that a client sends and the answers that it gets, a connection passes updates on, and the
server renews its ledger, or fails to, at any step. What a client is owed is kept by every act nevertheless
(`Conversation`): the texts that came are those that were answered, in the order in which they came, then the
one in hand, then those that wait (`Connection.Owes`). And an answer is the one of the site as it was at one
moment between the text and the answer: a question about the ledger is answered from the ledger that was in
use when the connection took hold of it, whatever came into use since.

Nothing is owed forever: every turn that the connection gives to its client brings the oldest text closer to
its answer, and every turn that it gives to an update puts it off by one step at most
(`Live.answered_in_time`).

Main theorem `Live.replies_in_order`.
-/
namespace ChannelLedger.Server

/-! ## What is said and what is asked -/

/-- What a connection says to its client. -/
inductive Saying where
  | greeting (dashboard : Dashboard)
  | update (dashboard : Dashboard)
  | reply (message : SocketMessage)
  deriving DecidableEq, Repr

namespace Saying

/-- The message that says it. -/
def message : Saying → SocketMessage
  | .greeting dashboard | .update dashboard => .dashboard dashboard
  | .reply message => message

def reply? : Saying → Option SocketMessage
  | .reply message => some message
  | _ => none

end Saying

namespace Phase

/-- What is said next. -/
def says? : Phase → Option Saying
  | .greeting seen => some (.greeting seen)
  | .passing update => some (.update update)
  | .answering reply => some (.reply reply)
  | _ => none

/-- Whether a text is in hand. -/
def isReplying : Phase → Bool
  | .asked _ | .looking .. | .answering _ => true
  | _ => false

end Phase

def Frame.text? : Frame → Option String
  | .text content => some content
  | _ => none

/-- The texts that have come and that the connection has not looked at. -/
def Connection.texts (connection : Connection) : List String :=
  connection.frames.filterMap Frame.text?

namespace Act

/-- The text that an act brings from a client. -/
def text? (name : String) : Act → Option String
  | .receive other frame => if other = name then frame.text? else none
  | _ => none

/-- Whether an act is one of the client or of its connection. -/
def isOf (name : String) : Act → Bool
  | .proceed other _ | .receive other _ => other = name
  | _ => false

/-- Whether an act leaves the client its connection. -/
def Spares (name : String) (act : Act) : Prop :=
  act ≠ .connect name ∧ act ≠ .leave name

theorem text?_of_not_isOf {name : String} {act : Act} (h : act.isOf name = false) :
    act.text? name = none := by
  cases act with
  | receive other frame => exact if_neg (by simpa [isOf] using h)
  | _ => rfl

end Act

namespace Live

/-- What is to be seen of the acts of a run, each with the number of acts in front of it. -/
def seen {α : Type} (what : Live → Act → Option α) : (passed : Nat) → List Act → Live → List (Nat × α)
  | _, [], _ => []
  | passed, act :: acts, live =>
    ((what live act).map (passed, ·)).toList ++ seen what (passed + 1) acts (live.act act)

/-- What an act makes the connection of a client say. -/
def says? (name : String) (live : Live) : Act → Option Saying
  | .proceed other _ => if other = name then (live.client? name).bind (·.phase.says?) else none
  | _ => none

/-- What a client is told along a run. -/
def said (live : Live) (name : String) (acts : List Act) : List (Nat × Saying) :=
  seen (says? name) 0 acts live

/-- What a client is answered by acts in front of which that many were. -/
def repliesBehind (live : Live) (name : String) (passed : Nat) (acts : List Act) : List (Nat × SocketMessage) :=
  (seen (says? name) passed acts live).filterMap fun (passed, saying) => saying.reply?.map (passed, ·)

/-- What a client is answered along a run. -/
def replies (live : Live) (name : String) (acts : List Act) : List (Nat × SocketMessage) :=
  live.repliesBehind name 0 acts

/-- The texts that come from a client along a run. -/
def asked (live : Live) (name : String) (acts : List Act) : List (Nat × String) :=
  seen (fun _ => Act.text? name) 0 acts live

section
variable {α : Type} {what : Live → Act → Option α} {live : Live} {name : String} {acts later : List Act}

theorem run_append : live.run (acts ++ later) = (live.run acts).run later :=
  List.foldl_append

theorem seen_append (passed : Nat) (acts : List Act) (live : Live) :
    seen what passed (acts ++ later) live =
      seen what passed acts live ++ seen what (passed + acts.length) later (live.run acts) := by
  induction acts generalizing passed live with
  | nil => rfl
  | cons act acts ih =>
    simp only [List.cons_append, seen, ih, List.append_assoc, run_cons, List.length_cons]
    rw [Nat.add_right_comm, Nat.add_assoc]

theorem seen_concat (act : Act) : seen what 0 (acts ++ [act]) live =
    seen what 0 acts live ++ ((what (live.run acts) act).map (acts.length, ·)).toList := by
  simp [seen_append, seen]

/-- What was seen was seen in front of the end. -/
theorem lt_of_mem_seen {passed : Nat} {entry : Nat × α} (h : entry ∈ seen what passed acts live) :
    entry.1 < passed + acts.length := by
  induction acts generalizing passed live with
  | nil => cases h
  | cons act acts ih =>
    rw [seen, List.mem_append] at h
    rw [List.length_cons]
    rcases h with h | h
    · obtain ⟨a, -, rfl⟩ := Option.map_eq_some_iff.1 (Option.mem_toList.1 h)
      dsimp only
      omega
    · have := ih h
      omega

theorem asked_concat (act : Act) : live.asked name (acts ++ [act]) =
    live.asked name acts ++ ((act.text? name).map (acts.length, ·)).toList :=
  seen_concat act

theorem said_concat (act : Act) : live.said name (acts ++ [act]) =
    live.said name acts ++ (((live.run acts).says? name act).map (acts.length, ·)).toList :=
  seen_concat act

theorem repliesBehind_cons (passed : Nat) (act : Act) : live.repliesBehind name passed (act :: acts) =
    (((live.says? name act).bind Saying.reply?).map (passed, ·)).toList ++
      (live.act act).repliesBehind name (passed + 1) acts := by
  rw [repliesBehind, seen, List.filterMap_append, ← repliesBehind]
  cases live.says? name act with
  | none => rfl
  | some saying => cases saying <;> rfl

theorem replies_append : live.replies name (acts ++ later) =
    live.replies name acts ++ (live.run acts).repliesBehind name acts.length later := by
  simp [replies, repliesBehind, seen_append]

theorem replies_concat (act : Act) : live.replies name (acts ++ [act]) = live.replies name acts ++
    ((((live.run acts).says? name act).bind Saying.reply?).map (acts.length, ·)).toList := by
  rw [replies_append, repliesBehind_cons]
  simp [repliesBehind, seen]

theorem says?_of_not_isOf {act : Act} (h : act.isOf name = false) : live.says? name act = none := by
  cases act with
  | proceed other turn => exact if_neg (by simpa [Act.isOf] using h)
  | _ => rfl

end

/-! ## What an act does to one connection -/

section
variable {live : Live} {name : String} {connection : Connection}

/-- The connection of a client takes a step, or something comes from the client, or at most updates do. -/
theorem client?_act_cases (there : live.client? name = some connection) {act : Act}
    (spares : act.Spares name) :
    (∃ turn, act = .proceed name turn ∧
      (live.act act).client? name = some (connection.proceed live.site turn)) ∨
    (∃ frame, act = .receive name frame ∧
      (live.act act).client? name = some (connection.receive frame)) ∨
    (act.isOf name = false ∧
      ∃ updates, (live.act act).client? name = some { connection with updates := updates }) := by
  cases act with
  | renew directory seconds =>
    refine .inr (.inr ⟨rfl, ?_⟩)
    rw [Live.act]
    rcases clients_stepRenewal directory seconds with hclients | hclients
    · rw [client?, hclients, ← client?, client?_mapClients, there, Option.map_some, Connection.announce]
      split
      · exact ⟨_, rfl⟩
      · exact ⟨connection.updates, rfl⟩
    · rw [client?, hclients, ← client?, there]
      exact ⟨connection.updates, rfl⟩
  | proceed other turn =>
    rw [Live.act, client?_mapClient, there, Option.map_some]
    by_cases hname : name = other
    · subst hname
      exact .inl ⟨turn, rfl, by rw [if_pos rfl]⟩
    · refine .inr (.inr ⟨by simp [Act.isOf, Ne.symm hname], connection.updates, ?_⟩)
      rw [if_neg hname]
  | connect other =>
    have hname : name ≠ other := fun h => spares.1 (h ▸ rfl)
    refine .inr (.inr ⟨rfl, connection.updates, ?_⟩)
    rw [Live.act, client?_connect, if_neg hname, there]
  | leave other =>
    have hname : name ≠ other := fun h => spares.2 (h ▸ rfl)
    refine .inr (.inr ⟨rfl, connection.updates, ?_⟩)
    rw [Live.act, client?_leave, if_neg hname, there]
  | receive other frame =>
    rw [Live.act, client?_mapClient, there, Option.map_some]
    by_cases hname : name = other
    · subst hname
      exact .inr (.inl ⟨frame, rfl, by rw [if_pos rfl]⟩)
    · refine .inr (.inr ⟨by simp [Act.isOf, Ne.symm hname], connection.updates, ?_⟩)
      rw [if_neg hname]
  | notice change =>
    refine .inr (.inr ⟨rfl, connection.updates, ?_⟩)
    rw [Live.act, client?, clients_notice, ← client?, there]
  | wait milliseconds => exact .inr (.inr ⟨rfl, connection.updates, there⟩)

end

end Live

/-! ## What a connection owes its client -/

namespace Site

variable {site other : Site} {request : SocketMessage}

/-- A question about the ledger is answered from the ledger and nothing else. -/
theorem reply_congr (asks : request.asksLedger = true) (same : site.index = other.index) :
    site.reply request = other.reply request := by
  cases request with
  | getBlock number => simp only [reply, block, same]
  | getTransaction txId => simp only [reply, transaction, walk, same]
  | _ => cases asks

theorem replyToText_of_ofText? {text : String} (h : SocketMessage.ofText? text = some request) :
    site.replyToText text = site.reply request := by
  simp [replyToText, h]

end Site

/-- A text is answered from the site as it was at one moment between the two. -/
def Answered (site : Nat → Site) (asked : Nat × String) (reply : Nat × SocketMessage) : Prop :=
  ∃ moment, asked.1 < moment ∧ moment ≤ reply.1 ∧ reply.2 = (site moment).replyToText asked.2

/-- What a connection has of the answer to a text that is in hand. -/
def Phase.Handles (site : Nat → Site) (now : Nat) (asked : Nat × String) : Phase → Prop
  | .asked content => content = asked.2
  | .looking index request =>
    SocketMessage.ofText? asked.2 = some request ∧ request.asksLedger = true ∧
      ∃ moment, asked.1 < moment ∧ moment ≤ now ∧ index = (site moment).index
  | .answering reply => Answered site asked (now, reply)
  | _ => False

theorem Phase.Handles.later {site : Nat → Site} {now : Nat} {asked : Nat × String} {phase : Phase}
    (h : phase.Handles site now asked) : phase.Handles site (now + 1) asked := by
  cases phase with
  | asked content => exact h
  | looking index request =>
    obtain ⟨hrequest, hasks, moment, hafter, hbefore, hindex⟩ := h
    exact ⟨hrequest, hasks, moment, hafter, Nat.le_succ_of_le hbefore, hindex⟩
  | answering reply =>
    obtain ⟨moment, hafter, hbefore, hreply⟩ := h
    exact ⟨moment, hafter, Nat.le_succ_of_le hbefore, hreply⟩
  | _ => cases h

namespace Connection

/-- The texts that came and were not answered: the one in hand, if there is one, and those that wait. -/
inductive Owes (site : Nat → Site) (now : Nat) (connection : Connection) : List (Nat × String) → Prop
  | free {waiting : List (Nat × String)} (idle : connection.phase.isReplying = false)
      (texts : connection.texts = waiting.map (·.2)) : Owes site now connection waiting
  | busy {asked : Nat × String} {waiting : List (Nat × String)}
      (handles : connection.phase.Handles site now asked)
      (texts : connection.texts = waiting.map (·.2)) : Owes site now connection (asked :: waiting)

variable {site : Nat → Site} {now : Nat} {connection : Connection} {owed : List (Nat × String)}

theorem sent_proceed (connection : Connection) (site : Site) (turn : Turn) :
    (connection.proceed site turn).sent =
      connection.sent ++ (connection.phase.says?.map Saying.message).toList := by
  obtain ⟨phase, updates, frames, sent⟩ := connection
  cases phase with
  | listening =>
    cases turn with
    | update => cases updates <;> simp [proceed, step?, takeUpdate?, Phase.says?]
    | frame =>
      cases frames with
      | nil => simp [proceed, step?, takeFrame?, Phase.says?]
      | cons frame frames => cases frame <;> simp [proceed, step?, takeFrame?, Phase.says?]
  | _ => simp [proceed, step?, send, Phase.says?, Saying.message]

/-- A connection that has read a text is about to look into the ledger or to answer. -/
theorem takeUp_cases (site : Site) (text : String) :
    (∃ request, SocketMessage.ofText? text = some request ∧ request.asksLedger = true ∧
      site.takeUp text = .looking site.index request) ∨
    site.takeUp text = .answering (site.replyToText text) := by
  unfold Site.takeUp Site.replyToText
  cases SocketMessage.ofText? text with
  | none => exact .inr rfl
  | some request =>
    cases hasks : request.asksLedger with
    | true => exact .inl ⟨request, rfl, hasks, by simp [hasks]⟩
    | false => exact .inr (by simp [hasks])

namespace Owes

theorem later (h : connection.Owes site now owed) : connection.Owes site (now + 1) owed := by
  cases h with
  | free idle texts => exact .free idle texts
  | busy handles texts => exact .busy handles.later texts

/-- Updates that come and go make no difference. -/
theorem updates (h : connection.Owes site now owed) (updates : List Dashboard) :
    { connection with updates := updates }.Owes site now owed := by
  cases h with
  | free idle texts => exact .free idle texts
  | busy handles texts => exact .busy handles texts

/-- A text that comes has to wait; anything else is owed no answer. -/
theorem receive (h : connection.Owes site now owed) (frame : Frame) (came : Nat) :
    (connection.receive frame).Owes site now (owed ++ (frame.text?.map (came, ·)).toList) := by
  have htexts : ∀ {waiting : List (Nat × String)}, connection.texts = waiting.map (·.2) →
      (connection.receive frame).texts = (waiting ++ (frame.text?.map (came, ·)).toList).map (·.2) := by
    intro waiting texts
    unfold Connection.texts at texts ⊢
    rw [Connection.receive, List.filterMap_append, texts]
    cases frame <;> simp [Frame.text?]
  cases h with
  | free idle texts => exact .free idle (htexts texts)
  | busy handles texts => exact .busy handles (htexts texts)

/-- Where no text is in hand, all that are owed wait. -/
theorem texts_of_idle (h : connection.Owes site now owed) (idle : connection.phase.isReplying = false) :
    connection.texts = owed.map (·.2) := by
  cases h with
  | free _ texts => exact texts
  | busy handles texts =>
    cases hphase : connection.phase <;> simp [hphase, Phase.Handles, Phase.isReplying] at handles idle

/-- Where a text is in hand, it is the first that is owed. -/
theorem of_replying (h : connection.Owes site now owed) (busy : connection.phase.isReplying = true) :
    ∃ asked waiting, owed = asked :: waiting ∧ connection.phase.Handles site now asked ∧
      connection.texts = waiting.map (·.2) := by
  cases h with
  | free idle => simp [busy] at idle
  | busy handles texts => exact ⟨_, _, rfl, handles, texts⟩

/-- What is owed is what is in hand and what waits. -/
theorem accounts (h : connection.Owes site now owed) :
    owed.length = (if connection.phase.isReplying then 1 else 0) + connection.texts.length ∧
      connection.texts <:+ owed.map (·.2) := by
  cases hbusy : connection.phase.isReplying with
  | false => simp [h.texts_of_idle hbusy]
  | true =>
    obtain ⟨first, waiting, rfl, -, htexts⟩ := h.of_replying hbusy
    constructor
    · simp only [List.length_cons, htexts, List.length_map, if_true]
      omega
    · rw [htexts]
      exact List.suffix_cons _ _

/-- **A step of the connection** either answers the first text that is owed, or it answers none and owes what
it owed, unless it ends. -/
theorem proceed (h : connection.Owes site now owed) (came : ∀ asked ∈ owed, asked.1 < now) (turn : Turn) :
    let next := connection.proceed (site now) turn
    (connection.phase.says?.bind Saying.reply? = none ∧
      (next.phase = .closed ∨ next.Owes site (now + 1) owed)) ∨
    ∃ reply asked waiting, connection.phase.says? = some (.reply reply) ∧ owed = asked :: waiting ∧
      Answered site asked (now, reply) ∧ next.Owes site (now + 1) waiting := by
  obtain ⟨phase, updates, frames, sent⟩ := connection
  cases phase with
  | opening | greeting | greeted | passing =>
    exact .inl ⟨rfl, .inr (.free rfl (h.texts_of_idle rfl))⟩
  | closed => exact .inl ⟨rfl, .inl rfl⟩
  | listening =>
    have htexts := h.texts_of_idle rfl
    refine .inl ⟨rfl, ?_⟩
    cases turn with
    | update => cases updates <;> exact .inr (.free rfl htexts)
    | frame =>
      cases frames with
      | nil => exact .inr (.free rfl htexts)
      | cons frame frames =>
        cases frame with
        | text content =>
          -- the text that waited longest is the first that is owed
          cases owed with
          | nil => simp [texts, Frame.text?] at htexts
          | cons asked waiting =>
            simp only [texts, List.filterMap_cons, Frame.text?, List.map_cons, List.cons.injEq] at htexts
            exact .inr (.busy htexts.1 htexts.2)
        | other => exact .inr (.free rfl htexts)
        | close => exact .inl rfl
  | asked content =>
    obtain ⟨asked, waiting, rfl, rfl, htexts⟩ := h.of_replying rfl
    have hcame : asked.1 < now := came asked List.mem_cons_self
    refine .inl ⟨rfl, .inr ?_⟩
    rcases takeUp_cases (site now) asked.2 with ⟨request, hrequest, hasks, htaken⟩ | htaken
    · refine .busy ?_ htexts
      simp only [Connection.proceed, step?, htaken, Option.getD_some]
      exact ⟨hrequest, hasks, now, hcame, Nat.le_succ now, rfl⟩
    · refine .busy ?_ htexts
      simp only [Connection.proceed, step?, htaken, Option.getD_some]
      exact ⟨now, hcame, Nat.le_succ now, rfl⟩
  | looking index request =>
    obtain ⟨asked, waiting, rfl, ⟨hrequest, hasks, moment, hafter, hbefore, rfl⟩, htexts⟩ :=
      h.of_replying rfl
    refine .inl ⟨rfl, .inr (.busy ?_ htexts)⟩
    refine ⟨moment, hafter, Nat.le_succ_of_le hbefore, ?_⟩
    rw [Site.replyToText_of_ofText? hrequest]
    exact Site.reply_congr hasks rfl
  | answering reply =>
    obtain ⟨asked, waiting, rfl, hanswered, htexts⟩ := h.of_replying rfl
    exact .inr ⟨reply, asked, waiting, rfl, rfl, hanswered, .free rfl htexts⟩

end Owes

end Connection

/-! ## Along a run -/

/-- How far the conversation with a client has come after some acts. -/
structure Conversation (start : Live) (name : String) (site : Nat → Site) (acts : List Act)
    (connection : Connection) : Prop where
  there : (start.run acts).client? name = some connection
  sent : connection.sent = (start.said name acts).map (·.2.message)
  /-- The texts that came are those that were answered, one by one, and those that are owed an answer. -/
  texts : ∃ done owed, start.asked name acts = done ++ owed ∧
    List.Forall₂ (Answered site) done (start.replies name acts) ∧
    (connection.phase ≠ .closed → connection.Owes site acts.length owed)

namespace Conversation

variable {start : Live} {name : String} {site : Nat → Site} {acts : List Act} {connection : Connection}

/-- **Every act carries the conversation on.** -/
theorem act (h : Conversation start name site acts connection)
    (now : site acts.length = (start.run acts).site) {act : Act} (spares : act.Spares name) :
    ∃ next, Conversation start name site (acts ++ [act]) next := by
  obtain ⟨done, owed, hasked, hdone, howes⟩ := h.texts
  have hlength : (acts ++ [act]).length = acts.length + 1 := by simp
  have hrun : start.run (acts ++ [act]) = (start.run acts).act act := Live.run_append
  rcases Live.client?_act_cases h.there spares with ⟨turn, rfl, hnext⟩ | ⟨frame, rfl, hnext⟩ | ⟨hother, updates, hnext⟩
  · have hword : (start.run acts).says? name (.proceed name turn) = connection.phase.says? := by
      simp [Live.says?, h.there]
    refine ⟨connection.proceed (start.run acts).site turn, by rw [hrun, hnext], ?_, ?_⟩
    · rw [Connection.sent_proceed, h.sent, Live.said_concat, hword, List.map_append]
      cases connection.phase.says? <;> rfl
    · have hsame : start.asked name (acts ++ [.proceed name turn]) = done ++ owed := by
        simp [Live.asked_concat, Act.text?, hasked]
      rw [hsame, Live.replies_concat, hword, hlength]
      by_cases hclosed : connection.phase = .closed
      · refine ⟨done, owed, rfl, ?_, ?_⟩
        · simpa [hclosed, Phase.says?] using hdone
        · intro hopen
          exact absurd (by simp [Connection.proceed, Connection.step?, hclosed]) hopen
      · have hcame : ∀ asked ∈ owed, asked.1 < acts.length := by
          intro asked hm
          have hseen : asked ∈ start.asked name acts := by
            rw [hasked]
            exact List.mem_append_right done hm
          simpa using Live.lt_of_mem_seen hseen
        rw [← now]
        rcases (howes hclosed).proceed hcame turn with
          ⟨hsilent, hnext⟩ | ⟨reply, asked, waiting, hreply, rfl, hanswered, hnext⟩
        · refine ⟨done, owed, rfl, by simpa [hsilent] using hdone, fun hopen => ?_⟩
          exact hnext.resolve_left hopen
        · refine ⟨done ++ [asked], waiting, by simp, ?_, fun _ => hnext⟩
          rw [hreply]
          exact List.rel_append hdone (.cons hanswered .nil)
  · have hword : (start.run acts).says? name (.receive name frame) = none := rfl
    have htext : Act.text? name (.receive name frame) = frame.text? := if_pos rfl
    refine ⟨connection.receive frame, by rw [hrun, hnext], ?_, done, ?_⟩
    · rw [Live.said_concat, hword, Connection.receive, h.sent]
      simp
    · refine ⟨owed ++ (frame.text?.map (acts.length, ·)).toList, ?_, ?_, fun hopen => ?_⟩
      · rw [Live.asked_concat, htext, hasked, List.append_assoc]
      · simpa [Live.replies_concat, hword] using hdone
      · rw [hlength]
        exact ((howes hopen).receive frame acts.length).later
  · have hword : (start.run acts).says? name act = none := Live.says?_of_not_isOf hother
    have htext : act.text? name = none := Act.text?_of_not_isOf hother
    refine ⟨{ connection with updates := updates }, by rw [hrun, hnext], ?_, done, owed, ?_, ?_, fun hopen => ?_⟩
    · rw [Live.said_concat, hword, h.sent]
      simp
    · simp [Live.asked_concat, htext, hasked]
    · simpa [Live.replies_concat, hword] using hdone
    · rw [hlength]
      exact ((howes hopen).updates updates).later

/-- The reply in a place is the one to the text in that place. -/
theorem answered (h : Conversation start name site acts connection) {k : Nat} {asked : Nat × String}
    {reply : Nat × SocketMessage} (hasked : (start.asked name acts)[k]? = some asked)
    (hreply : (start.replies name acts)[k]? = some reply) : Answered site asked reply := by
  obtain ⟨done, owed, hsplit, hdone, -⟩ := h.texts
  obtain ⟨hk, rfl⟩ := List.getElem?_eq_some_iff.1 hreply
  have hk' : k < done.length := hdone.length_eq ▸ hk
  rw [hsplit, List.getElem?_append_left hk', List.getElem?_eq_getElem hk', Option.some.injEq] at hasked
  subst hasked
  exact hdone.get hk' hk

/-- The conversation begins when the client opens its socket. -/
theorem fresh (there : start.client? name = some {}) : Conversation start name site [] {} where
  there := there
  sent := rfl
  texts := ⟨[], [], rfl, .nil, fun _ => .free rfl rfl⟩

/-- How far the conversation has come in front of every act of a run. -/
theorem run (there : start.client? name = some {}) (stays : ∀ act ∈ acts, act.Spares name) {front rest : List Act}
    (hsplit : acts = front ++ rest) :
    ∃ connection, Conversation start name (fun moment => (start.run (acts.take moment)).site) front connection := by
  induction front using List.reverseRecOn generalizing rest with
  | nil => exact ⟨{}, fresh there⟩
  | append_singleton front act ih =>
    have hsplit' : acts = front ++ act :: rest := by simpa using hsplit
    obtain ⟨connection, h⟩ := ih hsplit'
    refine h.act ?_ (stays act (by simp [hsplit']))
    simp [hsplit']

end Conversation

/-! ## Nothing is owed forever -/

namespace Connection

variable {connection : Connection} {count : Nat}

/-- How many texts are owed an answer that are in hand or stand among so many of the waiting frames. -/
def owing (connection : Connection) (count : Nat) : Nat :=
  (if connection.phase.isReplying then 1 else 0)
    + ((connection.frames.take count).filterMap Frame.text?).length

/-- How many turns for its client answer them. -/
def turnsFor (connection : Connection) (count : Nat) : Nat :=
  connection.phase.stepsLeft + 4 * count

theorem owing_of_turnsFor (h : connection.turnsFor count = 0) : connection.owing count = 0 := by
  have hcount : count = 0 := by
    unfold turnsFor at h
    omega
  subst hcount
  cases hphase : connection.phase <;>
    simp [turnsFor, owing, hphase, Phase.stepsLeft, Phase.isReplying] at h ⊢

/-- **A turn for the client** brings a connection that owes answers closer to the last of them, and one for
an update puts it off by a step at most. -/
theorem turnsFor_proceed (inFront : count ≤ connection.frames.length) (owes : connection.owing count ≠ 0)
    (site : Site) (turn : Turn) :
    let next := connection.proceed site turn
    next.phase = .closed ∨ ∃ left, left ≤ next.frames.length ∧
      connection.owing count = next.owing left + ((connection.phase.says?.bind Saying.reply?).toList).length ∧
      next.turnsFor left ≤ match turn with
        | .frame => connection.turnsFor count - 1
        | .update => connection.turnsFor count + 1 := by
  obtain ⟨phase, updates, frames, sent⟩ := connection
  cases phase with
  | closed => exact .inl rfl
  | opening | greeting | greeted | passing | looking =>
    refine .inr ⟨count, inFront, rfl, ?_⟩
    cases turn <;> simp only [Connection.proceed, step?, send, Option.getD_some, turnsFor, Phase.stepsLeft] <;>
      omega
  | answering reply =>
    refine .inr ⟨count, inFront, ?_, ?_⟩
    · simp [Connection.proceed, step?, send, owing, Phase.isReplying, Phase.says?, Saying.reply?]
      omega
    · cases turn <;> simp only [Connection.proceed, step?, send, Option.getD_some, turnsFor, Phase.stepsLeft] <;>
        omega
  | asked content =>
    refine .inr ⟨count, inFront, ?_, ?_⟩
    · rcases takeUp_cases site content with ⟨request, -, -, htaken⟩ | htaken <;>
        simp [Connection.proceed, step?, htaken, owing, Phase.isReplying, Phase.says?]
    · rcases takeUp_cases site content with ⟨request, -, -, htaken⟩ | htaken <;>
        cases turn <;> simp [Connection.proceed, step?, htaken, turnsFor, Phase.stepsLeft] <;> omega
  | listening =>
    cases turn with
    | update =>
      cases updates with
      | nil => exact .inr ⟨count, inFront, rfl, Nat.le_succ _⟩
      | cons update updates =>
        refine .inr ⟨count, inFront, rfl, ?_⟩
        simp [Connection.proceed, step?, takeUpdate?, turnsFor, Phase.stepsLeft]
        omega
    | frame =>
      cases frames with
      | nil => simp [owing, Phase.isReplying] at owes
      | cons frame frames =>
        cases count with
        | zero => simp [owing, Phase.isReplying] at owes
        | succ count =>
          cases frame with
          | close => exact .inl rfl
          | other =>
            refine .inr ⟨count, Nat.le_of_succ_le_succ inFront, rfl, ?_⟩
            simp [Connection.proceed, step?, takeFrame?, turnsFor, Phase.stepsLeft]
            omega
          | text content =>
            refine .inr ⟨count, Nat.le_of_succ_le_succ inFront, ?_, ?_⟩
            · simp [Connection.proceed, step?, takeFrame?, owing, Phase.isReplying, Phase.says?, Frame.text?]
              omega
            · simp [Connection.proceed, step?, takeFrame?, turnsFor, Phase.stepsLeft]
              omega

end Connection

namespace Live

variable {live : Live} {name : String} {connection : Connection}

/-- A client keeps its connection, and one that has ended is not taken up again. -/
theorem client?_run (there : live.client? name = some connection) {acts : List Act}
    (stays : ∀ act ∈ acts, act.Spares name) :
    ∃ after, (live.run acts).client? name = some after ∧
      (connection.phase = .closed → after.phase = .closed) := by
  induction acts generalizing live connection with
  | nil => exact ⟨connection, there, id⟩
  | cons act acts ih =>
    have hrest : ∀ act ∈ acts, act.Spares name := fun other hm => stays other (List.mem_cons_of_mem act hm)
    rcases client?_act_cases there (stays act List.mem_cons_self) with
      ⟨turn, -, hnext⟩ | ⟨frame, -, hnext⟩ | ⟨-, updates, hnext⟩
    · obtain ⟨after, hafter, hclosed⟩ := ih hnext hrest
      refine ⟨after, hafter, fun h => hclosed ?_⟩
      simp [Connection.proceed, Connection.step?, h]
    all_goals
      obtain ⟨after, hafter, hclosed⟩ := ih hnext hrest
      exact ⟨after, hafter, hclosed⟩

/-- Only a turn of its own changes what a connection has to go until it has answered what stands in front. -/
theorem client?_act_owing (there : live.client? name = some connection) {act : Act} (spares : act.Spares name)
    {count : Nat} (inFront : count ≤ connection.frames.length) :
    (∃ turn, act = .proceed name turn ∧
      (live.act act).client? name = some (connection.proceed live.site turn)) ∨
    ((∀ turn, act ≠ .proceed name turn) ∧ ∃ next, (live.act act).client? name = some next ∧
      count ≤ next.frames.length ∧ next.owing count = connection.owing count ∧
      next.turnsFor count = connection.turnsFor count) := by
  rcases client?_act_cases there spares with ⟨turn, rfl, hnext⟩ | ⟨frame, rfl, hnext⟩ | ⟨hother, updates, hnext⟩
  · exact .inl ⟨turn, rfl, hnext⟩
  · refine .inr ⟨by simp, _, hnext, ?_, ?_, rfl⟩
    · simp only [Connection.receive, List.length_append]
      omega
    · unfold Connection.owing
      rw [Connection.receive]
      dsimp only
      rw [List.take_append_of_le_length inFront]
  · refine .inr ⟨?_, _, hnext, inFront, rfl, rfl⟩
    rintro turn rfl
    simp [Act.isOf] at hother

/-- **What is owed is answered in time**, unless the connection ends: with as many turns for the client as
are left to go, and one more for each turn that an update was given in between. -/
theorem answered_in_time (there : live.client? name = some connection) {later : List Act}
    (stays : ∀ act ∈ later, act.Spares name) {count : Nat} (inFront : count ≤ connection.frames.length)
    (enough : connection.turnsFor count + later.count (.proceed name .update)
      ≤ later.count (.proceed name .frame)) (passed : Nat) :
    ∃ after, (live.run later).client? name = some after ∧
      (after.phase = .closed ∨ connection.owing count ≤ (live.repliesBehind name passed later).length) := by
  induction later generalizing live connection count passed with
  | nil =>
    have hnone : connection.owing count = 0 := Connection.owing_of_turnsFor (by simpa using enough)
    exact ⟨connection, there, .inr (by omega)⟩
  | cons act later ih =>
    by_cases howes : connection.owing count = 0
    · obtain ⟨after, hafter, -⟩ := client?_run there stays
      exact ⟨after, hafter, .inr (by omega)⟩
    have hrest : ∀ act ∈ later, act.Spares name := fun other hm => stays other (List.mem_cons_of_mem act hm)
    rw [repliesBehind_cons, List.length_append, run_cons]
    rcases client?_act_owing there (stays act List.mem_cons_self) inFront with
      ⟨turn, rfl, hnext⟩ | ⟨hother, next, hnext, hfront, howing, hturns⟩
    · have hword : live.says? name (.proceed name turn) = connection.phase.says? := by
        simp [says?, there]
      rw [hword]
      rcases Connection.turnsFor_proceed inFront howes live.site turn with
        hclosed | ⟨left, hleft, howing, hturns⟩
      · obtain ⟨after, hafter, hstays⟩ := client?_run hnext hrest
        exact ⟨after, hafter, .inl (hstays hclosed)⟩
      · have henough : (connection.proceed live.site turn).turnsFor left + later.count (.proceed name .update)
            ≤ later.count (.proceed name .frame) := by
          have hsome : connection.turnsFor count ≠ 0 := fun h => howes (Connection.owing_of_turnsFor h)
          cases turn
          all_goals
            rw [List.count_cons_self, List.count_cons_of_ne (by simp)] at enough
            dsimp only at hturns
            omega
        obtain ⟨after, hafter, hanswered⟩ := ih hnext hrest hleft henough (passed + 1)
        refine ⟨after, hafter, hanswered.imp_right fun h => ?_⟩
        rw [howing, Option.toList_map, List.length_map]
        omega
    · have hcounts : ∀ turn, (act :: later).count (.proceed name turn) = later.count (.proceed name turn) :=
        fun turn => List.count_cons_of_ne (hother turn)
      rw [hcounts, hcounts, ← hturns] at enough
      obtain ⟨after, hafter, hanswered⟩ := ih hnext hrest hfront enough (passed + 1)
      rw [howing] at hanswered
      exact ⟨after, hafter, hanswered.imp_right fun h => Nat.le_trans h (Nat.le_add_left _ _)⟩

/-- **One reply for each text, in the order of the texts, and each from one ledger.** A client opens its socket;
then its connection, its frames, updates and renewals take their steps in any order. What was sent is what
was said. No more texts are answered than came, and unless the connection has ended, the texts that were not
answered are the one in hand and those that wait, in the order in which they came. A reply is the one to the
text in its place, from the site at a moment after the text came and before the reply was sent, and to a
question about the ledger it depends on the ledger of that moment alone. And with turns enough the texts that
came are answered, whatever happens in between, unless the connection ends. -/
theorem replies_in_order (live : Live) (name : String) {acts : List Act}
    (stays : ∀ act ∈ acts, act.Spares name) :
    let start := live.connect name
    let asked := start.asked name acts
    let replies := start.replies name acts
    ∃ connection, (start.run acts).client? name = some connection ∧
      connection.sent = (start.said name acts).map (·.2.message) ∧
      replies.length ≤ asked.length ∧
      (connection.phase ≠ .closed →
        asked.length = replies.length + (if connection.phase.isReplying then 1 else 0)
          + connection.texts.length ∧
        connection.texts <:+ asked.map (·.2)) ∧
      (∀ (k : Nat) arrived text sent reply, asked[k]? = some (arrived, text) → replies[k]? = some (sent, reply) →
        ∃ moment, arrived < moment ∧ moment ≤ sent ∧
          let site := (start.run (acts.take moment)).site
          reply = site.replyToText text ∧
          ∀ request, SocketMessage.ofText? text = some request → request.asksLedger = true →
            ∀ other : Site, reply = (other.use site.index).reply request) ∧
      ∀ later, (∀ act ∈ later, act.Spares name) →
        connection.stepsLeft + later.count (.proceed name .update) ≤ later.count (.proceed name .frame) →
        ∃ after, (start.run (acts ++ later)).client? name = some after ∧
          (after.phase = .closed ∨ asked.length ≤ (start.replies name (acts ++ later)).length) := by
  intro start asked replies
  have hfresh : start.client? name = some {} := by
    rw [client?_connect, if_pos rfl]
  obtain ⟨connection, h⟩ := Conversation.run hfresh stays (List.append_nil acts).symm
  obtain ⟨done, owed, hasked, hdone, howes⟩ := h.texts
  have hsum : asked.length = replies.length + owed.length := by
    rw [show replies.length = done.length from hdone.length_eq.symm, ← List.length_append, ← hasked]
  refine ⟨connection, h.there, h.sent, by omega, fun hopen => ?_, ?_, ?_⟩
  · obtain ⟨hlength, hsuffix⟩ := (howes hopen).accounts
    refine ⟨by omega, ?_⟩
    rw [show asked = done ++ owed from hasked, List.map_append]
    exact hsuffix.trans (List.suffix_append _ _)
  · intro k arrived text sent reply hask hreply
    obtain ⟨moment, hafter, hbefore, hanswer⟩ := h.answered hask hreply
    refine ⟨moment, hafter, hbefore, hanswer, fun request hrequest hasks other => ?_⟩
    rw [show reply = _ from hanswer, Site.replyToText_of_ofText? hrequest]
    exact Site.reply_congr hasks rfl
  · intro later hlater henough
    rw [run_append, replies_append, List.length_append]
    have hturns : connection.turnsFor connection.frames.length + later.count (.proceed name .update)
        ≤ later.count (.proceed name .frame) := by
      simp only [Connection.stepsLeft] at henough
      simp only [Connection.turnsFor]
      omega
    obtain ⟨after, hafter, hanswered⟩ :=
      answered_in_time h.there hlater (Nat.le_refl _) hturns acts.length
    refine ⟨after, hafter, ?_⟩
    by_cases hclosed : connection.phase = .closed
    · obtain ⟨_, hsame, hstays⟩ := client?_run h.there hlater
      rw [hafter, Option.some.injEq] at hsame
      exact .inl (hsame ▸ hstays hclosed)
    · have howing : connection.owing connection.frames.length = owed.length := by
        rw [(howes hclosed).accounts.1, Connection.owing, List.take_length]
        rfl
      refine hanswered.imp_right fun hmore => ?_
      change _ ≤ replies.length + _
      omega

/-! ### A ledger that is replaced midway -/

namespace Midway

def suite : HashSuite := ⟨"seven", fun _ => [7]⟩

def older : Block := ⟨some {}, some ⟨[]⟩, none⟩

def newer : Block := ⟨some {}, some ⟨[[0x0a, 0x08, 0x0a, 0x06, 0x0a, 0x04, 0x08, 0x01, 0x1a, 0x00]]⟩, none⟩

/-- A renewal is about to take the newer ledger into use. -/
def before : Live where
  site := { suite := suite, path := "ledger", index := .ofBlocks suite [older] }
  renewal := some (.adopting (.ofBlocks suite [newer]))

def question : String := "[\"GetBlockDetail\",0]"

def turn : Act := .proceed "a" .frame

/-- The connection takes hold of the older ledger, and answers out of it when the newer one is in use; an update
comes before the other text. -/
def acts : List Act :=
  [turn, turn, turn, .receive "a" (.text question), .receive "a" .other, .receive "a" (.text "what"),
    turn, turn, .renew none 0, turn, .renew none 0, .renew none 0, .renew none 0, turn,
    .proceed "a" .update, turn, turn, turn, turn, turn]

end Midway

/-- The question is answered from the ledger that was in use when it was taken up. -/
theorem replies_in_order_midway :
    let start := Midway.before.connect "a"
    start.asked "a" Midway.acts = [(3, Midway.question), (5, "what")] ∧
    (start.said "a" Midway.acts).map (·.1) = [1, 13, 15, 19] ∧
    ∃ reply moment, (start.replies "a" Midway.acts)[0]? = some (13, reply) ∧ 3 < moment ∧ moment ≤ 13 ∧
      reply = (start.run (Midway.acts.take moment)).site.replyToText Midway.question ∧
      reply ≠ (start.run (Midway.acts.take 13)).site.replyToText Midway.question := by
  intro start
  have hasked : start.asked "a" Midway.acts = [(3, Midway.question), (5, "what")] := by decide +kernel
  have hreply : (start.replies "a" Midway.acts)[0]? =
      some (13, .block ⟨⟨0, "07", "", 0⟩, []⟩) := by decide +kernel
  obtain ⟨connection, -, -, -, -, hanswers, -⟩ :=
    @replies_in_order Midway.before "a" Midway.acts (by simp [Midway.acts, Midway.turn, Act.Spares])
  obtain ⟨moment, hafter, hbefore, hanswer, -⟩ := hanswers 0 _ _ _ _ (by rw [hasked]; rfl) hreply
  exact ⟨hasked, by decide +kernel, _, moment, hreply, hafter, hbefore, hanswer, by decide +kernel⟩

end Live

end ChannelLedger.Server
