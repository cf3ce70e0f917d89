import ChannelLedger.Server.Live

/-!
# Everything that can happen at a running server

A renewal, the connections and the clients take their steps in any order: an `Act` is one such step, and
`Live.run` is any order of them. The directory may be another one at every step of a renewal.

Only a step of the renewal changes the site, and only a change of the directory that counts calls a
renewal off (`Live.site_act`, `Live.renewal_act`).
-/
namespace ChannelLedger.Server

/-- One thing that happens. -/
inductive Act where
  /-- The renewal takes a step, with the directory and the time in seconds as they are then. -/
  | renew (directory : Option Directory) (seconds : UInt64)
  /-- A connection takes a step. -/
  | proceed (name : String) (turn : Turn)
  | connect (name : String)
  | leave (name : String)
  | receive (name : String) (frame : Frame)
  | notice (change : Change)
  /-- Time passes, in milliseconds. -/
  | wait (milliseconds : Nat)
  deriving DecidableEq, Repr

/-- Whether the act is a step of the renewal. -/
def Act.isRenewal : Act → Bool
  | .renew .. => true
  | _ => false

namespace Connection

/-- The next step, if there is one. -/
def proceed (site : Site) (turn : Turn) (connection : Connection) : Connection :=
  (connection.step? site turn).getD connection

end Connection

namespace Live

/-- The server after one act. -/
def act (live : Live) : Act → Live
  | .renew directory seconds => live.stepRenewal directory seconds
  | .proceed name turn => live.mapClient name (·.proceed live.site turn)
  | .connect name => live.connect name
  | .leave name => live.leave name
  | .receive name frame => live.mapClient name (·.receive frame)
  | .notice change => live.notice change
  | .wait milliseconds => { live with clock := live.clock + milliseconds }

/-- The server after acts in that order. -/
def run (acts : List Act) (live : Live) : Live :=
  acts.foldl act live

/-- Whether the act calls off the renewal under way and plans another one. -/
def isPutOff (live : Live) : Act → Bool
  | .notice change => live.watching && change.counts
  | _ => false

/-- What an act announces to the connections. -/
def announced (live : Live) : Act → List Dashboard
  | .renew .. =>
    match live.renewal with
    | some .announcing => [live.site.dashboard]
    | _ => []
  | _ => []

/-- What acts in that order announce, the oldest first. -/
def announcements : List Act → Live → List Dashboard
  | [], _ => []
  | act :: acts, live => live.announced act ++ announcements acts (live.act act)

variable {live : Live} {act : Act} {acts : List Act}

@[simp] theorem run_nil : live.run [] = live := rfl

@[simp] theorem run_cons : live.run (act :: acts) = (live.act act).run acts := rfl

/-! ## What an act leaves alone -/

theorem watching_stepRenewal (directory : Option Directory) (seconds : UInt64) :
    (live.stepRenewal directory seconds).watching = live.watching := by
  unfold stepRenewal
  repeat' split
  all_goals rfl

theorem watching_act : (live.act act).watching = live.watching := by
  cases act with
  | renew directory seconds => exact watching_stepRenewal directory seconds
  | notice change =>
    simp only [Live.act, notice]
    split <;> rfl
  | _ => rfl

theorem isPutOff_act (other : Act) : (live.act other).isPutOff act = live.isPutOff act := by
  cases act with
  | notice change => simp only [isPutOff, watching_act]
  | _ => rfl

/-- Only a renewal changes what the server shows. -/
theorem site_act (h : act.isRenewal = false) : (live.act act).site = live.site := by
  cases act with
  | renew => cases h
  | notice change =>
    simp only [Live.act, notice]
    split <;> rfl
  | _ => rfl

/-- A renewal goes on unless it is put off. -/
theorem renewal_act (h : act.isRenewal = false) (kept : live.isPutOff act = false) :
    (live.act act).renewal = live.renewal := by
  cases act with
  | renew => cases h
  | notice change =>
    simp only [isPutOff] at kept
    simp [Live.act, notice, kept]
  | _ => rfl

theorem announced_eq_nil (h : act.isRenewal = false) : live.announced act = [] := by
  cases act with
  | renew => cases h
  | _ => rfl

/-! ## Clients -/

/-- A step of the renewal announces the dashboard to the clients or leaves them alone. -/
theorem clients_stepRenewal (directory : Option Directory) (seconds : UInt64) :
    (live.stepRenewal directory seconds).clients = (live.mapClients (·.announce live.site.dashboard)).clients ∨
      (live.stepRenewal directory seconds).clients = live.clients := by
  unfold stepRenewal
  split
  case h_7 => exact .inl rfl
  all_goals
    right
    first | rfl | (split <;> rfl)

theorem clients_notice (change : Change) : (live.notice change).clients = live.clients := by
  unfold notice
  split <;> rfl

variable {name other : String}

theorem lookup_map {α β : Type} (f : String → α → β) (entries : List (String × α)) (key : String) :
    (entries.map fun (name, a) => (name, f name a)).lookup key = (entries.lookup key).map (f key) := by
  induction entries with
  | nil => rfl
  | cons entry entries ih =>
    obtain ⟨name, a⟩ := entry
    by_cases heq : key = name
    · subst heq
      simp
    · have hne : (key == name) = false := by simpa using heq
      simp only [List.map_cons, List.lookup_cons, hne, ih]

theorem client?_mapClients (f : Connection → Connection) :
    (live.mapClients f).client? name = (live.client? name).map f :=
  lookup_map (fun _ => f) live.clients name

theorem client?_mapClient (f : Connection → Connection) :
    (live.mapClient other f).client? name
      = (live.client? name).map fun connection => if name = other then f connection else connection :=
  lookup_map (fun name connection => if name = other then f connection else connection) live.clients name

theorem client?_leave : (live.leave other).client? name = if name = other then none else live.client? name := by
  unfold client? leave
  induction live.clients with
  | nil => simp
  | cons entry entries ih =>
    obtain ⟨first, connection⟩ := entry
    by_cases hother : first = other
    · by_cases hname : name = other
      · simpa [hother, hname] using ih
      · have hne : (name == other) = false := by simpa using hname
        simpa [hother, hname, List.lookup_cons, hne] using ih
    · by_cases hfirst : name = first
      · subst hfirst
        simp [hother]
      · have hne : (name == first) = false := by simpa using hfirst
        simpa [hother, List.lookup_cons, hne] using ih

theorem client?_connect :
    (live.connect other).client? name = if name = other then some {} else live.client? name := by
  have hleave : (live.leave other).clients.lookup name = if name = other then none else live.client? name :=
    client?_leave
  rw [client?, connect, List.lookup_append, hleave]
  by_cases hname : name = other
  · simp [hname]
  · have hne : (name == other) = false := by simpa using hname
    simp [hname, List.lookup_cons, hne]

end Live

end ChannelLedger.Server
