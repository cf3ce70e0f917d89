import Mathlib
import ChannelLedger.Proofs.Outcome
import ChannelLedger.Proofs.Server.Acts

/-!
# What a refresh changes

Once the directory has changed, a refresh reads it, takes the ledger into use, walks its last blocks, and
shows and announces the dashboard made of them. `Refresh.Stage` says for each stage what the server shows
and what has been announced; every act keeps it, whatever else the connections and the clients do in the
meantime, and whatever becomes of the directory once it was read (`Refresh.Stage.act`).

A refresh is no single step: the ledger is in use before it is known whether a dashboard can be made of
it. Where none can, the refresh has failed, nothing is announced and the old dashboard stays, but requests
are answered from the new ledger.

Main theorem `Live.refresh_outcome`.
-/
namespace ChannelLedger.Server

open Outcome

/-- How far a refresh of a site has come once it has read a directory: the renewal that is left, the site as
it is now, and what has been announced. -/
inductive Refresh.Stage (site : Site) (directory : Option Directory) :
    Option Renewal → Site → List Dashboard → Prop
  | unread {cause : Report} (failed : Site.load site.suite site.path directory = .error cause) :
    Stage site directory none site []
  | read {index : BlockIndex} (loaded : Site.load site.suite site.path directory = .ok index) :
    Stage site directory (some (.adopting index)) site []
  | adopted {index : BlockIndex} (loaded : Site.load site.suite site.path directory = .ok index) :
    Stage site directory (some .making) (site.use index) []
  | unmade {index : BlockIndex} {cause : WalkFailure}
      (loaded : Site.load site.suite site.path directory = .ok index)
      (failed : index.browse (.blockCount window) = .error cause) :
    Stage site directory none (site.use index) []
  | made {index : BlockIndex} {history : ChannelHistory} (seconds : UInt64)
      (loaded : Site.load site.suite site.path directory = .ok index)
      (walked : index.browse (.blockCount window) = .ok history) :
    Stage site directory (some (.displaying (.ofHistory history site.suite.name seconds))) (site.use index) []
  | displayed {index : BlockIndex} {history : ChannelHistory} (seconds : UInt64)
      (loaded : Site.load site.suite site.path directory = .ok index)
      (walked : index.browse (.blockCount window) = .ok history) :
    Stage site directory (some .announcing)
      ((site.use index).display (.ofHistory history site.suite.name seconds)) []
  | announced {index : BlockIndex} {history : ChannelHistory} (seconds : UInt64)
      (loaded : Site.load site.suite site.path directory = .ok index)
      (walked : index.browse (.blockCount window) = .ok history) :
    Stage site directory none ((site.use index).display (.ofHistory history site.suite.name seconds))
      [.ofHistory history site.suite.name seconds]

namespace Site

variable {index : BlockIndex}

theorem makeDashboard_use_error {cause : WalkFailure} (h : index.browse (.blockCount window) = .error cause)
    (site : Site) (seconds : UInt64) : (site.use index).makeDashboard seconds = .error (.walk cause) := by
  simp only [use, makeDashboard, walk, h, mapError_error, map_error]

theorem makeDashboard_use_ok {history : ChannelHistory} (h : index.browse (.blockCount window) = .ok history)
    (site : Site) (seconds : UInt64) :
    (site.use index).makeDashboard seconds = .ok (.ofHistory history site.suite.name seconds) := by
  simp only [use, makeDashboard, walk, h, mapError_ok, map_ok]

end Site

namespace Refresh.Stage

variable {site : Site} {directory : Option Directory} {live : Live} {told : List Dashboard}

/-- The directory is read. -/
theorem of_reading (h : live.renewal = some .reading) (directory : Option Directory) (seconds : UInt64) :
    let next := live.act (.renew directory seconds)
    Stage live.site directory next.renewal next.site (live.announced (.renew directory seconds)) := by
  simp only [Live.act, Live.stepRenewal, Live.announced, h]
  cases hload : Site.load live.site.suite live.site.path directory with
  | error cause => exact .unread hload
  | ok index => exact .read hload

/-- A step of the refresh leads from one stage to the next. -/
theorem renew (h : Stage site directory live.renewal live.site told) (other : Option Directory)
    (seconds : UInt64) :
    let next := live.act (.renew other seconds)
    Stage site directory next.renewal next.site (told ++ live.announced (.renew other seconds)) := by
  generalize hrenewal : live.renewal = renewal at h
  generalize hsite : live.site = shown at h
  simp only [Live.act, Live.stepRenewal, Live.announced, hrenewal]
  cases h with
  | unread failed =>
    dsimp only
    rw [hrenewal, hsite]
    exact .unread failed
  | read loaded =>
    dsimp only
    rw [hsite]
    exact .adopted loaded
  | @adopted index loaded =>
    cases hwalk : index.browse (.blockCount window) with
    | error cause =>
      simp only [hsite, Site.makeDashboard_use_error hwalk]
      exact .unmade loaded hwalk
    | ok history =>
      simp only [hsite, Site.makeDashboard_use_ok hwalk]
      exact .made seconds loaded hwalk
  | unmade loaded failed =>
    dsimp only
    rw [hrenewal, hsite]
    exact .unmade loaded failed
  | made seconds' loaded walked =>
    dsimp only
    rw [hsite]
    exact .displayed seconds' loaded walked
  | displayed seconds' loaded walked =>
    dsimp only [Live.mapClients]
    rw [hsite]
    exact .announced seconds' loaded walked
  | announced seconds' loaded walked =>
    dsimp only
    rw [hrenewal, hsite]
    exact .announced seconds' loaded walked

/-- **Every act keeps the stage, or is the step to the next one**, unless it puts the refresh off. -/
theorem act (h : Stage site directory live.renewal live.site told) {act : Act} (kept : live.isPutOff act = false) :
    Stage site directory (live.act act).renewal (live.act act).site (told ++ live.announced act) := by
  cases hrenewal : act.isRenewal with
  | false =>
    rw [Live.renewal_act hrenewal kept, Live.site_act hrenewal, Live.announced_eq_nil hrenewal, List.append_nil]
    exact h
  | true =>
    cases act with
    | renew other seconds => exact h.renew other seconds
    | _ => cases hrenewal

theorem run {acts : List Act} (h : Stage site directory live.renewal live.site told)
    (kept : ∀ act ∈ acts, live.isPutOff act = false) :
    Stage site directory (live.run acts).renewal (live.run acts).site (told ++ live.announcements acts) := by
  induction acts generalizing live told with
  | nil => rwa [Live.announcements, List.append_nil]
  | cons act acts ih =>
    rw [Live.announcements, ← List.append_assoc, Live.run_cons]
    refine ih (h.act (kept act List.mem_cons_self)) fun other hm => ?_
    rw [Live.isPutOff_act]
    exact kept other (List.mem_cons_of_mem act hm)

end Refresh.Stage

/-! ## How it ends -/

/-- How many steps a renewal has left at most, if it need not wait. -/
def Renewal.stepsLeft : Option Renewal → Nat
  | none => 0
  | some .announcing => 1
  | some (.displaying _) => 2
  | some .making => 3
  | some (.adopting _) => 4
  | some .reading => 5
  | some (.waiting _) => 6

theorem Live.stepsLeft_stepRenewal {live : Live} (awake : ∀ due, live.renewal ≠ some (.waiting due))
    (directory : Option Directory) (seconds : UInt64) :
    Renewal.stepsLeft (live.stepRenewal directory seconds).renewal ≤ Renewal.stepsLeft live.renewal - 1 := by
  unfold stepRenewal
  split
  case h_1 hnone => simp [hnone, Renewal.stepsLeft]
  case h_2 due hwaiting => exact absurd hwaiting (awake due)
  case h_3 hreading => split <;> simp [hreading, Renewal.stepsLeft]
  case h_4 hadopting => simp [hadopting, Renewal.stepsLeft]
  case h_5 hmaking => split <;> simp [hmaking, Renewal.stepsLeft]
  case h_6 hdisplaying => simp [hdisplaying, Renewal.stepsLeft]
  case h_7 => simp [Renewal.stepsLeft]

namespace Refresh.Stage

variable {site : Site} {directory : Option Directory} {live : Live} {told : List Dashboard}

/-- The steps of the refresh use up those that it has left. -/
theorem stepsLeft_run {acts : List Act} (h : Stage site directory live.renewal live.site told)
    (kept : ∀ act ∈ acts, live.isPutOff act = false) :
    Renewal.stepsLeft (live.run acts).renewal ≤ Renewal.stepsLeft live.renewal - acts.countP Act.isRenewal := by
  induction acts generalizing live told with
  | nil => exact Nat.le_refl _
  | cons act acts ih =>
    have hrest := ih (h.act (kept act List.mem_cons_self)) fun other hm => by
      rw [Live.isPutOff_act]
      exact kept other (List.mem_cons_of_mem act hm)
    rw [Live.run_cons, List.countP_cons]
    cases hrenewal : act.isRenewal with
    | false =>
      rw [Live.renewal_act hrenewal (kept act List.mem_cons_self)] at hrest
      simpa using hrest
    | true =>
      cases act with
      | renew other seconds =>
        have awake : ∀ due, live.renewal ≠ some (.waiting due) := by
          intro due hwaiting
          rw [hwaiting] at h
          cases h
        have hstep : Renewal.stepsLeft (live.act (.renew other seconds)).renewal
            ≤ Renewal.stepsLeft live.renewal - 1 := Live.stepsLeft_stepRenewal awake other seconds
        simp only [if_true]
        omega
      | _ => cases hrenewal

end Refresh.Stage

theorem Renewal.eq_none_of_stepsLeft {renewal : Option Renewal} (h : stepsLeft renewal = 0) : renewal = none := by
  unfold stepsLeft at h
  split at h <;> simp_all

/-- **What a refresh comes to.** From where it reads the directory, whatever else happens while it goes on,
it ends with its fourth step after that, unless it is put off. If the directory holds no ledger, nothing has
changed and nothing was announced. If there is a ledger of which no dashboard can be made, that ledger is in
use; the dashboard has not changed and nothing was announced. Otherwise the dashboard is that of the last
blocks of the ledger in use, and this one was announced, once. -/
theorem Live.refresh_outcome {before : Live} {directory : Option Directory} {seconds : UInt64} {acts : List Act}
    (reading : before.renewal = some .reading) (kept : ∀ act ∈ acts, before.isPutOff act = false) :
    let steps := Act.renew directory seconds :: acts
    let after := before.run steps
    (4 ≤ acts.countP Act.isRenewal → after.renewal = none) ∧
    (after.renewal = none →
      match Site.load before.site.suite before.site.path directory with
      | .error _ => after.site = before.site ∧ before.announcements steps = []
      | .ok index =>
        match index.browse (.blockCount window) with
        | .error _ => after.site = before.site.use index ∧ before.announcements steps = []
        | .ok history => ∃ time,
          let dashboard := Dashboard.ofHistory history before.site.suite.name time
          after.site = (before.site.use index).display dashboard ∧ before.announcements steps = [dashboard]) := by
  have hread := Refresh.Stage.of_reading reading directory seconds
  have kept' : ∀ act ∈ acts, (before.act (.renew directory seconds)).isPutOff act = false := by
    intro act hm
    rw [isPutOff_act]
    exact kept act hm
  have hrun := hread.run kept'
  refine ⟨fun hcount => ?_, fun hend => ?_⟩
  · have hleft := hread.stepsLeft_run kept'
    have hfirst : Renewal.stepsLeft (before.act (.renew directory seconds)).renewal ≤ 4 := by
      have awake : ∀ due, before.renewal ≠ some (.waiting due) := by simp [reading]
      have hstep := stepsLeft_stepRenewal awake directory seconds
      rw [reading] at hstep
      exact hstep
    exact Renewal.eq_none_of_stepsLeft (by rw [run_cons]; omega)
  · rw [run_cons] at hend
    rw [hend] at hrun
    rw [run_cons, announcements]
    generalize ((before.act (.renew directory seconds)).run acts).site = shown at hrun
    generalize before.announced (.renew directory seconds)
      ++ (before.act (.renew directory seconds)).announcements acts = told at hrun
    cases hrun with
    | unread failed =>
      rw [failed]
      exact ⟨rfl, rfl⟩
    | unmade loaded failed =>
      simp only [loaded, failed, and_self]
    | announced time loaded walked =>
      simp only [loaded, walked]
      exact ⟨time, rfl, rfl⟩

/-! ## A block that is overwritten

A server shows block 0. The file of this block is written anew, with a slot that is no envelope: there is a
ledger in the directory, but no dashboard can be made of it. -/

namespace Overwritten

def held : Block where
  header := some ⟨0, [], []⟩
  data := some ⟨[]⟩

def broken : Block where
  header := some ⟨0, [], []⟩
  data := some ⟨[[0xff]]⟩

def directory : Directory := [("00000000.block", .file (Wire.Message.encode broken))]

def before : Live where
  site := { suite := .sha256, path := "ledger", index := .ofBlocks .sha256 [held] }
  renewal := some .reading

def failure : DecodeFailure := .slot 0 0 (.malformed .envelope (.ofCause .varint))

theorem load_directory : Site.load .sha256 "ledger" (some directory) = .ok (.ofBlocks .sha256 [broken]) := by
  have hblocks : directory.blocks "ledger" = .ok [broken] := by
    unfold Directory.blocks Directory.blockFiles Directory.sorted directory
    rw [List.mergeSort_singleton]
    decide +kernel
  simp only [Site.load, DirectoryLedger.open?, hblocks, ok_bind, pure_eq, mapError_ok, map_ok]

theorem browse_broken :
    (BlockIndex.ofBlocks .sha256 [broken]).browse (.blockCount window) = .error (.decode 0 failure) := by
  decide +kernel

end Overwritten

theorem Live.refresh_outcome_overwritten :
    let steps := List.replicate 5 (Act.renew (some Overwritten.directory) 0)
    (Overwritten.before.run steps).renewal = none ∧
    (Overwritten.before.run steps).site = Overwritten.before.site.use (.ofBlocks .sha256 [Overwritten.broken]) ∧
    Overwritten.before.announcements steps = [] := by
  obtain ⟨hend, houtcome⟩ := @refresh_outcome Overwritten.before (some Overwritten.directory) 0
    (List.replicate 4 (.renew (some Overwritten.directory) 0)) rfl (by simp [isPutOff])
  have hnone := hend (by decide)
  have hsite := houtcome hnone
  simp only [Overwritten.before, Overwritten.load_directory, Overwritten.browse_broken] at hsite
  exact ⟨hnone, hsite⟩

/-- **A failed refresh can leave another ledger in use.** Nothing was announced and the dashboard is the one
from before, but block 0, which was shown before, is refused afterwards. -/
theorem Live.refresh_half_done :
    let after := Overwritten.before.run (List.replicate 5 (.renew (some Overwritten.directory) 0))
    after.renewal = none ∧ after.site.dashboard = Overwritten.before.site.dashboard ∧
    after.site.index.browse (.blockCount window) = .error (.decode 0 Overwritten.failure) ∧
    (Overwritten.before.site.block 0).map (·.overview.number) = .ok 0 ∧
    after.site.block 0 = .error (.detail (.decode Overwritten.failure)) := by
  intro after
  have hafter : after = { Overwritten.before with
      site := Overwritten.before.site.use (.ofBlocks .sha256 [Overwritten.broken]), renewal := none } := by
    simp only [after, Overwritten.before, List.replicate, run_cons, run_nil, act, stepRenewal,
      Overwritten.load_directory, Site.makeDashboard_use_error Overwritten.browse_broken]
  rw [hafter]
  refine ⟨rfl, rfl, Overwritten.browse_broken, by decide +kernel, by decide +kernel⟩

end ChannelLedger.Server
