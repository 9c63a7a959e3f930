import Sofon.Monitor.Requests
import Sofon.Pipeline.Custody

/-!
# No monitor drops out

The loop of the pipeline, interleaved with requests that run one at a time.  The
state carries, next to the system, the monitors that a terminal result has
stopped: a monitor joins when a handler returns from a terminal failure, and it
leaves when a request turns it from not enabled to enabled.

An enabled monitor that has not been stopped is in the loop: in the schedule, in a channel, or
in the hand of a goroutine.  The invariant (`Alive`) adds what the proof needs: ids are keys,
and every goroutine obeys the custody protocol, so that what it returns with is what the next
point of its loop has.

`alive_step` takes the three kinds of steps in turn.

* A goroutine of the pipeline passes on what it had in hand, unless the monitor has been found
  not enabled or the step stops it (`custody_step`).  If it stops it, it is among the stopped
  from then on.
* The router passes on the result that it has.
* A request is one step here, and a loyal one: whatever it enables it schedules, and what it
  takes out of the schedule it has disabled or deleted (`request_loyal`).

`enabled_inLoop` is the induction over the run.  It assumes of the start that ids are keys and
that every enabled monitor is scheduled, as it is when the server boots on a database of which
it has the schedule.
-/

namespace Sofon

open Interleaving Program Transition

/-- The system, and the monitors that a terminal result has stopped. -/
structure Monitoring where
  system : System
  stopped : List UUID

/-- The monitors stopped by a step. -/
def Label.stopping : Label → List UUID
  | returned (.handle false r) => if r.terminal then [r.monitorID] else []
  | _ => []

/-- The monitors that are still stopped when a request has turned the database from
`d` to `d'`: those that it has not enabled. -/
def stillStopped (d d' : DB) (stopped : List UUID) : List UUID :=
  stopped.filter fun m => d.Enabled m ∨ ¬ d'.Enabled m

/-- The steps of the pipeline, and requests as single steps.  Reads, writes and
commands of the pipeline may fail, but for the commands that move entries of the
schedule; in a request every call gets through. -/
inductive Monitoring.Step (cfg : Config) : Monitoring → Label → Monitoring → Prop
  | pipeline {s s' : System} {x : Label} {stopped : List UUID} (h : System.Step cfg s x s')
      (hx : x.InLoop) : Step cfg ⟨s, stopped⟩ x ⟨s', x.stopping ++ stopped⟩
  | request {s : System} {req : Request} {tr : List Call} {w' : World} {stopped : List UUID}
      (h : Exec World.Live req.prog s.shared.world tr () w') (hno : GetsThrough tr) :
      Step cfg ⟨s, stopped⟩ (.arrive req)
        ⟨⟨{ s.shared with world := w' }, s.procs⟩, stillStopped s.shared.world.db w'.db stopped⟩

variable {cfg : Config} {m : UUID} {w : World}

/-- Every request is loyal to every monitor. -/
theorem request_loyal {req : Request} {tr : List Call} {w' : World}
    (h : Exec World.Live req.prog w tr () w') (hno : GetsThrough tr) (hk : w.db.Keyed) :
    w'.db.Keyed ∧ Loyal m w w' := by
  have hk' : w'.db.Keyed :=
    h.invariant (I := fun w => w.db.Keyed) (fun e _ _ _ hlive hk => keyed_of_live hlive hk) hk
  refine ⟨hk', ?_⟩
  cases req with
  | create data =>
    obtain ⟨tr₁, x, w₁, tr₂, h₁, hret, rfl⟩ := exec_bind_iff.mp h
    obtain ⟨-, -, rfl⟩ := exec_ret_iff.mp hret
    exact loyal_createMonitor h₁ (getsThrough_append.mp hno).1
  | updateStatus team m₀ enable =>
    obtain ⟨tr₁, x, w₁, tr₂, h₁, hret, rfl⟩ := exec_bind_iff.mp h
    obtain ⟨-, -, rfl⟩ := exec_ret_iff.mp hret
    exact loyal_updateMonitorStatus h₁ (getsThrough_append.mp hno).1
  | delete team m₀ =>
    obtain ⟨tr₁, x, w₁, tr₂, h₁, hret, rfl⟩ := exec_bind_iff.mp h
    obtain ⟨-, -, rfl⟩ := exec_ret_iff.mp hret
    exact loyal_deleteMonitor h₁ (getsThrough_append.mp hno).1 hk hk'
  | get team m₀ =>
    obtain ⟨tr₁, x, w₁, tr₂, h₁, hret, rfl⟩ := exec_bind_iff.mp h
    obtain ⟨-, -, rfl⟩ := exec_ret_iff.mp hret
    exact loyal_of_core (core_of_neutral h₁
      (MonitorService.only_getMonitor (Cmd.neutral ·) rfl rfl fun _ => rfl))

/-- The invariant. -/
structure Alive (M : Monitoring) : Prop where
  running : M.system.shared.main = .running
  jobsOpen : M.system.shared.jobChan.closed = false
  keyed : M.system.shared.world.db.Keyed
  keeps : ∀ g ∈ M.system.procs, g.Keeps
  inLoop : ∀ m, M.system.shared.world.db.Enabled m → m ∉ M.stopped → M.system.InLoop m

/-- It holds at the start, if every enabled monitor is scheduled. -/
theorem alive_boot (hk : w.db.Keyed) (hsched : ∀ m, w.db.Enabled m → w.Scheduled m) :
    Alive ⟨.boot cfg w, []⟩ where
  running := rfl
  jobsOpen := rfl
  keyed := hk
  keeps := System.forall_mem_boot trivial trivial (fun _ => trivial) trivial cfg w
  inLoop m hen _ := Or.inl (hsched m hen)

/-- A goroutine's step that ends the monitoring of `m` puts it among the stopped. -/
theorem mem_stopping {x : Label} (h : x.Stops m) : m ∈ x.stopping := by
  cases x with
  | returned task =>
    cases task with
    | handle ok r =>
      obtain ⟨rfl, hterm, rfl⟩ := h
      simp [Label.stopping, hterm]
    | _ => cases h
  | _ => cases h

theorem keyed_step {s s' : Shared} {g g' : Goroutine} {x : Label} {new : List Goroutine}
    (h : Goroutine.Step cfg s g x s' g' new) (hk : s.world.db.Keyed) : s'.world.db.Keyed := by
  rcases h.world with hworld | ⟨task, c, k, r, log, -, -, hcall⟩
  · rwa [hworld]
  · exact Shared.serves_db hcall (fun q now d _ hd => DB.keyed_exec now q hd) hk

/-- **One step of the loop.**  An enabled monitor that leaves one place of the loop comes to another
in the same step, unless the step ends its monitoring; then it is among the stopped. -/
theorem alive_step {M M' : Monitoring} {x : Label} (h : Monitoring.Step cfg M x M')
    (hM : Alive M) : Alive M' := by
  obtain ⟨hrun, hopen, hk, hkeeps, hin⟩ := hM
  cases h with
  | request h hno =>
    obtain ⟨hk', -⟩ := request_loyal (m := 0) h hno hk
    refine ⟨hrun, hopen, hk', hkeeps, fun m hen hm => ?_⟩
    obtain ⟨-, hloyal⟩ := request_loyal (m := m) h hno hk
    rcases hloyal hen with hsched | ⟨hold, hsched⟩
    · exact Or.inl hsched
    · -- it was enabled before, so it has not just left the stopped
      have hstopped : m ∉ _ := fun hmem => hm (List.mem_filter.mpr ⟨hmem, by simp [hold]⟩)
      exact (hin m hold hstopped).imp hsched id
  | @pipeline s s' x stopped h hx =>
    cases h with
    | @proc s s' l new i g g' x hlive hi h =>
      have hg := hkeeps g (List.mem_of_getElem? hi)
      obtain ⟨hg', hnew⟩ := keeps_step h hrun hg hx
      obtain ⟨hmain, -, hjobs, -⟩ := h.frame
      obtain ⟨hrows, hstep⟩ := custody_step h hrun hopen hg hx
      refine ⟨hmain.trans hrun, hjobs.trans hopen, ?_,
        forall_mem_step hkeeps (fun _ _ h => h) hg' hnew, fun m hen hm => ?_⟩
      · exact keyed_step h hk
      · have hold : s.world.db.Enabled m := by rwa [DB.Enabled, DB.monitor?, hrows] at hen
        obtain ⟨hstop, hstopped⟩ := not_or.mp (mt List.mem_append.mpr hm)
        have hnot : ¬ x.Stops m := fun hx => hstop (mem_stopping hx)
        have hhere : s.world.Scheduled m ∨ s.Holds m ∨ g.Holds m →
            System.InLoop m ⟨s', l.set i g' ++ new⟩ := by
          intro hm
          rcases hstep m hold hnot hm with hm | hm | hm | ⟨p, hp, hm⟩
          · exact Or.inl hm
          · exact Or.inr (Or.inl hm)
          · exact Or.inr (Or.inr ⟨g', moved_mem_step hi, hm⟩)
          · exact Or.inr (Or.inr ⟨p, List.mem_append_right _ hp, hm⟩)
        rcases hin m hold hstopped with hm' | hm' | ⟨p, hp, hm'⟩
        · exact hhere (Or.inl hm')
        · exact hhere (Or.inr (Or.inl hm'))
        · have hwhere : p = g ∨ p ∈ l.set i g' ++ new := mem_step hi hp
          rcases hwhere with rfl | hp
          · exact hhere (Or.inr (Or.inr hm'))
          · exact Or.inr (Or.inr ⟨p, hp, hm'⟩)
    | @router s s' l hlive h =>
      obtain ⟨hworld, hmain, hjobs, hholds⟩ := custody_router h
      have hopen' : s'.jobChan.closed = false := by rw [hjobs]; exact hopen
      have hk' : s'.world.db.Keyed := by rw [hworld]; exact hk
      refine ⟨hmain.trans hrun, hopen', hk', hkeeps, fun m hen hm => ?_⟩
      have hold : s.world.db.Enabled m := by rwa [hworld] at hen
      rcases hin m hold hm with hm' | hm' | hm'
      · exact Or.inl (by rwa [World.Scheduled, hworld])
      · exact Or.inr (Or.inl (hholds m hm'))
      · exact Or.inr (Or.inr hm')
    | main hlive h => cases hx
    | arrive hlive h req => cases hx

/-- **No enabled monitor drops out of the loop**, unless a terminal result has
stopped it: in every state reached, it is in the schedule, in a channel, or in the
hand of a goroutine. -/
theorem enabled_inLoop {M : Monitoring} {l : List Label} (hk : w.db.Keyed)
    (hsched : ∀ m, w.db.Enabled m → w.Scheduled m)
    (h : Runs (Monitoring.Step cfg) ⟨.boot cfg w, []⟩ l M)
    (hen : M.system.shared.world.db.Enabled m)
    (hstop : m ∉ M.stopped) : M.system.InLoop m := by
  have hM : Alive M :=
    h.invariant (alive_boot hk hsched) fun _ _ _ _ hstep hM => alive_step hstep hM
  exact hM.inLoop m hen hstop

/-- A run of the pipeline that stops no monitor, seen as a run of the loop. -/
theorem runs_monitoring {ok : System → Label → Bool} {s t : System} {l : List Label}
    {stopped : List UUID} (hok : ∀ s x, ok s x = true → x.InLoop ∧ x.stopping = [])
    (h : Runs (fun s x t => System.Step cfg s x t ∧ ok s x = true) s l t) :
    Runs (Monitoring.Step cfg) ⟨s, stopped⟩ l ⟨t, stopped⟩ := by
  induction h with
  | nil => exact Runs.nil
  | @snoc l t u x _ hstep ih =>
    obtain ⟨hx, hstop⟩ := hok _ _ hstep.2
    refine Runs.snoc ih ?_
    have hpipe : Monitoring.Step cfg ⟨t, stopped⟩ x ⟨u, x.stopping ++ stopped⟩ :=
      .pipeline hstep.1 hx
    rwa [hstop] at hpipe

namespace Sample

/-- Steps of one goroutine with nothing special about them. -/
def moves (i n : ℕ) : List Move := List.replicate n (.proc i default)

/-- The scheduler finds the sample monitor, and a worker starts its check. -/
def checkStarted : List Move := moves 0 5 ++ moves 1 6

/-- The check ends, and its result is handled. -/
def checkHandled : List Move := moves 21 4 ++ [.router, .router] ++ moves 6 6

theorem keyed_scheduled : scheduled.db.Keyed := ⟨by decide, by decide⟩

theorem scheduled_of_enabled {m : UUID} (h : scheduled.db.Enabled m) : scheduled.Scheduled m := by
  obtain ⟨row, hrow, -⟩ := h
  have hmem : row = Sample.row := List.mem_singleton.mp (DB.mem_of_monitor? hrow)
  rw [← DB.id_of_monitor? hrow, hmem]
  decide

end Sample

theorem enabled_inLoop_sample :
    ∃ M : Monitoring, (M.system.shared.started = [1] ∧ ¬ M.system.shared.world.Scheduled 1) ∧
      M.system.InLoop 1 := by
  have hplay : (System.play .least (fun _ x => decide x.InLoop && x.stopping.isEmpty)
      Sample.checkStarted (.boot .least Sample.scheduled)).any (fun t =>
        decide (t.shared.started = [1]) && (decide (t.shared.world.db.Enabled 1) &&
          !decide (t.shared.world.Scheduled 1))) := by decide
  obtain ⟨t, ht, hcheck⟩ := (Option.any_eq_true _ _).mp hplay
  simp only [Bool.and_eq_true, decide_eq_true_eq, Bool.not_eq_true', decide_eq_false_iff_not]
    at hcheck
  obtain ⟨hstarted, hen, hout⟩ := hcheck
  obtain ⟨l, hl⟩ := System.runs_of_play ht
  refine ⟨⟨t, []⟩, ⟨hstarted, hout⟩, ?_⟩
  refine enabled_inLoop Sample.keyed_scheduled (fun _ h => Sample.scheduled_of_enabled h)
    (runs_monitoring (fun s x hx => ?_) hl) hen (List.not_mem_nil)
  obtain ⟨hloop, hstop⟩ := Bool.and_eq_true_iff.mp hx
  exact ⟨of_decide_eq_true hloop, List.isEmpty_iff.mp hstop⟩

end Sofon
