import Sofon.Executor
import Sofon.Foundations.Channel
import Sofon.Foundations.Processes
import Sofon.Foundations.Run
import Sofon.Result.Handlers
import Sofon.Scheduler

/-!
# The running server

The goroutines that `main` starts, the channels between them, and the steps they
take.  A state (`System`) is what they share and the list of them.

* A goroutine either stands at a point of its own loop (`Point`) or is inside a
  function that makes calls (`Task`); then its thread says what it still has to do
  and what it has done, and it returns the point at which the loop goes on.
* `Goroutine.Step` has one constructor for each statement of the loops.  A
  goroutine that waits (on a channel, on the semaphore) has no step.
* The router and `main` are one of a kind, so their positions are part of `Shared`.
* The members of the schedule are printed ids, which is all that the server writes, and
  texts that `uuid.Parse` rejects.  A tick by itself, on any schedule, is in `Pipeline.Tick`.

The shared context is cancelled by the signal, which is the first step of `main`;
the calls of requests go by the contexts of their own requests.  A panic in a
goroutine ends the process: no step leaves a state that has panicked.

`started` and `handled` are history: the monitors whose checks were started, and
the results whose handlers have returned.
-/

namespace Sofon

open Interleaving

/-! ## What is shared -/

/-- Where `main` is, from the wait for the signal to the return of
`Container.Shutdown`. -/
inductive Phase where
  /-- before `<-ctx.Done()` -/
  | running
  /-- the signal has come -/
  | signalled
  /-- `srv.Shutdown` has returned, or has given up waiting -/
  | serverDown
  /-- after `close(c.JobChan)` -/
  | jobsClosed
  /-- after `c.Executor.Stop()` -/
  | checksDone
  /-- after `close(c.ResultChan)` -/
  | resultsClosed
  /-- after `c.ResultPro.WorkersClosingWait()` -/
  | workersDone
  /-- after `close(c.AlertChan)` -/
  | alertsClosed
  /-- after `c.AlertSvc.WorkerClosingWait()` -/
  | returned
  deriving DecidableEq

/-- How far `main` has got. -/
def Phase.rank : Phase → ℕ
  | running => 0
  | signalled => 1
  | serverDown => 2
  | jobsClosed => 3
  | checksDone => 4
  | resultsClosed => 5
  | workersDone => 6
  | alertsClosed => 7
  | returned => 8

/-- Where the router is. -/
inductive Router where
  /-- `for r := range rp.resultChan` -/
  | ranging
  /-- about to pass the result on -/
  | routing (r : HTTPResult)
  /-- before `close(rp.failureChan)` -/
  | closingFailure
  /-- before `close(rp.successChan)` -/
  | closingSuccess
  | done

/-- What the goroutines share. -/
structure Shared where
  world : World
  jobChan : Channel JobPayload
  resultChan : Channel HTTPResult
  /-- `successChan` for `true`, `failureChan` for `false` -/
  routed : Bool → Channel HTTPResult
  alertChan : Channel AlertEvent
  /-- the slots of `httpSem` that are taken -/
  httpSem : ℕ
  /-- the counter of `Executor.httpWg` -/
  httpWg : ℕ
  /-- the counter of `ResultProcessor.workerWG` -/
  workerWG : ℕ
  /-- the counter of `AlertService.workerWG` -/
  alertWG : ℕ
  router : Router
  main : Phase
  panicked : Bool
  started : List UUID
  handled : List HTTPResult

namespace Shared

/-- The shared context has been cancelled. -/
def cancelled (s : Shared) : Bool := s.main ≠ .running

/-- A goroutine panics. -/
def panic (s : Shared) : Shared := { s with panicked := true }

/-- Replace `successChan` or `failureChan`. -/
def setRouted (ok : Bool) (ch : Channel HTTPResult) (s : Shared) : Shared :=
  { s with routed := Function.update s.routed ok ch }

@[simp] theorem setRouted_self (ok : Bool) (ch : Channel HTTPResult) (s : Shared) :
    (s.setRouted ok ch).routed ok = ch := Function.update_self ..

theorem setRouted_of_ne {ok ok' : Bool} (h : ok' ≠ ok) (ch : Channel HTTPResult) (s : Shared) :
    (s.setRouted ok ch).routed ok' = s.routed ok' := Function.update_of_ne h ..

/-- One call, made with a context that may have been cancelled; there is none
while a send has to wait. -/
def exec (canceled : Bool) (e : Env) (s : Shared) : (c : Cmd) → Option (c.Resp × Shared)
  | .offer job =>
    match e.offer with
    | .sent =>
      match s.jobChan.send job with
      | some (.ok ch) => some (.sent, { s with jobChan := ch })
      | some .panics => some (.sent, s.panic)
      | none => none
    | .done => if canceled then some (.done, s) else none
    | .full => if (s.jobChan.send job).isNone && !canceled then some (.full, s) else none
  | .send ev =>
    match s.alertChan.send ev with
    | some (.ok ch) =>
      some ((), { s with alertChan := ch, world := (s.world.exec canceled e (.send ev)).2 })
    | some .panics => some ((), s.panic)
    | none => none
  | c => some ((s.world.exec canceled e c).1, { s with world := (s.world.exec canceled e c).2 })

/-- The service of the goroutines. -/
def Serves (canceled : Bool) (s : Shared) (c : Cmd) (r : c.Resp) (s' : Shared) : Prop :=
  ∃ e, s.exec canceled e c = some (r, s')

end Shared

/-! ## Goroutines -/

/-- A request to the monitor service. -/
inductive Request where
  | create (data : CreateMonitor)
  | updateStatus (team m : UUID) (enable : Bool)
  | delete (team m : UUID)
  | get (team m : UUID)

/-- What a request runs, without its response. -/
def Request.prog : Request → Prog Unit
  | create data => do
    let _ ← MonitorService.createMonitor data
    return ()
  | updateStatus team m enable => do
    let _ ← MonitorService.updateMonitorStatus team m enable
    return ()
  | delete team m => do
    let _ ← MonitorService.deleteMonitor team m
    return ()
  | get team m => do
    let _ ← MonitorService.getMonitor team m
    return ()

/-- The calls of requests, but for the `UPDATE` of a status. -/
def Cmd.requested : Cmd → Bool
  | timeNow => true
  | ctxDone => true
  | redis (.zAdd _) => true
  | redis (.zRem _) => true
  | redis (.setMonitor _) => true
  | redis (.getMonitor _) => true
  | redis (.delMonitor _) => true
  | redis (.delIncident _) => true
  | redis (.hDelStatus _) => true
  | sql (.getMonitorByTeamID ..) => true
  | sql (.closeMonitorIncident ..) => true
  | sql (.createMonitor ..) => true
  | sql (.deleteMonitor ..) => true
  | sql (.incrementMonitorCount _) => true
  | sql (.decrementMonitorCount _) => true
  | _ => false

theorem Request.only (S : Cmd → Prop) (req : Request) (hS : ∀ c, c.requested = true → S c)
    (hupdate : ∀ team m enable, req = .updateStatus team m enable →
      S (.sql (.updateMonitorStatus m enable team))) : req.prog.Only S := by
  have hnow := hS .timeNow rfl
  have hctx := hS .ctxDone rfl
  cases req with
  | create data =>
    refine Program.Only.bind ?_ fun _ => trivial
    exact MonitorService.only_createMonitor S hnow hctx (hS _ rfl) (fun _ => hS _ rfl)
      fun _ _ => hS _ rfl
  | updateStatus team m enable =>
    refine Program.Only.bind ?_ fun _ => trivial
    exact MonitorService.only_updateMonitorStatus S hnow hctx (hS _ rfl) (hupdate team m enable rfl)
      (fun _ _ => hS _ rfl) (fun _ => hS _ rfl) (hS _ rfl) (hS _ rfl) (hS _ rfl) (hS _ rfl)
  | delete team m =>
    refine Program.Only.bind ?_ fun _ => trivial
    exact MonitorService.only_deleteMonitor S hctx (hS _ rfl) (hS _ rfl) (fun _ => hS _ rfl)
      (hS _ rfl) (hS _ rfl) (hS _ rfl) (hS _ rfl)
  | get team m =>
    refine Program.Only.bind ?_ fun _ => trivial
    exact MonitorService.only_getMonitor S (hS _ rfl) (hS _ rfl) fun _ => hS _ rfl

/-- The points at which a goroutine is inside none of the modelled functions. -/
inductive Point where
  /-- the `select` of `StartScheduler` -/
  | select
  /-- `for job := range ew.jobChan` -/
  | jobs
  /-- before the send on `ew.httpSem` -/
  | loaded (x : Monitor)
  /-- before `ew.httpWg.Add(1)` -/
  | acquired (x : Monitor)
  /-- a check, its request under way -/
  | checking (x : Monitor)
  /-- a check, before `ew.resultChan <- result` -/
  | checked (r : HTTPResult)
  /-- a check, before `<-ew.httpSem` -/
  | pushed
  /-- a check, before `ew.httpWg.Done()` -/
  | released
  /-- `range` over `successChan` or `failureChan` -/
  | results (ok : Bool)
  /-- such a worker, after `rp.workerWG.Done()` -/
  | resultsDone (ok : Bool)
  /-- `for alert := range s.alertChan` -/
  | alerts
  /-- inside `processAlert` -/
  | alerting (ev : AlertEvent)
  /-- any other goroutine that has returned -/
  | exited

/-- The functions a goroutine can be inside of. -/
inductive Task where
  | doWork
  | startWork (m : UUID)
  | handle (ok : Bool) (r : HTTPResult)
  | request (req : Request)

namespace Task

/-- The code of a task, up to the point where the loop of its goroutine goes on. -/
def prog (cfg : Config) : Task → Prog Point
  | doWork => do
    Scheduler.doWork Member.printedOnly cfg.batchSize
    return .select
  | startWork m => do
    match ← Executor.startWork m with
    | none => return .jobs
    | some x => return .loaded x
  | handle ok r => do
    if ok then ResultProcessor.handleSuccess r
    else ResultProcessor.handleFailure cfg.resultProcessor r
    return .results ok
  | request req => do
    req.prog
    return .exited

/-- Has the context of the task been cancelled? -/
def canceled (s : Shared) : Task → Bool
  | request _ => false
  | _ => s.cancelled

/-- Before the signal every context is live. -/
theorem canceled_of_running {s : Shared} (hmain : s.main = .running) (task : Task) :
    task.canceled s = false := by
  cases task <;> simp [canceled, Shared.cancelled, hmain]

/-- The history when a task returns. -/
def finish (s : Shared) : Task → Shared
  | handle _ r => { s with handled := s.handled ++ [r] }
  | _ => s

end Task

/-- A goroutine. -/
inductive Goroutine where
  | stands (p : Point)
  | runs (task : Task) (t : Thread Cmd Cmd.Resp Point)

/-- A goroutine about to run a task. -/
def Goroutine.start (cfg : Config) (task : Task) : Goroutine := .runs task ⟨task.prog cfg, []⟩

/-- What can be seen of a step. -/
inductive Label where
  | silent
  | call (task : Task) (e : Call)
  | returned (task : Task)
  | arrive (req : Request)
  | main (phase : Phase)

/-- The steps of one goroutine, with the goroutines it starts. -/
inductive Goroutine.Step (cfg : Config) :
    Shared → Goroutine → Label → Shared → Goroutine → List Goroutine → Prop
  | call {s s' : Shared} {task : Task} {c : Cmd} {k : c.Resp → Prog Point} {r : c.Resp}
      {log : List Call} (h : s.Serves (task.canceled s) c r s') :
      Step cfg s (.runs task ⟨.call c k, log⟩) (.call task ⟨c, r⟩) s'
        (.runs task ⟨k r, log ++ [⟨c, r⟩]⟩) []
  | ret {s : Shared} {task : Task} {p : Point} {log : List Call} :
      Step cfg s (.runs task ⟨.ret p, log⟩) (.returned task) (task.finish s) (.stands p) []
  -- StartScheduler: with both cases ready, `select` takes either
  | tick {s : Shared} :
      Step cfg s (.stands .select) .silent s (.start cfg .doWork) []
  | stop {s : Shared} (h : s.cancelled = true) :
      Step cfg s (.stands .select) .silent s (.stands .exited) []
  -- startWork
  | take {s : Shared} {job : JobPayload} {ch : Channel JobPayload}
      (h : s.jobChan.recv = some (job, ch)) :
      Step cfg s (.stands .jobs) .silent { s with jobChan := ch }
        (.start cfg (.startWork job.monitorID)) []
  | leaveJobs {s : Shared} (h : s.jobChan.Drained) :
      Step cfg s (.stands .jobs) .silent s (.stands .exited) []
  | acquire {s : Shared} {x : Monitor} (h : s.httpSem < cfg.executor.httpSemCount) :
      Step cfg s (.stands (.loaded x)) .silent { s with httpSem := s.httpSem + 1 }
        (.stands (.acquired x)) []
  -- `httpWg.Add(1)` and `go`: nothing can tell them apart
  | spawn {s : Shared} {x : Monitor} :
      Step cfg s (.stands (.acquired x)) .silent
        { s with httpWg := s.httpWg + 1, started := s.started ++ [x.id] } (.stands .jobs)
        [.stands (.checking x)]
  -- the goroutine of a check
  | check {s : Shared} {x : Monitor} (o : Executor.Outcome) :
      Step cfg s (.stands (.checking x)) .silent s
        (.stands (.checked (Executor.executeHTTPCheck x o))) []
  | push {s : Shared} {r : HTTPResult} {ch : Channel HTTPResult}
      (h : s.resultChan.send r = some (.ok ch)) :
      Step cfg s (.stands (.checked r)) .silent { s with resultChan := ch } (.stands .pushed) []
  | pushPanics {s : Shared} {r : HTTPResult} (h : s.resultChan.send r = some .panics) :
      Step cfg s (.stands (.checked r)) .silent s.panic (.stands (.checked r)) []
  | release {s : Shared} :
      Step cfg s (.stands .pushed) .silent { s with httpSem := s.httpSem - 1 }
        (.stands .released) []
  | done {s : Shared} :
      Step cfg s (.stands .released) .silent { s with httpWg := s.httpWg - 1 }
        (.stands .exited) []
  -- successWorker and failureWorker
  | receive {s : Shared} {ok : Bool} {r : HTTPResult} {ch : Channel HTTPResult}
      (h : (s.routed ok).recv = some (r, ch)) :
      Step cfg s (.stands (.results ok)) .silent (s.setRouted ok ch)
        (.start cfg (.handle ok r)) []
  | leaveResults {s : Shared} {ok : Bool} (h : (s.routed ok).Drained) :
      Step cfg s (.stands (.results ok)) .silent { s with workerWG := s.workerWG - 1 }
        (.stands (.resultsDone ok)) []
  -- handleAlerts
  | takeAlert {s : Shared} {ev : AlertEvent} {ch : Channel AlertEvent}
      (h : s.alertChan.recv = some (ev, ch)) :
      Step cfg s (.stands .alerts) .silent { s with alertChan := ch } (.stands (.alerting ev)) []
  | alerted {s : Shared} {ev : AlertEvent} :
      Step cfg s (.stands (.alerting ev)) .silent s (.stands .alerts) []
  | leaveAlerts {s : Shared} (h : s.alertChan.Drained) :
      Step cfg s (.stands .alerts) .silent { s with alertWG := s.alertWG - 1 }
        (.stands .exited) []

/-- The steps of the router. -/
inductive Router.Step : Shared → Shared → Prop
  | receive {s : Shared} {r : HTTPResult} {ch : Channel HTTPResult} (hr : s.router = .ranging)
      (h : s.resultChan.recv = some (r, ch)) :
      Step s { s with resultChan := ch, router := .routing r }
  | deliver {s : Shared} {r : HTTPResult} {ch : Channel HTTPResult} (hr : s.router = .routing r)
      (h : (s.routed r.success).send r = some (.ok ch)) :
      Step s { s.setRouted r.success ch with router := .ranging }
  | deliverPanics {s : Shared} {r : HTTPResult} (hr : s.router = .routing r)
      (h : (s.routed r.success).send r = some .panics) : Step s s.panic
  | leave {s : Shared} (hr : s.router = .ranging) (h : s.resultChan.Drained) :
      Step s { s with router := .closingFailure }
  | closeFailure {s : Shared} (hr : s.router = .closingFailure) :
      Step s { s.setRouted false (s.routed false).close with router := .closingSuccess }
  | closeSuccess {s : Shared} (hr : s.router = .closingSuccess) :
      Step s { s.setRouted true (s.routed true).close with router := .done }

/-- The steps of `main`. -/
inductive Main.Step : Shared → Shared → Prop
  | signal {s : Shared} (hm : s.main = .running) : Step s { s with main := .signalled }
  | serverDown {s : Shared} (hm : s.main = .signalled) : Step s { s with main := .serverDown }
  | closeJobs {s : Shared} (hm : s.main = .serverDown) :
      Step s { s with jobChan := s.jobChan.close, main := .jobsClosed }
  | waitChecks {s : Shared} (hm : s.main = .jobsClosed) (h : s.httpWg = 0) :
      Step s { s with main := .checksDone }
  | closeResults {s : Shared} (hm : s.main = .checksDone) :
      Step s { s with resultChan := s.resultChan.close, main := .resultsClosed }
  | waitWorkers {s : Shared} (hm : s.main = .resultsClosed) (h : s.workerWG = 0) :
      Step s { s with main := .workersDone }
  | closeAlerts {s : Shared} (hm : s.main = .workersDone) :
      Step s { s with alertChan := s.alertChan.close, main := .alertsClosed }
  | waitAlerts {s : Shared} (hm : s.main = .alertsClosed) (h : s.alertWG = 0) :
      Step s { s with main := .returned }

/-! ## The system -/

/-- What the goroutines share, and the goroutines. -/
structure System where
  shared : Shared
  procs : List Goroutine

/-- The steps of the server.  Requests arrive until the server is shut down. -/
inductive System.Step (cfg : Config) : System → Label → System → Prop
  | proc {s s' : Shared} {l new : List Goroutine} {i : ℕ} {g g' : Goroutine} {x : Label}
      (hlive : s.panicked = false) (hi : l[i]? = some g)
      (h : Goroutine.Step cfg s g x s' g' new) : Step cfg ⟨s, l⟩ x ⟨s', l.set i g' ++ new⟩
  | router {s s' : Shared} {l : List Goroutine} (hlive : s.panicked = false)
      (h : Router.Step s s') : Step cfg ⟨s, l⟩ .silent ⟨s', l⟩
  | main {s s' : Shared} {l : List Goroutine} (hlive : s.panicked = false)
      (h : Main.Step s s') : Step cfg ⟨s, l⟩ (.main s'.main) ⟨s', l⟩
  | arrive {s : Shared} {l : List Goroutine} (hlive : s.panicked = false)
      (h : s.main = .running ∨ s.main = .signalled) (req : Request) :
      Step cfg ⟨s, l⟩ (.arrive req) ⟨s, l ++ [.start cfg (.request req)]⟩

/-- The state in which `main` has started everything. -/
def System.boot (cfg : Config) (w : World) : System where
  shared :=
    { world := w
      jobChan := .make cfg.app.jobChannelSize
      resultChan := .make cfg.app.resultChannelSize
      routed := fun ok => .make (if ok then cfg.resultProcessor.successChannelSize
        else cfg.resultProcessor.failureChannelSize)
      alertChan := .make cfg.app.alertChannelSize
      httpSem := 0
      httpWg := 0
      workerWG := cfg.resultProcessor.successWorkerCount + cfg.resultProcessor.failureWorkerCount
      alertWG := cfg.alertWorkerCount
      router := .ranging
      main := .running
      panicked := false
      started := []
      handled := [] }
  procs :=
    .stands .select ::
      (List.replicate cfg.executor.workerCount (.stands .jobs) ++
        List.replicate cfg.resultProcessor.successWorkerCount (.stands (.results true)) ++
        List.replicate cfg.resultProcessor.failureWorkerCount (.stands (.results false)) ++
        List.replicate cfg.alertWorkerCount (.stands .alerts))

/-- What all goroutines have in common when they are started. -/
theorem System.forall_mem_boot {J : Goroutine → Prop} (hselect : J (.stands .select))
    (hjobs : J (.stands .jobs)) (hresults : ∀ ok, J (.stands (.results ok)))
    (halerts : J (.stands .alerts)) (cfg : Config) (w : World) :
    ∀ g ∈ (System.boot cfg w).procs, J g := by
  intro g hg
  simp only [System.boot, List.mem_cons, List.mem_append, List.mem_replicate] at hg
  rcases hg with rfl | ((⟨-, rfl⟩ | ⟨-, rfl⟩) | ⟨-, rfl⟩) | ⟨-, rfl⟩
  · exact hselect
  · exact hjobs
  · exact hresults true
  · exact hresults false
  · exact halerts

/-! ## What a call does to the shared state -/

/-- The calls that act on the world alone. -/
def Cmd.worldly : Cmd → Bool
  | send _ => false
  | offer _ => false
  | _ => true

namespace Shared

variable {b : Bool} {s s' : Shared}

theorem serves_worldly {c : Cmd} {r : c.Resp} (hc : c.worldly) (h : s.Serves b c r s') :
    ∃ w', Program.Interpreter (World.exec b) s.world c r w' ∧ s' = { s with world := w' } := by
  obtain ⟨e, he⟩ := h
  cases c with
  | send ev | offer job => cases hc
  | _ =>
    obtain ⟨rfl, rfl⟩ := Prod.mk.inj (Option.some.inj he)
    exact ⟨_, ⟨e, rfl⟩, rfl⟩

/-- The three outcomes of an offer. -/
theorem serves_offer {job : JobPayload} {o : Offer} (h : s.Serves b (.offer job) o s') :
    (o = .sent ∧ ((∃ ch, s.jobChan.send job = some (.ok ch) ∧ s' = { s with jobChan := ch }) ∨
        s.jobChan.send job = some .panics ∧ s' = s.panic)) ∨
      (o = .done ∧ b = true ∧ s' = s) ∨ (o = .full ∧ b = false ∧ s' = s) := by
  obtain ⟨e, he⟩ := h
  simp only [exec] at he
  split at he
  · split at he
    · rename_i ch hch
      cases he
      exact Or.inl ⟨rfl, Or.inl ⟨ch, hch, rfl⟩⟩
    · rename_i hch
      cases he
      exact Or.inl ⟨rfl, Or.inr ⟨hch, rfl⟩⟩
    · cases he
  · split at he
    · cases he
      exact Or.inr (Or.inl ⟨rfl, by assumption, rfl⟩)
    · cases he
  · split at he
    · rename_i hfull
      cases he
      refine Or.inr (Or.inr ⟨rfl, ?_, rfl⟩)
      simpa using (Bool.and_eq_true_iff.mp hfull).2
    · cases he

theorem serves_send {ev : AlertEvent} {u : Unit} (h : s.Serves b (.send ev) u s') :
    (∃ ch ks, s.alertChan.send ev = some (.ok ch) ∧ s' = { s with
        alertChan := ch
        world := { s.world.expire ks with sent := s.world.sent ++ [ev] } }) ∨
      s.alertChan.send ev = some .panics ∧ s' = s.panic := by
  obtain ⟨e, he⟩ := h
  simp only [exec] at he
  split at he
  · rename_i ch hch
    cases he
    exact Or.inl ⟨ch, e.expired, hch, rfl⟩
  · rename_i hch
    cases he
    exact Or.inr ⟨hch, rfl⟩
  · cases he

/-- Seen from the world, a call happens or it does not. -/
theorem serves_world {c : Cmd} {r : c.Resp} (h : s.Serves b c r s') :
    s'.world = s.world ∨ Program.Interpreter (World.exec b) s.world c r s'.world := by
  cases c with
  | offer job =>
    rcases serves_offer h with ⟨-, ⟨ch, -, rfl⟩ | ⟨-, rfl⟩⟩ | ⟨-, -, rfl⟩ | ⟨-, -, rfl⟩ <;>
      exact Or.inl rfl
  | send ev =>
    rcases serves_send h with ⟨ch, ks, -, rfl⟩ | ⟨-, rfl⟩
    · exact Or.inr ⟨⟨false, 0, ks, .sent⟩, rfl⟩
    · exact Or.inl rfl
  | timeNow | ctxDone | redis c | sql query =>
    obtain ⟨w', hw, rfl⟩ := serves_worldly rfl h
    exact Or.inr hw

theorem serves_db {P : DB → Prop} {c : Cmd} {r : c.Resp} (h : s.Serves b c r s')
    (hexec : ∀ q now d, c = .sql q → P d → P (DB.exec now q d).2) (hP : P s.world.db) :
    P s'.world.db := by
  rcases serves_world h with hw | ⟨e, he⟩
  · rwa [hw]
  · have hlast : s'.world = (s.world.exec b e c).2 := (congrArg Prod.snd he).symm
    rw [hlast]
    cases c with
    | sql q =>
      simp only [World.exec]
      split
      · exact hP
      · split
        · exact hP
        · exact hexec q e.now _ rfl hP
    | redis c' =>
      simp only [World.exec]
      split
      · exact hP
      · split <;> exact hP
    | _ => exact hP

/-- **What a call leaves alone**: everything but the world, the buffers of the two
channels that tasks send on, and the panic flag. -/
theorem serves_frame {c : Cmd} {r : c.Resp} (h : s.Serves b c r s') :
    ∃ w jobs alerts p, s' = { s with
        world := w, jobChan := jobs, alertChan := alerts, panicked := p } ∧
      jobs.closed = s.jobChan.closed ∧ alerts.closed = s.alertChan.closed := by
  cases c with
  | offer job =>
    rcases serves_offer h with ⟨-, ⟨ch, hch, rfl⟩ | ⟨-, rfl⟩⟩ | ⟨-, -, rfl⟩ | ⟨-, -, rfl⟩
    · obtain ⟨hopen, hopen', -⟩ := Channel.send_ok hch
      exact ⟨_, _, _, _, rfl, hopen'.trans hopen.symm, rfl⟩
    · exact ⟨_, _, _, _, rfl, rfl, rfl⟩
    · exact ⟨_, _, _, _, rfl, rfl, rfl⟩
    · exact ⟨_, _, _, _, rfl, rfl, rfl⟩
  | send ev =>
    rcases serves_send h with ⟨ch, ks, hch, rfl⟩ | ⟨-, rfl⟩
    · obtain ⟨hopen, hopen', -⟩ := Channel.send_ok hch
      exact ⟨_, _, _, _, rfl, rfl, hopen'.trans hopen.symm⟩
    · exact ⟨_, _, _, _, rfl, rfl, rfl⟩
  | timeNow | ctxDone | redis c | sql query =>
    obtain ⟨w', -, rfl⟩ := serves_worldly rfl h
    exact ⟨_, _, _, _, rfl, rfl, rfl⟩

end Shared

namespace Goroutine.Step

variable {cfg : Config} {s s' : Shared} {g g' : Goroutine} {x : Label} {new : List Goroutine}

/-- **What a goroutine leaves alone**: the positions of `main` and of the router, and
whether a channel is closed. -/
theorem frame (h : Goroutine.Step cfg s g x s' g' new) :
    s'.main = s.main ∧ s'.router = s.router ∧ s'.jobChan.closed = s.jobChan.closed ∧
      s'.resultChan.closed = s.resultChan.closed ∧
      (∀ ok, (s'.routed ok).closed = (s.routed ok).closed) ∧
      s'.alertChan.closed = s.alertChan.closed := by
  cases h with
  | call h =>
    obtain ⟨w, jobs, alerts, p, rfl, hjobs, halerts⟩ := Shared.serves_frame h
    exact ⟨rfl, rfl, hjobs, rfl, fun _ => rfl, halerts⟩
  | @ret task p log => cases task <;> exact ⟨rfl, rfl, rfl, rfl, fun _ => rfl, rfl⟩
  | take h => exact ⟨rfl, rfl, (Channel.recv_some h).2, rfl, fun _ => rfl, rfl⟩
  | push h =>
    obtain ⟨hopen, hopen', -⟩ := Channel.send_ok h
    exact ⟨rfl, rfl, rfl, hopen'.trans hopen.symm, fun _ => rfl, rfl⟩
  | @receive ok r ch h =>
    refine ⟨rfl, rfl, rfl, rfl, fun ok' => ?_, rfl⟩
    by_cases hok : ok' = ok
    · subst hok
      rw [Shared.setRouted_self]
      exact (Channel.recv_some h).2
    · rw [Shared.setRouted_of_ne hok]
  | takeAlert h => exact ⟨rfl, rfl, rfl, rfl, fun _ => rfl, (Channel.recv_some h).2⟩
  | _ => exact ⟨rfl, rfl, rfl, rfl, fun _ => rfl, rfl⟩

theorem world (h : Goroutine.Step cfg s g x s' g' new) :
    s'.world = s.world ∨ ∃ task c k r log, g = .runs task ⟨.call c k, log⟩ ∧
      x = .call task ⟨c, r⟩ ∧ s.Serves (task.canceled s) c r s' := by
  cases h with
  | call h => exact Or.inr ⟨_, _, _, _, _, rfl, rfl, h⟩
  | @ret task p log => exact Or.inl (by cases task <;> rfl)
  | _ => exact Or.inl rfl

end Goroutine.Step

/-! ## Computing a run -/

/-- What the environment decides about one step of a goroutine: how a call goes,
how a check goes, and whether the scheduler takes the way out. -/
structure Choice where
  env : Env
  outcome : Executor.Outcome
  stop : Bool

/-- All goes well. -/
instance : Inhabited Choice := ⟨⟨default, .response 200 1 0, false⟩⟩

/-- The next step of a goroutine. -/
def Goroutine.next (cfg : Config) (x : Choice) (s : Shared) :
    Goroutine → Option (Label × Shared × Goroutine × List Goroutine)
  | .runs task ⟨.call c k, log⟩ =>
    (s.exec (task.canceled s) x.env c).map fun y =>
      (.call task ⟨c, y.1⟩, y.2, .runs task ⟨k y.1, log ++ [⟨c, y.1⟩]⟩, [])
  | .runs task ⟨.ret p, _⟩ => some (.returned task, task.finish s, .stands p, [])
  | .stands .select =>
    if x.stop then if s.cancelled then some (.silent, s, .stands .exited, []) else none
    else some (.silent, s, .start cfg .doWork, [])
  | .stands .jobs =>
    match s.jobChan.recv with
    | some (job, ch) =>
      some (.silent, { s with jobChan := ch }, .start cfg (.startWork job.monitorID), [])
    | none => if s.jobChan.Drained then some (.silent, s, .stands .exited, []) else none
  | .stands (.loaded x) =>
    if s.httpSem < cfg.executor.httpSemCount then
      some (.silent, { s with httpSem := s.httpSem + 1 }, .stands (.acquired x), [])
    else none
  | .stands (.acquired x) =>
    some (.silent, { s with httpWg := s.httpWg + 1, started := s.started ++ [x.id] },
      .stands .jobs, [.stands (.checking x)])
  | .stands (.checking m) =>
    some (.silent, s, .stands (.checked (Executor.executeHTTPCheck m x.outcome)), [])
  | .stands (.checked r) =>
    match s.resultChan.send r with
    | some (.ok ch) => some (.silent, { s with resultChan := ch }, .stands .pushed, [])
    | some .panics => some (.silent, s.panic, .stands (.checked r), [])
    | none => none
  | .stands .pushed =>
    some (.silent, { s with httpSem := s.httpSem - 1 }, .stands .released, [])
  | .stands .released => some (.silent, { s with httpWg := s.httpWg - 1 }, .stands .exited, [])
  | .stands (.results ok) =>
    match (s.routed ok).recv with
    | some (r, ch) => some (.silent, s.setRouted ok ch, .start cfg (.handle ok r), [])
    | none =>
      if (s.routed ok).Drained then
        some (.silent, { s with workerWG := s.workerWG - 1 }, .stands (.resultsDone ok), [])
      else none
  | .stands .alerts =>
    match s.alertChan.recv with
    | some (ev, ch) => some (.silent, { s with alertChan := ch }, .stands (.alerting ev), [])
    | none =>
      if s.alertChan.Drained then
        some (.silent, { s with alertWG := s.alertWG - 1 }, .stands .exited, [])
      else none
  | .stands (.alerting _) => some (.silent, s, .stands .alerts, [])
  | .stands (.resultsDone _) => none
  | .stands .exited => none

theorem Goroutine.step_of_next {cfg : Config} {x : Choice} {s s' : Shared} {g g' : Goroutine}
    {new : List Goroutine} {y : Label} (h : g.next cfg x s = some (y, s', g', new)) :
    Goroutine.Step cfg s g y s' g' new := by
  unfold Goroutine.next at h
  split at h
  · obtain ⟨⟨r, s''⟩, hexec, heq⟩ := Option.map_eq_some_iff.mp h
    cases heq
    exact .call ⟨x.env, hexec⟩
  · cases h
    exact .ret
  · split at h
    · split at h
      · cases h
        exact .stop (by assumption)
      · cases h
    · cases h
      exact .tick
  · split at h
    · cases h
      exact .take (by assumption)
    · split at h
      · cases h
        exact .leaveJobs (by assumption)
      · cases h
  · split at h
    · cases h
      exact .acquire (by assumption)
    · cases h
  · cases h
    exact .spawn
  · cases h
    exact .check x.outcome
  · split at h
    · cases h
      exact .push (by assumption)
    · cases h
      exact .pushPanics (by assumption)
    · cases h
  · cases h
    exact .release
  · cases h
    exact .done
  · split at h
    · cases h
      exact .receive (by assumption)
    · split at h
      · cases h
        exact .leaveResults (by assumption)
      · cases h
  · split at h
    · cases h
      exact .takeAlert (by assumption)
    · split at h
      · cases h
        exact .leaveAlerts (by assumption)
      · cases h
  · cases h
    exact .alerted
  · cases h
  · cases h

/-- The next step of the router. -/
def Router.next (s : Shared) : Option Shared :=
  match s.router with
  | .ranging =>
    match s.resultChan.recv with
    | some (r, ch) => some { s with resultChan := ch, router := .routing r }
    | none => if s.resultChan.Drained then some { s with router := .closingFailure } else none
  | .routing r =>
    match (s.routed r.success).send r with
    | some (.ok ch) => some { s.setRouted r.success ch with router := .ranging }
    | some .panics => some s.panic
    | none => none
  | .closingFailure =>
    some { s.setRouted false (s.routed false).close with router := .closingSuccess }
  | .closingSuccess => some { s.setRouted true (s.routed true).close with router := .done }
  | .done => none

theorem Router.step_of_next {s s' : Shared} (h : Router.next s = some s') : Router.Step s s' := by
  unfold Router.next at h
  split at h
  · split at h
    · cases h
      exact .receive (by assumption) (by assumption)
    · split at h
      · cases h
        exact .leave (by assumption) (by assumption)
      · cases h
  · split at h
    · cases h
      exact .deliver (by assumption) (by assumption)
    · cases h
      exact .deliverPanics (by assumption) (by assumption)
    · cases h
  · cases h
    exact .closeFailure (by assumption)
  · cases h
    exact .closeSuccess (by assumption)
  · cases h

/-- The next step of `main`. -/
def Main.next (s : Shared) : Option Shared :=
  match s.main with
  | .running => some { s with main := .signalled }
  | .signalled => some { s with main := .serverDown }
  | .serverDown => some { s with jobChan := s.jobChan.close, main := .jobsClosed }
  | .jobsClosed => if s.httpWg = 0 then some { s with main := .checksDone } else none
  | .checksDone => some { s with resultChan := s.resultChan.close, main := .resultsClosed }
  | .resultsClosed => if s.workerWG = 0 then some { s with main := .workersDone } else none
  | .workersDone => some { s with alertChan := s.alertChan.close, main := .alertsClosed }
  | .alertsClosed => if s.alertWG = 0 then some { s with main := .returned } else none
  | .returned => none

theorem Main.step_of_next {s s' : Shared} (h : Main.next s = some s') : Main.Step s s' := by
  unfold Main.next at h
  split at h
  · cases h
    exact .signal (by assumption)
  · cases h
    exact .serverDown (by assumption)
  · cases h
    exact .closeJobs (by assumption)
  · split at h
    · cases h
      exact .waitChecks (by assumption) (by assumption)
    · cases h
  · cases h
    exact .closeResults (by assumption)
  · split at h
    · cases h
      exact .waitWorkers (by assumption) (by assumption)
    · cases h
  · cases h
    exact .closeAlerts (by assumption)
  · split at h
    · cases h
      exact .waitAlerts (by assumption) (by assumption)
    · cases h
  · cases h

/-- Who moves, and what the environment decides. -/
inductive Move where
  | proc (i : ℕ) (x : Choice)
  | router
  | main
  | arrive (req : Request)

namespace System

/-- The next state, and what can be seen of the step. -/
def next (cfg : Config) (s : System) : Move → Option (Label × System)
  | .proc i x => do
    let g ← s.procs[i]?
    let (y, s', g', new) ← g.next cfg x s.shared
    return (y, ⟨s', s.procs.set i g' ++ new⟩)
  | .router => (Router.next s.shared).map fun s' => (.silent, ⟨s', s.procs⟩)
  | .main => (Main.next s.shared).map fun s' => (.main s'.main, ⟨s', s.procs⟩)
  | .arrive req =>
    if s.shared.main = .running ∨ s.shared.main = .signalled then
      some (.arrive req, ⟨s.shared, s.procs ++ [.start cfg (.request req)]⟩)
    else none

theorem step_of_next {cfg : Config} {s t : System} {m : Move} {y : Label}
    (hlive : s.shared.panicked = false) (h : s.next cfg m = some (y, t)) : Step cfg s y t := by
  cases m with
  | proc i x =>
    obtain ⟨g, hi, h⟩ := Option.bind_eq_some_iff.mp h
    obtain ⟨⟨y', s', g', new⟩, hg, h⟩ := Option.bind_eq_some_iff.mp h
    cases h
    exact .proc hlive hi (Goroutine.step_of_next hg)
  | router =>
    obtain ⟨s', hs', heq⟩ := Option.map_eq_some_iff.mp h
    cases heq
    exact .router hlive (Router.step_of_next hs')
  | main =>
    obtain ⟨s', hs', heq⟩ := Option.map_eq_some_iff.mp h
    cases heq
    exact .main hlive (Main.step_of_next hs')
  | arrive req =>
    simp only [next, Option.ite_none_right_eq_some] at h
    obtain ⟨hopen, heq⟩ := h
    cases heq
    exact .arrive hlive hopen req

/-- Play a list of moves; a step that is not `ok` is refused. -/
def play (cfg : Config) (ok : System → Label → Bool) : List Move → System → Option System
  | [], s => some s
  | m :: rest, s =>
    if s.shared.panicked then none
    else
      match s.next cfg m with
      | some (y, t) => if ok s y then play cfg ok rest t else none
      | none => none

/-- **A played list of moves is a run** whose steps are all `ok`. -/
theorem runs_of_play {cfg : Config} {ok : System → Label → Bool} {ms : List Move} {s t : System}
    (h : play cfg ok ms s = some t) :
    ∃ l, Transition.Runs (fun s y t => Step cfg s y t ∧ ok s y = true) s l t := by
  induction ms generalizing s with
  | nil =>
    cases h
    exact ⟨[], .nil⟩
  | cons m rest ih =>
    unfold play at h
    split at h
    · cases h
    · rename_i hlive
      split at h
      · rename_i y s' hnext
        split at h
        · rename_i hok
          obtain ⟨l, hl⟩ := ih h
          have hstep : Step cfg s y s' := step_of_next (Bool.eq_false_iff.mpr hlive) hnext
          exact ⟨y :: l, Transition.runs_cons_iff.mpr ⟨s', ⟨hstep, hok⟩, hl⟩⟩
        · cases h
      · cases h

end System

end Sofon
