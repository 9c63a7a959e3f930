import Sofon.Pipeline.System

/-!
# How an outage comes to be reported

A monitor's `enabled` flag is read once, before its check.  From that read a report
is *pending*: a worker, a check or a result carries it to a handler, which counts
the failure.  When the count has reached the threshold the report is *due*: the
handler goes on to insert the incident and send the alert.

`alarmProtocol` reads from the trace of a function how far it has got, and confines
what it may do: only a due report inserts an incident or sends a `DOWN` alert, and
only a pending one counts.

Each function of the pipeline is shown to follow it (`wired_start`).  A worker has read that the
monitor it goes on with is enabled (`follows_alarm_startWork`).  A handler of a failure counts at
most once, and is due when the answer of the count is at the threshold and the alert flag was its
own (`follows_alarm_handleFailure`).  Everything else is bland: it neither counts nor reports, or
it is about another monitor (`follows_of_bland`).

The last section adds up what the goroutines and the channels hold.  `System.charge` is how many
failures of the monitor may still be counted.
-/

namespace Sofon

open Interleaving Program

/-- How far the report of an outage has got. -/
inductive Alarm where
  | off
  | pending
  | due
  deriving DecidableEq

/-- The failures that are still to be counted. -/
def Alarm.charge : Alarm → ℕ
  | off => 0
  | pending => 1
  | due => 0

/-- A failure of `m` that `handleFailure` may count. -/
def HTTPResult.countsFor (m : UUID) (r : HTTPResult) : Bool := r.monitorID = m && !r.terminal

/-- A `DOWN` alert for `m`. -/
def AlertEvent.downFor (m : UUID) (ev : AlertEvent) : Bool := ev.type = .down && ev.monitorID = m

namespace Cmd

/-- Report an outage of `m`. -/
def reports (m : UUID) : Cmd → Bool
  | sql (.createMonitorIncident m' ..) => m' = m
  | send ev => ev.downFor m
  | _ => false

/-- Count a failure of `m`. -/
def counts (m : UUID) : Cmd → Bool
  | redis (.hIncrByFailureCount m') => m' = m
  | _ => false

/-- Enable `m`. -/
def enables (m : UUID) : Cmd → Bool
  | sql (.updateMonitorStatus m' enabled _) => m' = m && enabled
  | _ => false

end Cmd

/-- A call with an answer that a working service gives. -/
def Call.Sound (e : Call) : Prop := e.cmd = .ctxDone ∨ e.Genuine

/-- The calls of the pipeline, seen from the outages of `m`. -/
def alarmProtocol (cfg : ResultProcessorConfig) (m : UUID) (start : Alarm) :
    Protocol Cmd Cmd.Resp Alarm where
  start := start
  next q e := match e with
    | ⟨.sql (.getMonitorByID m'), .ok row⟩ => if m' = m && row.enabled then .pending else q
    -- within its retry budget a failure is not counted
    | ⟨.redis (.incrRetry m'), .ok count⟩ => if m' = m && count ≤ cfg.retryLimit then .off else q
    | ⟨.redis (.hIncrByFailureCount m'), .ok count⟩ =>
      if m' = m then if count < cfg.failureThreshold then .off else .due else q
    | ⟨.redis (.hSetNXAlerted m'), .ok claimed⟩ => if m' = m && !claimed then .off else q
    | ⟨.send ev, _⟩ => if ev.downFor m then .off else q
    | _ => q
  allows q c := (c.reports m = true → q = .due) ∧ (c.counts m = true → q = .pending) ∧
    c.enables m = false
  answers := Call.Sound

variable {cfg : ResultProcessorConfig} {m : UUID} {q₀ q : Alarm}

/-- The calls that have nothing to do with the outages of `m`. -/
def Cmd.bland (m : UUID) : Cmd → Bool
  | redis (.incrRetry m') => m' ≠ m
  | redis (.hIncrByFailureCount m') => m' ≠ m
  | redis (.hSetNXAlerted m') => m' ≠ m
  | sql (.getMonitorByID m') => m' ≠ m
  | sql (.createMonitorIncident m' ..) => m' ≠ m
  | sql (.updateMonitorStatus ..) => false
  | send ev => !ev.downFor m
  | _ => true

theorem Cmd.bland_allowed {c : Cmd} (h : c.bland m) : (alarmProtocol cfg m q₀).allows q c := by
  cases c with
  | redis c =>
    cases c with
    | hIncrByFailureCount m' =>
      have hne : m' ≠ m := of_decide_eq_true h
      exact ⟨nofun, fun hc => absurd (of_decide_eq_true hc) hne, rfl⟩
    | _ => exact ⟨nofun, nofun, rfl⟩
  | sql query =>
    cases query with
    | createMonitorIncident m' =>
      have hne : m' ≠ m := of_decide_eq_true h
      exact ⟨fun hc => absurd (of_decide_eq_true hc) hne, nofun, rfl⟩
    | updateMonitorStatus => cases h
    | _ => exact ⟨nofun, nofun, rfl⟩
  | send ev =>
    have hnot : ev.downFor m = false := Bool.not_eq_true' _ ▸ h
    exact ⟨fun hc => absurd (hnot.symm.trans hc) Bool.false_ne_true, nofun, rfl⟩
  | timeNow | ctxDone | offer job => exact ⟨nofun, nofun, rfl⟩

theorem Cmd.bland_next {c : Cmd} (h : c.bland m) (r : c.Resp) :
    (alarmProtocol cfg m q₀).next q ⟨c, r⟩ = q := by
  cases c with
  | redis c =>
    cases c with
    | incrRetry m' | hIncrByFailureCount m' | hSetNXAlerted m' =>
      have hne : m' ≠ m := of_decide_eq_true h
      rcases r with err | a
      · rfl
      · simp [alarmProtocol, hne]
    | _ => rfl
  | sql query =>
    cases query with
    | getMonitorByID m' =>
      have hne : m' ≠ m := of_decide_eq_true h
      rcases r with err | row
      · rfl
      · simp [alarmProtocol, hne]
    | _ => rfl
  | send ev =>
    have hnot : ev.downFor m = false := Bool.not_eq_true' _ ▸ h
    show (if ev.downFor m = true then _ else q) = q
    rw [hnot]
    rfl
  | timeNow | ctxDone | offer job => rfl

theorem follows_of_bland {α : Type} {p : Prog α} (hp : p.Only (Cmd.bland m ·)) (q : Alarm) :
    p.Follows (alarmProtocol cfg m q₀) (fun _ q' => q' = q) q :=
  hp.follows (fun _ hc => Cmd.bland_allowed hc) fun _ r hc => Cmd.bland_next hc r

theorem bland_scheduleMonitor (m m' : UUID) (i : ℤ) :
    (MonitorService.scheduleMonitor m' i).Only (Cmd.bland m ·) :=
  MonitorService.only_scheduleMonitor (Cmd.bland m ·) rfl rfl (fun _ => rfl) i

/-- The read of a row gives a row of that name. -/
theorem Call.Sound.id_of_row {m : UUID} {row : MonitorRow}
    (h : Call.Sound ⟨.sql (.getMonitorByID m), .ok row⟩) : row.id = m := by
  obtain ⟨now, d, hr⟩ := Call.genuine_sql (h.resolve_left Cmd.noConfusion)
  exact DB.id_of_monitor? (DB.monitor?_of_getMonitorByID hr.symm)

theorem Call.Sound.ok_of_redis {c : RedisCmd} {r : Except RedisError c.Reply}
    (h : Call.Sound ⟨.redis c, r⟩) : ∃ s : Redis, r = (s.exec c).1 :=
  Call.genuine_redis (h.resolve_left Cmd.noConfusion)

/-! ## The functions of the pipeline -/

/-- A worker has read that the monitor it goes on with is enabled. -/
theorem follows_alarm_startWork (m' : UUID) :
    (Executor.startWork m').Follows (alarmProtocol cfg m q₀)
      (fun x q => ∀ y, x = some y → y.id = m → q = .pending) .off := by
  refine ⟨⟨nofun, nofun, rfl⟩, fun x hx => ?_⟩
  have hnone : ∀ q, (Program.ret none : Prog (Option Monitor)).Follows (alarmProtocol cfg m q₀)
      (fun x q => ∀ y, x = some y → y.id = m → q = .pending) q := fun q y hy => nomatch hy
  rcases x with err | row
  · cases err with
    | noRows => exact hnone _
    | constraint | unavailable | canceled =>
      exact (follows_of_bland (bland_scheduleMonitor m m' 5) _).bind fun _ q _ => hnone q
  · refine ⟨⟨nofun, nofun, rfl⟩, fun y _ => ?_⟩
    show Follows _ _ (if row.enabled then _ else _) (if m' = m && row.enabled then _ else _)
    split
    · rename_i hen
      rintro y' hy' rfl
      obtain rfl := Option.some.inj hy'
      have hrow : row.id = m' := hx.id_of_row
      show (if decide (m' = row.id) && row.enabled then Alarm.pending else .off) = .pending
      rw [hrow, hen, decide_eq_true rfl]
      rfl
    · exact hnone _

theorem bland_handleSuccess (r : HTTPResult) :
    (ResultProcessor.handleSuccess r).Only (Cmd.bland m ·) :=
  (ResultProcessor.only_handleSuccessBody (Cmd.bland m ·) rfl rfl (fun _ => rfl) rfl (fun _ => rfl)
    rfl (fun _ => rfl) rfl rfl).bind fun _ => bland_scheduleMonitor m _ _

theorem bland_storeStatus (r : HTTPResult) :
    (RedisClient.storeStatus r.monitorID r.status r.latencyMs r.checkedAt).Only (Cmd.bland m ·) :=
  RedisClient.only_retry_call (Cmd.bland m ·) rfl rfl 2

theorem bland_handleFailure {r : HTTPResult} (hr : r.monitorID ≠ m) :
    (ResultProcessor.handleFailure cfg r).Only (Cmd.bland m ·) := by
  have hne : decide (r.monitorID ≠ m) = true := decide_eq_true hr
  refine ResultProcessor.only_handleFailure (Cmd.bland m ·) (bland_storeStatus r)
    (ResultProcessor.only_retryPath (Cmd.bland m ·) rfl rfl hne rfl rfl fun _ => rfl)
    (ResultProcessor.only_failurePath (Cmd.bland m ·) ?_ hne ?_) (bland_scheduleMonitor m _ _)
  · exact RedisClient.only_incrementIncident (Cmd.bland m ·) rfl rfl hne fun _ _ => rfl
  · refine ResultProcessor.only_alertDown (Cmd.bland m ·) rfl (fun _ _ _ _ => hne) rfl fun id => ?_
    show (!AlertEvent.downFor m _) = true
    rw [AlertEvent.downFor, ResultProcessor.downEvent, decide_eq_false hr, Bool.and_false]
    rfl

theorem bland_handleFailure_of_terminal {r : HTTPResult} (hr : r.terminal = true) :
    (ResultProcessor.handleFailure cfg r).Only (Cmd.bland m ·) := by
  rw [ResultProcessor.handleFailure, ResultProcessor.handleFailureBody, if_pos hr]
  refine Program.Only.bind ((bland_storeStatus r).bind fun _ => trivial) fun b => ?_
  cases b
  · trivial
  · exact bland_scheduleMonitor m _ _

/-- A failure within its retry budget is off; one that goes on is still pending. -/
theorem follows_alarm_retryPath {r : HTTPResult} (hr : r.monitorID = m) :
    (ResultProcessor.retryPath cfg r).Follows (alarmProtocol cfg m q₀)
      (fun x q => x = none → q = .pending) .pending := by
  rw [ResultProcessor.retryPath]
  split
  · have hincr : (RedisClient.incrementRetry r.monitorID).Follows (alarmProtocol cfg m q₀)
        (fun x q => ∃ count, x = .ok count ∧
          q = if count ≤ cfg.retryLimit then .off else .pending) .pending := by
      refine ⟨⟨fun h => (by cases h), fun h => (by cases h), rfl⟩, fun x hx => ?_⟩
      obtain ⟨s, rfl⟩ := hx.ok_of_redis
      refine ⟨⟨fun h => (by cases h), fun h => (by cases h), rfl⟩, fun y hy => ?_⟩
      obtain ⟨s', rfl⟩ := hy.ok_of_redis
      refine ⟨_, rfl, ?_⟩
      show (if decide (r.monitorID = m) && decide (_ ≤ cfg.retryLimit) then Alarm.off else _) = _
      rw [decide_eq_true hr, Bool.true_and]
      simp only [decide_eq_true_eq]
    refine hincr.bind fun x q hx => ?_
    obtain ⟨count, rfl, rfl⟩ := hx
    show Follows _ _ (if count ≤ cfg.retryLimit then _ else _) _
    split
    · exact (follows_of_bland (bland_scheduleMonitor m _ 5) _).bind fun _ _ _ h => by cases h
    · have hclear : (RedisClient.clearRetry r.monitorID).Only (Cmd.bland m ·) :=
        RedisClient.only_retry_call (Cmd.bland m ·) rfl rfl 2
      exact (follows_of_bland hclear _).bind fun _ _ hq _ => hq
  · exact fun _ => rfl

/-- A failure is counted while it is pending; at the threshold it is due. -/
theorem follows_alarm_incrementIncident (m : UUID) :
    (RedisClient.incrementIncident m).Follows (alarmProtocol cfg m q₀)
      (fun x q => ∃ y, x = .ok y ∧ (¬ y.1 < cfg.failureThreshold → q = .due)) .pending := by
  refine ⟨⟨nofun, nofun, rfl⟩, fun now _ => RedisClient.follows_retry_of_ok ?_⟩
  refine ⟨⟨nofun, fun _ => rfl, rfl⟩, fun x hx => ?_⟩
  obtain ⟨s, rfl⟩ := hx.ok_of_redis
  show Follows _ _ (if _ = (1 : ℤ) then _ else _) (if m = m then _ else _)
  generalize (s.incident m).failureCount.getD 0 + 1 = count
  have hdue : ¬ count < cfg.failureThreshold →
      (if m = m then if count < cfg.failureThreshold then Alarm.off else .due else .pending) =
        .due := by
    intro hcount
    rw [if_pos rfl, if_neg hcount]
  split
  · exact ⟨⟨nofun, nofun, rfl⟩, fun _ _ => ⟨⟨_, rfl⟩, _, rfl, hdue⟩⟩
  · exact ⟨⟨nofun, nofun, rfl⟩, fun _ _ => ⟨⟨_, rfl⟩, _, rfl, hdue⟩⟩

/-- The handler that counts to the threshold reports, if the alert flag is its own. -/
theorem follows_alarm_failurePath (r : HTTPResult) :
    (ResultProcessor.failurePath cfg r).Follows (alarmProtocol cfg r.monitorID q₀)
      (fun _ _ => True) .pending := by
  refine (follows_alarm_incrementIncident r.monitorID).bind fun x q hx => ?_
  obtain ⟨y, rfl, hdue⟩ := hx
  show Follows _ _ (if y.1 < cfg.failureThreshold then _ else _) _
  split
  · trivial
  · rename_i hcount
    obtain rfl := hdue hcount
    refine ⟨⟨nofun, nofun, rfl⟩, fun z _ => ?_⟩
    rcases z with err | _ | _
    · trivial
    · trivial
    · have hclaimed : (alarmProtocol cfg r.monitorID q₀).next .due
          ⟨.redis (.hSetNXAlerted r.monitorID), .ok true⟩ = .due := by
        simp [alarmProtocol]
      rw [hclaimed]
      refine ⟨⟨nofun, nofun, rfl⟩, fun now _ => ⟨⟨fun _ => rfl, nofun, rfl⟩, fun x _ => ?_⟩⟩
      rcases x with err | id
      · trivial
      · exact ⟨⟨nofun, nofun, rfl⟩, fun _ _ => ⟨⟨fun _ => rfl, nofun, rfl⟩, fun _ _ => trivial⟩⟩

/-- **`handleFailure` counts what is pending and reports what is due.** -/
theorem follows_alarm_handleFailure {r : HTTPResult} (hr : r.countsFor m = true) :
    (ResultProcessor.handleFailure cfg r).Follows (alarmProtocol cfg m q₀) (fun _ _ => True)
      .pending := by
  obtain ⟨hm, hterm⟩ := Bool.and_eq_true_iff.mp hr
  obtain rfl : r.monitorID = m := of_decide_eq_true hm
  have hnot : ¬ r.terminal = true := Bool.not_eq_true _ ▸ (Bool.not_eq_true' _ ▸ hterm)
  have hbody : (ResultProcessor.handleFailureBody cfg r).Follows (alarmProtocol cfg r.monitorID q₀)
      (fun _ _ => True) .pending := by
    rw [ResultProcessor.handleFailureBody, if_neg hnot]
    refine (follows_alarm_retryPath rfl).bind fun x q hx => ?_
    cases x with
    | some b => trivial
    | none =>
      obtain rfl := hx rfl
      exact (follows_alarm_failurePath r).bind fun _ _ _ => trivial
  refine hbody.bind fun b q _ => ?_
  cases b
  · trivial
  · exact (follows_of_bland (bland_scheduleMonitor _ _ _) q).mono fun _ _ _ => trivial

/-! ## Goroutines and channels -/

/-- Past the read of `enabled`, the report of a monitor is pending. -/
def Point.alarm (m : UUID) : Point → Alarm
  | loaded x => if x.id = m then .pending else .off
  | acquired x => if x.id = m then .pending else .off
  | checking x => if x.id = m then .pending else .off
  | checked r => if r.countsFor m && !r.success then .pending else .off
  | _ => .off

/-- What a handler starts from. -/
def Task.alarm (m : UUID) : Task → Alarm
  | handle ok r => if !ok && r.countsFor m then .pending else .off
  | _ => .off

/-- How far a goroutine has got with a report. -/
def Goroutine.alarm (cfg : Config) (m : UUID) : Goroutine → Alarm
  | stands p => p.alarm m
  | runs (.request _) _ => .off
  | runs task t => (alarmProtocol cfg.resultProcessor m (task.alarm m)).state t.log

/-- The failures of `m` that a goroutine may still count. -/
def Goroutine.charge (cfg : Config) (m : UUID) (g : Goroutine) : ℕ := (g.alarm cfg m).charge

/-- The report of the router. -/
def Router.charge (m : UUID) : Router → ℕ
  | routing r => if r.countsFor m && !r.success then 1 else 0
  | _ => 0

/-- The failures of `m` that are on their way to a handler. -/
def Shared.charge (m : UUID) (s : Shared) : ℕ :=
  s.resultChan.queue.countP (fun r => r.countsFor m && !r.success) + s.router.charge m +
    (s.routed false).queue.countP (·.countsFor m)

/-- The failures of `m` that may still be counted. -/
def System.charge (cfg : Config) (m : UUID) (s : System) : ℕ :=
  s.shared.charge m + total (Goroutine.charge cfg m) s.procs

/-- The goroutine obeys the protocol.  Requests neither count nor report. -/
def Goroutine.Wired (cfg : Config) (m : UUID) : Goroutine → Prop
  | stands _ => True
  | runs (.request _) t => t.todo.Follows
      (Protocol.stateless (fun c => c.reports m = false ∧ c.counts m = false) fun _ => True)
      (fun p _ => p.alarm m = .off) ()
  | runs task t => t.todo.Follows (alarmProtocol cfg.resultProcessor m (task.alarm m))
      (fun p q => (p.alarm m).charge ≤ q.charge)
      ((alarmProtocol cfg.resultProcessor m (task.alarm m)).state t.log)

theorem Point.alarm_ne_due (m : UUID) (p : Point) : p.alarm m ≠ .due := by
  cases p <;> simp only [alarm] <;> first | decide | (split <;> decide)

/-- **Every function of the pipeline is wired.** -/
theorem wired_start (cfg : Config) (m : UUID) (task : Task) :
    (Goroutine.start cfg task).Wired cfg m := by
  cases task with
  | doWork =>
    have honly : (Scheduler.doWork Member.printedOnly cfg.batchSize).Only (Cmd.bland m ·) :=
      Scheduler.only_doWork (Cmd.bland m ·) rfl rfl (fun _ => rfl) (fun _ => rfl) (fun _ => rfl) _ _
    exact (follows_of_bland honly _).bind fun _ _ _ => Nat.zero_le _
  | startWork m' =>
    refine (follows_alarm_startWork m').bind fun x q hx => ?_
    cases x with
    | none => exact Nat.zero_le _
    | some y =>
      show (if y.id = m then Alarm.pending else .off).charge ≤ q.charge
      split
      · rename_i hy
        rw [hx y rfl hy]
      · exact Nat.zero_le _
  | handle ok r =>
    cases ok with
    | true => exact (follows_of_bland (bland_handleSuccess r) _).bind fun _ _ _ => Nat.zero_le _
    | false =>
      by_cases hr : r.countsFor m = true
      · have hstart : (Task.handle false r).alarm m = .pending := by simp [Task.alarm, hr]
        have hfollows : (ResultProcessor.handleFailure cfg.resultProcessor r).Follows
            (alarmProtocol cfg.resultProcessor m .pending) (fun _ _ => True) .pending :=
          follows_alarm_handleFailure hr
        show Follows (alarmProtocol _ _ ((Task.handle false r).alarm m)) _ _
          ((Task.handle false r).alarm m)
        rw [hstart]
        exact hfollows.bind fun _ _ _ => Nat.zero_le _
      · have honly :
            (ResultProcessor.handleFailure cfg.resultProcessor r).Only (Cmd.bland m ·) := by
          by_cases hm : r.monitorID = m
          · refine bland_handleFailure_of_terminal ?_
            simpa [HTTPResult.countsFor, hm] using hr
          · exact bland_handleFailure hm
        exact (follows_of_bland honly _).bind fun _ _ _ => Nat.zero_le _
  | request req =>
    have honly : req.prog.Only fun c => c.reports m = false ∧ c.counts m = false := by
      refine req.only _ (fun c hc => ?_) fun _ _ _ _ => ⟨rfl, rfl⟩
      cases c with
      | redis c => cases c <;> first | exact ⟨rfl, rfl⟩ | cases hc
      | sql query => cases query <;> first | exact ⟨rfl, rfl⟩ | cases hc
      | timeNow | ctxDone => exact ⟨rfl, rfl⟩
      | send ev | offer job => cases hc
    exact honly.stateless.bind fun _ _ _ => rfl

end Sofon
