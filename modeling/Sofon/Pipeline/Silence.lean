import Sofon.Pipeline.Alarm
import Sofon.Pipeline.Loop
import Sofon.Result.Outage

/-!
# A disabled monitor

"This will stop future checks and alerting for this monitor until you enable it
again."  It stops the checks, because a worker reads the row before it starts one.
It does not stop the alerting: what has passed that read goes on to its handler, and
no handler reads the row again.

## The charge

Each failure that is on its way to a handler may be counted once, and a monitor that is off gets
no new ones, since a worker cannot have read that it is enabled (`alarm_call`).  So the failures
that may still be counted, the *charge*, only go down, and what goes down is at most counted in
the hash.  The sum of the two does not grow: `charge_step` says so of the steps between calls,
where failures are only carried on, and `hushed_call` of the calls.

A report goes out when the count reaches the threshold.  As long as count and charge together
stay below it, no report is due (`Hushed`), and a call that is not due to report neither inserts
an incident nor sends a `DOWN` (`noReport_call`).

## Runs

The condition asks of the requests that none under way may still enable the monitor
(`Goroutine.KeepsOff`), and of the run that none arrives that does.  It goes on to hold
(`hushed_step`), and `silent_of_hushed` is the theorem about all runs in which no call fails, from
any state in which it holds.  With a threshold of one a single check under way is too many:
`disabled_monitor_reported`.
-/

namespace Sofon

open Interleaving Program Transition

variable {m : UUID} {cfg : Config}

/-! ## What is said about a monitor -/

/-- The failures of `m` in its incident hash. -/
def Redis.failures (m : UUID) (s : Redis) : ℕ := ((s.incident m).failureCount.getD 0).toNat

/-- **No outage of `m` was reported**: `monitor_incidents` has no row of it that was not
there before, and `alertChan` has got no `DOWN` alert of it. -/
structure NoReport (m : UUID) (w w' : World) : Prop where
  incidents : ((w'.db.incidents.filter (·.monitorID = m)).map IncidentRow.id).Sublist
    ((w.db.incidents.filter (·.monitorID = m)).map IncidentRow.id)
  alerts : w'.sent.filter (·.downFor m) = w.sent.filter (·.downFor m)

theorem NoReport.refl (m : UUID) (w : World) : NoReport m w w := ⟨List.Sublist.refl _, rfl⟩

theorem NoReport.trans {w w' w'' : World} (h : NoReport m w w') (h' : NoReport m w' w'') :
    NoReport m w w'' := ⟨h'.incidents.trans h.incidents, h'.alerts.trans h.alerts⟩

/-- No row of `m` is enabled, and no new row can be of `m`. -/
def DB.Off (m : UUID) (d : DB) : Prop :=
  (∀ row ∈ d.monitors, row.id = m → row.enabled = false) ∧ m < d.nextID

instance (m : UUID) (d : DB) : Decidable (d.Off m) :=
  inferInstanceAs
    (Decidable ((∀ row ∈ d.monitors, row.id = m → row.enabled = false) ∧ m < d.nextID))

/-- **A command counts one failure or none.** -/
theorem Redis.failures_exec (c : RedisCmd) (s : Redis) :
    (s.exec c).2.failures m ≤ s.failures m + if (Cmd.redis c).counts m then 1 else 0 := by
  by_cases hkey : c.incidentKey = some m
  · cases c with
    | hIncrByFailureCount m' =>
      obtain rfl := Option.some.inj hkey
      simp only [failures, exec, setIncident_incident, Cmd.counts, decide_true, if_true,
        Option.getD_some]
      omega
    | hSetFailureTimes m' | hSetDBIncident m' =>
      obtain rfl := Option.some.inj hkey
      simp only [failures, exec, setIncident_incident]
      exact Nat.le_add_right _ _
    | hSetNXAlerted m' | hSetNXRecoveredAlerted m' =>
      obtain rfl := Option.some.inj hkey
      simp only [failures, exec]
      split
      · exact Nat.le_add_right _ _
      · rw [setIncident_incident]
        exact Nat.le_add_right _ _
    | delIncident m' =>
      obtain rfl := Option.some.inj hkey
      simp only [failures, exec, setIncident_incident]
      exact Nat.zero_le _
    | hGetAllIncident m' => exact Nat.le_add_right _ _
    | _ => cases hkey
  · rw [failures, Redis.exec_incident hkey]
    exact Nat.le_add_right _ _

/-- A monitor that is off stays off, unless it is enabled. -/
theorem DB.off_exec {now : Time} {q : Query} {d : DB} (h : d.Off m)
    (hq : (Cmd.sql q).enables m = false) : (d.exec now q).2.Off m := by
  obtain ⟨hrows, hnew⟩ := h
  cases q with
  | updateMonitorStatus m' enabled team =>
    refine ⟨fun row hrow hid => ?_, hnew⟩
    obtain ⟨old, hold, rfl⟩ := List.mem_map.mp hrow
    split at hid
    · rename_i hmatch
      rw [if_pos hmatch]
      have hm : old.id = m' := of_decide_eq_true (Bool.and_eq_true_iff.mp hmatch).1
      have hsame : decide (m' = m) = true := decide_eq_true (hm.symm.trans hid)
      change (decide (m' = m) && enabled) = false at hq
      rwa [hsame, Bool.true_and] at hq
    · rename_i hmatch
      rw [if_neg hmatch]
      exact hrows old hold hid
  | createMonitor data channels =>
    simp only [DB.exec]
    split
    · refine ⟨fun row hrow hid => ?_, hnew.trans (Nat.lt_succ_self _)⟩
      rcases List.mem_append.mp hrow with hrow | hrow
      · exact hrows row hrow hid
      · rw [List.mem_singleton.mp hrow] at hid
        exact absurd hid hnew.ne'
    · exact ⟨hrows, hnew⟩
  | deleteMonitor m' team => exact ⟨fun row hrow => hrows row (List.mem_filter.mp hrow).1, hnew⟩
  | createMonitorIncident =>
    simp only [DB.exec]
    split
    · exact ⟨hrows, hnew.trans (Nat.lt_succ_self _)⟩
    · exact ⟨hrows, hnew⟩
  | closeMonitorIncident =>
    simp only [DB.exec]
    split
    · exact ⟨hrows, hnew⟩
    · split <;> exact ⟨hrows, hnew⟩
  | getMonitorByID | getMonitorByTeamID =>
    simp only [DB.exec]
    split <;> exact ⟨hrows, hnew⟩
  | incrementMonitorCount | decrementMonitorCount => exact ⟨hrows, hnew⟩

/-- Rows of `m` come by `INSERT` only. -/
theorem DB.incidents_exec {now : Time} {q : Query} {d : DB} (hq : (Cmd.sql q).reports m = false) :
    (((d.exec now q).2.incidents.filter (·.monitorID = m)).map IncidentRow.id).Sublist
      ((d.incidents.filter (·.monitorID = m)).map IncidentRow.id) := by
  cases q with
  | createMonitorIncident m' =>
    have hne : m' ≠ m := of_decide_eq_false hq
    simp only [DB.exec]
    split
    · rw [List.filter_append, List.filter_singleton, decide_eq_false hne]
      simp
    · exact List.Sublist.refl _
  | closeMonitorIncident m' t =>
    simp only [DB.exec]
    split
    · exact List.Sublist.refl _
    · split
      · simp [List.filter_map, Function.comp_def]
      · exact List.Sublist.refl _
  | deleteMonitor m' team =>
    exact (List.filter_sublist.filter _).map _
  | createMonitor | getMonitorByID | getMonitorByTeamID =>
    simp only [DB.exec]
    split <;> exact List.Sublist.refl _
  | updateMonitorStatus | incrementMonitorCount | decrementMonitorCount => exact List.Sublist.refl _

/-! ## One call -/

section Call

variable {b : Bool} {s s' : Shared}

/-- When the context is cancelled, calls to the stores fail. -/
theorem live_of_not_failed {c : Cmd} {r : c.Resp} {w w' : World}
    (hcanceled : ∀ e, Call.failed ⟨c, (World.exec true e w c).1⟩ = true)
    (hw : Program.Interpreter (World.exec b) w c r w') (hf : Call.failed ⟨c, r⟩ = false) :
    b = false := by
  cases b with
  | false => rfl
  | true =>
    obtain ⟨e, he⟩ := hw
    have hfailed := hcanceled e
    rw [he, hf] at hfailed
    exact hfailed.symm

/-- A command that did not fail was done by Redis. -/
theorem serves_redis {c : RedisCmd} {r : Except RedisError c.Reply} (h : s.Serves b (.redis c) r s')
    (hf : Call.failed ⟨.redis c, r⟩ = false) :
    b = false ∧ ∃ ks, r = ((s.world.redis.expire ks).exec c).1 ∧
      s'.world = { s.world.expire ks with redis := ((s.world.redis.expire ks).exec c).2 } := by
  obtain ⟨w', hw, rfl⟩ := Shared.serves_worldly rfl h
  obtain rfl := live_of_not_failed (fun _ => rfl) hw hf
  obtain ⟨ks, ⟨rfl, -⟩ | hdone⟩ := World.live_redis hw
  · cases hf
  · exact ⟨rfl, ks, hdone⟩

/-- A query that did not fail was done by the database. -/
theorem serves_sql {q : Query} {r : Except DBError q.Result} (h : s.Serves b (.sql q) r s')
    (hf : Call.failed ⟨.sql q, r⟩ = false) :
    b = false ∧ ∃ ks now, r = (s.world.db.exec now q).1 ∧
      s'.world = { s.world.expire ks with db := (s.world.db.exec now q).2 } := by
  obtain ⟨w', hw, rfl⟩ := Shared.serves_worldly rfl h
  obtain rfl := live_of_not_failed (fun _ => rfl) hw hf
  obtain ⟨ks, now, ⟨rfl, -⟩ | hdone⟩ := World.live_sql hw
  · cases hf
  · exact ⟨rfl, ks, now, hdone⟩

/-- A call that did not fail has an answer that the protocol expects. -/
theorem sound_of_serves {c : Cmd} {r : c.Resp} (h : s.Serves b c r s')
    (hf : Call.failed ⟨c, r⟩ = false) : Call.Sound ⟨c, r⟩ := by
  cases c with
  | ctxDone => exact Or.inl rfl
  | timeNow => exact Or.inr ⟨hf, s.world, _, ⟨⟨false, r, [], .sent⟩, rfl⟩⟩
  | send ev => exact Or.inr ⟨hf, s.world, _, ⟨⟨false, 0, [], .sent⟩, rfl⟩⟩
  | offer job => exact Or.inr ⟨hf, s.world, _, ⟨⟨false, 0, [], r⟩, rfl⟩⟩
  | redis c =>
    obtain ⟨rfl, -⟩ := serves_redis h hf
    obtain ⟨w', hw, -⟩ := Shared.serves_worldly rfl h
    exact Or.inr ⟨hf, s.world, w', hw⟩
  | sql query =>
    obtain ⟨rfl, -⟩ := serves_sql h hf
    obtain ⟨w', hw, -⟩ := Shared.serves_worldly rfl h
    exact Or.inr ⟨hf, s.world, w', hw⟩

/-- **A call that neither reports nor enables** leaves a monitor off and unreported,
and counts one failure or none. -/
theorem noReport_call {c : Cmd} {r : c.Resp} (h : s.Serves b c r s')
    (hf : Call.failed ⟨c, r⟩ = false) (hoff : s.world.db.Off m) (hreports : c.reports m = false)
    (henables : c.enables m = false) :
    s'.world.db.Off m ∧ NoReport m s.world s'.world ∧
      s'.world.redis.failures m ≤ s.world.redis.failures m + if c.counts m then 1 else 0 := by
  cases c with
  | timeNow | ctxDone =>
    obtain ⟨w', ⟨e, he⟩, rfl⟩ := Shared.serves_worldly rfl h
    obtain rfl : s.world.expire e.expired = w' := congrArg Prod.snd he
    exact ⟨hoff, ⟨List.Sublist.refl _, rfl⟩, le_rfl⟩
  | redis c =>
    obtain ⟨-, ks, -, hw⟩ := serves_redis h hf
    rw [hw]
    exact ⟨hoff, ⟨List.Sublist.refl _, rfl⟩, Redis.failures_exec c _⟩
  | sql query =>
    obtain ⟨-, ks, now, -, hw⟩ := serves_sql h hf
    rw [hw]
    exact ⟨DB.off_exec hoff henables, ⟨DB.incidents_exec hreports, rfl⟩, le_rfl⟩
  | send ev =>
    rcases Shared.serves_send h with ⟨ch, ks, -, rfl⟩ | ⟨-, rfl⟩
    · refine ⟨hoff, ⟨List.Sublist.refl _, ?_⟩, le_rfl⟩
      have hnot : ev.downFor m = false := hreports
      show (s.world.sent ++ [ev]).filter _ = _
      rw [List.filter_append, List.filter_singleton, hnot]
      exact List.append_nil _
    · exact ⟨hoff, NoReport.refl _ _, le_rfl⟩
  | offer job =>
    rcases Shared.serves_offer h with ⟨-, ⟨ch, -, rfl⟩ | ⟨-, rfl⟩⟩ | ⟨-, -, rfl⟩ | ⟨-, -, rfl⟩ <;>
      exact ⟨hoff, NoReport.refl _ _, le_rfl⟩

/-- **What one call does to a report of a monitor that is off**: a worker cannot have
read that it is enabled, and a failure that does not reach the threshold is not due. -/
theorem alarm_call {c : Cmd} {r : c.Resp} {cfg : ResultProcessorConfig} {q₀ q : Alarm}
    (h : s.Serves b c r s') (hf : Call.failed ⟨c, r⟩ = false) (hoff : s.world.db.Off m)
    (hq : q ≠ .due) (hallows : (alarmProtocol cfg m q₀).allows q c)
    (hroom : q = .pending → ((s.world.redis.failures m + 1 : ℕ) : ℤ) < cfg.failureThreshold) :
    (alarmProtocol cfg m q₀).next q ⟨c, r⟩ ≠ .due ∧
      ((alarmProtocol cfg m q₀).next q ⟨c, r⟩).charge + (if c.counts m then 1 else 0) ≤
        q.charge := by
  have hsame : c.counts m = false →
      q ≠ .due ∧ q.charge + (if c.counts m then 1 else 0) ≤ q.charge := by
    intro hcounts
    rw [hcounts]
    exact ⟨hq, le_rfl⟩
  have hoff' : c.counts m = false →
      Alarm.off ≠ .due ∧ Alarm.off.charge + (if c.counts m then 1 else 0) ≤ q.charge := by
    intro hcounts
    rw [hcounts]
    exact ⟨nofun, Nat.zero_le _⟩
  cases c with
  | timeNow | ctxDone | offer job => exact hsame rfl
  | send ev =>
    show (if ev.downFor m then Alarm.off else q) ≠ _ ∧
      (if ev.downFor m then Alarm.off else q).charge + _ ≤ _
    split
    · exact hoff' rfl
    · exact hsame rfl
  | sql query =>
    cases query with
    | getMonitorByID m' =>
      rcases r with err | row
      · exact hsame rfl
      · have hrow : ¬ (decide (m' = m) && row.enabled) = true := by
          intro hboth
          obtain ⟨hm, hen⟩ := Bool.and_eq_true_iff.mp hboth
          obtain rfl : m' = m := of_decide_eq_true hm
          obtain ⟨-, ks, now, hr, -⟩ := serves_sql h hf
          have hfind := DB.monitor?_of_getMonitorByID hr.symm
          have hdis : row.enabled = false :=
            hoff.1 row (DB.mem_of_monitor? hfind) (DB.id_of_monitor? hfind)
          exact absurd (hdis.symm.trans hen) Bool.false_ne_true
        show (if decide (m' = m) && row.enabled then Alarm.pending else q) ≠ _ ∧
          (if decide (m' = m) && row.enabled then Alarm.pending else q).charge + _ ≤ _
        rw [if_neg hrow]
        exact hsame rfl
    | _ => exact hsame rfl
  | redis c =>
    cases c with
    | incrRetry m' =>
      rcases r with err | count
      · exact hsame rfl
      · show (if decide (m' = m) && decide (count ≤ cfg.retryLimit) then Alarm.off else q) ≠ _ ∧
          (if decide (m' = m) && decide (count ≤ cfg.retryLimit) then Alarm.off else q).charge +
            _ ≤ _
        split
        · exact hoff' rfl
        · exact hsame rfl
    | hSetNXAlerted m' =>
      rcases r with err | claimed
      · exact hsame rfl
      · show (if decide (m' = m) && !claimed then Alarm.off else q) ≠ _ ∧
          (if decide (m' = m) && !claimed then Alarm.off else q).charge + _ ≤ _
        split
        · exact hoff' rfl
        · exact hsame rfl
    | hIncrByFailureCount m' =>
      obtain ⟨-, ks, rfl, -⟩ := serves_redis h hf
      by_cases hm : m' = m
      · subst hm
        obtain rfl : q = .pending := hallows.2.1 (decide_eq_true rfl)
        have hcount :
            (s.world.redis.incident m').failureCount.getD 0 + 1 < cfg.failureThreshold := by
          have hlt := hroom rfl
          rw [Redis.failures] at hlt
          omega
        show (if m' = m' then if _ < cfg.failureThreshold then Alarm.off else .due
            else .pending) ≠ _ ∧
          (if m' = m' then if _ < cfg.failureThreshold then Alarm.off else .due
            else .pending).charge + _ ≤ _
        rw [if_pos rfl, Redis.expire_incident, if_pos hcount]
        simp [Alarm.charge, Cmd.counts]
      · show (if m' = m then _ else q) ≠ _ ∧ (if m' = m then _ else q).charge + _ ≤ _
        rw [if_neg hm]
        exact hsame (decide_eq_false hm)
    | _ => exact hsame rfl

end Call

/-! ## One step -/

/-- No call of the step failed. -/
def Label.Clean : Label → Prop
  | call _ e => e.failed = false
  | _ => True

instance : DecidablePred Label.Clean
  | .call _ e => inferInstanceAs (Decidable (e.failed = false))
  | .silent | .returned _ | .arrive _ | .main _ => inferInstanceAs (Decidable True)

/-- The arrival of a request that enables `m`. -/
def Label.Enables (m : UUID) : Label → Prop
  | arrive (.updateStatus _ m' enable) => m' = m ∧ enable = true
  | _ => False

instance (m : UUID) : DecidablePred (Label.Enables m)
  | .arrive (.updateStatus _ m' enable) => inferInstanceAs (Decidable (m' = m ∧ enable = true))
  | .arrive (.create _) | .arrive (.delete ..) | .arrive (.get ..) | .silent | .returned _
  | .call .. | .main _ => inferInstanceAs (Decidable False)

/-- The goroutine is no request that may still enable `m`. -/
def Goroutine.KeepsOff (m : UUID) : Goroutine → Prop
  | runs (.request _) t => t.todo.Only fun c => c.enables m = false
  | _ => True

section Step

variable {s s' : Shared} {g g' : Goroutine} {x : Label} {new : List Goroutine}

theorem wired_step (h : Goroutine.Step cfg s g x s' g' new) (hx : x.Clean) (hg : g.Wired cfg m) :
    g'.Wired cfg m ∧ ∀ p ∈ new, p.Wired cfg m := by
  cases h with
  | @call _ task c k r log h =>
    refine ⟨?_, fun p hp => nomatch hp⟩
    cases task with
    | request req => exact hg.2 r trivial
    | doWork | startWork m' | handle ok r' =>
      have hnext := hg.2 r (sound_of_serves h hx)
      rw [← Protocol.state_append] at hnext
      exact hnext
  | tick | take h | receive h => exact ⟨wired_start cfg m _, fun p hp => nomatch hp⟩
  | spawn => exact ⟨trivial, List.forall_mem_singleton.mpr trivial⟩
  | _ => exact ⟨trivial, fun p hp => nomatch hp⟩

theorem keepsOff_step (h : Goroutine.Step cfg s g x s' g' new) (hg : g.KeepsOff m) :
    g'.KeepsOff m ∧ ∀ p ∈ new, p.KeepsOff m := by
  cases h with
  | @call _ task c k r log h =>
    refine ⟨?_, fun p hp => nomatch hp⟩
    cases task with
    | request req => exact hg.2 r
    | doWork | startWork m' | handle ok r' => trivial
  | spawn => exact ⟨trivial, List.forall_mem_singleton.mpr trivial⟩
  | _ => exact ⟨trivial, fun p hp => nomatch hp⟩

theorem alarm_start (task : Task) : (Goroutine.start cfg task).alarm cfg m = task.alarm m := by
  cases task <;> rfl

theorem Task.alarm_ne_due (task : Task) : task.alarm m ≠ .due := by
  cases task <;> simp only [alarm] <;> first | decide | (split <;> decide)

/-- **Between calls** failures are only carried on. -/
theorem charge_step (h : Goroutine.Step cfg s g x s' g' new) (hcall : ∀ task e, x ≠ .call task e)
    (hg : g.Wired cfg m) :
    s'.world = s.world ∧ g'.alarm cfg m ≠ .due ∧ (∀ p ∈ new, p.alarm cfg m ≠ .due) ∧
      s'.charge m + g'.charge cfg m + total (Goroutine.charge cfg m) new ≤
        s.charge m + g.charge cfg m := by
  have hnone : ∀ p ∈ ([] : List Goroutine), p.alarm cfg m ≠ .due :=
    fun p hp => absurd hp List.not_mem_nil
  cases h with
  | call h => exact absurd rfl (hcall _ _)
  | @ret task p log =>
    refine ⟨by cases task <;> rfl, p.alarm_ne_due m, hnone, ?_⟩
    have hle : (Goroutine.stands p).charge cfg m ≤
        Goroutine.charge cfg m (.runs task ⟨.ret p, log⟩) := by
      cases task with
      | request req =>
        have hoff : p.alarm m = .off := hg
        rw [Goroutine.charge, Goroutine.alarm, hoff]
        exact Nat.zero_le _
      | doWork | startWork m' | handle ok r => exact hg
    have hsame : (task.finish s).charge m = s.charge m := by cases task <;> rfl
    rw [hsame, total_nil]
    omega
  | tick => exact ⟨rfl, fun h => (by cases h), hnone, le_rfl⟩
  | take h => exact ⟨rfl, fun h => (by cases h), hnone, le_rfl⟩
  | @acquire x h => exact ⟨rfl, (Point.acquired x).alarm_ne_due m, hnone, le_rfl⟩
  | @spawn x =>
    refine ⟨rfl, fun h => (by cases h), fun p hp => ?_, ?_⟩
    · rw [List.mem_singleton.mp hp]
      exact (Point.checking x).alarm_ne_due m
    · rw [total_cons, total_nil]
      show s.charge m + 0 + (((Point.checking x).alarm m).charge + 0) ≤
        s.charge m + ((Point.checking x).alarm m).charge
      omega
  | @check x o =>
    refine ⟨rfl, (Point.checked _).alarm_ne_due m, hnone, ?_⟩
    have hle : ((Point.checked (Executor.executeHTTPCheck x o)).alarm m).charge ≤
        ((Point.checking x).alarm m).charge := by
      simp only [Point.alarm, HTTPResult.countsFor, Executor.executeHTTPCheck_monitorID]
      by_cases hid : x.id = m
      · rw [if_pos hid]
        split
        · exact le_rfl
        · exact Nat.zero_le _
      · simp [hid]
    rw [total_nil]
    exact Nat.add_le_add_left hle _
  | @push r ch h =>
    refine ⟨rfl, fun h => (by cases h), hnone, ?_⟩
    have hqueue := (Channel.send_ok h).2.2
    have hcharge : (Goroutine.stands (.checked r)).charge cfg m =
        if r.countsFor m && !r.success then 1 else 0 := by
      simp only [Goroutine.charge, Goroutine.alarm, Point.alarm]
      split <;> rfl
    rw [hcharge, total_nil]
    show _ + 0 + 0 ≤ _
    simp only [Shared.charge, hqueue, List.countP_append, List.countP_cons, List.countP_nil]
    omega
  | @pushPanics r h => exact ⟨rfl, (Point.checked r).alarm_ne_due m, hnone, le_rfl⟩
  | @receive ok r ch h =>
    have hqueue := (Channel.recv_some h).1
    refine ⟨rfl, ?_, hnone, ?_⟩
    · rw [alarm_start]
      exact Task.alarm_ne_due _
    · rw [total_nil, Goroutine.charge, alarm_start]
      cases ok with
      | true =>
        rw [Shared.charge, Shared.charge, Shared.setRouted_of_ne Bool.false_ne_true]
        exact le_rfl
      | false =>
        rw [Shared.charge, Shared.charge, Shared.setRouted_self, hqueue, List.countP_cons]
        show s.resultChan.queue.countP _ + s.router.charge m + ch.queue.countP _ +
          (if r.countsFor m then Alarm.pending else .off).charge + 0 ≤ _
        split
        · show _ + 1 + 0 ≤ _
          omega
        · show _ + 0 + 0 ≤ _
          omega
  | _ => exact ⟨rfl, fun h => (by cases h), hnone, le_rfl⟩

/-- What is on its way after the router has replaced one of its channels. -/
theorem charge_setRouted (ok : Bool) (ch : Channel HTTPResult) (ρ : Router) :
    Shared.charge m { s.setRouted ok ch with router := ρ } =
      s.resultChan.queue.countP (fun r => r.countsFor m && !r.success) + ρ.charge m +
        ((s.setRouted ok ch).routed false).queue.countP (·.countsFor m) := rfl

theorem charge_router (h : Router.Step s s') : s'.world = s.world ∧ s'.charge m ≤ s.charge m := by
  cases h with
  | @receive r ch hr h =>
    refine ⟨rfl, ?_⟩
    simp only [Shared.charge, hr, Router.charge, (Channel.recv_some h).1, List.countP_cons]
    omega
  | @deliver r ch hr h =>
    refine ⟨rfl, ?_⟩
    have hqueue := (Channel.send_ok h).2.2
    rw [charge_setRouted, Shared.charge, hr]
    cases hok : r.success with
    | true =>
      rw [Shared.setRouted_of_ne Bool.false_ne_true]
      exact Nat.add_le_add_right (Nat.add_le_add_left (Nat.zero_le _) _) _
    | false =>
      rw [hok] at hqueue
      rw [Shared.setRouted_self, hqueue, List.countP_append, List.countP_cons, List.countP_nil]
      simp only [Router.charge, hok, Bool.not_false, Bool.and_true]
      omega
  | deliverPanics => exact ⟨rfl, le_rfl⟩
  | leave hr h =>
    refine ⟨rfl, ?_⟩
    simp only [Shared.charge, hr, Router.charge]
    exact le_rfl
  | closeFailure hr =>
    refine ⟨rfl, ?_⟩
    rw [charge_setRouted, Shared.charge, hr, Shared.setRouted_self, Channel.close_queue]
    exact le_rfl
  | closeSuccess hr =>
    refine ⟨rfl, ?_⟩
    rw [charge_setRouted, Shared.charge, hr, Shared.setRouted_of_ne Bool.false_ne_true]
    exact le_rfl

/-- **A call of a goroutine whose report is not due**, while the monitor is off. -/
theorem hushed_call {task : Task} {c : Cmd} {k : c.Resp → Prog Point} {r : c.Resp} {log : List Call}
    (h : s.Serves (task.canceled s) c r s') (hf : Call.failed ⟨c, r⟩ = false)
    (hoff : s.world.db.Off m) (hwired : Goroutine.Wired cfg m (.runs task ⟨.call c k, log⟩))
    (hkeeps : Goroutine.KeepsOff m (.runs task ⟨.call c k, log⟩))
    (hdue : Goroutine.alarm cfg m (.runs task ⟨.call c k, log⟩) ≠ .due)
    (hroom : Goroutine.alarm cfg m (.runs task ⟨.call c k, log⟩) = .pending →
      ((s.world.redis.failures m + 1 : ℕ) : ℤ) < cfg.resultProcessor.failureThreshold) :
    s'.world.db.Off m ∧ NoReport m s.world s'.world ∧
      Goroutine.alarm cfg m (.runs task ⟨k r, log ++ [⟨c, r⟩]⟩) ≠ .due ∧
      Goroutine.charge cfg m (.runs task ⟨k r, log ++ [⟨c, r⟩]⟩) ≤
        Goroutine.charge cfg m (.runs task ⟨.call c k, log⟩) ∧
      s'.world.redis.failures m + Goroutine.charge cfg m (.runs task ⟨k r, log ++ [⟨c, r⟩]⟩) ≤
        s.world.redis.failures m + Goroutine.charge cfg m (.runs task ⟨.call c k, log⟩) := by
  cases task with
  | request req =>
    obtain ⟨hreports, hcounts⟩ := hwired.1
    obtain ⟨hoff', hquiet, hfailures⟩ := noReport_call h hf hoff hreports hkeeps.1
    rw [hcounts] at hfailures
    exact ⟨hoff', hquiet, nofun, le_rfl, Nat.add_le_add_right hfailures 0⟩
  | doWork | startWork m' | handle ok r' =>
    simp only [Goroutine.charge, Goroutine.alarm, Protocol.state_append] at hdue hroom ⊢
    obtain ⟨hreports, hcounts, henables⟩ := hwired.1
    have hsilent : c.reports m = false := Bool.eq_false_iff.mpr fun hc => hdue (hreports hc)
    obtain ⟨hoff', hquiet, hfailures⟩ := noReport_call h hf hoff hsilent henables
    obtain ⟨hnext, hcharge⟩ := alarm_call h hf hoff hdue ⟨hreports, hcounts, henables⟩ hroom
    exact ⟨hoff', hquiet, hnext, by omega, by omega⟩

theorem charge_serves {b : Bool} {c : Cmd} {r : c.Resp} (h : s.Serves b c r s') :
    s'.charge m = s.charge m := by
  obtain ⟨w, jobs, alerts, p, rfl, -⟩ := Shared.serves_frame h
  rfl

end Step

/-- A request that is not to enable `m` does not. -/
theorem keepsOff_request {req : Request} (hreq : ¬ Label.Enables m (.arrive req)) :
    (Goroutine.start cfg (.request req)).KeepsOff m := by
  refine Program.Only.bind (req.only _ (fun c hc => ?_) fun team m' enable heq => ?_)
    fun _ => trivial
  · cases c with
    | sql query => cases query <;> first | rfl | cases hc
    | _ => rfl
  · subst heq
    refine Bool.eq_false_iff.mpr fun hen => hreq ?_
    obtain ⟨hm, hen⟩ := Bool.and_eq_true_iff.mp hen
    exact ⟨of_decide_eq_true hm, hen⟩

/-! ## Runs -/

/-- **The condition of silence.**  The monitor is off, and no request under way may
still enable it; no handler has counted to the threshold and not yet reported; and the
failures counted, together with those that may still be counted, do not reach the
threshold, unless there are none of the latter. -/
structure Hushed (cfg : Config) (m : UUID) (s : System) : Prop where
  off : s.shared.world.db.Off m
  keepsOff : ∀ g ∈ s.procs, g.KeepsOff m
  notDue : ∀ g ∈ s.procs, g.alarm cfg m ≠ .due
  room : s.charge cfg m = 0 ∨ ((s.shared.world.redis.failures m + s.charge cfg m : ℕ) : ℤ) <
    cfg.resultProcessor.failureThreshold

/-- What the condition needs of a goroutine's step. -/
theorem Hushed.moved {s s' : Shared} {l new : List Goroutine} {i : ℕ} {g g' : Goroutine}
    (hs : Hushed cfg m ⟨s, l⟩) (hi : l[i]? = some g) (hoff : s'.world.db.Off m)
    (hkeeps : g'.KeepsOff m ∧ ∀ p ∈ new, p.KeepsOff m) (hdue : g'.alarm cfg m ≠ .due)
    (hnew : ∀ p ∈ new, p.alarm cfg m ≠ .due)
    (hcharge : s'.charge m + g'.charge cfg m + total (Goroutine.charge cfg m) new ≤
      s.charge m + g.charge cfg m)
    (hfailures : s'.world.redis.failures m +
        (s'.charge m + g'.charge cfg m + total (Goroutine.charge cfg m) new) ≤
      s.world.redis.failures m + (s.charge m + g.charge cfg m)) :
    Hushed cfg m ⟨s', l.set i g' ++ new⟩ := by
  obtain ⟨-, hkeepsOff, hnotDue, hroom⟩ := hs
  have hmove : total (Goroutine.charge cfg m) (l.set i g' ++ new) + g.charge cfg m =
      total (Goroutine.charge cfg m) l + g'.charge cfg m + total (Goroutine.charge cfg m) new :=
    total_step _ hi
  refine ⟨hoff, forall_mem_step hkeepsOff (fun _ _ h => h) hkeeps.1 hkeeps.2,
    forall_mem_step hnotDue (fun _ _ h => h) hdue hnew, ?_⟩
  simp only [System.charge] at hroom ⊢
  omega

/-- **One step while the condition holds**: it goes on to hold, and nothing is reported. -/
theorem hushed_step {s t : System} {x : Label} (h : System.Step cfg s x t) (hx : x.Clean)
    (hno : ¬ x.Enables m) (hwired : ∀ g ∈ s.procs, g.Wired cfg m) (hs : Hushed cfg m s) :
    Hushed cfg m t ∧ NoReport m s.shared.world t.shared.world := by
  cases h with
  | @proc s s' l new i g g' x hlive hi h =>
    have hmem : g ∈ l := List.mem_of_getElem? hi
    have hkeeps := keepsOff_step h (hs.keepsOff g hmem)
    by_cases hcall : ∃ task e, x = .call task e
    · obtain ⟨task, e, rfl⟩ := hcall
      cases h with
      | @call _ _ c k r log h =>
        have hroom : Goroutine.alarm cfg m (.runs task ⟨.call c k, log⟩) = .pending →
            ((s.world.redis.failures m + 1 : ℕ) : ℤ) < cfg.resultProcessor.failureThreshold := by
          intro hpending
          have hle : Goroutine.charge cfg m (.runs task ⟨.call c k, log⟩) ≤
              total (Goroutine.charge cfg m) l := le_total _ hmem
          rw [Goroutine.charge, hpending] at hle
          change 1 ≤ _ at hle
          have hs' := hs.room
          simp only [System.charge] at hs'
          omega
        obtain ⟨hoff, hquiet, hdue, hcharge, hfailures⟩ := hushed_call h hx hs.off
          (hwired _ hmem) (hs.keepsOff _ hmem) (hs.notDue _ hmem) hroom
        refine ⟨hs.moved hi hoff hkeeps hdue (fun p hp => nomatch hp) ?_ ?_, hquiet⟩
        · rw [charge_serves h, total_nil]
          omega
        · rw [charge_serves h, total_nil]
          omega
    · obtain ⟨hworld, hdue, hnew, hcharge⟩ := charge_step h
        (fun task e hte => hcall ⟨task, e, hte⟩) (hwired g hmem)
      have hoff : s'.world.db.Off m := by rw [hworld]; exact hs.off
      refine ⟨hs.moved hi hoff hkeeps hdue hnew hcharge ?_, ?_⟩
      · rw [hworld]
        omega
      · show NoReport m s.world s'.world
        rw [hworld]
        exact NoReport.refl m _
  | @router s s' l hlive h =>
    obtain ⟨hworld, hcharge⟩ := charge_router (m := m) h
    obtain ⟨hoff, hkeepsOff, hnotDue, hroom⟩ := hs
    simp only [System.charge] at hroom
    refine ⟨⟨?_, hkeepsOff, hnotDue, ?_⟩, ?_⟩
    · show s'.world.db.Off m
      rw [hworld]
      exact hoff
    · simp only [System.charge, hworld]
      omega
    · show NoReport m s.world s'.world
      rw [hworld]
      exact NoReport.refl m _
  | main hlive h =>
    obtain ⟨hoff, hkeepsOff, hnotDue, hroom⟩ := hs
    cases h <;> exact ⟨⟨hoff, hkeepsOff, hnotDue, hroom⟩, NoReport.refl m _⟩
  | @arrive s l hlive h req =>
    obtain ⟨hoff, hkeepsOff, hnotDue, hroom⟩ := hs
    refine ⟨⟨hoff, forall_mem_join hkeepsOff (keepsOff_request hno), forall_mem_join hnotDue nofun,
      ?_⟩, NoReport.refl m _⟩
    simp only [System.charge] at hroom ⊢
    rw [total_append, total_cons, total_nil]
    exact hroom

/-- Every goroutine of a run in which no call fails is wired. -/
theorem wired_system_step {s t : System} {x : Label} (h : System.Step cfg s x t) (hx : x.Clean)
    (hs : ∀ g ∈ s.procs, g.Wired cfg m) : ∀ g ∈ t.procs, g.Wired cfg m := by
  cases h with
  | proc hlive hi h =>
    obtain ⟨hg', hnew⟩ := wired_step h hx (hs _ (List.mem_of_getElem? hi))
    exact forall_mem_step hs (fun _ _ h => h) hg' hnew
  | router hlive h => exact hs
  | main hlive h => exact hs
  | arrive hlive h req => exact forall_mem_join hs (wired_start cfg m _)

/-- **A disabled monitor is silent while the condition holds**: in every run in which no
call fails, from a state that meets it until the next request that enables the monitor
arrives, no incident of the monitor is inserted and no `DOWN` alert of it is sent. -/
theorem silent_of_hushed {w : World} {s t : System} {l l' : List Label}
    (h : Runs (System.Step cfg) (.boot cfg w) l s) (h' : Runs (System.Step cfg) s l' t)
    (hclean : ∀ x ∈ l ++ l', x.Clean) (hno : ∀ x ∈ l', ¬ x.Enables m) (hs : Hushed cfg m s) :
    NoReport m s.shared.world t.shared.world := by
  have hwired : ∀ g ∈ s.procs, g.Wired cfg m :=
    h.invariant (I := fun u => ∀ g ∈ u.procs, g.Wired cfg m)
      (System.forall_mem_boot trivial trivial (fun _ => trivial) trivial cfg w)
      fun x hx _ _ hstep hu => wired_system_step hstep (hclean x (List.mem_append_left _ hx)) hu
  refine (h'.invariant (I := fun u => (∀ g ∈ u.procs, g.Wired cfg m) ∧ Hushed cfg m u ∧
    NoReport m s.shared.world u.shared.world) ⟨hwired, hs, NoReport.refl m _⟩ ?_).2.2
  rintro x hx u v hstep ⟨huwired, hu, hquiet⟩
  have hxclean : x.Clean := hclean x (List.mem_append_right _ hx)
  obtain ⟨hv, hquiet'⟩ := hushed_step hstep hxclean (hno x hx) huwired hu
  exact ⟨wired_system_step hstep hxclean huwired, hv, hquiet.trans hquiet'⟩

namespace Sample

/-- A check of the sample monitor is under way when a request disables it, and the
request is about to return. -/
def disabling : List Move := checkStarted ++ [.arrive (.updateStatus 9 1 false)] ++ moves 22 8

/-- The check gets a server error, and a handler makes `n - 1` steps with it. -/
def checkFails (n : ℕ) : List Move :=
  .proc 21 ⟨default, .response 500 1 0, false⟩ :: moves 21 3 ++ [.router, .router] ++ moves 11 n

/-- No call fails, and nobody enables the sample monitor. -/
def untouched (_ : System) (x : Label) : Bool := decide x.Clean && !decide (x.Enables 1)

theorem clean_of_untouched {s t : System} {l : List Label}
    (h : Runs (fun s x t => System.Step cfg s x t ∧ untouched s x = true) s l t) :
    ∀ x ∈ l, x.Clean ∧ ¬ x.Enables 1 := by
  refine h.forall_label fun _ x _ hx => ?_
  obtain ⟨hclean, hno⟩ := Bool.and_eq_true_iff.mp hx.2
  exact ⟨of_decide_eq_true hclean, of_decide_eq_false (Bool.not_eq_true' _ ▸ hno)⟩

/-- The return of the disabling request. -/
def disabled : Label → Bool
  | .returned (.request (.updateStatus 9 1 false)) => true
  | _ => false

theorem eq_of_disabled {x : Label} (h : disabled x = true) :
    x = .returned (.request (.updateStatus 9 1 false)) := by
  unfold disabled at h
  split at h
  · rfl
  · cases h

/-- All goroutines are at points of their loops. -/
def standing (s : System) : Bool :=
  s.procs.all fun g =>
    match g with
    | .stands _ => true
    | .runs _ _ => false

theorem keepsOff_of_standing {s : System} (h : standing s = true) :
    ∀ g ∈ s.procs, g.KeepsOff m := by
  intro g hg
  have hstands := List.all_eq_true.mp h g hg
  cases g with
  | stands p => trivial
  | runs task t => cases hstands

/-- Two failures are an outage. -/
def twoStrikes : Config :=
  { Config.least with
    resultProcessor := { Config.least.resultProcessor with failureThreshold := 2 } }

end Sample

/-- With a threshold of two, the check that is under way may fail: it is counted, and
nothing is reported. -/
theorem silent_of_hushed_sample :
    ∃ s t : System, (s.charge Sample.twoStrikes 1 = 1 ∧ t.shared.world.redis.failures 1 = 1) ∧
      NoReport 1 s.shared.world t.shared.world := by
  have hplay : (System.play Sample.twoStrikes Sample.untouched
      (Sample.disabling ++ Sample.moves 22 1) (.boot Sample.twoStrikes Sample.scheduled)).any
      (fun s =>
        Sample.standing s && (decide (s.shared.world.db.Off 1) &&
          (decide (∀ g ∈ s.procs, g.alarm Sample.twoStrikes 1 ≠ .due) &&
          (decide (s.charge Sample.twoStrikes 1 = 1) &&
          (decide (s.shared.world.redis.failures 1 = 0) &&
          (System.play Sample.twoStrikes Sample.untouched (Sample.checkFails 7) s).any fun t =>
            decide (t.shared.world.redis.failures 1 = 1)))))) := by decide
  obtain ⟨s, hs, hcheck⟩ := (Option.any_eq_true _ _).mp hplay
  simp only [Bool.and_eq_true, decide_eq_true_eq] at hcheck
  obtain ⟨hstanding, hoff, hdue, hcharge, hfailures, hrest⟩ := hcheck
  obtain ⟨t, ht, hcount⟩ := (Option.any_eq_true _ _).mp hrest
  obtain ⟨l, hl⟩ := System.runs_of_play hs
  obtain ⟨l', hl'⟩ := System.runs_of_play ht
  refine ⟨s, t, ⟨hcharge, of_decide_eq_true hcount⟩, ?_⟩
  have hroom : ((s.shared.world.redis.failures 1 + s.charge Sample.twoStrikes 1 : ℕ) : ℤ) <
      Sample.twoStrikes.resultProcessor.failureThreshold := by
    rw [hfailures, hcharge]
    decide
  refine silent_of_hushed (hl.mono fun _ _ _ h => h.1) (hl'.mono fun _ _ _ h => h.1)
    (fun x hx => ?_) (fun x hx => (Sample.clean_of_untouched hl' x hx).2)
    ⟨hoff, Sample.keepsOff_of_standing hstanding, hdue, Or.inr hroom⟩
  rcases List.mem_append.mp hx with hx | hx
  · exact (Sample.clean_of_untouched hl x hx).1
  · exact (Sample.clean_of_untouched hl' x hx).1

/-- **A disabled monitor is reported**: with a threshold of one, a check that is under
way when the disabling request returns fails afterwards. -/
theorem disabled_monitor_reported :
    ¬ ∀ (cfg : Config) (w : World) (s s' t : System) (l l' : List Label) (team m : UUID),
      cfg.Valid → w.db.Keyed → (∀ x ∈ l ++ l', x.Clean) → Runs (System.Step cfg) (.boot cfg w) l s →
      System.Step cfg s (.returned (.request (.updateStatus team m false))) s' →
      ¬ s'.shared.world.db.Enabled m → Runs (System.Step cfg) s' l' t →
      (∀ x ∈ l', ¬ x.Enables m) → NoReport m s'.shared.world t.shared.world := by
  intro hclaim
  have hplay : (System.play .least Sample.untouched Sample.disabling
      (.boot .least Sample.scheduled)).any
      (fun s => !s.shared.panicked && (s.next .least (.proc 22 default)).any fun y =>
        Sample.disabled y.1 && (!decide (y.2.shared.world.db.Enabled 1) &&
          (decide (y.2.shared.world.sent.length = 0) &&
          (System.play .least Sample.untouched (Sample.checkFails 12) y.2).any fun t =>
            decide ((t.shared.world.sent.filter (·.downFor 1)).length = 1)))) := by decide
  obtain ⟨s, hs, hcheck⟩ := (Option.any_eq_true _ _).mp hplay
  obtain ⟨hlive, hcheck⟩ := Bool.and_eq_true_iff.mp hcheck
  obtain ⟨⟨x, s'⟩, hnext, hcheck⟩ := (Option.any_eq_true _ _).mp hcheck
  simp only [Bool.and_eq_true, Bool.not_eq_true', decide_eq_true_eq, decide_eq_false_iff_not]
    at hcheck hlive
  obtain ⟨hret, hdis, hbefore, hrest⟩ := hcheck
  obtain ⟨t, ht, hafter⟩ := (Option.any_eq_true _ _).mp hrest
  obtain rfl := Sample.eq_of_disabled hret
  obtain ⟨l, hl⟩ := System.runs_of_play hs
  obtain ⟨l', hl'⟩ := System.runs_of_play ht
  have hclean : ∀ x ∈ l ++ l', x.Clean := by
    intro x hx
    rcases List.mem_append.mp hx with hx | hx
    · exact (Sample.clean_of_untouched hl x hx).1
    · exact (Sample.clean_of_untouched hl' x hx).1
  have hquiet := hclaim .least Sample.scheduled s s' t l l' 9 1 Config.least_valid
    Sample.keyed_scheduled hclean (hl.mono fun _ _ _ h => h.1)
    (System.step_of_next hlive hnext) hdis (hl'.mono fun _ _ _ h => h.1)
    fun x hx => (Sample.clean_of_untouched hl' x hx).2
  have hsame := hquiet.alerts
  rw [List.length_eq_zero_iff.mp hbefore] at hsame
  have hone := of_decide_eq_true hafter
  rw [hsame] at hone
  exact absurd hone (by decide)

end Sofon
