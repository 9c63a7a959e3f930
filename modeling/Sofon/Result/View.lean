import Sofon.Foundations.Alone
import Sofon.Foundations.Tables
import Sofon.Result.Handlers

/-!
# What a handler sees

The handlers of a result read and write what Redis, the database and `alertChan` hold of
its monitor, and nothing else (`only_handle`).  That is its `View`: one key of each kind,
one entry of the schedule, and the rows and events that name the monitor.

* `View.Act` says what each of their calls does to the view when it does not fail.  It is a
  relation between the view before, the command, its answer and the view after, and it does
  not mention the rest of the world (`view_own`).
* `view_other` says that the calls for another monitor do nothing to it: keys are updated one
  by one, a `ZADD` of one member sets one score, and a row or an event names one monitor.
* What may happen to a view at any time is that the retry counter runs out (`View.fade`).

The three together are `monitorWindow`: a handler among others is a handler alone with its
view, whatever the others do.
-/

namespace Sofon

open Interleaving KeyValue

/-- What there is of one monitor. -/
structure View where
  nextRun : Option ℤ
  incident : IncidentHash
  retry : Option RetryKey
  status : Option StatusHash
  incidents : List IncidentRow
  sent : List AlertEvent

/-- The view of the monitor `m`. -/
def World.view (m : UUID) (w : World) : View where
  nextRun := w.redis.schedule.score (.id m)
  incident := w.redis.incident m
  retry := w.redis.retry m
  status := w.redis.status m
  incidents := w.db.incidents.filter (·.monitorID = m)
  sent := w.sent.filter (·.monitorID = m)

/-- The retry counter runs out, if it has a time to live. -/
def View.fade (b : Bool) (v : View) : View :=
  { v with retry := v.retry.filter fun k => !(k.expires && b) }

theorem View.fade_false (v : View) : v.fade false = v := by
  have hkeep : v.retry.filter (fun k => !(k.expires && false)) = v.retry := by
    cases v.retry <;> simp
  rw [fade, hkeep]

theorem View.fade_fade (a b : Bool) (v : View) : (v.fade a).fade b = v.fade (a || b) := by
  unfold fade
  congr 1
  show (v.retry.filter _).filter _ = _
  rw [Option.filter_filter]
  congr 1
  funext k
  cases k.expires <;> cases a <;> cases b <;> rfl

/-- The calls that the handlers of a result of `m` make. -/
def Cmd.About (m : UUID) : Cmd → Prop
  | timeNow => True
  | ctxDone => True
  | redis (.hIncrByFailureCount m') => m' = m
  | redis (.hSetFailureTimes m' ..) => m' = m
  | redis (.hSetNXAlerted m') => m' = m
  | redis (.hSetNXRecoveredAlerted m') => m' = m
  | redis (.hSetDBIncident m') => m' = m
  | redis (.hGetAllIncident m') => m' = m
  | redis (.delIncident m') => m' = m
  | redis (.incrRetry m') => m' = m
  | redis (.expireRetry m') => m' = m
  | redis (.delRetry m') => m' = m
  | redis (.hSetStatus m' _) => m' = m
  | redis (.zAdd items) => ∃ score, items = [⟨score, .id m⟩]
  | sql (.createMonitorIncident m' ..) => m' = m
  | sql (.closeMonitorIncident m' _) => m' = m
  | send ev => ev.monitorID = m
  | _ => False

theorem about_scheduleMonitor (m : UUID) (i : ℤ) :
    (MonitorService.scheduleMonitor m i).Only (Cmd.About m) :=
  MonitorService.only_scheduleMonitor _ trivial trivial (fun score => ⟨score, rfl⟩) i

theorem about_handleSuccess (r : HTTPResult) :
    (ResultProcessor.handleSuccess r).Only (Cmd.About r.monitorID) := by
  have hbody : (ResultProcessor.handleSuccessBody r).Only (Cmd.About r.monitorID) :=
    ResultProcessor.only_handleSuccessBody _ trivial trivial (fun _ => rfl) rfl (fun _ => rfl) rfl
      (fun _ => rfl) rfl rfl
  exact hbody.bind fun _ => about_scheduleMonitor _ _

theorem about_handleFailure (cfg : ResultProcessorConfig) (r : HTTPResult) :
    (ResultProcessor.handleFailure cfg r).Only (Cmd.About r.monitorID) := by
  have hstore : (RedisClient.storeStatus r.monitorID r.status r.latencyMs r.checkedAt).Only
      (Cmd.About r.monitorID) :=
    RedisClient.only_retry_call (Cmd.About r.monitorID)
      (c := .hSetStatus r.monitorID ⟨r.status, r.latencyMs, r.checkedAt.unix⟩) rfl trivial 2
  exact ResultProcessor.only_handleFailure _ hstore
    (ResultProcessor.only_retryPath _ trivial trivial rfl rfl rfl fun score => ⟨score, rfl⟩)
    (ResultProcessor.only_failurePath _
      (RedisClient.only_incrementIncident _ trivial trivial rfl fun _ _ => rfl) rfl
      (ResultProcessor.only_alertDown _ trivial (fun _ _ _ _ => rfl) rfl fun _ => rfl))
    (about_scheduleMonitor _ _)

/-- **A handler looks at its own monitor only.** -/
theorem only_handle (cfg : ResultProcessorConfig) (r : HTTPResult) :
    (ResultProcessor.handle cfg r).Only (Cmd.About r.monitorID) := by
  rw [ResultProcessor.handle]
  split
  · exact about_handleSuccess r
  · exact about_handleFailure cfg r

/-! ## The calls for the monitor -/

/-- What a call that does not fail does to the view. -/
inductive View.Act (m : UUID) : View → (c : Cmd) → c.Resp → View → Prop
  | timeNow {v : View} {t : Time} : Act m v .timeNow t v
  | ctxDone {v : View} : Act m v .ctxDone false v
  | hIncrByFailureCount {v : View} :
      Act m v (.redis (.hIncrByFailureCount m)) (.ok (v.incident.failureCount.getD 0 + 1))
        { v with incident :=
          { v.incident with failureCount := some (v.incident.failureCount.getD 0 + 1) } }
  | hSetFailureTimes {v : View} {first : Option ℤ} {last : ℤ} :
      Act m v (.redis (.hSetFailureTimes m first last)) (.ok ())
        { v with incident := { v.incident with
          firstFailureAt := first.or v.incident.firstFailureAt, lastFailureAt := some last } }
  | hSetNXAlerted {v : View} :
      Act m v (.redis (.hSetNXAlerted m)) (.ok v.incident.alerted.isNone)
        { v with incident :=
          { v.incident with alerted := v.incident.alerted.or (some true) } }
  | hSetNXRecoveredAlerted {v : View} :
      Act m v (.redis (.hSetNXRecoveredAlerted m)) (.ok v.incident.recoveredAlerted.isNone)
        { v with incident :=
          { v.incident with recoveredAlerted := v.incident.recoveredAlerted.or (some true) } }
  | hSetDBIncident {v : View} :
      Act m v (.redis (.hSetDBIncident m)) (.ok ())
        { v with incident := { v.incident with dbIncident := some true } }
  | hGetAllIncident {v : View} : Act m v (.redis (.hGetAllIncident m)) (.ok v.incident) v
  | delIncident {v : View} :
      Act m v (.redis (.delIncident m)) (.ok ()) { v with incident := .absent }
  | incrRetry {v : View} :
      Act m v (.redis (.incrRetry m)) (.ok ((v.retry.getD ⟨0, false⟩).count + 1))
        { v with retry := some ⟨(v.retry.getD ⟨0, false⟩).count + 1,
          (v.retry.getD ⟨0, false⟩).expires⟩ }
  | expireRetry {v : View} :
      Act m v (.redis (.expireRetry m)) (.ok ())
        { v with retry := v.retry.map fun k => ⟨k.count, true⟩ }
  | delRetry {v : View} : Act m v (.redis (.delRetry m)) (.ok ()) { v with retry := none }
  | hSetStatus {v : View} {x : StatusHash} :
      Act m v (.redis (.hSetStatus m x)) (.ok ()) { v with status := some x }
  | zAdd {v : View} {score : ℤ} :
      Act m v (.redis (.zAdd [⟨score, .id m⟩])) (.ok ()) { v with nextRun := some score }
  | createMonitorIncident {v : View} {d : UUID} {alerted : Bool} {status latency : ℤ} {t : Time} :
      Act m v (.sql (.createMonitorIncident m alerted status latency t)) (.ok d)
        { v with incidents :=
          v.incidents ++ [⟨d, m, t.micros, none, alerted, status, latency⟩] }
  | nothingToClose {v : View} {t : Time} (h : v.incidents.filter (·.openFor m) = []) :
      Act m v (.sql (.closeMonitorIncident m t)) (.error .noRows) v
  | closeMonitorIncident {v : View} {t : Time} {row : IncidentRow} {rows : List IncidentRow}
      (h : v.incidents.filter (·.openFor m) = row :: rows) :
      Act m v (.sql (.closeMonitorIncident m t)) (.ok row.id)
        { v with incidents := v.incidents.map (·.close m t.micros) }
  | send {v : View} {ev : AlertEvent} : Act m v (.send ev) () { v with sent := v.sent ++ [ev] }

section World

variable {m : UUID} {w : World}

theorem view_expire (ks : List UUID) (m : UUID) (w : World) :
    (w.expire ks).view m = (w.view m).fade (ks.contains m) := rfl

theorem view_setIncident (h : IncidentHash) :
    ({ w with redis := w.redis.setIncident m h } : World).view m =
      { w.view m with incident := h } := by
  simp only [World.view, Redis.setIncident_incident]
  rfl

theorem view_setRetry (k : Option RetryKey) :
    ({ w with redis := w.redis.setRetry m k } : World).view m = { w.view m with retry := k } := by
  simp only [World.view, Redis.setRetry_retry]
  rfl

/-- The open incidents of a monitor are among its rows. -/
theorem filter_openFor (m : UUID) (rows : List IncidentRow) :
    (rows.filter (·.monitorID = m)).filter (·.openFor m) = rows.filter (·.openFor m) := by
  rw [List.filter_filter]
  refine List.filter_congr fun row _ => ?_
  unfold IncidentRow.openFor
  cases decide (row.monitorID = m) <;> simp

/-- Closing the incidents of a monitor happens among its rows. -/
theorem filter_close (m : UUID) (t : ℤ) (rows : List IncidentRow) :
    (rows.map (·.close m t)).filter (·.monitorID = m) =
      (rows.filter (·.monitorID = m)).map (·.close m t) := by
  rw [List.filter_map]
  congr 1
  refine List.filter_congr fun row _ => ?_
  rw [Function.comp, IncidentRow.close_monitorID]

/-- A flag that is set stays as it is. -/
theorem alerted_or (h : IncidentHash) {b : Bool} (hb : h.alerted = some b) :
    { h with alerted := h.alerted.or (some true) } = h := by
  rw [hb, Option.some_or, ← hb]

theorem recoveredAlerted_or (h : IncidentHash) {b : Bool} (hb : h.recoveredAlerted = some b) :
    { h with recoveredAlerted := h.recoveredAlerted.or (some true) } = h := by
  rw [hb, Option.some_or, ← hb]

theorem act_redis {c : RedisCmd} (hc : (Cmd.redis c).About m) (w : World) :
    View.Act m (w.view m) (.redis c) (w.redis.exec c).1
      (World.view m { w with redis := (w.redis.exec c).2 }) := by
  cases c with
  | hIncrByFailureCount m' =>
    obtain rfl : m' = m := hc
    simp only [Redis.exec, view_setIncident]
    exact .hIncrByFailureCount
  | hSetFailureTimes m' first last =>
    obtain rfl : m' = m := hc
    simp only [Redis.exec, view_setIncident]
    exact .hSetFailureTimes
  | hSetNXAlerted m' =>
    obtain rfl : m' = m := hc
    have hact := View.Act.hSetNXAlerted (m := m') (v := w.view m')
    simp only [Redis.exec]
    cases hflag : (w.redis.incident m').alerted with
    | none =>
      have hview : (w.view m').incident.alerted = none := hflag
      rw [hview] at hact
      rw [view_setIncident]
      exact hact
    | some b =>
      rw [alerted_or (w.view m').incident hflag] at hact
      have hview : (w.view m').incident.alerted = some b := hflag
      rw [hview] at hact
      exact hact
  | hSetNXRecoveredAlerted m' =>
    obtain rfl : m' = m := hc
    have hact := View.Act.hSetNXRecoveredAlerted (m := m') (v := w.view m')
    simp only [Redis.exec]
    cases hflag : (w.redis.incident m').recoveredAlerted with
    | none =>
      have hview : (w.view m').incident.recoveredAlerted = none := hflag
      rw [hview] at hact
      rw [view_setIncident]
      exact hact
    | some b =>
      rw [recoveredAlerted_or (w.view m').incident hflag] at hact
      have hview : (w.view m').incident.recoveredAlerted = some b := hflag
      rw [hview] at hact
      exact hact
  | hSetDBIncident m' =>
    obtain rfl : m' = m := hc
    simp only [Redis.exec, view_setIncident]
    exact .hSetDBIncident
  | hGetAllIncident m' =>
    obtain rfl : m' = m := hc
    exact .hGetAllIncident
  | delIncident m' =>
    obtain rfl : m' = m := hc
    simp only [Redis.exec, view_setIncident]
    exact .delIncident
  | incrRetry m' =>
    obtain rfl : m' = m := hc
    simp only [Redis.exec, view_setRetry]
    exact .incrRetry
  | expireRetry m' =>
    obtain rfl : m' = m := hc
    simp only [Redis.exec, view_setRetry]
    exact .expireRetry
  | delRetry m' =>
    obtain rfl : m' = m := hc
    simp only [Redis.exec, view_setRetry]
    exact .delRetry
  | hSetStatus m' x =>
    obtain rfl : m' = m := hc
    have hview : World.view m' { w with redis := (w.redis.exec (.hSetStatus m' x)).2 } =
        { w.view m' with status := some x } := by
      simp only [World.view, Redis.exec, Function.update_self]
    rw [hview]
    exact .hSetStatus
  | zAdd items =>
    obtain ⟨score, rfl⟩ := hc
    have hview : World.view m { w with redis := (w.redis.exec (.zAdd [⟨score, Member.id m⟩])).2 } =
        { w.view m with nextRun := some score } := by
      have hscore : (w.redis.schedule.add [⟨score, .id m⟩]).score (.id m) = some score :=
        SortedSet.score_insert_self (⟨score, .id m⟩ : Z) _
      simp only [World.view, Redis.exec, hscore]
    rw [hview]
    exact .zAdd
  | _ => exact hc.elim

/-- A query for the monitor that does not fail. -/
theorem act_sql {q : Query} (hc : (Cmd.sql q).About m) (now : Time) (w : World)
    (hf : Call.failed ⟨.sql q, (w.db.exec now q).1⟩ = false) :
    View.Act m (w.view m) (.sql q) (w.db.exec now q).1
      (World.view m { w with db := (w.db.exec now q).2 }) := by
  cases q with
  | createMonitorIncident m' alerted status latency t =>
    obtain rfl : m' = m := hc
    simp only [DB.exec] at hf ⊢
    split at hf
    · rename_i hcheck
      rw [if_pos hcheck]
      have hview : World.view m' { w with db := { w.db with
            incidents := w.db.incidents ++
              [⟨w.db.nextID, m', t.micros, none, alerted, status, latency⟩]
            nextID := w.db.nextID + 1 } } =
          { w.view m' with incidents := (w.view m').incidents ++
            [⟨w.db.nextID, m', t.micros, none, alerted, status, latency⟩] } := by
        simp [World.view]
      rw [hview]
      exact .createMonitorIncident
    · cases hf
  | closeMonitorIncident m' t =>
    obtain rfl : m' = m := hc
    have hopen : (w.view m').incidents.filter (·.openFor m') = w.db.openIncidents m' :=
      filter_openFor m' _
    simp only [DB.exec] at hf ⊢
    cases hrows : w.db.openIncidents m' with
    | nil => exact .nothingToClose (hopen.trans hrows)
    | cons row rows =>
      simp only [hrows] at hf ⊢
      split at hf
      · rename_i hall
        rw [if_pos hall]
        have hview : World.view m' { w with db := { w.db with
              incidents := w.db.incidents.map (·.close m' t.micros) } } =
            { w.view m' with
              incidents := (w.view m').incidents.map (·.close m' t.micros) } := by
          simp only [World.view, filter_close]
        rw [hview]
        exact .closeMonitorIncident (hopen.trans hrows)
      · cases hf
  | _ => exact hc.elim

/-! ## The calls for other monitors -/

section Other

variable {m' : UUID}

theorem view_setIncident_of_ne (h : m' ≠ m) (x : IncidentHash) :
    ({ w with redis := w.redis.setIncident m' x } : World).view m = w.view m := by
  simp only [World.view, Redis.setIncident, Function.update_of_ne h.symm]

theorem view_setRetry_of_ne (h : m' ≠ m) (k : Option RetryKey) :
    ({ w with redis := w.redis.setRetry m' k } : World).view m = w.view m := by
  simp only [World.view, Redis.setRetry, Function.update_of_ne h.symm]

theorem redis_other {c : RedisCmd} (hc : (Cmd.redis c).About m') (h : m' ≠ m) (w : World) :
    World.view m { w with redis := (w.redis.exec c).2 } = w.view m := by
  cases c with
  | hIncrByFailureCount k | hSetFailureTimes k | hSetDBIncident k | delIncident k =>
    obtain rfl : k = m' := hc
    exact view_setIncident_of_ne h _
  | hSetNXAlerted k | hSetNXRecoveredAlerted k =>
    obtain rfl : k = m' := hc
    simp only [Redis.exec]
    split
    · rfl
    · exact view_setIncident_of_ne h _
  | hGetAllIncident k => rfl
  | incrRetry k | expireRetry k | delRetry k =>
    obtain rfl : k = m' := hc
    exact view_setRetry_of_ne h _
  | hSetStatus k x =>
    obtain rfl : k = m' := hc
    simp only [World.view, Redis.exec, Function.update_of_ne h.symm]
  | zAdd items =>
    obtain ⟨score, rfl⟩ := hc
    have hne : Member.id m ∉ [(⟨score, .id m'⟩ : Z)].map Scored.member := by
      simpa using h.symm
    simp only [World.view, Redis.exec, SortedSet.score_add_of_not_mem hne]
  | _ => exact hc.elim

theorem sql_other {q : Query} (hc : (Cmd.sql q).About m') (h : m' ≠ m) (now : Time) (w : World) :
    World.view m { w with db := (w.db.exec now q).2 } = w.view m := by
  cases q with
  | createMonitorIncident k =>
    obtain rfl : k = m' := hc
    simp only [DB.exec]
    split
    · simp [World.view, h]
    · rfl
  | closeMonitorIncident k t =>
    obtain rfl : k = m' := hc
    simp only [DB.exec]
    split
    · rfl
    · split
      · have hrows : (w.db.incidents.map (·.close k t.micros)).filter (·.monitorID = m) =
            w.db.incidents.filter (·.monitorID = m) := by
          refine List.filter_map_eq_filter (fun row => by rw [IncidentRow.close_monitorID]) ?_ _
          intro row hrow
          have hclosed : row.openFor k = false := by
            rw [IncidentRow.openFor, of_decide_eq_true hrow, decide_eq_false h.symm, Bool.false_and]
          rw [IncidentRow.close, hclosed, if_neg Bool.false_ne_true]
        simp only [World.view, hrows]
      · rfl
  | _ => exact hc.elim

end Other

end World

/-! ## The window -/

/-- **A call of the handler**, if it does not fail. -/
theorem view_own {m : UUID} {c : Cmd} (hc : c.About m) (e : Env) (w : World)
    (hf : Call.failed ⟨c, (w.exec false e c).1⟩ = false) :
    View.Act m ((w.view m).fade (e.expired.contains m)) c (w.exec false e c).1
      ((w.exec false e c).2.view m) := by
  rw [← view_expire]
  cases c with
  | timeNow => exact .timeNow
  | ctxDone => exact .ctxDone
  | redis c =>
    cases hfails : e.fails with
    | true =>
      simp only [World.exec, hfails] at hf
      cases hf
    | false =>
      simp only [World.exec, hfails]
      exact act_redis hc (w.expire e.expired)
  | sql q =>
    cases hfails : e.fails with
    | true =>
      simp only [World.exec, hfails] at hf
      cases hf
    | false =>
      simp only [World.exec, hfails] at hf ⊢
      exact act_sql hc e.now (w.expire e.expired) hf
  | send ev =>
    obtain rfl : ev.monitorID = m := hc
    have hview : (w.exec false e (.send ev)).2.view ev.monitorID =
        { (w.expire e.expired).view ev.monitorID with
          sent := ((w.expire e.expired).view ev.monitorID).sent ++ [ev] } := by
      simp [World.view, World.exec]
    rw [hview]
    exact .send
  | offer job => exact hc.elim

/-- **A call of another handler.**  It leaves what the handlers of `m` can see, but that the retry
counter of `m` may run out of time meanwhile. -/
theorem view_other {m m' : UUID} {c : Cmd} (hc : c.About m') (h : m' ≠ m) (e : Env) (w : World) :
    (w.exec false e c).2.view m = (w.view m).fade (e.expired.contains m) := by
  rw [← view_expire]
  cases c with
  | timeNow | ctxDone => rfl
  | redis c =>
    cases hfails : e.fails with
    | true => simp only [World.exec, hfails, Bool.false_eq_true, if_false, if_true]
    | false =>
      simp only [World.exec, hfails, Bool.false_eq_true, if_false]
      exact redis_other hc h (w.expire e.expired)
  | sql q =>
    cases hfails : e.fails with
    | true => simp only [World.exec, hfails, Bool.false_eq_true, if_false, if_true]
    | false =>
      simp only [World.exec, hfails, Bool.false_eq_true, if_false]
      exact sql_other hc h e.now (w.expire e.expired)
  | send ev =>
    obtain rfl : ev.monitorID = m' := hc
    simp [World.view, World.exec, h]
  | offer job => exact hc.elim

/-- **The view of a monitor is the window of its handler.** -/
def monitorWindow (m : UUID) : Window (World.exec false) (fun e : Call => !e.failed) View where
  own := Cmd.About m
  other c := ∃ m', m' ≠ m ∧ c.About m'
  look := World.view m
  fade := View.fade
  fades e := e.expired.contains m
  act := View.Act m
  fade_false := View.fade_false
  fade_fade := View.fade_fade
  look_own e w _ hc hf := view_own hc e w (Bool.not_eq_true' _ ▸ hf)
  look_other e w _ hc := view_other hc.choose_spec.2 hc.choose_spec.1 e w

end Sofon
