import Sofon.Result.History
import Sofon.Result.View

/-!
# Monitors do not interfere

The handlers of results of distinct monitors look at different things, so it does not
matter in which order their calls come.  What differs from one interleaving to another is
what each handler gets from outside: what its clock shows, and which id the database
gives to the row that it inserts.  These are copied into the rows, the hashes and the
schedule, and never looked at.

## Two runs of one handler

`View.Alike` says that what two states say of a monitor is the same up to that.  Its parameters
are the relation `T` between the clock readings and the relation `D` between the ids; in the end
these hold of what the same call of the same handler got in the two runs (`SameInput`).  Two
calls are twin when their commands are the same or carry a twin reading or a twin id
(`Cmd.Twin`), and then

* twin commands on alike views have twin answers and leave alike views behind (`act_twin`);
* a handler that gets twin answers issues twin commands (`twins_handleSuccess`,
  `twins_handleFailure`).  Most of a handler is calls whose answers carry neither a reading nor
  an id, and there the two runs are literally the same (`twins_of_plain`).  What is left is the
  hash that `GetIncident` returns, the reading that a score is counted from, and the new
  incident with its alert, where the handler branches on none of what differs.

The two are put together by the rule for programs in lockstep, and the views of the monitor
are alike after the handlers have returned (`AllHandled.twins`).

## Two interleavings

A schedule of the handlers says whose call comes next and what the environment decides about
it.  By `others_look_away` the calls of the other handlers leave the view of `m` alone, so the
handler of `m` runs on that view as if it were alone (`AllHandled.alone`).  A retry counter that
runs out is the one thing that happens to a view with no call; `runsOut` says before which
calls of its own handler it does, and two interleavings are compared with it running out at
the same places.

`monitors_independent` collects the views of all monitors.  What no view holds is the rest of
the schedule, the members that are no ids, and `score_text_eq` says that both runs leave it.
-/

namespace Sofon

open Interleaving Program KeyValue

/-! ## The same up to clock readings and ids -/

/-- The same number, or the times of twin readings. -/
def Dated (T : Time → Time → Prop) (f : Time → ℤ) (x x' : ℤ) : Prop :=
  x = x' ∨ ∃ t t', T t t' ∧ x = f t ∧ x' = f t'

/-- The same id, or ids of twin rows. -/
def SameID (D : UUID → UUID → Prop) (d d' : UUID) : Prop := d = d' ∨ D d d'

structure IncidentHash.Alike (T : Time → Time → Prop) (h h' : IncidentHash) : Prop where
  failureCount : h.failureCount = h'.failureCount
  firstFailureAt : Option.Rel (Dated T Time.unix) h.firstFailureAt h'.firstFailureAt
  lastFailureAt : Option.Rel (Dated T Time.unix) h.lastFailureAt h'.lastFailureAt
  alerted : h.alerted = h'.alerted
  dbIncident : h.dbIncident = h'.dbIncident
  recoveredAlerted : h.recoveredAlerted = h'.recoveredAlerted

structure IncidentRow.Alike (T : Time → Time → Prop) (D : UUID → UUID → Prop)
    (row row' : IncidentRow) : Prop where
  id : SameID D row.id row'.id
  monitorID : row.monitorID = row'.monitorID
  startTime : Dated T Time.micros row.startTime row'.startTime
  endTime : Option.Rel (Dated T Time.micros) row.endTime row'.endTime
  alerted : row.alerted = row'.alerted
  httpStatus : row.httpStatus = row'.httpStatus
  latencyMs : row.latencyMs = row'.latencyMs

def AlertEvent.Alike (D : UUID → UUID → Prop) (ev ev' : AlertEvent) : Prop :=
  ∃ d, SameID D ev.incidentID d ∧ ev' = { ev with incidentID := d }

/-- The same score, or the same number of seconds after twin readings. -/
def SameScore (T : Time → Time → Prop) (x x' : ℤ) : Prop :=
  ∃ s, Dated T (fun t => Time.unix (Time.addSeconds t s)) x x'

structure View.Alike (T : Time → Time → Prop) (D : UUID → UUID → Prop) (v v' : View) : Prop where
  nextRun : Option.Rel (SameScore T) v.nextRun v'.nextRun
  incident : v.incident.Alike T v'.incident
  retry : v.retry = v'.retry
  status : v.status = v'.status
  incidents : List.Forall₂ (IncidentRow.Alike T D) v.incidents v'.incidents
  sent : List.Forall₂ (AlertEvent.Alike D) v.sent v'.sent

section Alike

variable {T : Time → Time → Prop} {D : UUID → UUID → Prop}

theorem Dated.refl (f : Time → ℤ) (x : ℤ) : Dated T f x x := Or.inl rfl

theorem Dated.of_twin {t t' : Time} (f : Time → ℤ) (h : T t t') : Dated T f (f t) (f t') :=
  Or.inr ⟨t, t', h, rfl, rfl⟩

theorem option_rel_refl {α : Type} {r : α → α → Prop} (h : ∀ a, r a a) (x : Option α) :
    Option.Rel r x x := by
  cases x with
  | none => exact .none
  | some a => exact .some (h a)

theorem option_rel_or {α : Type} {r : α → α → Prop} {a a' b b' : Option α}
    (ha : Option.Rel r a a') (hb : Option.Rel r b b') : Option.Rel r (a.or b) (a'.or b') := by
  cases ha with
  | none => exact hb
  | some h => exact .some h

theorem forall₂_refl {α : Type} {r : α → α → Prop} (h : ∀ a, r a a) (l : List α) :
    List.Forall₂ r l l := List.forall₂_same.mpr fun a _ => h a

theorem IncidentHash.Alike.refl (h : IncidentHash) : h.Alike T h :=
  ⟨rfl, option_rel_refl (Dated.refl _) _, option_rel_refl (Dated.refl _) _, rfl, rfl, rfl⟩

theorem IncidentRow.Alike.refl (row : IncidentRow) : row.Alike T D row :=
  ⟨Or.inl rfl, rfl, Dated.refl _ _, option_rel_refl (Dated.refl _) _, rfl, rfl, rfl⟩

theorem AlertEvent.Alike.refl (ev : AlertEvent) : ev.Alike D ev := ⟨_, Or.inl rfl, rfl⟩

theorem SameScore.refl (x : ℤ) : SameScore T x x := ⟨0, Dated.refl _ x⟩

theorem View.Alike.refl (v : View) : v.Alike T D v :=
  ⟨option_rel_refl SameScore.refl _, IncidentHash.Alike.refl _, rfl, rfl,
    forall₂_refl IncidentRow.Alike.refl _, forall₂_refl AlertEvent.Alike.refl _⟩

/-- Having fewer twins makes fewer things alike. -/
theorem IncidentRow.Alike.mono {D' : UUID → UUID → Prop} {row row' : IncidentRow}
    (h : row.Alike T D row') (hD : ∀ d d', D d d' → D' d d') : row.Alike T D' row' :=
  ⟨h.id.imp_right (hD _ _), h.monitorID, h.startTime, h.endTime, h.alerted, h.httpStatus,
    h.latencyMs⟩

theorem AlertEvent.Alike.mono {D' : UUID → UUID → Prop} {ev ev' : AlertEvent}
    (h : ev.Alike D ev') (hD : ∀ d d', D d d' → D' d d') : ev.Alike D' ev' := by
  obtain ⟨d, hd, rfl⟩ := h
  exact ⟨d, hd.imp_right (hD _ _), rfl⟩

theorem View.Alike.mono {D' : UUID → UUID → Prop} {v v' : View} (h : v.Alike T D v')
    (hD : ∀ d d', D d d' → D' d d') : v.Alike T D' v' :=
  ⟨h.nextRun, h.incident, h.retry, h.status, h.incidents.imp fun _ _ hrow => hrow.mono hD,
    h.sent.imp fun _ _ hev => hev.mono hD⟩

theorem IncidentHash.Alike.absent_iff {h h' : IncidentHash} (hh : h.Alike T h') :
    h = .absent ↔ h' = .absent := by
  obtain ⟨count, first, last, alerted, db, recovered⟩ := h
  obtain ⟨count', first', last', alerted', db', recovered'⟩ := h'
  obtain ⟨hcount, hfirst, hlast, halerted, hdb, hrecovered⟩ := hh
  simp only at hcount hfirst hlast halerted hdb hrecovered
  subst hcount halerted hdb hrecovered
  cases hfirst <;> cases hlast <;> simp [IncidentHash.absent]

/-- Alike rows are open at the same time. -/
theorem IncidentRow.Alike.openFor {m : UUID} {row row' : IncidentRow} (h : row.Alike T D row') :
    row.openFor m = row'.openFor m := by
  have hend : ∀ x x' : Option ℤ, Option.Rel (Dated T Time.micros) x x' →
      x.isNone = x'.isNone := by
    intro x x' hx
    cases hx <;> rfl
  rw [IncidentRow.openFor, IncidentRow.openFor, h.monitorID, hend _ _ h.endTime]

theorem IncidentRow.Alike.close {m : UUID} {row row' : IncidentRow} {t t' : Time}
    (h : row.Alike T D row') (ht : T t t') :
    (row.close m t.micros).Alike T D (row'.close m t'.micros) := by
  unfold IncidentRow.close
  rw [h.openFor (m := m)]
  split
  · exact ⟨h.id, h.monitorID, h.startTime, .some (Dated.of_twin _ ht), h.alerted, h.httpStatus,
      h.latencyMs⟩
  · exact h

/-- The open rows of alike tables are alike. -/
theorem forall₂_filter_openFor {m : UUID} {rows rows' : List IncidentRow}
    (h : List.Forall₂ (IncidentRow.Alike T D) rows rows') :
    List.Forall₂ (IncidentRow.Alike T D) (rows.filter (·.openFor m))
      (rows'.filter (·.openFor m)) := by
  induction h with
  | nil => exact .nil
  | @cons row row' rows rows' hrow _ ih =>
    rw [List.filter_cons, List.filter_cons, hrow.openFor]
    split
    · exact .cons hrow ih
    · exact ih

theorem View.Alike.fade {v v' : View} (h : v.Alike T D v') (b : Bool) :
    (v.fade b).Alike T D (v'.fade b) :=
  ⟨h.nextRun, h.incident, congrArg (Option.filter _) h.retry, h.status, h.incidents, h.sent⟩

end Alike

/-! ## Twin calls -/

/-- The time that `time.Now()` showed. -/
def Call.reading? : Call → Option Time
  | ⟨.timeNow, t⟩ => some t
  | _ => none

/-- The id that the database gave to a new incident. -/
def Call.inserted? : Call → Option UUID
  | ⟨.sql (.createMonitorIncident ..), .ok d⟩ => some d
  | _ => none

/-- What the calls of two runs get from outside is twin. -/
def Call.Inputs (T : Time → Time → Prop) (D : UUID → UUID → Prop) (e e' : Call) : Prop :=
  (∀ t t', e.reading? = some t → e'.reading? = some t' → T t t') ∧
    ∀ d d', e.inserted? = some d → e'.inserted? = some d' → D d d'

/-- The same command for `m`, or one that carries a twin reading or a twin id. -/
inductive Cmd.Twin (T : Time → Time → Prop) (D : UUID → UUID → Prop) (m : UUID) :
    Cmd → Cmd → Prop
  | timeNow : Twin T D m .timeNow .timeNow
  | ctxDone : Twin T D m .ctxDone .ctxDone
  | redis {c : RedisCmd} : Twin T D m (.redis c) (.redis c)
  | hSetFailureTimes {first : Bool} {t t' : Time} (h : T t t') : Twin T D m
      (.redis (.hSetFailureTimes m (if first then some t.unix else none) t.unix))
      (.redis (.hSetFailureTimes m (if first then some t'.unix else none) t'.unix))
  | zAdd {s : ℤ} {t t' : Time} (h : T t t') : Twin T D m
      (.redis (.zAdd [⟨(Time.addSeconds t s).unix, .id m⟩]))
      (.redis (.zAdd [⟨(Time.addSeconds t' s).unix, .id m⟩]))
  | createMonitorIncident {alerted : Bool} {status latency : ℤ} {t t' : Time} (h : T t t') :
      Twin T D m (.sql (.createMonitorIncident m alerted status latency t))
        (.sql (.createMonitorIncident m alerted status latency t'))
  | closeMonitorIncident {t t' : Time} (h : T t t') :
      Twin T D m (.sql (.closeMonitorIncident m t)) (.sql (.closeMonitorIncident m t'))
  | send {ev ev' : AlertEvent} (h : ev.Alike D ev') : Twin T D m (.send ev) (.send ev')

/-- What alike states answer to twin commands. -/
inductive Call.Twin (T : Time → Time → Prop) (D : UUID → UUID → Prop) : Call → Call → Prop
  | timeNow {t t' : Time} (h : T t t') : Twin T D ⟨.timeNow, t⟩ ⟨.timeNow, t'⟩
  | ctxDone {b : Bool} : Twin T D ⟨.ctxDone, b⟩ ⟨.ctxDone, b⟩
  | redis {c : RedisCmd} {x : Except RedisError c.Reply} :
      Twin T D ⟨.redis c, x⟩ ⟨.redis c, x⟩
  | hGetAllIncident {m : UUID} {h h' : IncidentHash} (hh : h.Alike T h') :
      Twin T D ⟨.redis (.hGetAllIncident m), .ok h⟩ ⟨.redis (.hGetAllIncident m), .ok h'⟩
  | hSetFailureTimes {m : UUID} {first first' : Option ℤ} {last last' : ℤ} :
      Twin T D ⟨.redis (.hSetFailureTimes m first last), .ok ()⟩
        ⟨.redis (.hSetFailureTimes m first' last'), .ok ()⟩
  | zAdd {items items' : List Z} :
      Twin T D ⟨.redis (.zAdd items), .ok ()⟩ ⟨.redis (.zAdd items'), .ok ()⟩
  | createMonitorIncident {m : UUID} {alerted : Bool} {status latency : ℤ} {t t' : Time}
      {d d' : UUID} (h : D d d') :
      Twin T D ⟨.sql (.createMonitorIncident m alerted status latency t), .ok d⟩
        ⟨.sql (.createMonitorIncident m alerted status latency t'), .ok d'⟩
  | nothingToClose {m : UUID} {t t' : Time} :
      Twin T D ⟨.sql (.closeMonitorIncident m t), .error .noRows⟩
        ⟨.sql (.closeMonitorIncident m t'), .error .noRows⟩
  | closeMonitorIncident {m : UUID} {t t' : Time} {d d' : UUID} (h : SameID D d d') :
      Twin T D ⟨.sql (.closeMonitorIncident m t), .ok d⟩
        ⟨.sql (.closeMonitorIncident m t'), .ok d'⟩
  | send {ev ev' : AlertEvent} : Twin T D ⟨.send ev, ()⟩ ⟨.send ev', ()⟩

section Twin

variable {T : Time → Time → Prop} {D : UUID → UUID → Prop} {m : UUID}

/-- The same Redis command does the same to alike views. -/
theorem act_redis_twin {v v' v₁ v₁' : View} {c : RedisCmd} {x x' : Except RedisError c.Reply}
    (hv : v.Alike T D v') (h : View.Act m v (.redis c) x v₁)
    (h' : View.Act m v' (.redis c) x' v₁') :
    Call.Twin T D ⟨.redis c, x⟩ ⟨.redis c, x'⟩ ∧ v₁.Alike T D v₁' := by
  obtain ⟨hnext, hhash, hretry, hstatus, hrows, hsent⟩ := hv
  cases h with
  | hIncrByFailureCount =>
    cases h'
    rw [hhash.failureCount]
    exact ⟨.redis, hnext, { hhash with failureCount := rfl }, hretry, hstatus, hrows, hsent⟩
  | hSetFailureTimes =>
    cases h'
    exact ⟨.redis, hnext, { hhash with
      firstFailureAt := option_rel_or (option_rel_refl (Dated.refl _) _) hhash.firstFailureAt
      lastFailureAt := .some (Dated.refl _ _) }, hretry, hstatus, hrows, hsent⟩
  | hSetNXAlerted =>
    cases h'
    rw [hhash.alerted]
    exact ⟨.redis, hnext, { hhash with alerted := rfl }, hretry, hstatus, hrows, hsent⟩
  | hSetNXRecoveredAlerted =>
    cases h'
    rw [hhash.recoveredAlerted]
    exact ⟨.redis, hnext, { hhash with recoveredAlerted := rfl }, hretry, hstatus, hrows, hsent⟩
  | hSetDBIncident =>
    cases h'
    exact ⟨.redis, hnext, { hhash with dbIncident := rfl }, hretry, hstatus, hrows, hsent⟩
  | hGetAllIncident =>
    cases h'
    exact ⟨.hGetAllIncident hhash, hnext, hhash, hretry, hstatus, hrows, hsent⟩
  | delIncident =>
    cases h'
    exact ⟨.redis, hnext, IncidentHash.Alike.refl _, hretry, hstatus, hrows, hsent⟩
  | incrRetry =>
    cases h'
    rw [hretry]
    exact ⟨.redis, hnext, hhash, rfl, hstatus, hrows, hsent⟩
  | expireRetry =>
    cases h'
    rw [hretry]
    exact ⟨.redis, hnext, hhash, rfl, hstatus, hrows, hsent⟩
  | delRetry =>
    cases h'
    exact ⟨.redis, hnext, hhash, rfl, hstatus, hrows, hsent⟩
  | hSetStatus =>
    cases h'
    exact ⟨.redis, hnext, hhash, hretry, rfl, hrows, hsent⟩
  | zAdd =>
    cases h'
    exact ⟨.redis, .some (SameScore.refl _), hhash, hretry, hstatus, hrows, hsent⟩

/-- **Twin commands have twin answers** on alike views, and leave alike views behind. -/
theorem act_twin {v v' v₁ v₁' : View} {c c' : Cmd} {r : c.Resp} {r' : c'.Resp}
    (hv : v.Alike T D v') (hc : Cmd.Twin T D m c c') (h : View.Act m v c r v₁)
    (h' : View.Act m v' c' r' v₁') (hin : Call.Inputs T D ⟨c, r⟩ ⟨c', r'⟩) :
    Call.Twin T D ⟨c, r⟩ ⟨c', r'⟩ ∧ v₁.Alike T D v₁' := by
  cases hc with
  | timeNow =>
    cases h
    cases h'
    exact ⟨.timeNow (hin.1 _ _ rfl rfl), hv⟩
  | ctxDone =>
    cases h
    cases h'
    exact ⟨.ctxDone, hv⟩
  | redis => exact act_redis_twin hv h h'
  | @hSetFailureTimes first t t' ht =>
    cases h
    cases h'
    have hlast : Dated T Time.unix t.unix t'.unix := Dated.of_twin _ ht
    have hfirst : Option.Rel (Dated T Time.unix) (if first then some t.unix else none)
        (if first then some t'.unix else none) := by
      cases first
      · exact .none
      · exact .some hlast
    exact ⟨.hSetFailureTimes, hv.nextRun, { hv.incident with
      firstFailureAt := option_rel_or hfirst hv.incident.firstFailureAt
      lastFailureAt := .some hlast }, hv.retry, hv.status, hv.incidents, hv.sent⟩
  | @zAdd s t t' ht =>
    cases h
    cases h'
    have hscore : SameScore T (Time.addSeconds t s).unix (Time.addSeconds t' s).unix :=
      ⟨s, Dated.of_twin (fun t => (Time.addSeconds t s).unix) ht⟩
    exact ⟨.zAdd, .some hscore, hv.incident, hv.retry, hv.status, hv.incidents, hv.sent⟩
  | createMonitorIncident ht =>
    cases h
    cases h'
    have hid := hin.2 _ _ rfl rfl
    refine ⟨.createMonitorIncident hid, hv.nextRun, hv.incident, hv.retry, hv.status, ?_,
      hv.sent⟩
    exact List.rel_append hv.incidents
      (.cons ⟨Or.inr hid, rfl, Dated.of_twin _ ht, .none, rfl, rfl, rfl⟩ .nil)
  | closeMonitorIncident ht =>
    have hopen := forall₂_filter_openFor (m := m) hv.incidents
    cases h with
    | nothingToClose hnone =>
      cases h' with
      | nothingToClose => exact ⟨.nothingToClose, hv⟩
      | closeMonitorIncident hsome =>
        rw [hnone, hsome] at hopen
        cases hopen
    | closeMonitorIncident hsome =>
      cases h' with
      | nothingToClose hnone =>
        rw [hnone, hsome] at hopen
        cases hopen
      | closeMonitorIncident hsome' =>
        rw [hsome, hsome'] at hopen
        obtain _ | ⟨hrow, -⟩ := hopen
        have hrows := List.rel_map (fun _ _ hrow => hrow.close (m := m) ht) hv.incidents
        exact ⟨.closeMonitorIncident hrow.id, hv.nextRun, hv.incident, hv.retry, hv.status,
          hrows, hv.sent⟩
  | send hev =>
    cases h
    cases h'
    exact ⟨.send, hv.nextRun, hv.incident, hv.retry, hv.status, hv.incidents,
      List.rel_append hv.sent (.cons hev .nil)⟩

/-! ## Twin programs -/

variable {α β : Type}

/-- The two programs make twin calls of `m` as long as they get twin answers. -/
abbrev TwinProgs (T : Time → Time → Prop) (D : UUID → UUID → Prop) (m : UUID)
    (post : α → β → Prop) : Prog α → Prog β → Prop :=
  Program.Twins (Cmd.Twin T D m) (Call.Twin T D) post

/-- The calls whose answers carry no reading and no id. -/
def Cmd.Plain : Cmd → Prop
  | ctxDone => True
  | redis (.hGetAllIncident _) => False
  | redis _ => True
  | _ => False

theorem Call.Twin.eq_of_plain {c : Cmd} {x x' : c.Resp} (h : Call.Twin T D ⟨c, x⟩ ⟨c, x'⟩)
    (hc : c.Plain) : x = x' := by
  cases h with
  | ctxDone | redis | hSetFailureTimes | zAdd => rfl
  | timeNow | hGetAllIncident | createMonitorIncident | nothingToClose | closeMonitorIncident
  | send => exact hc.elim

theorem twins_of_plain {p : Prog α} (hp : p.Only Cmd.Plain) : TwinProgs T D m Eq p p := by
  refine hp.twins fun c hc => ⟨?_, fun _ _ h => h.eq_of_plain hc⟩
  cases c with
  | ctxDone => exact .ctxDone
  | redis c => exact .redis
  | timeNow | sql _ | send _ | offer _ => exact hc.elim

theorem twins_retry {fn fn' : Prog (Except RedisError α)} (hfn : TwinProgs T D m Eq fn fn')
    (n : ℕ) : TwinProgs T D m Eq (RedisClient.retry n fn) (RedisClient.retry n fn') := by
  have hloop : ∀ err, TwinProgs T D m Eq (RedisClient.retryLoop fn n err)
      (RedisClient.retryLoop fn' n err) := by
    induction n with
    | zero => exact fun _ => rfl
    | succ n ih =>
      intro err
      refine hfn.bind fun x x' hx => ?_
      subst hx
      cases x with
      | ok a => rfl
      | error e =>
        refine ⟨.ctxDone, fun b b' hb => ?_⟩
        cases hb
        cases b with
        | true => rfl
        | false => exact ih (.error e)
  exact hloop _

theorem twins_scheduleMonitor (s : ℤ) : TwinProgs T D m (fun _ _ => True)
    (MonitorService.scheduleMonitor m s) (MonitorService.scheduleMonitor m s) := by
  have hadd : ∀ items items', Cmd.Twin T D m (.redis (.zAdd items)) (.redis (.zAdd items')) →
      TwinProgs T D m Eq (call (.redis (.zAdd items))) (call (.redis (.zAdd items'))) := by
    intro items items' hc
    refine ⟨hc, fun x x' hx => ?_⟩
    cases hx <;> rfl
  refine ⟨.timeNow, fun t t' h => ?_⟩
  cases h with
  | @timeNow t t' ht =>
    have hc : Cmd.Twin T D m (.redis (.zAdd [⟨(Time.addSeconds t s).unix, .id m⟩]))
        (.redis (.zAdd [⟨(Time.addSeconds t' s).unix, .id m⟩])) := .zAdd ht
    have honce := hadd _ _ hc
    have hschedule : TwinProgs T D m Eq (RedisClient.schedule (.id m) (Time.addSeconds t s))
        (RedisClient.schedule (.id m) (Time.addSeconds t' s)) := twins_retry honce 3
    exact hschedule.bind fun _ _ _ => trivial

theorem twins_incrementIncident : TwinProgs T D m Eq (RedisClient.incrementIncident m)
    (RedisClient.incrementIncident m) := by
  have honce : ∀ t t', T t t' → TwinProgs T D m Eq (RedisClient.incrementIncidentOnce m t.unix)
      (RedisClient.incrementIncidentOnce m t'.unix) := by
    intro t t' ht
    refine ⟨.redis, fun x x' hx => ?_⟩
    obtain rfl : x = x' := hx.eq_of_plain trivial
    cases x with
    | error e => rfl
    | ok n =>
      show TwinProgs T D m Eq (if n = 1 then _ else _) (if n = 1 then _ else _)
      split
      · exact ⟨@Cmd.Twin.hSetFailureTimes T D m true t t' ht, fun _ _ _ => rfl⟩
      · exact ⟨@Cmd.Twin.hSetFailureTimes T D m false t t' ht, fun _ _ _ => rfl⟩
  refine ⟨.timeNow, fun t t' h => ?_⟩
  cases h with
  | timeNow ht => exact twins_retry (honce _ _ ht) 3

/-- What two runs of `GetIncident` return. -/
inductive SameIncident (T : Time → Time → Prop) :
    Except RedisError (Option IncidentHash) → Except RedisError (Option IncidentHash) → Prop
  | absent : SameIncident T (.ok none) (.ok none)
  | found {h h' : IncidentHash} (hh : h.Alike T h') : SameIncident T (.ok (some h)) (.ok (some h'))

theorem twins_getIncident : TwinProgs T D m (SameIncident T) (RedisClient.getIncident m)
    (RedisClient.getIncident m) := by
  have hread : ∀ h h' : IncidentHash, h.Alike T h' → TwinProgs T D m (SameIncident T)
      (if h = .absent then return .ok none else return .ok (some h))
      (if h' = .absent then return .ok none else return .ok (some h')) := by
    intro h h' hh
    by_cases habsent : h = .absent
    · rw [if_pos habsent, if_pos (hh.absent_iff.mp habsent)]
      exact .absent
    · rw [if_neg habsent, if_neg (mt hh.absent_iff.mpr habsent)]
      exact .found hh
  refine ⟨.redis, fun x x' hx => ?_⟩
  cases hx with
  | redis =>
    cases x with
    | error e => exact .absent
    | ok h => exact hread h h (IncidentHash.Alike.refl h)
  | hGetAllIncident hh => exact hread _ _ hh

/-- The alert of a new incident carries its id, and nothing depends on it. -/
theorem twins_alertDown {r : HTTPResult} : TwinProgs T D r.monitorID (fun _ _ => True)
    (ResultProcessor.alertDown r) (ResultProcessor.alertDown r) := by
  refine ⟨.timeNow, fun t t' h => ?_⟩
  cases h with
  | timeNow ht =>
    refine ⟨.createMonitorIncident ht, fun x x' hx => ?_⟩
    cases hx with
    | createMonitorIncident hd =>
      refine ⟨.redis, fun _ _ _ => ⟨.send ⟨_, Or.inr hd, rfl⟩, fun _ _ _ => trivial⟩⟩

theorem twins_failurePath {cfg : ResultProcessorConfig} {r : HTTPResult} :
    TwinProgs T D r.monitorID (fun _ _ => True) (ResultProcessor.failurePath cfg r)
      (ResultProcessor.failurePath cfg r) := by
  refine twins_incrementIncident.bind fun x x' hx => ?_
  subst hx
  cases x with
  | error e => trivial
  | ok y =>
    show TwinProgs T D r.monitorID _ (if y.1 < cfg.failureThreshold then _ else _)
      (if y.1 < cfg.failureThreshold then _ else _)
    split
    · trivial
    · refine ⟨.redis, fun z z' hz => ?_⟩
      obtain rfl : z = z' := hz.eq_of_plain trivial
      rcases z with err | _ | _
      · trivial
      · trivial
      · exact twins_alertDown

theorem twins_storeStatus {r : HTTPResult} : TwinProgs T D m Eq
    (RedisClient.storeStatus r.monitorID r.status r.latencyMs r.checkedAt)
    (RedisClient.storeStatus r.monitorID r.status r.latencyMs r.checkedAt) :=
  twins_of_plain (RedisClient.only_retry_call _ trivial trivial 2)

theorem twins_retryPath {cfg : ResultProcessorConfig} {r : HTTPResult} :
    TwinProgs T D r.monitorID Eq (ResultProcessor.retryPath cfg r)
      (ResultProcessor.retryPath cfg r) := by
  rw [ResultProcessor.retryPath]
  split
  · have hincr : (RedisClient.incrementRetry r.monitorID).Only Cmd.Plain :=
      RedisClient.only_incrementRetry _ trivial trivial trivial
    refine (twins_of_plain hincr).bind fun x x' hx => ?_
    subst hx
    cases x with
    | error err => exact (twins_scheduleMonitor _).bind fun _ _ _ => rfl
    | ok count =>
      show TwinProgs T D r.monitorID Eq (if count ≤ cfg.retryLimit then _ else _)
        (if count ≤ cfg.retryLimit then _ else _)
      split
      · exact (twins_scheduleMonitor _).bind fun _ _ _ => rfl
      · have hclear : (RedisClient.clearRetry r.monitorID).Only Cmd.Plain :=
          RedisClient.only_retry_call _ trivial trivial 2
        exact (twins_of_plain hclear).bind fun _ _ _ => rfl
  · exact rfl

theorem twins_handleFailure {cfg : ResultProcessorConfig} {r : HTTPResult} :
    TwinProgs T D r.monitorID (fun _ _ => True) (ResultProcessor.handleFailure cfg r)
      (ResultProcessor.handleFailure cfg r) := by
  have hbody : TwinProgs T D r.monitorID Eq (ResultProcessor.handleFailureBody cfg r)
      (ResultProcessor.handleFailureBody cfg r) := by
    rw [ResultProcessor.handleFailureBody]
    split
    · exact twins_storeStatus.bind fun _ _ _ => rfl
    · refine twins_retryPath.bind fun x x' hx => ?_
      subst hx
      cases x with
      | some b => exact rfl
      | none => exact twins_failurePath.bind fun _ _ _ => rfl
  refine hbody.bind fun b b' hb => ?_
  subst hb
  cases b with
  | false => trivial
  | true => exact twins_scheduleMonitor _

/-- A success puts no row into the table, so the id that it closes is the same. -/
theorem twins_handleSuccess {r : HTTPResult} :
    TwinProgs T (fun _ _ => False) r.monitorID (fun _ _ => True)
      (ResultProcessor.handleSuccess r) (ResultProcessor.handleSuccess r) := by
  have hcleanup : TwinProgs T (fun _ _ => False) r.monitorID Eq (ResultProcessor.cleanup r)
      (ResultProcessor.cleanup r) :=
    twins_of_plain ((RedisClient.only_retry_call _ trivial trivial 2).bind fun _ =>
      (RedisClient.only_retry_call _ trivial trivial 2).bind fun _ => trivial)
  have halert : ∀ d, TwinProgs T (fun _ _ => False) r.monitorID Eq
      (ResultProcessor.alertRecovered r d) (ResultProcessor.alertRecovered r d) := by
    intro d
    rw [ResultProcessor.alertRecovered]
    split
    · refine ⟨.redis, fun z z' hz => ?_⟩
      obtain rfl : z = z' := hz.eq_of_plain trivial
      rcases z with err | _ | _
      · exact rfl
      · exact rfl
      · exact ⟨.send (AlertEvent.Alike.refl _), fun _ _ _ => rfl⟩
    · exact rfl
  have hbody : TwinProgs T (fun _ _ => False) r.monitorID Eq (ResultProcessor.handleSuccessBody r)
      (ResultProcessor.handleSuccessBody r) := by
    refine twins_storeStatus.bind fun _ _ _ => twins_getIncident.bind fun x x' hx => ?_
    cases hx with
    | absent => exact rfl
    | @found h h' hh =>
      show TwinProgs T _ r.monitorID Eq (if h.dbIncident = some true then _ else _)
        (if h'.dbIncident = some true then _ else _)
      rw [hh.dbIncident]
      split
      · refine ⟨.timeNow, fun t t' ht => ?_⟩
        cases ht with
        | timeNow ht =>
          refine ⟨.closeMonitorIncident ht, fun y y' hy => ?_⟩
          cases hy with
          | nothingToClose => exact hcleanup
          | @closeMonitorIncident _ _ _ d d' hd =>
            obtain rfl : d = d' := hd.resolve_right id
            exact (halert d).bind fun _ _ _ => hcleanup
      · exact hcleanup
  exact hbody.bind fun _ _ _ => twins_scheduleMonitor _

end Twin

/-! ## Two interleavings -/

/-- The handlers of the results, interleaved as the schedule says, all return, and no call
of theirs fails. -/
structure AllHandled (cfg : ResultProcessorConfig) (w : World) (rs : List HTTPResult)
    (S : List (ℕ × Env)) (p : Pool Cmd Cmd.Resp Unit World) : Prop where
  play : Pool.play (World.exec false) (fun _ _ e => !Call.failed e) S
    (Pool.start w (rs.map (ResultProcessor.handle cfg))) = some p
  finished : p.Finished

/-- The same call of the same handler got `a` in the one run and `a'` in the other. -/
def SameInput {α : Type} (get : Call → Option α) (p p' : Pool Cmd Cmd.Resp Unit World)
    (a a' : α) : Prop :=
  ∃ (i j : ℕ) (t t' : Thread Cmd Cmd.Resp Unit) (e e' : Call),
    p.threads[i]? = some t ∧ p'.threads[i]? = some t' ∧ t.log[j]? = some e ∧
      t'.log[j]? = some e' ∧ get e = some a ∧ get e' = some a'

/-- Before which of the calls of the handler of `m` the retry counter of `m` may run out. -/
def runsOut (rs : List HTTPResult) (m : UUID) (S : List (ℕ × Env)) : ℕ → Bool :=
  (monitorWindow m).fadings (rs.findIdx (·.monitorID = m)) S

/-- What Redis, the incidents and the alerts of two runs have in common. -/
structure World.Alike (T : Time → Time → Prop) (D : UUID → UUID → Prop) (w w' : World) :
    Prop where
  schedule : ∀ x, Option.Rel (SameScore T) (w.redis.schedule.score x) (w'.redis.schedule.score x)
  incident : ∀ m, (w.redis.incident m).Alike T (w'.redis.incident m)
  retry : w.redis.retry = w'.redis.retry
  status : w.redis.status = w'.redis.status
  incidents : Multiset.Rel (IncidentRow.Alike T D) w.db.incidents w'.db.incidents
  sent : Multiset.Rel (AlertEvent.Alike D) w.sent w'.sent

section Interleavings

variable {cfg : ResultProcessorConfig} {w : World} {rs : List HTTPResult}
  {S S' : List (ℕ × Env)} {p p' : Pool Cmd Cmd.Resp Unit World} {m : UUID}

theorem start_threads (w : World) (rs : List HTTPResult) (i : ℕ) :
    (Pool.start w (rs.map (ResultProcessor.handle cfg))).threads[i]? =
      rs[i]?.map fun r => ⟨ResultProcessor.handle cfg r, []⟩ := by
  simp [Pool.start, Function.comp_def]

theorem start_thread_of {i : ℕ} {t : Thread Cmd Cmd.Resp Unit}
    (h : (Pool.start w (rs.map (ResultProcessor.handle cfg))).threads[i]? = some t) :
    ∃ r, rs[i]? = some r ∧ t.todo.Only (Cmd.About r.monitorID) := by
  rw [start_threads, Option.map_eq_some_iff] at h
  obtain ⟨r, hr, rfl⟩ := h
  exact ⟨r, hr, only_handle cfg r⟩

/-- The handlers of the other results leave the view of `m` alone. -/
theorem others_look_away (hdistinct : (rs.map (·.monitorID)).Nodup) {i j : ℕ} {r : HTTPResult}
    {t : Thread Cmd Cmd.Resp Unit} (hr : rs[i]? = some r) (hne : j ≠ i)
    (ht : (Pool.start w (rs.map (ResultProcessor.handle cfg))).threads[j]? = some t) :
    t.todo.Only (monitorWindow r.monitorID).other := by
  obtain ⟨r', hr', honly⟩ := start_thread_of ht
  refine honly.mono fun c hc => ⟨r'.monitorID, fun heq => hne ?_, hc⟩
  have hlt : j < (rs.map (·.monitorID)).length := by
    rw [List.length_map]
    exact (List.getElem?_eq_some_iff.mp hr').1
  refine (List.getElem?_inj hlt hdistinct).mp ?_
  rw [List.getElem?_map, List.getElem?_map, hr, hr', Option.map_some, Option.map_some, heq]

/-- The handler of one result, seen from its monitor. -/
theorem AllHandled.alone (h : AllHandled cfg w rs S p)
    (hdistinct : (rs.map (·.monitorID)).Nodup) {i : ℕ} {r : HTTPResult} (hr : rs[i]? = some r) :
    ∃ t, p.threads[i]? = some t ∧ (monitorWindow r.monitorID).Alone (w.view r.monitorID)
      (ResultProcessor.handle cfg r) ((monitorWindow r.monitorID).fadings i S) t.log
      (p.shared.view r.monitorID) := by
  have hstart : (Pool.start w (rs.map (ResultProcessor.handle cfg))).threads[i]? =
      some ⟨ResultProcessor.handle cfg r, []⟩ := by
    rw [start_threads, hr]
    rfl
  obtain ⟨t, log, ht, hlog, halone⟩ := Window.alone_of_play (W := monitorWindow r.monitorID)
    (fun _ _ _ hok => hok) h.play h.finished hstart (only_handle cfg r) fun j u hj hu =>
      others_look_away hdistinct hr hj hu
  obtain rfl : t.log = log := hlog
  exact ⟨t, ht, halone⟩

/-- The handler of a success inserts no incident. -/
theorem inserted?_of_success {r : HTTPResult} (hr : r.success = true) :
    (ResultProcessor.handle cfg r).Only fun c => ∀ x, Call.inserted? ⟨c, x⟩ = none := by
  rw [ResultProcessor.handle, if_pos hr]
  have hbody : (ResultProcessor.handleSuccessBody r).Only fun c =>
      ∀ x, Call.inserted? ⟨c, x⟩ = none :=
    ResultProcessor.only_handleSuccessBody _ (fun _ => rfl) (fun _ => rfl) (fun _ _ => rfl)
      (fun _ => rfl) (fun _ _ => rfl) (fun _ => rfl) (fun _ _ => rfl) (fun _ => rfl)
      fun _ => rfl
  exact hbody.bind fun _ =>
    MonitorService.only_scheduleMonitor _ (fun _ => rfl) (fun _ => rfl) (fun _ _ => rfl) _

/-- What two runs of the handler of one result leave of its monitor. -/
theorem AllHandled.twins (h : AllHandled cfg w rs S p) (h' : AllHandled cfg w rs S' p')
    (hdistinct : (rs.map (·.monitorID)).Nodup) {i : ℕ} {r : HTTPResult} (hr : rs[i]? = some r)
    (hout : (monitorWindow r.monitorID).fadings i S = (monitorWindow r.monitorID).fadings i S') :
    (p.shared.view r.monitorID).Alike (SameInput Call.reading? p p')
      (SameInput Call.inserted? p p') (p'.shared.view r.monitorID) := by
  obtain ⟨t, ht, halone⟩ := h.alone hdistinct hr
  obtain ⟨t', ht', halone'⟩ := h'.alone hdistinct hr
  rw [← hout] at halone'
  have hreadings : ∀ (j : ℕ) (e e' : Call), t.log[j]? = some e → t'.log[j]? = some e' →
      ∀ x x', e.reading? = some x → e'.reading? = some x' →
        SameInput Call.reading? p p' x x' := fun j e e' he he' _ _ hx hx' =>
    ⟨i, j, t, t', e, e', ht, ht', he, he', hx, hx'⟩
  cases hsuccess : r.success with
  | true =>
    -- no row is inserted, so the ids are the same
    have hnone := halone.only (inserted?_of_success hsuccess)
    have htwins := twins_handleSuccess (T := SameInput Call.reading? p p') (r := r)
    have hhandle : ResultProcessor.handle cfg r = ResultProcessor.handleSuccess r := by
      rw [ResultProcessor.handle, if_pos hsuccess]
    rw [hhandle] at halone halone'
    have hview := halone.twins halone' htwins (View.Alike.refl _)
      (fun b _ _ hv => hv.fade b) (fun _ _ _ _ _ _ _ _ => act_twin) fun j e e' he he' =>
        ⟨hreadings j e e' he he', fun d _ hd _ => by
          rw [hnone e (List.mem_of_getElem? he) e.resp] at hd
          cases hd⟩
    exact hview.mono fun _ _ => False.elim
  | false =>
    have htwins : TwinProgs (SameInput Call.reading? p p') (SameInput Call.inserted? p p')
        r.monitorID (fun _ _ => True) (ResultProcessor.handleFailure cfg r)
        (ResultProcessor.handleFailure cfg r) := twins_handleFailure
    have hhandle : ResultProcessor.handle cfg r = ResultProcessor.handleFailure cfg r := by
      rw [ResultProcessor.handle, hsuccess]
      rfl
    rw [hhandle] at halone halone'
    exact halone.twins halone' htwins (View.Alike.refl _)
      (fun b _ _ hv => hv.fade b) (fun _ _ _ _ _ _ _ _ => act_twin) fun j e e' he he' =>
        ⟨hreadings j e e' he he', fun _ _ hd hd' => ⟨i, j, t, t', e, e', ht, ht', he, he', hd, hd'⟩⟩

/-- What there is of one monitor does not depend on the interleaving. -/
theorem view_alike (hdistinct : (rs.map (·.monitorID)).Nodup) (h : AllHandled cfg w rs S p)
    (h' : AllHandled cfg w rs S' p') (hout : runsOut rs m S = runsOut rs m S') :
    (p.shared.view m).Alike (SameInput Call.reading? p p') (SameInput Call.inserted? p p')
      (p'.shared.view m) := by
  unfold runsOut at hout
  cases hr : rs[rs.findIdx (·.monitorID = m)]? with
  | none =>
    -- no result is one of `m`
    have hnone : ∀ r ∈ rs, r.monitorID ≠ m := by
      intro r hmem heq
      have hlt := List.findIdx_lt_length_of_exists (p := fun r => r.monitorID = m)
        ⟨r, hmem, decide_eq_true heq⟩
      rw [List.getElem?_eq_none_iff] at hr
      omega
    have haway : ∀ (j : ℕ) (t : Thread Cmd Cmd.Resp Unit),
        (Pool.start w (rs.map (ResultProcessor.handle cfg))).threads[j]? = some t →
          t.todo.Only (monitorWindow m).other := by
      intro j t ht
      obtain ⟨r, hr, honly⟩ := start_thread_of ht
      exact honly.mono fun c hc => ⟨_, hnone r (List.mem_of_getElem? hr), hc⟩
    have hstart : (Pool.start w (rs.map (ResultProcessor.handle cfg))).threads[
        rs.findIdx (·.monitorID = m)]? = none := by
      rw [start_threads, hr]
      rfl
    have hlook := Window.look_of_play h.play hstart haway
    have hlook' := Window.look_of_play h'.play hstart haway
    rw [← hout] at hlook'
    have hsame : p.shared.view m = p'.shared.view m := hlook.trans hlook'.symm
    rw [hsame]
    exact View.Alike.refl _
  | some r =>
    obtain ⟨hlt, rfl⟩ := List.getElem?_eq_some_iff.mp hr
    have hm : (rs[rs.findIdx (·.monitorID = m)]).monitorID = m :=
      of_decide_eq_true (List.findIdx_getElem (p := fun r : HTTPResult => r.monitorID = m))
    have halike := h.twins h' hdistinct hr
    rw [hm] at halike
    exact halike hout

theorem score_text_of_about {c : Cmd} (hc : c.About m) (e : Env) (w : World) (s : String) :
    (w.exec false e c).2.redis.schedule.score (.text s) = w.redis.schedule.score (.text s) := by
  cases c with
  | timeNow | ctxDone | send _ => rfl
  | offer job => exact hc.elim
  | sql q =>
    cases hfails : e.fails <;> simp [World.exec, hfails]
  | redis c =>
    cases hfails : e.fails with
    | true => simp [World.exec, hfails]
    | false =>
      simp only [World.exec, hfails, Bool.false_eq_true, if_false]
      cases c with
      | zAdd items =>
        obtain ⟨score, rfl⟩ := hc
        have hne : Member.text s ∉ [(⟨score, .id m⟩ : Z)].map Scored.member := by simp
        simp only [Redis.exec, SortedSet.score_add_of_not_mem hne, World.expire_schedule]
      | hSetNXAlerted m' | hSetNXRecoveredAlerted m' =>
        simp only [Redis.exec]
        split <;> rfl
      | _ => first | exact hc.elim | rfl

/-- What the schedule says of a member that is no id. -/
def textWindow (s : String) : Window (World.exec false) (fun e : Call => !e.failed) (Option ℤ) where
  own _ := False
  other c := ∃ m, c.About m
  look w := w.redis.schedule.score (.text s)
  fade _ v := v
  fades _ := false
  act _ _ _ _ := False
  fade_false _ := rfl
  fade_fade _ _ _ := rfl
  look_own _ _ _ hc := hc.elim
  look_other e w _ hc := score_text_of_about hc.choose_spec e w s

/-- Both runs leave the members that are no ids alone. -/
theorem score_text_eq (h : AllHandled cfg w rs S p) (h' : AllHandled cfg w rs S' p') (s : String) :
    p.shared.redis.schedule.score (.text s) = p'.shared.redis.schedule.score (.text s) := by
  have hend : (Pool.start w (rs.map (ResultProcessor.handle cfg))).threads[rs.length]? = none := by
    rw [start_threads, List.getElem?_eq_none (le_refl _)]
    rfl
  have haway : ∀ (j : ℕ) (t : Thread Cmd Cmd.Resp Unit),
      (Pool.start w (rs.map (ResultProcessor.handle cfg))).threads[j]? = some t →
        t.todo.Only (textWindow s).other := by
    intro j t ht
    obtain ⟨r, -, honly⟩ := start_thread_of ht
    exact honly.mono fun _ hc => ⟨_, hc⟩
  have hlook := Window.look_of_play h.play hend haway
  have hlook' := Window.look_of_play h'.play hend haway
  exact hlook.trans hlook'.symm

end Interleavings

/-- **Monitors do not interfere.**  The handlers of results of distinct monitors leave the
same behind in any two interleavings, one after another in some order being one of them:
the same schedule, incident hashes, retry counters and status hashes, and the same
incidents and alerts, each as often.  The same is up to the readings of the clock and the
ids of new rows that the same call of the same handler got in the two runs; it is also a
matter of the clock when a retry counter runs out, and that is to happen at the same
points of its handler. -/
theorem monitors_independent {cfg : ResultProcessorConfig} {w : World} {rs : List HTTPResult}
    {S S' : List (ℕ × Env)} {p p' : Pool Cmd Cmd.Resp Unit World}
    (hdistinct : (rs.map (·.monitorID)).Nodup) (h : AllHandled cfg w rs S p)
    (h' : AllHandled cfg w rs S' p') (hout : ∀ m, runsOut rs m S = runsOut rs m S') :
    p.shared.Alike (SameInput Call.reading? p p') (SameInput Call.inserted? p p') p'.shared := by
  have hview := fun m => view_alike hdistinct h h' (hout m)
  constructor
  case schedule =>
    intro x
    cases x with
    | id m => exact (hview m).nextRun
    | text s =>
      rw [score_text_eq h h' s]
      exact option_rel_refl SameScore.refl _
  case incident => exact fun m => (hview m).incident
  case retry => exact funext fun m => (hview m).retry
  case status => exact funext fun m => (hview m).status
  case incidents =>
    exact List.rel_of_filter (fun _ _ hrow => hrow.monitorID) fun m => (hview m).incidents
  case sent =>
    have hkey : ∀ ev ev' : AlertEvent, ev.Alike (SameInput Call.inserted? p p') ev' →
        ev.monitorID = ev'.monitorID := by
      rintro ev _ ⟨d, -, rfl⟩
      rfl
    exact List.rel_of_filter hkey fun m => (hview m).sent

/-! ## Three monitors -/

/-- One check fails, one times out, and one passes. -/
def Sample.neighbours : List HTTPResult :=
  [failing, { hanging with monitorID := 2 }, { passing with monitorID := 3 }]

/-- The schedule of these moves, at the time `t`. -/
def Sample.movesAt (t : Time) (is : List ℕ) : List (ℕ × Env) :=
  is.map fun i => (i, { (default : Env) with now := t })

/-- The handlers take turns. -/
def Sample.takingTurns : List (ℕ × Env) :=
  movesAt 0 [0, 1, 2, 0, 1, 2, 0, 1, 2, 0, 1, 2] ++ movesAt 5 [0, 0, 0, 0, 0, 0]

/-- One after the other, and the first one last. -/
def Sample.oneByOne : List (ℕ × Env) :=
  movesAt 7 [2, 2, 2, 2, 1, 1, 1, 1] ++ movesAt 9 [0, 0, 0, 0, 0, 0, 0, 0, 0, 0]

theorem Sample.runsOut_movesAt (m : UUID) (t t' : Time) (is js : List ℕ) :
    runsOut neighbours m (movesAt t is ++ movesAt t' js) = fun _ => false := by
  refine Window.fadings_of_never fun x hx => ?_
  simp only [movesAt, List.mem_append, List.mem_map] at hx
  obtain ⟨i, -, rfl⟩ | ⟨i, -, rfl⟩ := hx <;> rfl

theorem Sample.allHandled_of_play {S : List (ℕ × Env)}
    (h : (Pool.play (World.exec false) (fun _ _ e => !Call.failed e) S (Pool.start world
      (neighbours.map (ResultProcessor.handle Config.least.resultProcessor)))).any
        fun p => p.threads.all fun t => t.todo.returned) :
    ∃ p, AllHandled Config.least.resultProcessor world neighbours S p := by
  obtain ⟨p, hp, hcheck⟩ := (Option.any_eq_true _ _).mp h
  exact ⟨p, hp, Pool.finished_of_all hcheck⟩

theorem monitors_independent_sample : ∃ p p' : Pool Cmd Cmd.Resp Unit World,
    AllHandled Config.least.resultProcessor Sample.world Sample.neighbours Sample.takingTurns p ∧
      AllHandled Config.least.resultProcessor Sample.world Sample.neighbours Sample.oneByOne p' ∧
        p.shared.Alike (SameInput Call.reading? p p') (SameInput Call.inserted? p p')
          p'.shared := by
  obtain ⟨p, hp⟩ := Sample.allHandled_of_play (S := Sample.takingTurns) (by decide)
  obtain ⟨p', hp'⟩ := Sample.allHandled_of_play (S := Sample.oneByOne) (by decide)
  refine ⟨p, p', hp, hp', monitors_independent (by decide) hp hp' fun m => ?_⟩
  rw [Sample.takingTurns, Sample.oneByOne, Sample.runsOut_movesAt, Sample.runsOut_movesAt]

end Sofon
