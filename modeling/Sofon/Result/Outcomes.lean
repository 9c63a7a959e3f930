import Sofon.Result.Outage

/-!
# What a handler does to the record of an outage

A handler run takes the record to one of a few others, whichever of its calls
fail, and this file says to which:

* `FailureOutcome`: the failure is not counted, or it is counted and that is all,
  or the alert flag is claimed and the insert fails, or the outage is reported;
* `SuccessOutcome`: the record is kept, or the hash is dropped with no incident
  to close, or the open incidents are closed.

`failureOutcome_of_exec` and `successOutcome_of_exec` are the two inversion
lemmas.  Everything proved about sequences of results starts from them, and no
later proof looks into a handler.

The outcomes keep what the trace says about the failures that led to them
(`FailedAt`), because the statements about partial failures are conditions on
exactly those.
-/

namespace Sofon

open Interleaving Program

/-- The row that `MonitorIncidentRepository.Create` inserts. -/
def IncidentRow.opened (id : UUID) (now : Time) (r : HTTPResult) : IncidentRow :=
  ⟨id, r.monitorID, now.micros, none, true, toInt32 r.status, toInt32 r.latencyMs⟩

theorem IncidentRow.openFor_opened (id : UUID) (now : Time) (r : HTTPResult) (m : UUID) :
    (opened id now r).openFor m = (r.monitorID = m : Bool) := Bool.and_true _

namespace Outage

/-- The record with a new incident row. -/
def insert (row : IncidentRow) (o : Outage) : Outage :=
  { o with db := { o.db with incidents := o.db.incidents ++ [row], nextID := o.db.nextID + 1 } }

/-- The record with the open incidents of `m` closed. -/
def closeAll (m : UUID) (t : ℤ) (o : Outage) : Outage :=
  { o with db := { o.db with incidents := o.db.incidents.map (·.close m t) } }

/-- The record with more alerts sent. -/
def alert (evs : List AlertEvent) (o : Outage) : Outage := { o with sent := o.sent ++ evs }

theorem openIncidents_insert (m : UUID) (row : IncidentRow) (o : Outage) :
    (o.insert row).db.openIncidents m = o.db.openIncidents m ++ [row].filter (·.openFor m) := by
  simp only [insert, DB.openIncidents, List.filter_append]

@[simp] theorem openIncidents_closeAll (m : UUID) (t : ℤ) (o : Outage) :
    (o.closeAll m t).db.openIncidents m = [] := DB.openIncidents_map_close o.db m t

end Outage

section Queries

variable {m : UUID} {w w' : World}

/-- Inserting an incident fails without effect or adds the row. -/
theorem live_createMonitorIncident {m' : UUID} {alerted : Bool} {status latency : ℤ} {t : Time}
    {x : Except DBError UUID}
    (h : World.Live w (.sql (.createMonitorIncident m' alerted status latency t)) x w') :
    (∃ err, x = .error err ∧ err ≠ .noRows ∧ w'.outage m = w.outage m) ∨
      x = .ok w.db.nextID ∧ w'.outage m =
        (w.outage m).insert ⟨w.db.nextID, m', t.micros, none, alerted, status, latency⟩ := by
  obtain ⟨ks, t, ⟨rfl, rfl⟩ | ⟨rfl, rfl⟩⟩ := World.live_sql h
  · exact Or.inl ⟨_, rfl, by decide, rfl⟩
  · simp only [DB.exec]
    split
    · exact Or.inr ⟨rfl, rfl⟩
    · exact Or.inl ⟨_, rfl, by decide, rfl⟩

/-- Closing fails without effect, finds nothing to close, or closes every open
incident and returns the id of the first. -/
theorem live_closeMonitorIncident {now : Time} {x : Except DBError UUID}
    (h : World.Live w (.sql (.closeMonitorIncident m now)) x w') :
    (∃ err, x = .error err ∧ err ≠ .noRows ∧ w'.outage m = w.outage m) ∨
      (x = .error .noRows ∧ w.db.openIncidents m = [] ∧ w'.outage m = w.outage m) ∨
      ∃ row rows, w.db.openIncidents m = row :: rows ∧ x = .ok row.id ∧
        w'.outage m = (w.outage m).closeAll m now.micros := by
  obtain ⟨ks, t, ⟨rfl, rfl⟩ | ⟨rfl, rfl⟩⟩ := World.live_sql h
  · exact Or.inl ⟨_, rfl, by decide, rfl⟩
  · simp only [DB.exec]
    split
    · rename_i hnil
      exact Or.inr (Or.inl ⟨rfl, hnil, rfl⟩)
    · rename_i row rows hrows
      split
      · exact Or.inr (Or.inr ⟨row, rows, hrows, rfl, rfl⟩)
      · exact Or.inl ⟨_, rfl, by decide, rfl⟩

end Queries

section Client

variable {m : UUID} {w w' : World} {tr : List Call}

/-- One more failure is on record. -/
def Outage.Counted (o : Outage) (n : ℤ) (o' : Outage) : Prop :=
  n = o.nextCount ∧ ∃ f l, o' = o.withHash (o.counted f l)

theorem incrementIncidentOnce_of_exec {now : ℤ} {x : Except RedisError (ℤ × Bool)}
    (h : Exec World.Live (RedisClient.incrementIncidentOnce m now) w tr x w') :
    (∃ a, x = .ok a ∧ (w.outage m).Counted a.1 (w'.outage m)) ∨
      ∃ err, x = .error err ∧ w'.outage m = w.outage m ∧ ¬ NoFail tr := by
  obtain ⟨r, w₁, tr₁, hc, rfl, hk⟩ := exec_call_iff.mp h
  rcases live_hIncrByFailureCount hc with ⟨rfl, hw⟩ | ⟨rfl, hw⟩
  · obtain ⟨rfl, rfl, rfl⟩ := exec_ret_iff.mp hk
    exact Or.inr ⟨_, rfl, hw, by simp [Call.failed]⟩
  · refine Or.inl ?_
    -- both branches write the timestamps and return the count
    change Exec _ (if (w.outage m).nextCount = 1 then _ else _) _ _ _ _ at hk
    by_cases hone : (w.outage m).nextCount = 1
    · rw [if_pos hone] at hk
      obtain ⟨y, w₂, tr₂, hc₂, rfl, hret⟩ := exec_call_iff.mp hk
      obtain ⟨rfl, rfl, rfl⟩ := exec_ret_iff.mp hret
      obtain ⟨f, l, hw₂⟩ := live_hSetFailureTimes hc₂
      rw [hw] at hw₂
      exact ⟨_, rfl, rfl, f, l, hw₂⟩
    · rw [if_neg hone] at hk
      obtain ⟨y, w₂, tr₂, hc₂, rfl, hret⟩ := exec_call_iff.mp hk
      obtain ⟨rfl, rfl, rfl⟩ := exec_ret_iff.mp hret
      obtain ⟨f, l, hw₂⟩ := live_hSetFailureTimes hc₂
      rw [hw] at hw₂
      exact ⟨_, rfl, rfl, f, l, hw₂⟩

/-- **`IncrementIncident`** counts one failure, however often it is tried. -/
theorem incrementIncident_of_exec {x : Except RedisError (ℤ × Bool)}
    (h : Exec World.Live (RedisClient.incrementIncident m) w tr x w') :
    (∃ a, x = .ok a ∧ (w.outage m).Counted a.1 (w'.outage m)) ∨
      ∃ err, x = .error err ∧ w'.outage m = w.outage m ∧ ¬ NoFail tr := by
  obtain ⟨t, w₁, tr₁, hc, rfl, hk⟩ := exec_call_iff.mp h
  obtain ⟨ks, rfl⟩ := World.live_timeNow hc
  have hretry := RedisClient.exec_retry (World.outage m) (fun o a o' => o.Counted a.1 o')
    (fun tr => ¬ NoFail tr)
    incrementIncidentOnce_of_exec (fun _ _ => rfl)
    (fun tr₁ tr₂ hbad _ hno => hbad (noFail_append.mp hno).1) (by decide) hk
  rcases hretry with ⟨a, rfl, ha⟩ | ⟨err, rfl, hw, hno⟩
  · exact Or.inl ⟨a, rfl, ha⟩
  · refine Or.inr ⟨err, rfl, hw, fun hall => hno ?_⟩
    exact (noFail_cons.mp hall).2

/-- **`ClearIncident`** drops the hash, or every `DEL` it issued failed. -/
theorem clearIncident_of_exec {x : Except RedisError Unit}
    (h : Exec World.Live (RedisClient.clearIncident m) w tr x w') :
    w'.outage m = (w.outage m).withHash .absent ∨
      w'.outage m = w.outage m ∧ FailedAt Cmd.isClear tr := by
  have honce : ∀ {w tr x w'}, Exec World.Live (call (.redis (.delIncident m))) w tr x w' →
      (∃ a, x = .ok a ∧ w'.outage m = (w.outage m).withHash .absent) ∨
        ∃ err, x = .error err ∧ w'.outage m = w.outage m ∧ FailedAt Cmd.isClear tr := by
    intro w tr x w' h
    obtain ⟨hc, rfl⟩ := exec_call h
    rcases live_delIncident hc with ⟨rfl, hw⟩ | ⟨rfl, hw⟩
    · exact Or.inr ⟨_, rfl, hw, by simp [FailedAt, Cmd.isClear, Call.failed]⟩
    · exact Or.inl ⟨(), rfl, hw⟩
  have hretry := RedisClient.exec_retry (World.outage m)
    (fun o _ o' => o' = o.withHash .absent) (FailedAt Cmd.isClear) honce (fun _ _ => rfl) ?_
    (by decide) h
  · rcases hretry with ⟨a, -, hw⟩ | ⟨err, -, hw, hfail⟩
    · exact Or.inl hw
    · exact Or.inr ⟨hw, hfail⟩
  · rintro tr₁ tr₂ ⟨⟨e, he, hP⟩, hall⟩ htr₂
    refine ⟨⟨e, List.mem_append_left _ he, hP⟩, fun e' he' hP' => ?_⟩
    rcases List.mem_append.mp he' with he' | he'
    · exact hall e' he' hP'
    · rcases List.mem_cons.mp he' with rfl | he'
      · cases hP'
      · rcases htr₂ with rfl | ⟨-, hall₂⟩
        · cases he'
        · exact hall₂ e' he' hP'

/-- A run of `IncrementIncident` issues the command that counts. -/
theorem reached_incrementIncident {x : Except RedisError (ℤ × Bool)}
    (h : Exec World.Live (RedisClient.incrementIncident m) w tr x w') : Reached m tr = true := by
  obtain ⟨t, w₁, tr₁, -, rfl, hk⟩ := exec_call_iff.mp h
  change Exec _ (RedisClient.incrementIncidentOnce m (Time.unix t) >>= _) _ _ _ _ at hk
  obtain ⟨tr₂, a, w₂, tr₃, hfn, -, rfl⟩ := exec_bind_iff.mp hk
  obtain ⟨y, w₃, tr₄, -, rfl, -⟩ := exec_call_iff.mp hfn
  simp [Reached, Cmd.isCount]

end Client

/-! ## Failures -/

/-- The calls that neither insert an incident nor mark or delete a hash. -/
def Cmd.plain (c : Cmd) : Prop := c.isInsert = false ∧ c.isMark = false ∧ c.isClear = false

theorem Cmd.plain_of_aside {c : Cmd} (h : c.aside) : c.plain :=
  have hnot := c.not_of_aside h 0
  ⟨hnot.1, hnot.2.1, hnot.2.2.1⟩

theorem plain_incrementIncident (m : UUID) : (RedisClient.incrementIncident m).Only Cmd.plain :=
  RedisClient.only_incrementIncident Cmd.plain ⟨rfl, rfl, rfl⟩ ⟨rfl, rfl, rfl⟩ ⟨rfl, rfl, rfl⟩
    fun _ _ => ⟨rfl, rfl, rfl⟩

/-- What a run of `handleFailure` with the trace `tr` makes of the record `o`. -/
inductive FailureOutcome (cfg : ResultProcessorConfig) (r : HTTPResult) (o : Outage)
    (tr : List Call) (o' : Outage) : Prop
  /-- The failure is terminal, or retried, or it could not be counted. -/
  | skipped (ho : o' = o) (hr : NoFail tr → Reached r.monitorID tr = false)
  /-- The failure is counted, below the threshold or after the alert. -/
  | counted (f l : Option ℤ) (ho : o' = o.withHash (o.counted f l))
    (hr : Reached r.monitorID tr = true)
    (hquiet : NoFail tr → o.nextCount < cfg.failureThreshold ∨ o.hash.alerted ≠ none)
  /-- The alert flag is set and no row is inserted. -/
  | claimed (f l : Option ℤ)
    (ho : o' = o.withHash { o.counted f l with alerted := some true })
    (hr : Reached r.monitorID tr = true) (ha : o.hash.alerted = none)
    (ht : cfg.failureThreshold ≤ o.nextCount) (hi : FailedAt Cmd.isInsert tr)
  /-- The row is inserted and the alert is sent. -/
  | reported (f l : Option ℤ) (now : Time) (mark : Option Bool)
    (ho : o' = ((o.withHash { o.counted f l with alerted := some true, dbIncident := mark }).insert
      (.opened o.db.nextID now r)).alert [ResultProcessor.downEvent o.db.nextID r])
    (hr : Reached r.monitorID tr = true) (ha : o.hash.alerted = none)
    (ht : cfg.failureThreshold ≤ o.nextCount)
    (hm : mark = some true ∨ mark = o.hash.dbIncident ∧ FailedAt Cmd.isMark tr)

/-- Calls before and after that have no part in the record change no outcome. -/
theorem FailureOutcome.wrap {cfg : ResultProcessorConfig} {r : HTTPResult} {o o' : Outage}
    {tr tr₁ tr₂ : List Call} (h : FailureOutcome cfg r o tr o') (h₁ : ∀ e ∈ tr₁, e.cmd.aside)
    (h₂ : ∀ e ∈ tr₂, e.cmd.aside) : FailureOutcome cfg r o (tr₁ ++ (tr ++ tr₂)) o' := by
  have hno : NoFail (tr₁ ++ (tr ++ tr₂)) → NoFail tr := by
    intro hall
    rw [noFail_append, noFail_append] at hall
    exact hall.2.1
  have hreach : ∀ {l : List Call}, (∀ e ∈ l, e.cmd.aside) → Reached r.monitorID l = false := by
    intro l hl
    rw [Reached, List.any_eq_false]
    intro e he
    rw [(Cmd.not_of_aside (hl e he) r.monitorID).2.2.2]
    exact Bool.false_ne_true
  have hsame : Reached r.monitorID (tr₁ ++ (tr ++ tr₂)) = Reached r.monitorID tr := by
    rw [reached_append, reached_append, hreach h₁, hreach h₂, Bool.false_or, Bool.or_false]
  cases h with
  | skipped ho hr => exact .skipped ho fun hall => hsame.trans (hr (hno hall))
  | counted f l ho hr hquiet => exact .counted f l ho (hsame.trans hr) fun hall => hquiet (hno hall)
  | claimed f l ho hr ha ht hi =>
    exact .claimed f l ho (hsame.trans hr) ha ht
      ((hi.append_right fun e he => (Cmd.plain_of_aside (h₂ e he)).1).append_left
        fun e he => (Cmd.plain_of_aside (h₁ e he)).1)
  | reported f l now mark ho hr ha ht hm =>
    refine .reported f l now mark ho (hsame.trans hr) ha ht (hm.imp_right fun hm => ⟨hm.1, ?_⟩)
    exact (hm.2.append_right fun e he => (Cmd.plain_of_aside (h₂ e he)).2.1).append_left
      fun e he => (Cmd.plain_of_aside (h₁ e he)).2.1

section Failure

variable {cfg : ResultProcessorConfig} {r : HTTPResult} {w w' : World} {tr : List Call}

/-- `alertDown` inserts nothing, or it inserts a row and sends its alert. -/
theorem alertDown_of_exec (h : Exec World.Live (ResultProcessor.alertDown r) w tr () w') :
    (w'.outage r.monitorID = w.outage r.monitorID ∧ FailedAt Cmd.isInsert tr) ∨
      ∃ now mark,
        w'.outage r.monitorID =
          (((w.outage r.monitorID).withHash
            { (w.outage r.monitorID).hash with dbIncident := mark }).insert
              (.opened w.db.nextID now r)).alert [ResultProcessor.downEvent w.db.nextID r] ∧
        (mark = some true ∨
          mark = (w.outage r.monitorID).hash.dbIncident ∧ FailedAt Cmd.isMark tr) := by
  obtain ⟨now, w₁, tr₁, htime, rfl, h₁⟩ := exec_call_bind h
  obtain ⟨ks, rfl⟩ := World.live_timeNow htime
  obtain ⟨tr₂, x, w₂, tr₃, hcreate, h₂, rfl⟩ := exec_bind_iff.mp h₁
  obtain ⟨y, w₃, tr₄, hsql, rfl, hret⟩ := exec_call_bind hcreate
  rcases live_createMonitorIncident (m := r.monitorID) hsql with
    ⟨err, rfl, herr, hw₃⟩ | ⟨rfl, hw₃⟩
  · obtain ⟨rfl, rfl, rfl⟩ := exec_ret_iff.mp hret
    obtain ⟨rfl, -, rfl⟩ := exec_ret_iff.mp h₂
    have hins : FailedAt Cmd.isInsert [⟨.sql (.createMonitorIncident r.monitorID true
        (toInt32 r.status) (toInt32 r.latencyMs) now), .error err⟩] :=
      failedAt_singleton rfl (decide_eq_true herr)
    exact Or.inl ⟨hw₃, hins.cons rfl⟩
  · obtain ⟨rfl, rfl, rfl⟩ := exec_ret_iff.mp hret
    obtain ⟨z, w₄, tr₅, hmark, rfl, h₃⟩ := exec_call_bind h₂
    obtain ⟨hsend, rfl⟩ := exec_call h₃
    obtain ⟨ks', rfl⟩ := World.live_send hsend
    rcases live_hSetDBIncident hmark with ⟨rfl, hw₄⟩ | ⟨rfl, hw₄⟩
    · refine Or.inr ⟨now, (w.outage r.monitorID).hash.dbIncident, ?_, Or.inr ⟨rfl, ?_⟩⟩
      · rw [hw₃] at hw₄
        exact congrArg (Outage.alert _) hw₄
      · have hlost : FailedAt Cmd.isMark
            [⟨.redis (.hSetDBIncident r.monitorID), .error .unavailable⟩] :=
          failedAt_singleton rfl rfl
        have hsent : FailedAt Cmd.isMark [⟨.redis (.hSetDBIncident r.monitorID),
            .error .unavailable⟩, ⟨.send (ResultProcessor.downEvent w.db.nextID r), ()⟩] :=
          hlost.append_right (List.forall_mem_singleton.mpr rfl)
        exact (hsent.cons rfl).cons rfl
    · refine Or.inr ⟨now, some true, ?_, Or.inl rfl⟩
      rw [hw₃] at hw₄
      exact congrArg (Outage.alert _) hw₄

/-- "Case 3" by itself. -/
theorem failurePath_outcome (h : Exec World.Live (ResultProcessor.failurePath cfg r) w tr () w') :
    FailureOutcome cfg r (w.outage r.monitorID) tr (w'.outage r.monitorID) := by
  obtain ⟨tr₁, x, w₁, tr₂, hinc, h₁, rfl⟩ := exec_bind_iff.mp h
  have hplain := hinc.only (plain_incrementIncident r.monitorID)
  have hreach : ∀ l, Reached r.monitorID (tr₁ ++ l) = true := fun l => by
    rw [reached_append, reached_incrementIncident hinc, Bool.true_or]
  rcases incrementIncident_of_exec hinc with ⟨⟨n, first⟩, rfl, hn, f, l, hw₁⟩ | ⟨err, rfl, hw, hno⟩
  · obtain rfl : n = (w.outage r.monitorID).nextCount := hn
    change Exec _ (if (w.outage r.monitorID).nextCount < cfg.failureThreshold then _ else _)
      _ _ _ _ at h₁
    by_cases ht : (w.outage r.monitorID).nextCount < cfg.failureThreshold
    · rw [if_pos ht] at h₁
      obtain ⟨rfl, -, rfl⟩ := exec_ret_iff.mp h₁
      exact .counted f l hw₁ (hreach _) fun _ => Or.inl ht
    · rw [if_neg ht] at h₁
      obtain ⟨y, w₂, tr₃, hnx, rfl, h₂⟩ := exec_call_bind h₁
      -- the hash that `HSETNX` sees has the alert flag of the hash before
      rcases live_hSetNXAlerted hnx with ⟨rfl, hw₂⟩ | ⟨rfl, ha, hw₂⟩ | ⟨rfl, ha, hw₂⟩
      · obtain ⟨rfl, -, rfl⟩ := exec_ret_iff.mp h₂
        refine .counted f l (hw₂.trans hw₁) (hreach _) fun hno => ?_
        simp [Call.failed] at hno
      · obtain ⟨rfl, -, rfl⟩ := exec_ret_iff.mp h₂
        rw [hw₁] at ha
        exact .counted f l (hw₂.trans hw₁) (hreach _) fun _ => Or.inr ha
      · rw [hw₁] at hw₂ ha
        have hdb : w₂.db = w.db := congrArg Outage.db hw₂
        have hrest : ∀ P : Cmd → Bool, (∀ c, c.plain → P c = false) →
            P (.redis (.hSetNXAlerted r.monitorID)) = false → FailedAt P tr₃ →
            FailedAt P (tr₁ ++ ⟨.redis (.hSetNXAlerted r.monitorID), .ok true⟩ :: tr₃) := by
          intro P hP hnx hfail
          have hcons :=
            FailedAt.cons (e := ⟨.redis (.hSetNXAlerted r.monitorID), .ok true⟩) hfail hnx
          exact hcons.append_left fun e he => hP _ (hplain e he)
        rcases alertDown_of_exec h₂ with ⟨hw', hfail⟩ | ⟨now, mark, hw', hmark⟩
        · exact .claimed f l (hw'.trans hw₂) (hreach _) ha (not_lt.mp ht)
            (hrest _ (fun _ h => h.1) rfl hfail)
        · rw [hw₂, hdb] at hw'
          rw [hw₂] at hmark
          exact .reported f l now mark hw' (hreach _) ha (not_lt.mp ht)
            (hmark.imp_right fun h => ⟨h.1, hrest _ (fun _ h => h.2.1) rfl h.2⟩)
  · obtain ⟨rfl, -, rfl⟩ := exec_ret_iff.mp h₁
    exact .skipped hw fun hall => absurd (noFail_append.mp hall).1 hno

/-- **The inversion of `handleFailure`.**  Whatever a run of it does to the record of the outage,
and whatever alert it sends, is one of the cases of `FailureOutcome`. -/
theorem failureOutcome_of_exec
    (h : Exec World.Live (ResultProcessor.handleFailure cfg r) w tr () w') :
    FailureOutcome cfg r (w.outage r.monitorID) tr (w'.outage r.monitorID) := by
  obtain ⟨tr₁, b, w₁, tr₂, hbody, hsched, rfl⟩ := exec_bind_iff.mp h
  have hend : (if b then MonitorService.scheduleMonitor r.monitorID r.intervalSec
      else pure () : Prog Unit).Only (Cmd.aside ·) := by
    split
    · exact aside_scheduleMonitor _ _
    · trivial
  have h₂ := hsched.only hend
  rw [outage_of_aside hsched hend]
  rw [ResultProcessor.handleFailureBody] at hbody
  -- a body without Case 3 is made of calls that have no part in the record
  have haside : ∀ {α : Type} {p : Prog α} {a : α} {tr₁ : List Call} {w₁ : World},
      Exec World.Live p w tr₁ a w₁ → p.Only (Cmd.aside ·) →
      FailureOutcome cfg r (w.outage r.monitorID) tr₁ (w₁.outage r.monitorID) := by
    intro α p a tr₁ w₁ hp honly
    exact .skipped (outage_of_aside hp honly _) fun _ => reached_of_only hp
      (honly.mono fun c hc => (c.not_of_aside hc r.monitorID).2.2.2)
  suffices hout : FailureOutcome cfg r (w.outage r.monitorID) tr₁ (w₁.outage r.monitorID) from
    hout.wrap (fun e (he : e ∈ []) => absurd he List.not_mem_nil) h₂
  by_cases hterm : r.terminal
  · rw [if_pos hterm] at hbody
    exact haside hbody ((aside_storeStatus _ _ _ _).bind fun _ => trivial)
  · rw [if_neg hterm] at hbody
    obtain ⟨tr₃, x, w₂, tr₄, hretry, hcase, rfl⟩ := exec_bind_iff.mp hbody
    cases x with
    | some b' =>
      obtain ⟨rfl, rfl, rfl⟩ := exec_ret_iff.mp hcase
      rw [List.append_nil]
      exact haside hretry (aside_retryPath cfg r)
    | none =>
      obtain ⟨tr₅, u, w₃, tr₆, hpath, hret, rfl⟩ := exec_bind_iff.mp hcase
      obtain ⟨rfl, rfl, rfl⟩ := exec_ret_iff.mp hret
      have hout := failurePath_outcome hpath
      rw [outage_of_aside hretry (aside_retryPath cfg r)] at hout
      exact hout.wrap (hretry.only (aside_retryPath cfg r)) fun e he => absurd he List.not_mem_nil

/-- A failure that is neither terminal nor retryable is always brought to
`IncrementIncident`. -/
theorem reached_of_hard (hterm : r.terminal = false) (hretry : r.retryable = false)
    (h : Exec World.Live (ResultProcessor.handleFailure cfg r) w tr () w') :
    Reached r.monitorID tr = true := by
  obtain ⟨tr₁, b, w₁, tr₂, hbody, -, rfl⟩ := exec_bind_iff.mp h
  rw [ResultProcessor.handleFailureBody, hterm, if_neg Bool.false_ne_true] at hbody
  obtain ⟨tr₃, y, w₂, tr₄, hpath, hcase, rfl⟩ := exec_bind_iff.mp hbody
  rw [ResultProcessor.retryPath, hretry, if_neg Bool.false_ne_true] at hpath
  obtain ⟨rfl, rfl, rfl⟩ := exec_ret_iff.mp hpath
  obtain ⟨tr₅, u, w₃, tr₆, hfail, -, rfl⟩ := exec_bind_iff.mp hcase
  obtain ⟨tr₇, z, w₄, tr₈, hinc, -, rfl⟩ := exec_bind_iff.mp hfail
  simp only [reached_append, reached_incrementIncident hinc, Bool.true_or, Bool.or_true]

end Failure

/-! ## Successes -/

/-- What a run of `handleSuccess` with the trace `tr` makes of the record `o`. -/
inductive SuccessOutcome (r : HTTPResult) (o : Outage) (tr : List Call) (o' : Outage) : Prop
  /-- There is no hash, or it could not be read, or the incident could not be
  closed. -/
  | kept (ho : o' = o) (hquiet : NoFail tr → o.hash = .absent)
  /-- There is nothing to close, and the hash is dropped. -/
  | dropped (ho : o' = o.withHash .absent ∨ o' = o ∧ FailedAt Cmd.isClear tr)
    (hnone : o.hash.dbIncident = some true → o.db.openIncidents r.monitorID = [])
  /-- The open incidents are closed, and the hash is dropped. -/
  | closed (row : IncidentRow) (rows : List IncidentRow) (t : ℤ) (h : IncidentHash)
    (ra : Option Bool) (evs : List AlertEvent)
    (ho : o' = ((o.withHash h).closeAll r.monitorID t).alert evs)
    (hopen : o.db.openIncidents r.monitorID = row :: rows) (hd : o.hash.dbIncident = some true)
    (hh : h = .absent ∨ h = { o.hash with recoveredAlerted := ra } ∧ FailedAt Cmd.isClear tr)
    (hevs : evs = [] ∧ (NoFail tr → row.id = UUID.nil ∨ o.hash.recoveredAlerted ≠ none) ∨
      evs = [ResultProcessor.recoveredEvent row.id r] ∧ o.hash.recoveredAlerted = none)

/-- Calls before and after that have no part in the record change no outcome. -/
theorem SuccessOutcome.wrap {r : HTTPResult} {o o' : Outage} {tr tr₁ tr₂ : List Call}
    (h : SuccessOutcome r o tr o') (h₁ : ∀ e ∈ tr₁, e.cmd.aside) (h₂ : ∀ e ∈ tr₂, e.cmd.aside) :
    SuccessOutcome r o (tr₁ ++ (tr ++ tr₂)) o' := by
  have hno : NoFail (tr₁ ++ (tr ++ tr₂)) → NoFail tr := by
    intro hall
    rw [noFail_append, noFail_append] at hall
    exact hall.2.1
  have hclear : FailedAt Cmd.isClear tr → FailedAt Cmd.isClear (tr₁ ++ (tr ++ tr₂)) := fun hf =>
    (hf.append_right fun e he => (Cmd.plain_of_aside (h₂ e he)).2.2).append_left
      fun e he => (Cmd.plain_of_aside (h₁ e he)).2.2
  cases h with
  | kept ho hquiet => exact .kept ho fun hall => hquiet (hno hall)
  | dropped ho hnone => exact .dropped (ho.imp_right fun h => ⟨h.1, hclear h.2⟩) hnone
  | closed row rows t h ra evs ho hopen hd hh hevs =>
    exact .closed row rows t h ra evs ho hopen hd (hh.imp_right fun h => ⟨h.1, hclear h.2⟩)
      (hevs.imp_left fun h => ⟨h.1, fun hall => h.2 (hno hall)⟩)

section Success

variable {r : HTTPResult} {w w' : World} {tr : List Call}

/-- `GetIncident` returns the hash if there is one, and nothing if it cannot be
read. -/
theorem getIncident_of_exec {m : UUID} {x : Except RedisError (Option IncidentHash)}
    (h : Exec World.Live (RedisClient.getIncident m) w tr x w') :
    w'.outage m = w.outage m ∧ (∀ e ∈ tr, e.cmd.isClear = false) ∧
      ((x = .ok none ∧ (NoFail tr → (w.outage m).hash = .absent)) ∨
        x = .ok (some (w.outage m).hash)) := by
  obtain ⟨y, w₁, tr₁, hc, rfl, hk⟩ := exec_call_bind h
  obtain ⟨hw, rfl | rfl⟩ := live_hGetAllIncident hc
  · obtain ⟨rfl, rfl, rfl⟩ := exec_ret_iff.mp hk
    refine ⟨hw, List.forall_mem_singleton.mpr rfl, Or.inl ⟨rfl, fun hno => ?_⟩⟩
    simp [Call.failed] at hno
  · change Exec _ (if (w.outage m).hash = .absent then _ else _) _ _ _ _ at hk
    by_cases ha : (w.outage m).hash = .absent
    · rw [if_pos ha] at hk
      obtain ⟨rfl, rfl, rfl⟩ := exec_ret_iff.mp hk
      exact ⟨hw, List.forall_mem_singleton.mpr rfl, Or.inl ⟨rfl, fun _ => ha⟩⟩
    · rw [if_neg ha] at hk
      obtain ⟨rfl, rfl, rfl⟩ := exec_ret_iff.mp hk
      exact ⟨hw, List.forall_mem_singleton.mpr rfl, Or.inr rfl⟩

/-- `CloseIncident` fails without effect, finds nothing to close, or closes. -/
theorem closeIncident_of_exec {m : UUID} {now : Time} {x : Except AppError (UUID × Bool)}
    (h : Exec World.Live (MonitorIncidentRepository.closeIncident m now) w tr x w') :
    (∀ e ∈ tr, e.cmd.isClear = false) ∧
      ((∃ err, x = .error err ∧ w'.outage m = w.outage m ∧ ¬ NoFail tr) ∨
        (x = .ok (UUID.nil, false) ∧ w.db.openIncidents m = [] ∧ w'.outage m = w.outage m) ∨
        ∃ row rows, w.db.openIncidents m = row :: rows ∧ x = .ok (row.id, true) ∧
          w'.outage m = (w.outage m).closeAll m now.micros) := by
  obtain ⟨y, w₁, tr₁, hc, rfl, hk⟩ := exec_call_bind h
  rcases live_closeMonitorIncident hc with
    ⟨err, rfl, herr, hw⟩ | ⟨rfl, hnil, hw⟩ | ⟨row, rows, hrows, rfl, hw⟩
  · obtain ⟨e, htr, rfl, rfl⟩ : ∃ e, tr₁ = [] ∧ x = .error e ∧ w' = w₁ := by
      cases err with
      | noRows => exact absurd rfl herr
      | _ =>
        obtain ⟨rfl, rfl, rfl⟩ := exec_ret_iff.mp hk
        exact ⟨_, rfl, rfl, rfl⟩
    subst htr
    refine ⟨List.forall_mem_singleton.mpr rfl, Or.inl ⟨e, rfl, hw, fun hno => ?_⟩⟩
    have hfailed := (noFail_cons.mp hno).1
    exact absurd (hfailed.symm.trans (decide_eq_true herr)) Bool.false_ne_true
  · obtain ⟨rfl, rfl, rfl⟩ := exec_ret_iff.mp hk
    exact ⟨List.forall_mem_singleton.mpr rfl, Or.inr (Or.inl ⟨rfl, hnil, hw⟩)⟩
  · obtain ⟨rfl, rfl, rfl⟩ := exec_ret_iff.mp hk
    exact ⟨List.forall_mem_singleton.mpr rfl, Or.inr (Or.inr ⟨row, rows, hrows, rfl, hw⟩)⟩

/-- `alertRecovered` sends one alert at most, and notes in the hash that it did. -/
theorem alertRecovered_of_exec {id : UUID}
    (h : Exec World.Live (ResultProcessor.alertRecovered r id) w tr () w') :
    (∀ e ∈ tr, e.cmd.isClear = false) ∧ ∃ ra evs,
      w'.outage r.monitorID = ((w.outage r.monitorID).withHash
        { (w.outage r.monitorID).hash with recoveredAlerted := ra }).alert evs ∧
      (evs = [] ∧
          (NoFail tr → id = UUID.nil ∨ (w.outage r.monitorID).hash.recoveredAlerted ≠ none) ∨
        evs = [ResultProcessor.recoveredEvent id r] ∧
          (w.outage r.monitorID).hash.recoveredAlerted = none) := by
  have hsame : (w.outage r.monitorID) = ((w.outage r.monitorID).withHash
      { (w.outage r.monitorID).hash with
        recoveredAlerted := (w.outage r.monitorID).hash.recoveredAlerted }).alert [] := by
    simp [Outage.withHash, Outage.alert]
  rw [ResultProcessor.alertRecovered] at h
  by_cases hid : id = UUID.nil
  · rw [if_neg (not_not.mpr hid)] at h
    obtain ⟨rfl, -, rfl⟩ := exec_ret_iff.mp h
    exact ⟨by simp, _, [], hsame, Or.inl ⟨rfl, fun _ => Or.inl hid⟩⟩
  · rw [if_pos hid] at h
    obtain ⟨y, w₁, tr₁, hc, rfl, hk⟩ := exec_call_bind h
    rcases live_hSetNXRecoveredAlerted hc with ⟨rfl, hw⟩ | ⟨rfl, ha, hw⟩ | ⟨rfl, ha, hw⟩
    · obtain ⟨rfl, -, rfl⟩ := exec_ret_iff.mp hk
      refine ⟨List.forall_mem_singleton.mpr rfl, _, [], hw.trans hsame, Or.inl ⟨rfl, fun hno => ?_⟩⟩
      simp [Call.failed] at hno
    · obtain ⟨rfl, -, rfl⟩ := exec_ret_iff.mp hk
      exact ⟨List.forall_mem_singleton.mpr rfl, _, [], hw.trans hsame,
        Or.inl ⟨rfl, fun _ => Or.inr ha⟩⟩
    · obtain ⟨hsend, rfl⟩ := exec_call hk
      obtain ⟨ks, rfl⟩ := World.live_send hsend
      refine ⟨by simp [Cmd.isClear], some true, [ResultProcessor.recoveredEvent id r], ?_,
        Or.inr ⟨rfl, ha⟩⟩
      exact congrArg (Outage.alert _) hw

/-- `cleanup` drops the hash, or every `DEL` of it failed. -/
theorem cleanup_of_exec (h : Exec World.Live (ResultProcessor.cleanup r) w tr () w') :
    w'.outage r.monitorID = (w.outage r.monitorID).withHash .absent ∨
      w'.outage r.monitorID = w.outage r.monitorID ∧ FailedAt Cmd.isClear tr := by
  obtain ⟨tr₁, x, w₁, tr₂, hclear, h₁, rfl⟩ := exec_bind_iff.mp h
  have hretry : (RedisClient.clearRetry r.monitorID >>= fun _ => pure () : Prog Unit).Only
      (Cmd.aside ·) := (aside_clearRetry r.monitorID).bind fun _ => trivial
  rw [outage_of_aside h₁ hretry]
  refine (clearIncident_of_exec hclear).imp_right fun hfail => ⟨hfail.1, ?_⟩
  exact hfail.2.append_right fun e he => (Cmd.plain_of_aside (h₁.only hretry e he)).2.2

/-- The body of `handleSuccess` from the hash it has read. -/
theorem recovery_outcome (h : Exec World.Live (ResultProcessor.handleSuccessBody r) w tr () w') :
    SuccessOutcome r (w.outage r.monitorID) tr (w'.outage r.monitorID) := by
  obtain ⟨tr₁, x, w₁, tr₂, hstore, h₁, rfl⟩ := exec_bind_iff.mp h
  have hstored : (RedisClient.storeStatus r.monitorID r.status r.latencyMs r.checkedAt).Only
      (Cmd.aside ·) := aside_storeStatus _ _ _ _
  rw [← outage_of_aside hstore hstored]
  suffices hout : SuccessOutcome r (w₁.outage r.monitorID) tr₂ (w'.outage r.monitorID) by
    have hwrap := hout.wrap (hstore.only hstored) fun e (he : e ∈ []) =>
      absurd he List.not_mem_nil
    rwa [List.append_nil] at hwrap
  obtain ⟨tr₃, y, w₂, tr₄, hget, h₂, rfl⟩ := exec_bind_iff.mp h₁
  obtain ⟨hw₂, hplain₃, ⟨rfl, habsent⟩ | rfl⟩ := getIncident_of_exec hget
  · obtain ⟨rfl, -, rfl⟩ := exec_ret_iff.mp h₂
    exact .kept hw₂ fun hno => habsent (noFail_append.mp hno).1
  · rw [← hw₂]
    have hpast : ∀ tr, FailedAt Cmd.isClear tr → FailedAt Cmd.isClear (tr₃ ++ tr) := fun tr hf =>
      hf.append_left hplain₃
    change Exec _ (if (w₁.outage r.monitorID).hash.dbIncident = some true then _ else _)
      _ _ _ _ at h₂
    rw [← hw₂] at h₂
    by_cases hd : (w₂.outage r.monitorID).hash.dbIncident = some true
    · rw [if_pos hd] at h₂
      obtain ⟨now, w₃, tr₅, htime, rfl, h₃⟩ := exec_call_bind h₂
      obtain ⟨ks, rfl⟩ := World.live_timeNow htime
      obtain ⟨tr₆, z, w₄, tr₇, hclose, h₄, rfl⟩ := exec_bind_iff.mp h₃
      obtain ⟨hplain₆, ⟨err, rfl, hw₄, hfail⟩ | ⟨rfl, hnil, hw₄⟩ | ⟨row, rows, hrows, rfl, hw₄⟩⟩ :=
        closeIncident_of_exec hclose
      · obtain ⟨rfl, -, rfl⟩ := exec_ret_iff.mp h₄
        refine .kept hw₄ fun hno => absurd ?_ hfail
        simp only [noFail_append, noFail_cons] at hno
        exact hno.2.2.1
      · have h₅ : Exec World.Live (ResultProcessor.cleanup r) w₄ tr₇ () w' := h₄
        refine .dropped ?_ fun _ => hnil
        have hfinal := cleanup_of_exec h₅
        rw [hw₄] at hfinal
        refine hfinal.imp_right fun hf => ⟨hf.1, hpast _ ?_⟩
        exact (hf.2.append_left hplain₆).cons rfl
      · obtain ⟨tr₈, u, w₅, tr₉, halert, h₅, rfl⟩ := exec_bind_iff.mp h₄
        obtain ⟨hplain₈, ra, evs, hw₅, hevs⟩ := alertRecovered_of_exec halert
        have hquiet : evs = [] ∧ (NoFail (tr₃ ++ ⟨.timeNow, now⟩ :: (tr₆ ++ (tr₈ ++ tr₉))) →
              row.id = UUID.nil ∨ (w₂.outage r.monitorID).hash.recoveredAlerted ≠ none) ∨
            evs = [ResultProcessor.recoveredEvent row.id r] ∧
              (w₂.outage r.monitorID).hash.recoveredAlerted = none := by
          rw [hw₄] at hevs
          refine hevs.imp_left fun hq => ⟨hq.1, fun hno => hq.2 ?_⟩
          simp only [noFail_append, noFail_cons] at hno
          exact hno.2.2.2.1
        rw [hw₄] at hw₅
        rcases cleanup_of_exec h₅ with hw' | ⟨hw', hf⟩
        · rw [hw₅] at hw'
          exact .closed row rows now.micros .absent none evs hw' hrows hd (Or.inl rfl) hquiet
        · rw [hw₅] at hw'
          refine .closed row rows now.micros _ ra evs hw' hrows hd (Or.inr ⟨rfl, hpast _ ?_⟩) hquiet
          exact ((hf.append_left hplain₈).append_left hplain₆).cons rfl
    · rw [if_neg hd] at h₂
      refine .dropped ?_ fun h => absurd h hd
      exact (cleanup_of_exec h₂).imp_right fun hf => ⟨hf.1, hpast _ hf.2⟩

/-- **The inversion of `handleSuccess`.**  Whatever a run of it does to the record of the outage,
and whatever alert it sends, is one of the cases of `SuccessOutcome`. -/
theorem successOutcome_of_exec (h : Exec World.Live (ResultProcessor.handleSuccess r) w tr () w') :
    SuccessOutcome r (w.outage r.monitorID) tr (w'.outage r.monitorID) := by
  obtain ⟨tr₁, u, w₁, tr₂, hbody, hsched, rfl⟩ := exec_bind_iff.mp h
  rw [outage_of_aside hsched (aside_scheduleMonitor _ _)]
  exact (recovery_outcome hbody).wrap (fun e (he : e ∈ []) => absurd he List.not_mem_nil)
    (hsched.only (aside_scheduleMonitor _ _))

end Success

end Sofon
