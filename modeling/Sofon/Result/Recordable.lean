import Sofon.Executor
import Sofon.Monitor.Requests
import Sofon.Result.History

/-!
# What can be recorded as an incident

A failure that crosses the threshold is recorded by `Create`, with the status and
the latency of the check, and the alert carries the id of the row.  The table wants
a status between 100 and 599.  A transport error counts as 503, but a response has
whatever status the server sent, and `net/http` accepts any three digits.

Three lemmas carry the result, each about one place of the code.

* `check_opened_iff` is arithmetic: of the constraints on the row that `Create` inserts, all but
  the one on the status hold for whatever `net/http` can report, with the conversion to 32 bits
  between the latency and its column (`toInt32_of_fits`).
* `mayAlert_handleFailure` finds the place.  A handler inserts in `alertDown` only, and what it
  does before and after is calls to Redis, which leave the tables as they were.  So the `INSERT`
  meets the tables that the handler found.
* `alertDown_recorded_iff` is the insert itself: of a monitor that is there it goes through
  exactly when the row violates no constraint, and the alert is sent exactly when it has gone
  through.

`recorded_iff_recordable` puts them together: exactly the recordable outcomes are recorded and
reported, in every run of the handler that comes to the insert.
-/

namespace Sofon

open Interleaving Program ResultProcessor

namespace Executor

/-- An outcome that `net/http` can report: three digits for a status, and a time
that fits the column. -/
def Outcome.Accepted : Outcome → Prop
  | .invalid _ => True
  | .failed _ latencyMs _ => 0 ≤ latencyMs ∧ latencyMs < 2 ^ 31
  | .response statusCode latencyMs _ =>
    (0 ≤ statusCode ∧ statusCode ≤ 999) ∧ 0 ≤ latencyMs ∧ latencyMs < 2 ^ 31

/-- A transport error, or a response with a status between 100 and 599. -/
def Outcome.Recordable : Outcome → Prop
  | .invalid _ => False
  | .failed .. => True
  | .response statusCode _ _ => 100 ≤ statusCode ∧ statusCode ≤ 599

end Executor

open Executor

variable {cfg : ResultProcessorConfig} {r : HTTPResult} {w w' : World} {tr : List Call}

/-! ## The row -/

/-- A number that fits is what the conversion makes of it. -/
theorem toInt32_of_fits {x : ℤ} (h₀ : 0 ≤ x) (h₁ : x < 2 ^ 31) : toInt32 x = x := by
  have hlow : -((2 ^ 32 : ℕ) : ℤ) ≤ x * 2 := by omega
  have hhigh : x * 2 < ((2 ^ 32 : ℕ) : ℤ) := by omega
  exact Int.bmod_eq_of_le_mul_two hlow hhigh

/-- **The constraints on the row that `Create` inserts** ask the outcome to be
recordable, and nothing else. -/
theorem check_opened_iff (x : Monitor) {o : Outcome} (ho : o.Accepted) (id : UUID) (now : Time) :
    (IncidentRow.opened id now (executeHTTPCheck x o)).check = true ↔ o.Recordable := by
  cases o with
  | invalid checkedAt =>
    refine iff_of_false ?_ not_false
    simp [IncidentRow.check, IncidentRow.opened, executeHTTPCheck, toInt32]
  | failed err latencyMs checkedAt =>
    refine iff_of_true ?_ trivial
    obtain ⟨h₀, h₁⟩ := ho
    have hstatus : toInt32 statusServiceUnavailable = 503 := by decide
    simp [IncidentRow.check, IncidentRow.opened, executeHTTPCheck, hstatus,
      toInt32_of_fits h₀ h₁, h₀]
  | response statusCode latencyMs checkedAt =>
    obtain ⟨⟨hs₀, hs₁⟩, h₀, h₁⟩ := ho
    have hstatus : toInt32 statusCode = statusCode := toInt32_of_fits hs₀ (by omega)
    simp [IncidentRow.check, IncidentRow.opened, executeHTTPCheck, hstatus,
      toInt32_of_fits h₀ h₁, h₀, Outcome.Recordable]

/-! ## The handler -/

/-- The calls that neither reach the database nor send anything. -/
def Cmd.inRedis : Cmd → Bool
  | timeNow => true
  | ctxDone => true
  | redis _ => true
  | _ => false

/-- A program of such calls leaves the tables as they were, and inserts and sends
nothing. -/
theorem inRedis_of_exec {α : Type} {p : Prog α} {a : α} (h : Exec World.Live p w tr a w')
    (hp : p.Only (Cmd.inRedis ·)) :
    w'.db = w.db ∧ (∀ e ∈ tr, e.cmd.isInsert = false) ∧ alerts tr = [] := by
  have honly := h.only hp
  refine ⟨?_, ?_, ?_⟩
  · refine h.invariant (I := fun x => x.db = w.db) (fun e he t t' hlive ht => ?_) rfl
    have hredis := honly e he
    obtain ⟨ks, rfl | ⟨c, -, rfl⟩ | ⟨q, now, hq, -⟩ | ⟨ev, hev, -⟩⟩ := World.live_cases hlive
    · exact ht
    · exact ht
    · rw [hq] at hredis
      cases hredis
    · rw [hev] at hredis
      cases hredis
  · intro e he
    have hredis := honly e he
    obtain ⟨c, x⟩ := e
    cases c with
    | timeNow | ctxDone | redis c => rfl
    | sql q | send ev | offer job => cases hredis
  · rw [alerts, List.filterMap_eq_nil_iff]
    intro e he
    have hredis := honly e he
    obtain ⟨c, x⟩ := e
    cases c with
    | timeNow | ctxDone | redis c => rfl
    | sql q | send ev | offer job => cases hredis

/-- A run of `alertDown` with the tables of `w`, among calls that insert and send
nothing; or no insert at all. -/
def MayAlert (r : HTTPResult) (w : World) (tr : List Call) : Prop :=
  (∀ e ∈ tr, e.cmd.isInsert = false) ∨
    ∃ tr₁ tr₂ tr₃ w₁ w₂, tr = tr₁ ++ (tr₂ ++ tr₃) ∧ w₁.db = w.db ∧
      Exec World.Live (alertDown r) w₁ tr₂ () w₂ ∧
      (∀ e ∈ tr₁ ++ tr₃, e.cmd.isInsert = false) ∧ alerts tr₁ = [] ∧ alerts tr₃ = []

/-- Calls of Redis before and after make no difference. -/
theorem MayAlert.wrap {α β : Type} {p : Prog α} {q : Prog β} {a : α} {b : β} {w₁ w₂ w₃ : World}
    {tr₁ tr₂ : List Call} (h : MayAlert r w₁ tr) (h₁ : Exec World.Live p w tr₁ a w₁)
    (hp : p.Only (Cmd.inRedis ·)) (h₂ : Exec World.Live q w₂ tr₂ b w₃)
    (hq : q.Only (Cmd.inRedis ·)) : MayAlert r w (tr₁ ++ (tr ++ tr₂)) := by
  obtain ⟨hdb₁, hins₁, hsent₁⟩ := inRedis_of_exec h₁ hp
  obtain ⟨-, hins₂, hsent₂⟩ := inRedis_of_exec h₂ hq
  rcases h with hnone | ⟨l₁, l₂, l₃, u₁, u₂, rfl, hdb, hrun, hins, hsent, hsent'⟩
  · refine Or.inl fun e he => ?_
    rcases List.mem_append.mp he with he | he
    · exact hins₁ e he
    · exact (List.mem_append.mp he).elim (hnone e) (hins₂ e)
  · refine Or.inr ⟨tr₁ ++ l₁, l₂, l₃ ++ tr₂, u₁, u₂, by simp, hdb.trans hdb₁, hrun, ?_, ?_, ?_⟩
    · intro e he
      rw [List.mem_append, List.mem_append, List.mem_append] at he
      rcases he with (he | he) | he | he
      · exact hins₁ e he
      · exact hins e (List.mem_append_left _ he)
      · exact hins e (List.mem_append_right _ he)
      · exact hins₂ e he
    · rw [alerts_append, hsent₁, hsent, List.append_nil]
    · rw [alerts_append, hsent', hsent₂, List.append_nil]

theorem mayAlert_failurePath (h : Exec World.Live (failurePath cfg r) w tr () w') :
    MayAlert r w tr := by
  obtain ⟨tr₁, x, w₁, tr₂, hinc, h₁, rfl⟩ := exec_bind_iff.mp h
  have hincr : (RedisClient.incrementIncident r.monitorID).Only (Cmd.inRedis ·) :=
    RedisClient.only_incrementIncident (Cmd.inRedis ·) rfl rfl rfl fun _ _ => rfl
  suffices hrest : MayAlert r w₁ tr₂ by
    have hwrap := hrest.wrap hinc hincr (Exec.ret () w') trivial
    rwa [List.append_nil] at hwrap
  rcases x with err | ⟨n, first⟩
  · obtain ⟨rfl, -, -⟩ := exec_ret_iff.mp h₁
    exact Or.inl fun e he => nomatch he
  · change Exec _ (if n < cfg.failureThreshold then _ else _) _ _ _ _ at h₁
    split at h₁
    · obtain ⟨rfl, -, -⟩ := exec_ret_iff.mp h₁
      exact Or.inl fun e he => nomatch he
    · obtain ⟨tr₃, y, w₂, tr₄, hmark, h₂, rfl⟩ := exec_bind_iff.mp h₁
      have honce : (RedisClient.markIncidentAlertedIfNotSet r.monitorID).Only (Cmd.inRedis ·) :=
        only_call rfl
      suffices hrest : MayAlert r w₂ tr₄ by
        have hwrap := hrest.wrap hmark honce (Exec.ret () w') trivial
        rwa [List.append_nil] at hwrap
      rcases y with err | _ | _
      · obtain ⟨rfl, -, -⟩ := exec_ret_iff.mp h₂
        exact Or.inl fun e he => nomatch he
      · obtain ⟨rfl, -, -⟩ := exec_ret_iff.mp h₂
        exact Or.inl fun e he => nomatch he
      · exact Or.inr ⟨[], tr₄, [], w₂, w', by simp, rfl, h₂, by simp, rfl, rfl⟩

/-- **Where a handler comes to insert**: in `alertDown`, with the tables as they
were. -/
theorem mayAlert_handleFailure (h : Exec World.Live (handleFailure cfg r) w tr () w') :
    MayAlert r w tr := by
  obtain ⟨tr₁, b, w₁, tr₂, hbody, hsched, rfl⟩ := exec_bind_iff.mp h
  have hend : (if b then MonitorService.scheduleMonitor r.monitorID r.intervalSec
      else pure () : Prog Unit).Only (Cmd.inRedis ·) := by
    split
    · exact MonitorService.only_scheduleMonitor (Cmd.inRedis ·) rfl rfl (fun _ => rfl) _
    · trivial
  suffices hrest : MayAlert r w tr₁ by
    have hwrap := hrest.wrap (Exec.ret () w) trivial hsched hend
    rwa [List.nil_append] at hwrap
  rw [handleFailureBody] at hbody
  split at hbody
  · obtain ⟨tr₃, x, w₂, tr₄, hstore, hret, rfl⟩ := exec_bind_iff.mp hbody
    obtain ⟨rfl, -, -⟩ := exec_ret_iff.mp hret
    rw [List.append_nil]
    exact Or.inl (inRedis_of_exec hstore
      (RedisClient.only_retry_call (Cmd.inRedis ·) rfl rfl 2)).2.1
  · obtain ⟨tr₃, x, w₂, tr₄, hretry, hcase, rfl⟩ := exec_bind_iff.mp hbody
    have hpath : (retryPath cfg r).Only (Cmd.inRedis ·) :=
      only_retryPath (Cmd.inRedis ·) rfl rfl rfl rfl rfl fun _ => rfl
    cases x with
    | some b' =>
      obtain ⟨rfl, -, -⟩ := exec_ret_iff.mp hcase
      rw [List.append_nil]
      exact Or.inl (inRedis_of_exec hretry hpath).2.1
    | none =>
      obtain ⟨tr₅, u, w₃, tr₆, hfail, hret, rfl⟩ := exec_bind_iff.mp hcase
      obtain ⟨rfl, -, -⟩ := exec_ret_iff.mp hret
      exact (mayAlert_failurePath hfail).wrap hretry hpath (Exec.ret () w₃) trivial

/-- The insert of a monitor that is there goes through, with its alert, exactly when
the row violates no constraint. -/
theorem alertDown_recorded_iff (h : Exec World.Live (alertDown r) w tr () w')
    (hrow : (w.db.monitor? r.monitorID).isSome) {e : Call} (he : e ∈ tr) (hins : e.cmd.isInsert)
    (hlost : e.lost = false) :
    e.failed = false ∧ alerts tr ≠ [] ↔ (IncidentRow.opened 0 0 r).check = true := by
  obtain ⟨now, w₁, tr₁, htime, rfl, h₁⟩ := exec_call_bind h
  obtain ⟨ks, rfl⟩ := World.live_timeNow htime
  obtain ⟨tr₂, x, w₂, tr₃, hcreate, h₂, rfl⟩ := exec_bind_iff.mp h₁
  obtain ⟨y, w₃, tr₄, hsql, rfl, hret⟩ := exec_call_bind hcreate
  have hanswer : y = .error .unavailable ∨
      y = if (IncidentRow.opened 0 0 r).check then .ok w.db.nextID else .error .constraint := by
    obtain ⟨ks', now', ⟨rfl, -⟩ | ⟨rfl, -⟩⟩ := World.live_sql hsql
    · exact Or.inl rfl
    · refine Or.inr ?_
      simp only [DB.exec, World.expire_db, hrow, Bool.and_true]
      split
      · rename_i hcheck
        exact (if_pos hcheck).symm
      · rename_i hcheck
        exact (if_neg hcheck).symm
  rcases y with err | id
  · obtain ⟨rfl, rfl, rfl⟩ := exec_ret_iff.mp hret
    obtain ⟨rfl, -, -⟩ := exec_ret_iff.mp h₂
    -- the statement got through, so it was refused
    have hrefused : (IncidentRow.opened 0 0 r).check = false := by
      rcases hanswer with hanswer | hanswer
      · rw [Except.error.inj hanswer] at he
        rcases List.mem_cons.mp he with rfl | he
        · cases hins
        · rw [List.append_nil, List.mem_singleton] at he
          rw [he] at hlost
          cases hlost
      · by_contra hcheck
        rw [Bool.not_eq_false] at hcheck
        rw [if_pos hcheck] at hanswer
        cases hanswer
    rw [hrefused]
    refine iff_of_false (fun hall => hall.2 ?_) Bool.false_ne_true
    rfl
  · obtain ⟨rfl, rfl, rfl⟩ := exec_ret_iff.mp hret
    obtain ⟨z, w₄, tr₅, hmark, rfl, h₃⟩ := exec_call_bind h₂
    obtain ⟨hsend, rfl⟩ := exec_call h₃
    have hcheck : (IncidentRow.opened 0 0 r).check = true := by
      rcases hanswer with hanswer | hanswer
      · cases hanswer
      · by_contra hcheck
        rw [if_neg hcheck] at hanswer
        cases hanswer
    refine iff_of_true ⟨?_, ?_⟩ hcheck
    · rw [List.singleton_append, List.mem_cons, List.mem_cons, List.mem_cons] at he
      rcases he with rfl | rfl | rfl | he
      · rfl
      · rfl
      · cases hins
      · rw [List.mem_singleton.mp he] at hins
        cases hins
    · simp [Call.alert?]

/-! ## Outcomes -/

/-- **An outcome is recorded exactly when it is recordable**: the row that `Create`
inserts meets the constraints, and the insert that a run of `handleFailure` issues for
a monitor that is there, if it gets through, is not refused and is followed by its
alert. -/
theorem recorded_iff_recordable (x : Monitor) {o : Outcome} (ho : o.Accepted) :
    (∀ id now, (IncidentRow.opened id now (executeHTTPCheck x o)).check = true ↔ o.Recordable) ∧
    ∀ (cfg : ResultProcessorConfig) (w w' : World) (tr : List Call),
      (w.db.monitor? x.id).isSome →
      Exec World.Live (handleFailure cfg (executeHTTPCheck x o)) w tr () w' →
      ∀ e ∈ tr, e.cmd.isInsert → e.lost = false →
        (e.failed = false ∧ alerts tr ≠ [] ↔ o.Recordable) := by
  refine ⟨check_opened_iff x ho, fun cfg w w' tr hrow h e he hins hlost => ?_⟩
  rw [← check_opened_iff x ho 0 0]
  rcases mayAlert_handleFailure h with hnone | ⟨tr₁, tr₂, tr₃, w₁, w₂, rfl, hdb, hrun, hq, h₁, h₃⟩
  · rw [hnone e he] at hins
    cases hins
  · have hmem : e ∈ tr₂ := by
      rw [List.mem_append, List.mem_append] at he
      rcases he with he | he | he
      · rw [hq e (List.mem_append_left _ he)] at hins
        cases hins
      · exact he
      · rw [hq e (List.mem_append_right _ he)] at hins
        cases hins
    rw [alerts_append, alerts_append, h₁, h₃, List.nil_append, List.append_nil]
    refine alertDown_recorded_iff hrun ?_ hmem hins hlost
    rwa [hdb, executeHTTPCheck_monitorID]

namespace Sample

/-- The server answers 404. -/
def notFound : HTTPResult := executeHTTPCheck (MonitorRepository.ofRow row) (.response 404 10 0)

/-- The third of three such failures. -/
def notFoundThird : Handled × World := next notFound (after [(notFound, []), (notFound, [])]).2

end Sample

/-- A monitor that answers 404: the row meets the constraints, and the insert of the third
failure is followed by the alert. -/
theorem recorded_iff_recordable_sample :
    ((IncidentRow.opened 5 0 Sample.notFound).check = true ↔
      (Outcome.response 404 10 0).Recordable) ∧
    ∃ e ∈ Sample.notFoundThird.1.trace, e.cmd.isInsert ∧ e.failed = false ∧
      alerts Sample.notFoundThird.1.trace ≠ [] := by
  have haccepted : (Outcome.response 404 10 0).Accepted := by
    refine ⟨⟨?_, ?_⟩, ?_, ?_⟩ <;> decide
  have hrun : Exec World.Live (handleFailure Config.default.resultProcessor Sample.notFound)
      (Sample.after [(Sample.notFound, []), (Sample.notFound, [])]).2
      Sample.notFoundThird.1.trace () Sample.notFoundThird.2 := exec_run (World.exec false) [] _ _
  obtain ⟨hrow, hruns⟩ :=
    recorded_iff_recordable (MonitorRepository.ofRow Sample.row) haccepted
  have hinsert : ∃ e ∈ Sample.notFoundThird.1.trace, e.cmd.isInsert ∧ e.lost = false := by decide
  obtain ⟨e, he, hins, hlost⟩ := hinsert
  have hrecordable := (hrow 5 0).mp (by decide)
  exact ⟨hrow 5 0, e, he, hins, (hruns _ _ _ _ (by decide) hrun e he hins hlost).mpr hrecordable⟩

namespace Sample

/-- The server answers 999. -/
def odd : HTTPResult := executeHTTPCheck (MonitorRepository.ofRow row) (.response 999 10 0)

/-- The third of three such failures. -/
def oddThird : Handled × World := next odd (after [(odd, []), (odd, [])]).2

end Sample

/-- The insert of the third failure is refused, and no alert follows. -/
theorem odd_status_not_recorded :
    ¬ ∀ (x : Monitor) (o : Outcome), o.Accepted →
      ∀ (cfg : ResultProcessorConfig) (w w' : World) (tr : List Call),
        (w.db.monitor? x.id).isSome →
        Exec World.Live (handleFailure cfg (executeHTTPCheck x o)) w tr () w' →
        ∀ e ∈ tr, e.cmd.isInsert → e.lost = false → e.failed = false ∧ alerts tr ≠ [] := by
  intro hclaim
  have hrun : Exec World.Live (handleFailure Config.default.resultProcessor Sample.odd)
      (Sample.after [(Sample.odd, []), (Sample.odd, [])]).2 Sample.oddThird.1.trace ()
      Sample.oddThird.2 := exec_run (World.exec false) [] _ _
  have haccepted : (Outcome.response 999 10 0).Accepted := by
    refine ⟨⟨?_, ?_⟩, ?_, ?_⟩ <;> decide
  have hall := hclaim (MonitorRepository.ofRow Sample.row) _ haccepted _ _ _ _ (by decide) hrun
  have hinsert : ∃ e ∈ Sample.oddThird.1.trace, e.cmd.isInsert ∧ e.lost = false := by decide
  obtain ⟨e, he, hins, hlost⟩ := hinsert
  exact (hall e he hins hlost).2 (by decide)

end Sofon
