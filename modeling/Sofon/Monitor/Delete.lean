import Sofon.Result.History

/-!
# A delete that fails

`DeleteMonitor` takes a monitor out of Redis before it deletes the row, the other
way round from `UpdateMonitorStatus`, which writes the row first.  When the `DELETE`
fails, the request returns an error and the row stays, but the monitor is in no
schedule any more.

What matters of a monitor is its `MonitorRecord`.  A delete that returns an error leaves
it alone exactly when it is `Spared`: the request never got to the clean-up, or the
clean-up had nothing to take out or did not get through.

`deleteMonitor_error` says how a delete comes to return an error.  Either the row is not read,
and then nothing has been touched; or the clean-up has run and the `DELETE` has failed.  In the
second case the tables are as before, and `disableMonitor_of_exec` says of each part of the
clean-up that it has taken its entry out or that every command of it failed.

From there `record_kept_iff_spared` is a comparison.  If the record is the same, what the
clean-up took out was not there.  If the monitor is spared, an entry was not there or every
command for it failed, and an entry that only some commands touch stays while all of them fail
(`redis_of_failed`, with `schedule_of_failed` and `incident_of_failed` as its two cases).
-/

namespace Sofon

open Interleaving Program MonitorService

/-- What matters of a monitor: its row, the time of its next run, the record of its
failures and its open incidents. -/
structure MonitorRecord where
  row : Option MonitorRow
  nextRun : Option ℤ
  incident : IncidentHash
  openIncidents : List IncidentRow

/-- The record of a monitor. -/
def World.recordOf (m : UUID) (w : World) : MonitorRecord :=
  ⟨w.db.monitor? m, w.redis.schedule.score (.id m), w.redis.incident m, w.db.openIncidents m⟩

/-- The call reads the row of a monitor. -/
def Cmd.isGet : Cmd → Bool
  | sql (.getMonitorByTeamID ..) => true
  | _ => false

/-- The call takes a monitor out of the schedule. -/
def Cmd.isRem : Cmd → Bool
  | redis (.zRem _) => true
  | _ => false

/-- The call is a database statement. -/
def Cmd.isQuery : Cmd → Bool
  | sql _ => true
  | _ => false

/-- The delete of `m` never gets to the clean-up, or the clean-up has nothing to take
out or does not get through. -/
def Spared (team m : UUID) (w : World) (tr : List Call) : Prop :=
  FailedAt Cmd.isGet tr ∨ (w.db.monitor? m).filter (·.teamID = team) = none ∨
    (w.redis.schedule.score (.id m) = none ∨ FailedAt Cmd.isRem tr) ∧
      (w.redis.incident m = .absent ∨ FailedAt Cmd.isClear tr)

variable {team m : UUID} {w w' : World} {tr : List Call}

/-! ## The clean-up -/

/-- The calls that touch the schedule and the incident hashes only to take `m` out. -/
def Cmd.tidies (m : UUID) : Cmd → Bool
  | redis (.zAdd _) => false
  | redis (.zPopMin _) => false
  | redis (.zRem member) => member = .id m
  | redis (.delIncident m') => m' = m
  | redis c => c.incidentKey = none
  | _ => true

/-- **What only some commands change stays while all of them fail.** -/
theorem redis_of_failed {α β : Type} {p : Prog α} {a : α} {S : Cmd → Prop} (f : Redis → β)
    (P : Cmd → Bool) (h : Exec World.Live p w tr a w') (hp : p.Only S)
    (hexpire : ∀ ks s, f (Redis.expire ks s) = f s)
    (hkeep : ∀ c s, S (.redis c) → P (.redis c) = false → f (Redis.exec c s).2 = f s)
    (hok : ∀ c s, P (.redis c) → Call.failed ⟨.redis c, (Redis.exec c s).1⟩ = false)
    (hfail : ∀ e ∈ tr, P e.cmd → e.failed) : f w'.redis = f w.redis := by
  refine h.invariant (I := fun x => f x.redis = f w.redis) ?_ rfl
  rintro ⟨c, r⟩ he t t' hlive ht
  have hS := h.only hp _ he
  cases c with
  | redis c =>
    obtain ⟨ks, ⟨-, rfl⟩ | ⟨rfl, rfl⟩⟩ := World.live_redis hlive
    · exact (hexpire ks _).trans ht
    · cases hc : P (.redis c) with
      | true =>
        have hfailed := hfail _ he hc
        rw [hok c _ hc] at hfailed
        exact absurd hfailed Bool.false_ne_true
      | false => exact (hkeep c _ hS hc).trans ((hexpire ks _).trans ht)
  | _ =>
    obtain ⟨ks, rfl | ⟨c', hc, -⟩ | ⟨q, now, -, rfl⟩ | ⟨ev, -, rfl⟩⟩ := World.live_cases hlive
    · exact (hexpire ks _).trans ht
    · cases hc
    · exact (hexpire ks _).trans ht
    · exact (hexpire ks _).trans ht

theorem schedule_of_failed {α : Type} {p : Prog α} {a : α} (h : Exec World.Live p w tr a w')
    (hp : p.Only (Cmd.tidies m ·)) (hfail : ∀ e ∈ tr, e.cmd.isRem → e.failed) :
    w'.redis.schedule = w.redis.schedule := by
  refine redis_of_failed Redis.schedule Cmd.isRem h hp (fun _ _ => rfl) ?_ ?_ hfail
  · intro c s htidy hrem
    cases c with
    | zRem member => cases hrem
    | zAdd items | zPopMin n => cases htidy
    | hSetNXAlerted m' | hSetNXRecoveredAlerted m' =>
      simp only [Redis.exec]
      split <;> rfl
    | _ => rfl
  · intro c s hrem
    cases c with
    | zRem member => rfl
    | _ => cases hrem

/-- The incident hashes stay while every `DEL` of one fails. -/
theorem incident_of_failed {α : Type} {p : Prog α} {a : α} (h : Exec World.Live p w tr a w')
    (hp : p.Only (Cmd.tidies m ·)) (hfail : ∀ e ∈ tr, e.cmd.isClear → e.failed) :
    w'.redis.incident = w.redis.incident := by
  refine redis_of_failed Redis.incident Cmd.isClear h hp (fun _ _ => rfl) ?_ ?_ hfail
  · intro c s htidy hclear
    cases c with
    | delIncident m' => cases hclear
    | hIncrByFailureCount | hSetFailureTimes | hSetNXAlerted | hSetNXRecoveredAlerted
    | hSetDBIncident | hGetAllIncident => cases htidy
    | _ => rfl
  · intro c s hclear
    cases c with
    | delIncident m' => rfl
    | _ => cases hclear

theorem tidies_deleteMonitor (team m : UUID) : (deleteMonitor team m).Only (Cmd.tidies m ·) :=
  only_deleteMonitor (Cmd.tidies m ·) rfl rfl rfl (fun _ => rfl) rfl (decide_eq_true rfl)
    (decide_eq_true rfl) rfl

theorem delSchedule_of_exec {x : Except RedisError Unit}
    (h : Exec World.Live (RedisClient.delSchedule (.id m)) w tr x w') :
    w'.db = w.db ∧ w'.redis.incident = w.redis.incident ∧
      (w'.redis.schedule.score (.id m) = none ∨ FailedAt Cmd.isRem tr) := by
  obtain ⟨hrem, rfl⟩ := exec_call h
  obtain ⟨ks, ⟨rfl, rfl⟩ | ⟨-, rfl⟩⟩ := World.live_redis hrem
  · exact ⟨rfl, rfl, Or.inr (failedAt_singleton rfl rfl)⟩
  · exact ⟨rfl, rfl, Or.inl (KeyValue.SortedSet.score_remove_self _ _)⟩

/-- The last command of the clean-up changes nothing but the cached copy. -/
theorem delStatus_of_exec {x : Except RedisError Unit}
    (h : Exec World.Live (RedisClient.delStatus m) w tr x w') :
    w'.db = w.db ∧ w'.redis.incident = w.redis.incident ∧
      w'.redis.schedule = w.redis.schedule := by
  obtain ⟨hdel, rfl⟩ := exec_call h
  obtain ⟨ks, ⟨rfl, rfl⟩ | ⟨-, rfl⟩⟩ := World.live_redis hdel
  · exact ⟨rfl, rfl, rfl⟩
  · exact ⟨rfl, rfl, rfl⟩

/-- **The clean-up** leaves the tables alone, and each of its parts takes the monitor
out or does not get through. -/
theorem disableMonitor_of_exec (h : Exec World.Live (disableMonitor m) w tr () w') :
    w'.db = w.db ∧ (w'.redis.schedule.score (.id m) = none ∨ FailedAt Cmd.isRem tr) ∧
      (w'.redis.incident m = .absent ∨ FailedAt Cmd.isClear tr) := by
  obtain ⟨x, w₁, tr₁, hdel, rfl, h₁⟩ := exec_call_bind h
  obtain ⟨tr₂, y, w₂, tr₃, hrem, h₂, rfl⟩ := exec_bind_iff.mp h₁
  obtain ⟨tr₄, z, w₃, tr₅, hclear, h₃, rfl⟩ := exec_bind_iff.mp h₂
  obtain ⟨tr₆, v, w₄, tr₇, hstatus, hret, rfl⟩ := exec_bind_iff.mp h₃
  obtain ⟨rfl, -, rfl⟩ := exec_ret_iff.mp hret
  rw [List.append_nil]
  have hdb₁ : w₁.db = w.db := by
    obtain ⟨ks, ⟨-, rfl⟩ | ⟨-, rfl⟩⟩ := World.live_redis hdel <;> rfl
  obtain ⟨hdb₂, -, hscore⟩ := delSchedule_of_exec hrem
  obtain ⟨hdb₄, hincident₄, hsched₄⟩ := delStatus_of_exec hstatus
  have honly : (RedisClient.clearIncident m).Only
      (fun c => c.tidies m ∧ c.isRem = false) :=
    RedisClient.only_retry_call _ ⟨decide_eq_true rfl, rfl⟩ ⟨rfl, rfl⟩ 2
  have hsched₃ : w₃.redis.schedule = w₂.redis.schedule := by
    refine schedule_of_failed hclear (honly.mono fun c hc => hc.1) fun e he hrem => ?_
    rw [(hclear.only honly e he).2] at hrem
    cases hrem
  -- nothing but `ZREM` itself is about the schedule
  have hrems : ∀ e ∈ tr₄ ++ tr₆, e.cmd.isRem = false := by
    intro e he
    rcases List.mem_append.mp he with he | he
    · exact (hclear.only honly e he).2
    · obtain ⟨-, rfl⟩ := exec_call hstatus
      rw [List.mem_singleton.mp he]
      rfl
  have hclears : ∀ e ∈ tr₂, e.cmd.isClear = false := by
    obtain ⟨-, rfl⟩ := exec_call hrem
    intro e he
    rw [List.mem_singleton.mp he]
    rfl
  have hafter : ∀ e ∈ tr₆, e.cmd.isClear = false := by
    obtain ⟨-, rfl⟩ := exec_call hstatus
    intro e he
    rw [List.mem_singleton.mp he]
    rfl
  have hblackout := clearIncident_of_exec hclear
  refine ⟨?_, ?_, ?_⟩
  · have hdb₃ : w₃.db = w₂.db := by
      rcases hblackout with hblackout | ⟨hblackout, -⟩
      · exact congrArg Outage.db hblackout
      · exact congrArg Outage.db hblackout
    rw [hdb₄, hdb₃, hdb₂, hdb₁]
  · rw [hsched₄, hsched₃]
    exact hscore.imp_right fun hfail => (hfail.append_right hrems).cons rfl
  · rw [hincident₄]
    rcases hblackout with hblackout | ⟨-, hfail⟩
    · exact Or.inl (congrArg Outage.hash hblackout)
    · exact Or.inr (((hfail.append_right hafter).append_left hclears).cons rfl)

/-! ## The request -/

/-- `Repository.Delete` of a row that is there fails only without effect. -/
theorem delete_error_of_exec {x : Except AppError Unit} {d : DB} {row : MonitorRow}
    (h : Exec World.Live (MonitorRepository.delete team m) w tr x w') (hdb : w.db = d)
    (hrow : d.monitor? m = some row) (hteam : row.teamID = team) (hx : x ≠ .ok ()) :
    w'.db = w.db ∧ w'.redis.schedule = w.redis.schedule ∧
      w'.redis.incident = w.redis.incident ∧
      ∀ e ∈ tr, e.cmd.isRem = false ∧ e.cmd.isClear = false := by
  obtain ⟨r, w₁, tr₁, hlive, rfl, hret⟩ := exec_call_bind h
  obtain ⟨ks, now, ⟨rfl, rfl⟩ | ⟨rfl, rfl⟩⟩ := World.live_sql hlive
  · obtain ⟨rfl, rfl, rfl⟩ := exec_ret_iff.mp hret
    refine ⟨rfl, rfl, rfl, fun e he => ?_⟩
    rw [List.mem_singleton.mp he]
    exact ⟨rfl, rfl⟩
  · have hpos : w.db.monitors.countP (fun row => row.id = m && row.teamID = team) ≠ 0 := by
      rw [hdb]
      exact DB.countP_monitors_ne_zero_iff.mpr
        ⟨row, DB.mem_of_monitor? hrow, DB.id_of_monitor? hrow, hteam⟩
    change Exec _ (if w.db.monitors.countP _ = 0 then ret _ else ret _) _ _ _ _ at hret
    rw [if_neg hpos] at hret
    exact absurd (exec_ret_iff.mp hret).2.1 hx

/-- **How a delete comes to return an error**: the row is not read, or the clean-up
runs and the `DELETE` fails. -/
theorem deleteMonitor_error {err : AppError}
    (h : Exec World.Live (deleteMonitor team m) w tr (.error err) w') :
    w'.db = w.db ∧
      ((FailedAt Cmd.isGet tr ∨ (w.db.monitor? m).filter (·.teamID = team) = none) ∧
          w'.redis.schedule = w.redis.schedule ∧ w'.redis.incident = w.redis.incident ∨
        ¬ FailedAt Cmd.isGet tr ∧ (w.db.monitor? m).filter (·.teamID = team) ≠ none ∧
          (w'.redis.schedule.score (.id m) = none ∨ FailedAt Cmd.isRem tr) ∧
          (w'.redis.incident m = .absent ∨ FailedAt Cmd.isClear tr)) := by
  obtain ⟨tr₁, y, w₁, tr₂, hget, h₁, rfl⟩ := exec_bind_iff.mp h
  obtain ⟨r, w₂, tr₃, hlive, rfl, hret⟩ := exec_call_bind hget
  rcases r with e | row
  · -- the row is not read
    obtain ⟨rfl, rfl, rfl⟩ := exec_ret_iff.mp hret
    obtain ⟨rfl, -, rfl⟩ := exec_ret_iff.mp h₁
    obtain ⟨ks, now, ⟨hr, rfl⟩ | ⟨hr, rfl⟩⟩ := World.live_sql hlive
    · refine ⟨rfl, Or.inl ⟨Or.inl ?_, rfl, rfl⟩⟩
      rw [hr]
      exact failedAt_singleton rfl rfl
    · refine ⟨DB.exec_getMonitorByTeamID_snd _ _, Or.inl ⟨Or.inr ?_, rfl, rfl⟩⟩
      simp only [DB.exec] at hr
      split at hr
      · cases hr
      · assumption
  · obtain ⟨rfl, rfl, rfl⟩ := exec_ret_iff.mp hret
    obtain ⟨tr₄, u, w₃, tr₅, hdis, h₂, rfl⟩ := exec_bind_iff.mp h₁
    obtain ⟨ks, now, ⟨hr, -⟩ | ⟨hr, rfl⟩⟩ := World.live_sql hlive
    · cases hr
    obtain ⟨hrow, hteam⟩ := DB.monitor?_of_getMonitorByTeamID hr.symm
    obtain ⟨hdb, hscore, hincident⟩ := disableMonitor_of_exec hdis
    replace hdb : w₃.db = w.db := hdb.trans (DB.exec_getMonitorByTeamID_snd now w.db)
    obtain ⟨tr₆, z, w₄, tr₇, hdel, h₃, rfl⟩ := exec_bind_iff.mp h₂
    have hfailing := delete_error_of_exec hdel hdb hrow hteam
    rcases z with e | v
    · obtain ⟨rfl, -, rfl⟩ := exec_ret_iff.mp h₃
      obtain ⟨hdb', hsched, hclean, hafter⟩ := hfailing fun h => by cases h
      refine ⟨hdb'.trans hdb, Or.inr ⟨?_, ?_, ?_, ?_⟩⟩
      · rintro ⟨-, hall⟩
        exact absurd (hall _ List.mem_cons_self rfl) Bool.false_ne_true
      · rw [hrow, Option.filter_some, if_pos (decide_eq_true hteam)]
        exact Option.some_ne_none row
      · rw [hsched]
        refine hscore.imp_right fun hfail => ?_
        rw [List.append_nil]
        exact (hfail.append_right fun e he => (hafter e he).1).cons rfl
      · rw [hclean]
        refine hincident.imp_right fun hfail => ?_
        rw [List.append_nil]
        exact (hfail.append_right fun e he => (hafter e he).2).cons rfl
    · -- the row is deleted, and nothing after that returns an error
      obtain ⟨tr₈, v, w₅, tr₉, -, hret, rfl⟩ := exec_bind_iff.mp h₃
      cases (exec_ret_iff.mp hret).2.1

/-- **A delete that returns an error leaves the record of the monitor alone exactly
when the monitor is spared.** -/
theorem record_kept_iff_spared {err : AppError}
    (h : Exec World.Live (deleteMonitor team m) w tr (.error err) w') :
    w'.recordOf m = w.recordOf m ↔ Spared team m w tr := by
  obtain ⟨hdb, hcases⟩ := deleteMonitor_error h
  rcases hcases with ⟨hread, hsched, hincident⟩ | ⟨hget, hfound, hscore, hincident⟩
  · refine iff_of_true ?_ (hread.imp_right Or.inl)
    rw [World.recordOf, World.recordOf, hdb, hsched, hincident]
  constructor
  · intro hsame
    refine Or.inr (Or.inr ⟨?_, ?_⟩)
    · exact hscore.imp_left fun hnone => (congrArg MonitorRecord.nextRun hsame).symm.trans hnone
    · exact hincident.imp_left fun hnone => (congrArg MonitorRecord.incident hsame).symm.trans hnone
  · rintro (hfail | hnone | ⟨hsched, hclear⟩)
    · exact absurd hfail hget
    · exact absurd hnone hfound
    · have hscore' : w'.redis.schedule.score (.id m) = w.redis.schedule.score (.id m) := by
        rcases hsched with hnone | hfail
        · rcases hscore with hgone | hfail
          · rw [hgone, hnone]
          · rw [schedule_of_failed h (tidies_deleteMonitor team m) hfail.2]
        · rw [schedule_of_failed h (tidies_deleteMonitor team m) hfail.2]
      have hincident' : w'.redis.incident m = w.redis.incident m := by
        rcases hclear with hnone | hfail
        · rcases hincident with hgone | hfail
          · rw [hgone, hnone]
          · rw [incident_of_failed h (tidies_deleteMonitor team m) hfail.2]
        · rw [incident_of_failed h (tidies_deleteMonitor team m) hfail.2]
      rw [World.recordOf, World.recordOf, hdb, hscore', hincident']

namespace Sample

/-- The sample monitor is due at 100. -/
def due : World :=
  { world with
    redis := { Redis.empty with schedule := KeyValue.SortedSet.empty.add [⟨100, .id 1⟩] } }

/-- What is left of a run of `DeleteMonitor` on it. -/
def deleted (es : List Env) : List Call × Except AppError Unit × World :=
  run (World.exec false) es (deleteMonitor 9 1) due

/-- Nothing after the first read gets through. -/
def blackout : List Env := default :: List.replicate 8 { (default : Env) with fails := true }

/-- The run with `DELETE` failing is one that returns an error. -/
theorem exec_deleted : ∃ err, Exec World.Live (deleteMonitor 9 1) due (deleted (failAt 5)).1
    (.error err) (deleted (failAt 5)).2.2 :=
  ⟨_, exec_run (World.exec false) (failAt 5) (deleteMonitor 9 1) due⟩

/-- So is the run in the blackout. -/
theorem exec_blackout : ∃ err, Exec World.Live (deleteMonitor 9 1) due (deleted blackout).1
    (.error err) (deleted blackout).2.2 :=
  ⟨_, exec_run (World.exec false) blackout (deleteMonitor 9 1) due⟩

end Sample

/-- Only the `DELETE` fails, and the monitor is not in the schedule any more. -/
theorem failed_delete_unschedules :
    ¬ ∀ (team m : UUID) (w w' : World) (tr : List Call) (err : AppError),
      Exec World.Live (deleteMonitor team m) w tr (.error err) w' →
      (∀ e ∈ tr, e.failed → e.cmd.isQuery) →
      w'.recordOf m = w.recordOf m := by
  intro hclaim
  obtain ⟨err, hrun⟩ := Sample.exec_deleted
  have hsame := hclaim _ _ _ _ _ _ hrun (by decide)
  have hnext : (Sample.deleted (Sample.failAt 5)).2.2.redis.schedule.score (.id 1) = some 100 :=
    congrArg MonitorRecord.nextRun hsame
  exact absurd hnext (by decide)

/-- In the blackout the monitor is spared, and its record stays; with only the `DELETE` failing
neither is so. -/
theorem record_kept_iff_spared_sample :
    ((Sample.deleted Sample.blackout).2.2.recordOf 1 = Sample.due.recordOf 1 ∧
      Spared 9 1 Sample.due (Sample.deleted Sample.blackout).1) ∧
    ((Sample.deleted (Sample.failAt 5)).2.2.recordOf 1 = Sample.due.recordOf 1 ↔
      Spared 9 1 Sample.due (Sample.deleted (Sample.failAt 5)).1) ∧
    (Sample.deleted (Sample.failAt 5)).2.2.recordOf 1 ≠ Sample.due.recordOf 1 := by
  have hspared : Spared 9 1 Sample.due (Sample.deleted Sample.blackout).1 :=
    Or.inr (Or.inr ⟨Or.inr ⟨by decide, by decide⟩, Or.inr ⟨by decide, by decide⟩⟩)
  obtain ⟨err, hrun⟩ := Sample.exec_deleted
  obtain ⟨err', hblackout⟩ := Sample.exec_blackout
  exact ⟨⟨(record_kept_iff_spared hblackout).mpr hspared, hspared⟩, record_kept_iff_spared hrun,
    fun hsame => absurd (congrArg MonitorRecord.nextRun hsame) (by decide)⟩

end Sofon
