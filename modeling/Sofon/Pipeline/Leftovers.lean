import Sofon.Pipeline.Silence
import Sofon.Result.View

/-!
# What a deleted monitor leaves behind

`DeleteMonitor` clears what Redis has of a monitor, call by call: the cached copy, the
entry of the schedule, the incident hash and the status hash.  Then it deletes the row.

* The `HDEL` of the status hash names no field.  Redis rejects it, so the status hash of
  a monitor that has been checked stays (`status_left_behind`).
* What has got the row before it is deleted goes on with it: a worker or a request stores
  a copy, and the handler of a result writes the status, counts the failure and puts the
  monitor back into the schedule.

## When nothing is left

`cleanUpProtocol` reads from the trace of the delete how far it has got, and `Cleaned`
says what it has achieved by then.  Each key is watched from the call that clears it:
before, it may come and go, and after, nobody may be left who writes it.  So the condition
`Undisturbed` asks about the work in flight at two moments, the `DEL` of the copy and the
`ZREM`, and in between only about the steps that bring in more of it.  Once the row is
gone it can no longer be read (`not_hands_of_gone`), and ids are not used again
(`DB.gone_exec`).

`forgets_of_undisturbed` is the theorem about all runs.  That the delete spares the keys
of other monitors needs no condition (`sparesOthers_of_runs`).
-/

namespace Sofon

open Interleaving Program Transition

variable {m : UUID} {cfg : Config}

/-! ## The keys of a monitor -/

/-- **Nothing of `m` is in Redis**: no cached copy, no entry of the schedule, no incident
hash and no status hash. -/
structure Redis.Forgets (m : UUID) (s : Redis) : Prop where
  monitor : s.monitor m = none
  schedule : s.schedule.score (.id m) = none
  incident : s.incident m = .absent
  status : s.status m = none

/-- The call makes no copy of `m`. -/
def Cmd.CopiesNot (m : UUID) : Cmd → Prop
  | redis (.setMonitor x) => x.id ≠ m
  | _ => True

/-- The call writes no key of `m`. -/
def Cmd.Avoids (m : UUID) : Cmd → Prop
  | redis (.setMonitor x) => x.id ≠ m
  | redis (.hIncrByFailureCount m') => m' ≠ m
  | redis (.hSetFailureTimes m' ..) => m' ≠ m
  | redis (.hSetNXAlerted m') => m' ≠ m
  | redis (.hSetNXRecoveredAlerted m') => m' ≠ m
  | redis (.hSetDBIncident m') => m' ≠ m
  | redis (.hSetStatus m' _) => m' ≠ m
  | redis (.zAdd items) => Member.id m ∉ items.map KeyValue.Scored.member
  | _ => True

theorem Cmd.Avoids.copiesNot {c : Cmd} (h : c.Avoids m) : c.CopiesNot m := by
  cases c with
  | redis c =>
    cases c with
    | setMonitor x => exact h
    | _ => trivial
  | _ => trivial

/-- No row of `m` is left, and no new row can be of `m`. -/
def DB.Gone (m : UUID) (d : DB) : Prop := (∀ row ∈ d.monitors, row.id ≠ m) ∧ m < d.nextID

/-- Ids are not used again. -/
theorem DB.gone_exec {now : Time} {q : Query} {d : DB} (h : d.Gone m) :
    (d.exec now q).2.Gone m := by
  obtain ⟨hrows, hnew⟩ := h
  cases q with
  | updateMonitorStatus m' enabled team =>
    refine ⟨fun row hrow => ?_, hnew⟩
    obtain ⟨old, hold, rfl⟩ := List.mem_map.mp hrow
    split <;> exact hrows old hold
  | createMonitor data channels =>
    simp only [DB.exec]
    split
    · refine ⟨fun row hrow => ?_, hnew.trans (Nat.lt_succ_self _)⟩
      rcases List.mem_append.mp hrow with hrow | hrow
      · exact hrows row hrow
      · rw [List.mem_singleton.mp hrow]
        exact hnew.ne'
    · exact ⟨hrows, hnew⟩
  | deleteMonitor m' team => exact ⟨fun row hrow => hrows row (List.mem_filter.mp hrow).1, hnew⟩
  | createMonitorIncident =>
    simp only [DB.exec]
    split
    · exact ⟨hrows, hnew.trans (Nat.lt_succ_self _)⟩
    · exact ⟨hrows, hnew⟩
  | closeMonitorIncident =>
    simp only [DB.exec]
    split
    · exact ⟨hrows, hnew⟩
    · split <;> exact ⟨hrows, hnew⟩
  | getMonitorByID | getMonitorByTeamID =>
    simp only [DB.exec]
    split <;> exact ⟨hrows, hnew⟩
  | incrementMonitorCount | decrementMonitorCount => exact ⟨hrows, hnew⟩

theorem DB.nextID_exec (now : Time) (q : Query) (d : DB) : d.nextID ≤ (d.exec now q).2.nextID := by
  cases q with
  | createMonitor | createMonitorIncident =>
    simp only [DB.exec]
    split
    · exact Nat.le_succ _
    · exact le_rfl
  | closeMonitorIncident =>
    simp only [DB.exec]
    split
    · exact le_rfl
    · split <;> exact le_rfl
  | getMonitorByID | getMonitorByTeamID =>
    simp only [DB.exec]
    split <;> exact le_rfl
  | _ => exact le_rfl

theorem Redis.expire_nil (s : Redis) : s.expire [] = s := by
  have hkeep : ∀ {α : Type} (x : Option α), x.filter (fun _ => true) = x := by
    intro α x
    cases x <;> rfl
  cases s
  simp [Redis.expire, hkeep]

section Call

variable {b : Bool} {s s' : Shared} {c : Cmd} {r : c.Resp}

/-- **What a call does to Redis**: keys run out, and then nothing else happens, or it is the
command. -/
theorem redis_cases_of_serves (h : s.Serves b c r s') :
    ∃ ks, s'.world.redis = s.world.redis.expire ks ∨
      ∃ c', c = .redis c' ∧ s'.world.redis = ((s.world.redis.expire ks).exec c').2 := by
  rcases Shared.serves_world h with hw | ⟨e, he⟩
  · refine ⟨[], Or.inl ?_⟩
    rw [hw, Redis.expire_nil]
  · have hlast : s'.world = (s.world.exec b e c).2 := (congrArg Prod.snd he).symm
    refine ⟨e.expired, ?_⟩
    rw [hlast]
    cases c with
    | redis c' =>
      simp only [World.exec]
      split
      · exact Or.inl rfl
      · split
        · exact Or.inl rfl
        · exact Or.inr ⟨c', rfl, rfl⟩
    | sql q =>
      simp only [World.exec]
      split
      · exact Or.inl rfl
      · split <;> exact Or.inl rfl
    | _ => exact Or.inl rfl

/-- What the expiry of keys and the command keep, the call keeps. -/
theorem redis_of_serves {P : Redis → Prop} (h : s.Serves b c r s')
    (hexpire : ∀ ks x, P x → P (Redis.expire ks x))
    (hexec : ∀ c' x, c = .redis c' → P x → P (Redis.exec c' x).2) (hP : P s.world.redis) :
    P s'.world.redis := by
  obtain ⟨ks, hw | ⟨c', hc, hw⟩⟩ := redis_cases_of_serves h
  · rw [hw]
    exact hexpire ks _ hP
  · rw [hw]
    exact hexec c' _ hc (hexpire ks _ hP)

/-- A call that makes no copy of `m` brings none back. -/
theorem monitor_of_serves (h : s.Serves b c r s') (hc : c.CopiesNot m)
    (hnone : s.world.redis.monitor m = none) : s'.world.redis.monitor m = none := by
  refine redis_of_serves (P := fun x => x.monitor m = none) h ?_ ?_ hnone
  · intro ks x hx
    show (x.monitor m).filter _ = none
    rw [hx]
    rfl
  · rintro c' x rfl hx
    cases c' with
    | setMonitor y =>
      show Function.update x.monitor y.id (some y) m = none
      rwa [Function.update_of_ne (Ne.symm hc)]
    | delMonitor m' =>
      show Function.update x.monitor m' none m = none
      by_cases hm : m = m'
      · rw [hm, Function.update_self]
      · rwa [Function.update_of_ne hm]
    | hSetNXAlerted m' | hSetNXRecoveredAlerted m' =>
      simp only [Redis.exec]
      split <;> exact hx
    | _ => exact hx

/-- A call that does not schedule `m` leaves it unscheduled. -/
theorem schedule_of_serves (h : s.Serves b c r s') (hc : c.Avoids m)
    (hnone : s.world.redis.schedule.score (.id m) = none) :
    s'.world.redis.schedule.score (.id m) = none := by
  refine redis_of_serves (P := fun x => x.schedule.score (.id m) = none) h (fun _ _ => id) ?_ hnone
  rintro c' x rfl hx
  cases c' with
  | zAdd items =>
    show (x.schedule.add items).score (.id m) = none
    rwa [KeyValue.SortedSet.score_add_of_not_mem hc]
  | zPopMin n =>
    rw [KeyValue.SortedSet.score_eq_none_iff] at hx ⊢
    exact fun hmem => hx (mem_popMin_iff.mp hmem).1
  | zRem member =>
    show (x.schedule.remove member).score (.id m) = none
    by_cases hm : Member.id m = member
    · rw [← hm, KeyValue.SortedSet.score_remove_self]
    · rwa [KeyValue.SortedSet.score_remove_of_ne hm]
  | hSetNXAlerted m' | hSetNXRecoveredAlerted m' =>
    simp only [Redis.exec]
    split <;> exact hx
  | _ => exact hx

/-- A call that does not write the incident hash of `m` does not bring it back. -/
theorem incident_of_serves (h : s.Serves b c r s') (hc : c.Avoids m)
    (hnone : s.world.redis.incident m = .absent) : s'.world.redis.incident m = .absent := by
  refine redis_of_serves (P := fun x => x.incident m = .absent) h (fun _ _ => id) ?_ hnone
  rintro c' x rfl hx
  by_cases hkey : c'.incidentKey = some m
  · cases c' with
    | delIncident m' =>
      obtain rfl := Option.some.inj hkey
      exact Redis.setIncident_incident ..
    | hGetAllIncident m' => exact hx
    | hIncrByFailureCount m' | hSetFailureTimes m' | hSetDBIncident m' | hSetNXAlerted m'
    | hSetNXRecoveredAlerted m' => exact absurd (Option.some.inj hkey) hc
    | _ => cases hkey
  · rwa [Redis.exec_incident hkey]

/-- A call that does not store the status of `m` does not bring it back. -/
theorem status_of_serves (h : s.Serves b c r s') (hc : c.Avoids m)
    (hnone : s.world.redis.status m = none) : s'.world.redis.status m = none := by
  refine redis_of_serves (P := fun x => x.status m = none) h (fun _ _ => id) ?_ hnone
  rintro c' x rfl hx
  cases c' with
  | hSetStatus m' y =>
    show Function.update x.status m' (some y) m = none
    rwa [Function.update_of_ne (Ne.symm hc)]
  | hSetNXAlerted m' | hSetNXRecoveredAlerted m' =>
    simp only [Redis.exec]
    split <;> exact hx
  | _ => exact hx

end Call

/-! ## The work in flight -/

/-- The answer gives the row of `m` to a goroutine that goes on to store a copy of it. -/
def Call.Hands (m : UUID) : Task → Call → Prop
  | .startWork _, ⟨.sql (.getMonitorByID m'), .ok _⟩ => m' = m
  | .request (.get ..), ⟨.sql (.getMonitorByTeamID m' _), .ok _⟩ => m' = m
  | _, _ => False

/-- The call puts `m` back into the schedule, or its answer makes the goroutine do so: a
worker that cannot read the row, a request that has enabled it, and the scheduler. -/
def Call.Replans (m : UUID) : Task → Call → Prop
  | .startWork _, ⟨.sql (.getMonitorByID m'), .error err⟩ => m' = m ∧ err ≠ .noRows
  | .request (.updateStatus ..), ⟨.sql (.updateMonitorStatus m' true _), .ok rows⟩ =>
    m' = m ∧ rows ≠ 0
  | .doWork, ⟨.redis (.zAdd items), _⟩ => Member.id m ∈ items.map KeyValue.Scored.member
  | _, _ => False

/-- The answers that the database gives once it has a row of `m`: a row has the id that was
asked for, and a new id is another one. -/
def Call.Plausible (m : UUID) : Call → Prop
  | ⟨.sql (.getMonitorByID m'), .ok row⟩ => row.id = m'
  | ⟨.sql (.getMonitorByTeamID m' _), .ok row⟩ => row.id = m'
  | ⟨.sql (.createMonitor ..), .ok id⟩ => id ≠ m
  | _ => True

/-- The goroutine issues commands of `S` only, as long as its answers are of `A`, and where
it stands then is of `B`. -/
def Goroutine.Heeds (S : Task → Cmd → Prop) (A : Task → Call → Prop) (B : Point → Prop) :
    Goroutine → Prop
  | stands p => B p
  | runs task t => t.todo.Follows (Protocol.stateless (S task) (A task)) (fun p _ => B p) ()

/-- **The goroutine has no copy of `m` to store**: unless it is given the row, it makes
none. -/
def Goroutine.Unread (m : UUID) : Goroutine → Prop :=
  Heeds (fun _ c => c.CopiesNot m) (fun task e => e.Plausible m ∧ ¬ e.Hands m task) fun _ => True

/-- The calls of a goroutine that has nothing of `m` in hand.  What the scheduler writes
back is not asked about here. -/
def Task.Avoids (m : UUID) (task : Task) (c : Cmd) : Prop :=
  c.Avoids m ∨ task = .doWork ∧ ∃ items, c = .redis (.zAdd items)

/-- **The goroutine has nothing of `m` in hand**: unless it is given the row or made to
schedule the monitor, it writes no key of `m`, and it has no check of it under way. -/
def Goroutine.Quiet (m : UUID) : Goroutine → Prop :=
  Heeds (Task.Avoids m) (fun task e => (e.Plausible m ∧ ¬ e.Hands m task) ∧ ¬ e.Replans m task)
    fun p => ¬ p.Holds m

section Start

/-- The handlers make no copies. -/
theorem Cmd.About.copiesNot {m' : UUID} {c : Cmd} (h : c.About m') : c.CopiesNot m := by
  cases c with
  | redis c =>
    cases c with
    | setMonitor x => exact h.elim
    | _ => trivial
  | _ => trivial

/-- The calls for another monitor write no key of `m`. -/
theorem Cmd.About.avoids {m' : UUID} {c : Cmd} (h : c.About m') (hne : m' ≠ m) : c.Avoids m := by
  cases c with
  | redis c =>
    cases c with
    | setMonitor x => exact h.elim
    | zAdd items =>
      obtain ⟨score, rfl⟩ := h
      show Member.id m ∉ [(⟨score, .id m'⟩ : Z)].map KeyValue.Scored.member
      simpa using hne.symm
    | hIncrByFailureCount k | hSetFailureTimes k | hSetNXAlerted k | hSetNXRecoveredAlerted k
    | hSetDBIncident k | hSetStatus k =>
      obtain rfl : k = m' := h
      exact hne
    | _ => trivial
  | _ => trivial

theorem copiesNot_scheduleMonitor (m' : UUID) (i : ℤ) :
    (MonitorService.scheduleMonitor m' i).Only (Cmd.CopiesNot m) :=
  (about_scheduleMonitor m' i).mono fun _ hc => hc.copiesNot

theorem avoids_scheduleMonitor {m' : UUID} (h : m' ≠ m) (i : ℤ) :
    (MonitorService.scheduleMonitor m' i).Only (Cmd.Avoids m) :=
  (about_scheduleMonitor m' i).mono fun _ hc => hc.avoids h

theorem avoids_deleteMonitor (team m' : UUID) :
    (MonitorService.deleteMonitor team m').Only (Cmd.Avoids m) :=
  MonitorService.only_deleteMonitor _ trivial trivial trivial (fun _ => trivial) trivial trivial
    trivial trivial

variable {S : Cmd → Prop} {A : Call → Prop} {team m' : UUID}

/-- What a worker does with a job, if it reads only rows of other monitors. -/
theorem follows_startWork_of (hget : S (.sql (.getMonitorByID m')))
    (hok : ∀ row, A ⟨.sql (.getMonitorByID m'), .ok row⟩ →
      row.id ≠ m ∧ S (.redis (.setMonitor (MonitorRepository.ofRow row))))
    (herr : ∀ err, A ⟨.sql (.getMonitorByID m'), .error err⟩ →
      err = .noRows ∨ (MonitorService.scheduleMonitor m' 5).Only S) :
    (Executor.startWork m').Follows (Protocol.stateless S A)
      (fun x _ => ∀ y, x = some y → y.id ≠ m) () := by
  refine ⟨hget, fun r hr => ?_⟩
  rcases r with err | row
  · have hplan := herr err hr
    show Follows _ _ (if (wrapGetError "repo.monitor.get_by_id" err).kind = .notFound then _
      else _) _
    split
    · exact fun _ heq => by cases heq
    · rename_i hkind
      rcases hplan with rfl | hplan
      · exact absurd rfl hkind
      · exact hplan.stateless.bind fun _ _ _ _ heq => by cases heq
  · obtain ⟨hid, hset⟩ := hok row hr
    refine ⟨hset, fun _ _ => ?_⟩
    show Follows _ _ (if (MonitorRepository.ofRow row).enabled then _ else _) _
    split
    · rintro y hy
      cases hy
      exact hid
    · exact fun _ heq => by cases heq

/-- What a request for a monitor does, if it reads only rows of other monitors. -/
theorem follows_getMonitor_of (hcached : S (.redis (.getMonitor m')))
    (hget : S (.sql (.getMonitorByTeamID m' team)))
    (hok : ∀ row, A ⟨.sql (.getMonitorByTeamID m' team), .ok row⟩ →
      S (.redis (.setMonitor (MonitorRepository.ofRow row)))) :
    (MonitorService.getMonitor team m').Follows (Protocol.stateless S A) (fun _ _ => True) () := by
  have hread : (RedisClient.getMonitor m').Only S := by
    refine ⟨hcached, fun x => ?_⟩
    cases x <;> trivial
  refine hread.stateless.bind fun cached q _ => ?_
  cases cached.filter (·.teamID = team) with
  | some x => trivial
  | none =>
    refine ⟨hget, fun r hr => ?_⟩
    rcases r with err | row
    · cases err <;> trivial
    · exact ⟨hok row hr, fun _ _ => trivial⟩

/-- **At its start a goroutine has no copy of `m` to store.** -/
theorem unread_start (cfg : Config) (task : Task) : (Goroutine.start cfg task).Unread m := by
  cases task with
  | doWork =>
    have honly : (Scheduler.doWork Member.printedOnly cfg.batchSize).Only (Cmd.CopiesNot m) :=
      Scheduler.only_doWork _ trivial trivial (fun _ => trivial) (fun _ => trivial)
        (fun _ => trivial) _ _
    exact honly.stateless.bind fun _ _ _ => trivial
  | startWork m' =>
    refine (follows_startWork_of (m := m) trivial (fun row hr => ?_)
      fun _ _ => Or.inr (copiesNot_scheduleMonitor _ _)).bind fun x _ _ => by
        cases x <;> trivial
    have hne : row.id ≠ m := fun heq => hr.2 (hr.1.symm.trans heq)
    exact ⟨hne, hne⟩
  | handle ok r =>
    cases ok with
    | true =>
      exact ((about_handleSuccess r).mono fun _ hc => hc.copiesNot).stateless.bind
        fun _ _ _ => trivial
    | false =>
      exact ((about_handleFailure cfg.resultProcessor r).mono fun _ hc =>
        hc.copiesNot).stateless.bind fun _ _ _ => trivial
  | request req =>
    suffices hreq : req.prog.Follows (Protocol.stateless _ _) (fun _ _ => True) () from
      hreq.bind fun _ _ _ => trivial
    cases req with
    | create data =>
      have honly : (MonitorService.createMonitor data).Only (Cmd.CopiesNot m) :=
        MonitorService.only_createMonitor _ trivial trivial trivial (fun _ => trivial)
          fun _ _ => trivial
      exact honly.stateless.bind fun _ _ _ => trivial
    | updateStatus team m' enable =>
      have honly : (MonitorService.updateMonitorStatus team m' enable).Only (Cmd.CopiesNot m) :=
        MonitorService.only_updateMonitorStatus _ trivial trivial trivial trivial
          (fun _ _ => trivial) (fun _ => trivial) trivial trivial trivial trivial
      exact honly.stateless.bind fun _ _ _ => trivial
    | delete team m' =>
      exact ((avoids_deleteMonitor team m').mono fun _ hc => hc.copiesNot).stateless.bind
        fun _ _ _ => trivial
    | get team m' =>
      refine (follows_getMonitor_of trivial trivial fun row hr => ?_).bind fun _ _ _ => trivial
      exact fun heq => hr.2 (hr.1.symm.trans heq)

/-- What a request that changes the status does, if it enables other monitors only. -/
theorem follows_updateMonitorStatus_of {enable : Bool}
    (hS : ∀ c, c.Avoids m → S c)
    (hread : ∀ row, A ⟨.sql (.getMonitorByTeamID m' team), .ok row⟩ → row.id = m')
    (hwrite : ∀ rows, enable = true → m' = m →
      A ⟨.sql (.updateMonitorStatus m' enable team), .ok rows⟩ → rows = 0) :
    (MonitorService.updateMonitorStatus team m' enable).Follows (Protocol.stateless S A)
      (fun _ _ => True) () := by
  refine ⟨hS _ trivial, fun x hx => ?_⟩
  rcases x with err | row
  · cases err <;> trivial
  have hid : row.id = m' := hread row hx
  show Follows _ _ (if row.enabled = enable then _ else _) _
  split
  · trivial
  refine ⟨hS _ trivial, fun y hy => ?_⟩
  rcases y with err | rows
  · trivial
  show Follows _ _ ((if rows = 0 then .ret _ else .ret _ : Prog _) >>= _) _
  split
  · trivial
  rename_i hrows
  show Follows _ _ (if enable then _ else _) _
  split
  · rename_i henable
    have hne : row.id ≠ m := fun heq => hrows (hwrite rows henable (hid.symm.trans heq) hy)
    exact ((avoids_scheduleMonitor hne _).mono hS).stateless.bind fun _ _ _ => trivial
  · have hclose : (MonitorRepository.closeOpenIncident m').Only S :=
      MonitorService.only_closeOpenIncident S (hS _ trivial) fun _ => hS _ trivial
    have hdisable : (MonitorService.disableMonitor m').Only S :=
      MonitorService.only_disableMonitor S (hS _ trivial) (hS _ trivial) (hS _ trivial)
        (hS _ trivial) (hS _ trivial)
    exact hclose.stateless.bind fun _ _ _ => hdisable.stateless.bind fun _ _ _ => trivial

/-- What a request for a new monitor does, if the new id is another one. -/
theorem follows_createMonitor_of {data : CreateMonitor} (hS : ∀ c, c.Avoids m → S c)
    (hinsert : ∀ channels id, A ⟨.sql (.createMonitor data channels), .ok id⟩ → id ≠ m) :
    (MonitorService.createMonitor data).Follows (Protocol.stateless S A) (fun _ _ => True) () := by
  have hcount : (UserRepository.incrementMonitorCount data.userID).Only S := by
    refine ⟨hS _ trivial, fun x => ?_⟩
    rcases x with err | rows
    · trivial
    · show Program.Only _ (if rows = 0 then _ else _)
      split <;> trivial
  refine hcount.stateless.bind fun x _ _ => ?_
  rcases x with err | u
  · trivial
  refine ⟨hS _ trivial, fun y hy => ?_⟩
  rcases y with err | id
  · trivial
  · exact ((avoids_scheduleMonitor (hinsert _ id hy) _).mono hS).stateless.bind
      fun _ _ _ => trivial

/-- **At its start a goroutine has nothing of `m` in hand**, unless it is handed a result. -/
theorem quiet_start (cfg : Config) {task : Task}
    (htask : ∀ ok r, task = .handle ok r → r.monitorID ≠ m) :
    (Goroutine.start cfg task).Quiet m := by
  have hS : ∀ c, c.Avoids m → task.Avoids m c := fun _ => Or.inl
  cases task with
  | doWork =>
    have honly : (Scheduler.doWork Member.printedOnly cfg.batchSize).Only (Task.Avoids m .doWork) :=
      Scheduler.only_doWork _ (Or.inl trivial) (Or.inl trivial) (fun _ => Or.inl trivial)
        (fun _ => Or.inr ⟨rfl, _, rfl⟩) (fun _ => Or.inl trivial) _ _
    exact honly.stateless.bind fun _ _ _ => id
  | startWork m' =>
    refine (follows_startWork_of (m := m) (hS _ trivial) (fun row hr => ?_)
      fun err hr => ?_).bind fun x _ hx => ?_
    · have hne : row.id ≠ m := fun heq => hr.1.2 (hr.1.1.symm.trans heq)
      exact ⟨hne, hS _ hne⟩
    · by_cases hm : m' = m
      · exact Or.inl (by_contra fun herr => hr.2 ⟨hm, herr⟩)
      · exact Or.inr ((avoids_scheduleMonitor hm 5).mono hS)
    · cases x with
      | none => exact id
      | some y => exact hx y rfl
  | handle ok r =>
    have hne := htask ok r rfl
    cases ok with
    | true =>
      exact ((about_handleSuccess r).mono fun _ hc => hS _ (hc.avoids hne)).stateless.bind
        fun _ _ _ => id
    | false =>
      exact ((about_handleFailure cfg.resultProcessor r).mono fun _ hc =>
        hS _ (hc.avoids hne)).stateless.bind fun _ _ _ => id
  | request req =>
    suffices hreq : req.prog.Follows (Protocol.stateless _ _) (fun _ _ => True) () from
      hreq.bind fun _ _ _ => id
    cases req with
    | create data =>
      exact (follows_createMonitor_of hS fun _ _ hr => hr.1.1).bind fun _ _ _ => trivial
    | updateStatus team m' enable =>
      refine (follows_updateMonitorStatus_of hS (fun _ hr => hr.1.1)
        fun rows henable hm hr => ?_).bind fun _ _ _ => trivial
      subst henable
      exact by_contra fun hrows => hr.2 ⟨hm, hrows⟩
    | delete team m' =>
      exact ((avoids_deleteMonitor team m').mono hS).stateless.bind fun _ _ _ => trivial
    | get team m' =>
      refine (follows_getMonitor_of (hS _ trivial) (hS _ trivial)
        fun row hr => hS _ ?_).bind fun _ _ _ => trivial
      exact fun heq => hr.1.2 (hr.1.1.symm.trans heq)

end Start

/-! ## One step of the work in flight -/

/-- The step hands the row of `m` over. -/
def Label.Hands (m : UUID) : Label → Prop
  | call task e => e.Hands m task
  | _ => False

/-- The step leads to an entry of `m` in the schedule. -/
def Label.Replans (m : UUID) : Label → Prop
  | call task e => e.Replans m task
  | _ => False

/-- No result of `m` is on its way to a handler. -/
structure Shared.Resultless (m : UUID) (s : Shared) : Prop where
  resultChan : ∀ r ∈ s.resultChan.queue, r.monitorID ≠ m
  router : ∀ r, s.router = .routing r → r.monitorID ≠ m
  routed : ∀ ok, ∀ r ∈ (s.routed ok).queue, r.monitorID ≠ m

/-- **The pipeline has nothing of `m` in hand.**  A job of `m` may still be waiting, or be
with a worker that has not read the row yet. -/
structure System.Quiet (m : UUID) (s : System) : Prop where
  procs : ∀ g ∈ s.procs, g.Quiet m
  results : s.shared.Resultless m

theorem plausible_of_serves {b : Bool} {s s' : Shared} {c : Cmd} {r : c.Resp}
    (h : s.Serves b c r s') (hm : m < s.world.db.nextID) : Call.Plausible m ⟨c, r⟩ := by
  cases c with
  | sql q =>
    rcases r with err | a
    · cases q <;> trivial
    · obtain ⟨-, -, now, hr, -⟩ := serves_sql h rfl
      cases q with
      | getMonitorByID m' => exact DB.id_of_monitor? (DB.monitor?_of_getMonitorByID hr.symm)
      | getMonitorByTeamID m' team =>
        exact DB.id_of_monitor? (DB.monitor?_of_getMonitorByTeamID hr.symm).1
      | createMonitor data channels =>
        simp only [DB.exec] at hr
        split at hr
        · cases hr
          exact hm.ne'
        · cases hr
      | _ => trivial
  | _ => trivial

section Step

variable {s s' : Shared} {g g' : Goroutine} {x : Label} {new : List Goroutine}

/-- A goroutine that is not given the row has no copy to store. -/
theorem unread_step (h : Goroutine.Step cfg s g x s' g' new) (hm : m < s.world.db.nextID)
    (hx : ¬ x.Hands m) (hg : g.Unread m) : g'.Unread m ∧ ∀ p ∈ new, p.Unread m := by
  cases h with
  | call h => exact ⟨hg.2 _ ⟨plausible_of_serves h hm, hx⟩, fun p hp => nomatch hp⟩
  | tick | take h | receive h => exact ⟨unread_start cfg _, fun p hp => nomatch hp⟩
  | spawn => exact ⟨trivial, List.forall_mem_singleton.mpr trivial⟩
  | _ => exact ⟨trivial, fun p hp => nomatch hp⟩

/-- **A pipeline that has nothing of `m` in hand gets nothing** unless it is given the row
or made to schedule the monitor. -/
theorem quiet_step (h : Goroutine.Step cfg s g x s' g' new) (hm : m < s.world.db.nextID)
    (hx : ¬ x.Hands m) (hplan : ¬ x.Replans m) (hg : g.Quiet m) (hs : s.Resultless m) :
    g'.Quiet m ∧ (∀ p ∈ new, p.Quiet m) ∧ s'.Resultless m := by
  obtain ⟨hresult, hrouter, hrouted⟩ := hs
  have hnone : ∀ p ∈ ([] : List Goroutine), p.Quiet m := fun p hp => nomatch hp
  cases h with
  | call h =>
    refine ⟨hg.2 _ ⟨⟨plausible_of_serves h hm, hx⟩, hplan⟩, hnone, ?_⟩
    obtain ⟨w, jobs, alerts, p, rfl, -, -⟩ := Shared.serves_frame h
    exact ⟨hresult, hrouter, hrouted⟩
  | @ret task p log =>
    refine ⟨hg, hnone, ?_⟩
    cases task <;> exact ⟨hresult, hrouter, hrouted⟩
  | tick =>
    exact ⟨quiet_start cfg fun _ _ heq => (by cases heq), hnone, hresult, hrouter, hrouted⟩
  | take h =>
    exact ⟨quiet_start cfg fun _ _ heq => (by cases heq), hnone, hresult, hrouter, hrouted⟩
  | acquire h => exact ⟨hg, hnone, hresult, hrouter, hrouted⟩
  | spawn => exact ⟨id, List.forall_mem_singleton.mpr hg, hresult, hrouter, hrouted⟩
  | @check x o =>
    refine ⟨fun hid => hg ?_, hnone, hresult, hrouter, hrouted⟩
    exact (Executor.executeHTTPCheck_monitorID x o).symm.trans hid
  | @push r ch h =>
    refine ⟨id, hnone, fun r' hr' => ?_, hrouter, hrouted⟩
    rw [(Channel.send_ok h).2.2] at hr'
    rcases List.mem_append.mp hr' with hr' | hr'
    · exact hresult r' hr'
    · rw [List.mem_singleton.mp hr']
      exact hg
  | pushPanics h => exact ⟨hg, hnone, hresult, hrouter, hrouted⟩
  | @receive ok r ch h =>
    have hqueue := (Channel.recv_some h).1
    have hr : r.monitorID ≠ m := hrouted ok r (hqueue ▸ List.mem_cons_self)
    refine ⟨quiet_start cfg ?_, hnone, hresult, hrouter, fun ok' r' hr' => ?_⟩
    · rintro ok' r' heq
      cases heq
      exact hr
    · by_cases hok : ok' = ok
      · subst hok
        rw [Shared.setRouted_self] at hr'
        exact hrouted ok' r' (hqueue ▸ List.mem_cons_of_mem _ hr')
      · rw [Shared.setRouted_of_ne hok] at hr'
        exact hrouted ok' r' hr'
  | _ => exact ⟨id, hnone, hresult, hrouter, hrouted⟩

/-- Closing a channel leaves what is in the buffers. -/
theorem queue_close (ok ok' : Bool) (s : Shared) :
    ((s.setRouted ok (s.routed ok).close).routed ok').queue = (s.routed ok').queue := by
  by_cases hok : ok' = ok
  · subst hok
    rw [Shared.setRouted_self, Channel.close_queue]
  · rw [Shared.setRouted_of_ne hok]

theorem resultless_router (h : Router.Step s s') (hs : s.Resultless m) : s'.Resultless m := by
  obtain ⟨hresult, hrouter, hrouted⟩ := hs
  cases h with
  | @receive r ch hr h =>
    have hqueue := (Channel.recv_some h).1
    refine ⟨fun r' hr' => hresult r' (hqueue ▸ List.mem_cons_of_mem _ hr'), ?_, hrouted⟩
    rintro r' heq
    cases heq
    exact hresult r (hqueue ▸ List.mem_cons_self)
  | @deliver r ch hr h =>
    refine ⟨hresult, (fun _ heq => by cases heq), fun ok r' hr' => ?_⟩
    by_cases hok : ok = r.success
    · subst hok
      change r' ∈ ((s.setRouted r.success ch).routed r.success).queue at hr'
      rw [Shared.setRouted_self, (Channel.send_ok h).2.2] at hr'
      rcases List.mem_append.mp hr' with hr' | hr'
      · exact hrouted _ r' hr'
      · rw [List.mem_singleton.mp hr']
        exact hrouter r hr
    · change r' ∈ ((s.setRouted r.success ch).routed ok).queue at hr'
      rw [Shared.setRouted_of_ne hok] at hr'
      exact hrouted ok r' hr'
  | deliverPanics hr h => exact ⟨hresult, hrouter, hrouted⟩
  | leave hr h => exact ⟨hresult, (fun _ heq => by cases heq), hrouted⟩
  | closeFailure hr =>
    refine ⟨hresult, (fun _ heq => by cases heq), fun ok r' hr' => hrouted ok r' ?_⟩
    rwa [← queue_close]
  | closeSuccess hr =>
    refine ⟨hresult, (fun _ heq => by cases heq), fun ok r' hr' => hrouted ok r' ?_⟩
    rwa [← queue_close]

end Step

/-! ## The delete -/

/-- How far a `DeleteMonitor` has got. -/
inductive CleanUp where
  /-- it has not read the row -/
  | asked
  /-- it has read the row -/
  | found
  /-- after `DEL` of the cached copy -/
  | uncopied
  /-- after `ZREM` -/
  | unscheduled
  /-- after `DEL` of the incident hash -/
  | cleared
  /-- after `HDEL` of the status hash, which does nothing -/
  | swept
  /-- after the `DELETE` of the row -/
  | deleted
  deriving DecidableEq

/-- The order of the clean-up. -/
def CleanUp.rank : CleanUp → ℕ
  | asked => 0
  | found => 1
  | uncopied => 2
  | unscheduled => 3
  | cleared => 4
  | swept => 5
  | deleted => 6

/-- The delete has got as far as `p`. -/
def CleanUp.Past (p q : CleanUp) : Prop := p.rank ≤ q.rank

instance (p q : CleanUp) : Decidable (p.Past q) := inferInstanceAs (Decidable (_ ≤ _))

/-- The calls of a `DeleteMonitor` in which nothing fails. -/
def cleanUpProtocol (team m : UUID) : Protocol Cmd Cmd.Resp CleanUp where
  start := .asked
  next q e := match q, e with
    | .asked, ⟨.sql (.getMonitorByTeamID ..), .ok _⟩ => .found
    | .found, ⟨.redis (.delMonitor _), .ok _⟩ => .uncopied
    | .uncopied, ⟨.redis (.zRem _), .ok _⟩ => .unscheduled
    | .unscheduled, ⟨.redis (.delIncident _), .ok _⟩ => .cleared
    | .cleared, ⟨.redis (.hDelStatus _), _⟩ => .swept
    | .swept, ⟨.sql (.deleteMonitor ..), .ok rows⟩ => if rows = 0 then .swept else .deleted
    | q, _ => q
  allows q c := match q with
    | .asked => c = .sql (.getMonitorByTeamID m team)
    | .found => c = .redis (.delMonitor m)
    | .uncopied => c = .redis (.zRem (.id m))
    | .unscheduled => c = .redis (.delIncident m)
    | .cleared => c = .redis (.hDelStatus m)
    | .swept => c = .sql (.deleteMonitor m team)
    | .deleted => ∃ user, c = .sql (.decrementMonitorCount user)
  answers := Call.Sound

theorem follows_cleanUp (team m : UUID) : (MonitorService.deleteMonitor team m).Follows
    (cleanUpProtocol team m) (fun _ _ => True) .asked := by
  refine ⟨rfl, fun x _ => ?_⟩
  rcases x with err | row
  · cases err <;> trivial
  have hok : ∀ {c : RedisCmd} {x : Except RedisError c.Reply},
      Call.Sound ⟨.redis c, x⟩ → ∃ s : Redis, x = (s.exec c).1 := by
    intro c x hx
    rcases hx with hx | hx
    · cases hx
    · exact Call.genuine_redis hx
  refine ⟨rfl, fun x hx => ?_⟩
  obtain ⟨s, rfl⟩ := hok hx
  refine ⟨rfl, fun x hx => ?_⟩
  obtain ⟨s, rfl⟩ := hok hx
  refine ⟨rfl, fun x hx => ?_⟩
  obtain ⟨s, rfl⟩ := hok hx
  refine ⟨rfl, fun _ _ => ⟨rfl, fun x _ => ?_⟩⟩
  rcases x with err | rows
  · trivial
  show Follows _ _ ((if rows = 0 then .ret _ else .ret _ : Prog _) >>= _)
    (if rows = 0 then CleanUp.swept else .deleted)
  split
  · trivial
  · refine ⟨⟨_, rfl⟩, fun x _ => ?_⟩
    cases x <;> trivial

/-- How far the `i`-th goroutine has got with the delete of `m`. -/
def System.cleanUp (i : ℕ) (team m : UUID) (s : System) : CleanUp :=
  match s.procs[i]? with
  | some (.runs (.request (.delete team' m')) t) =>
    if team' = team ∧ m' = m then (cleanUpProtocol team m).state t.log else .asked
  | _ => .asked

/-- **The delete is not disturbed**: the condition on a step from `s` that takes it from
`p` to `q`.

* At the `DEL` of the cached copy, nobody has a copy to store.
* At the `ZREM`, the pipeline has nothing of the monitor in hand.
* At the `HDEL`, there is no status hash.
* Nobody is given the row between the first of these and the `DELETE`.
* Nobody is made to schedule the monitor from the second of these on. -/
structure Undisturbed (m : UUID) (p q : CleanUp) (s : System) (x : Label) : Prop where
  copy : p = .found → q = .uncopied → ∀ g ∈ s.procs, g.Unread m
  plan : p = .uncopied → q = .unscheduled → s.Quiet m
  status : p = .cleared → q = .swept → s.shared.world.redis.status m = none
  reads : CleanUp.uncopied.Past p → p ≠ .deleted → ¬ x.Hands m
  plans : CleanUp.unscheduled.Past p → ¬ x.Replans m

/-- **What a delete that has got as far as `q` has achieved.** -/
structure Cleaned (m : UUID) (q : CleanUp) (s : System) : Prop where
  known : CleanUp.found.Past q → m < s.shared.world.db.nextID
  copy : CleanUp.uncopied.Past q →
    s.shared.world.redis.monitor m = none ∧ ∀ g ∈ s.procs, g.Unread m
  plan : CleanUp.unscheduled.Past q →
    s.shared.world.redis.schedule.score (.id m) = none ∧ s.Quiet m
  incident : CleanUp.cleared.Past q → s.shared.world.redis.incident m = .absent
  status : CleanUp.swept.Past q → s.shared.world.redis.status m = none
  gone : q = .deleted → s.shared.world.db.Gone m

theorem Cleaned.forgets {s : System} (h : Cleaned m .deleted s) : s.shared.world.redis.Forgets m :=
  ⟨(h.copy (by decide)).1, (h.plan (by decide)).1, h.incident (by decide), h.status (by decide)⟩

theorem cleaned_asked (m : UUID) (s : System) : Cleaned m .asked s := by
  constructor <;> exact fun h => absurd h (by decide)

section Step

variable {s s' : Shared} {g g' : Goroutine} {x : Label} {new l : List Goroutine} {i : ℕ}

theorem hands_cases {task : Task} {e : Call} (h : e.Hands m task) :
    (∃ row, e = ⟨.sql (.getMonitorByID m), .ok row⟩) ∨
      ∃ team row, e = ⟨.sql (.getMonitorByTeamID m team), .ok row⟩ := by
  unfold Call.Hands at h
  split at h
  · subst h
    exact Or.inl ⟨_, rfl⟩
  · subst h
    exact Or.inr ⟨_, _, rfl⟩
  · exact h.elim

/-- A row that is gone is not handed over. -/
theorem not_hands_of_gone (h : Goroutine.Step cfg s g x s' g' new) (hs : s.world.db.Gone m) :
    ¬ x.Hands m := by
  have hno : ∀ row, s.world.db.monitor? m ≠ some row := fun row hrow =>
    hs.1 row (DB.mem_of_monitor? hrow) (DB.id_of_monitor? hrow)
  cases h with
  | call h =>
    intro hhands
    rcases hands_cases hhands with ⟨row, heq⟩ | ⟨team, row, heq⟩
    · cases heq
      obtain ⟨-, -, now, hr, -⟩ := serves_sql h rfl
      exact hno row (DB.monitor?_of_getMonitorByID hr.symm)
    · cases heq
      obtain ⟨-, -, now, hr, -⟩ := serves_sql h rfl
      exact hno row (DB.monitor?_of_getMonitorByTeamID hr.symm).1
  | _ => exact id

/-- A goroutine that has nothing of `m` in hand and is not made to schedule it writes no key
of it. -/
theorem avoids_of_quiet {task : Task} {c : Cmd} {k : c.Resp → Prog Point} {r : c.Resp}
    {log : List Call} (hg : Goroutine.Quiet m (.runs task ⟨.call c k, log⟩))
    (hplan : ¬ Call.Replans m task ⟨c, r⟩) : c.Avoids m := by
  rcases hg.1 with hc | ⟨rfl, items, rfl⟩
  · exact hc
  · exact hplan

/-- **One step of a goroutine** undoes nothing. -/
theorem cleaned_proc {q : CleanUp} (h : Goroutine.Step cfg s g x s' g' new) (hi : l[i]? = some g)
    (hreads : CleanUp.uncopied.Past q → q ≠ .deleted → ¬ x.Hands m)
    (hplans : CleanUp.unscheduled.Past q → ¬ x.Replans m) (hs : Cleaned m q ⟨s, l⟩) :
    Cleaned m q ⟨s', l.set i g' ++ new⟩ := by
  obtain ⟨hknown, hcopy, hplan, hincident, hstatus, hgone⟩ := hs
  have hmem : g ∈ l := List.mem_of_getElem? hi
  have hhands : CleanUp.uncopied.Past q → ¬ x.Hands m := by
    intro hq
    by_cases hdeleted : q = .deleted
    · exact not_hands_of_gone h (hgone hdeleted)
    · exact hreads hq hdeleted
  have hfound : CleanUp.uncopied.Past q → CleanUp.found.Past q := fun hq =>
    (by decide : CleanUp.found.rank ≤ CleanUp.uncopied.rank).trans hq
  have hsooner : CleanUp.unscheduled.Past q → CleanUp.uncopied.Past q := fun hq =>
    (by decide : CleanUp.uncopied.rank ≤ CleanUp.unscheduled.rank).trans hq
  have hcleared : CleanUp.cleared.Past q → CleanUp.unscheduled.Past q := fun hq =>
    (by decide : CleanUp.unscheduled.rank ≤ CleanUp.cleared.rank).trans hq
  have hswept : CleanUp.swept.Past q → CleanUp.unscheduled.Past q := fun hq =>
    (by decide : CleanUp.unscheduled.rank ≤ CleanUp.swept.rank).trans hq
  -- what the goroutines have in hand
  have hunread : CleanUp.uncopied.Past q → ∀ p ∈ l.set i g' ++ new, p.Unread m := by
    intro hq
    obtain ⟨-, hall⟩ := hcopy hq
    obtain ⟨hg', hnew⟩ := unread_step h (hknown (hfound hq)) (hhands hq) (hall g hmem)
    exact forall_mem_step hall (fun _ _ h => h) hg' hnew
  have hquiet : CleanUp.unscheduled.Past q → System.Quiet m ⟨s', l.set i g' ++ new⟩ := by
    intro hq
    obtain ⟨-, hall, hresults⟩ := hplan hq
    obtain ⟨hg', hnew, hresults'⟩ := quiet_step h (hknown (hfound (hsooner hq)))
      (hhands (hsooner hq)) (hplans hq) (hall g hmem) hresults
    exact ⟨forall_mem_step hall (fun _ _ h => h) hg' hnew, hresults'⟩
  rcases h.world with hworld | ⟨task, c, k, r, log, rfl, rfl, hcall⟩
  · constructor
    case known => rwa [hworld]
    case copy => exact fun hq => ⟨hworld ▸ (hcopy hq).1, hunread hq⟩
    case plan => exact fun hq => ⟨hworld ▸ (hplan hq).1, hquiet hq⟩
    case incident => rwa [hworld]
    case status => rwa [hworld]
    case gone => rwa [hworld]
  · have havoids : CleanUp.unscheduled.Past q → c.Avoids m := fun hq =>
      avoids_of_quiet ((hplan hq).2.procs _ hmem) (hplans hq)
    constructor
    case known =>
      exact fun hq => Shared.serves_db (P := fun d => m < d.nextID) hcall
        (fun q now d _ hd => hd.trans_le (DB.nextID_exec now q d)) (hknown hq)
    case copy =>
      exact fun hq => ⟨monitor_of_serves hcall ((hcopy hq).2 _ hmem).1 (hcopy hq).1, hunread hq⟩
    case plan =>
      exact fun hq => ⟨schedule_of_serves hcall (havoids hq) (hplan hq).1, hquiet hq⟩
    case incident =>
      exact fun hq => incident_of_serves hcall (havoids (hcleared hq)) (hincident hq)
    case status => exact fun hq => status_of_serves hcall (havoids (hswept hq)) (hstatus hq)
    case gone => exact fun hq => Shared.serves_db hcall (fun _ _ _ _ => DB.gone_exec) (hgone hq)

/-- **One step of the server** undoes nothing. -/
theorem cleaned_step {s t : System} {x : Label} {q : CleanUp} (h : System.Step cfg s x t)
    (hreads : CleanUp.uncopied.Past q → q ≠ .deleted → ¬ x.Hands m)
    (hplans : CleanUp.unscheduled.Past q → ¬ x.Replans m) (hs : Cleaned m q s) :
    Cleaned m q t := by
  cases h with
  | proc hlive hi h => exact cleaned_proc h hi hreads hplans hs
  | @router s s' l hlive h =>
    obtain ⟨hknown, hcopy, hplan, hincident, hstatus, hgone⟩ := hs
    have hworld : s'.world = s.world := (custody_router h).1
    constructor
    case known => rwa [hworld]
    case copy => exact fun hq => ⟨hworld ▸ (hcopy hq).1, (hcopy hq).2⟩
    case plan =>
      exact fun hq => ⟨hworld ▸ (hplan hq).1, (hplan hq).2.procs,
        resultless_router h (hplan hq).2.results⟩
    case incident => rwa [hworld]
    case status => rwa [hworld]
    case gone => rwa [hworld]
  | main hlive h =>
    obtain ⟨hknown, hcopy, hplan, hincident, hstatus, hgone⟩ := hs
    cases h <;>
      exact ⟨hknown, hcopy, fun hq => ⟨(hplan hq).1, (hplan hq).2.procs,
        (hplan hq).2.results.resultChan, (hplan hq).2.results.router,
        (hplan hq).2.results.routed⟩, hincident, hstatus, hgone⟩
  | @arrive s l hlive h req =>
    obtain ⟨hknown, hcopy, hplan, hincident, hstatus, hgone⟩ := hs
    refine ⟨hknown, fun hq => ⟨(hcopy hq).1, ?_⟩,
      fun hq => ⟨(hplan hq).1, ?_, (hplan hq).2.results⟩, hincident, hstatus, hgone⟩
    · exact forall_mem_join (hcopy hq).2 (unread_start cfg _)
    · exact forall_mem_join (hplan hq).2.procs (quiet_start cfg fun _ _ heq => by cases heq)

theorem keyed_system_step {s t : System} {x : Label} (h : System.Step cfg s x t)
    (hk : s.shared.world.db.Keyed) : t.shared.world.db.Keyed := by
  cases h with
  | proc hlive hi h => exact keyed_step h hk
  | @router s s' l hlive h =>
    show s'.world.db.Keyed
    rwa [(custody_router h).1]
  | main hlive h => cases h <;> exact hk
  | arrive hlive h req => exact hk

/-- After the `DELETE` of a row that was there, none of that id is left. -/
theorem gone_of_delete {now : Time} {team : UUID} {rows : ℕ} {d : DB} (hk : d.Keyed)
    (hr : .ok rows = (d.exec now (.deleteMonitor m team)).1) (hrows : rows ≠ 0) :
    (d.exec now (.deleteMonitor m team)).2.Gone m := by
  cases hr
  obtain ⟨row, hrow, hid, hteam⟩ := DB.countP_monitors_ne_zero_iff.mp hrows
  refine ⟨fun row' hrow' hid' => ?_, ?_⟩
  · obtain ⟨hmem, hkept⟩ := List.mem_filter.mp hrow'
    obtain rfl : row' = row :=
      List.inj_on_of_nodup_map hk.1 hmem hrow (hid'.trans hid.symm)
    simp [hid, hteam] at hkept
  · have hlt := hk.2 row hrow
    rwa [hid] at hlt

/-- **What a call of the delete achieves**: it takes the delete one step further, and what
this step is for is done. -/
theorem cleaned_advance (cfg : Config) {team : UUID} {c : Cmd} {r : c.Resp}
    {k : c.Resp → Prog Point} {log : List Call} {q : CleanUp}
    (hi : l[i]? = some (.runs (.request (.delete team m)) ⟨.call c k, log⟩))
    (h : s.Serves false c r s') (hf : Call.failed ⟨c, r⟩ = false)
    (hallows : (cleanUpProtocol team m).allows q c) (hk : s.world.db.Keyed)
    (hx : Undisturbed m q ((cleanUpProtocol team m).next q ⟨c, r⟩) ⟨s, l⟩
      (.call (.request (.delete team m)) ⟨c, r⟩))
    (hs : Cleaned m q ⟨s, l⟩) :
    Cleaned m ((cleanUpProtocol team m).next q ⟨c, r⟩)
      ⟨s', l.set i (.runs (.request (.delete team m)) ⟨k r, log ++ [⟨c, r⟩]⟩)⟩ := by
  have hstep : Goroutine.Step cfg s (.runs (.request (.delete team m)) ⟨.call c k, log⟩)
      (.call (.request (.delete team m)) ⟨c, r⟩) s'
      (.runs (.request (.delete team m)) ⟨k r, log ++ [⟨c, r⟩]⟩) [] := .call h
  have hsame := cleaned_proc hstep hi hx.reads hx.plans hs
  rw [List.append_nil] at hsame
  have hmem := List.mem_of_getElem? hi
  cases q with
  | asked =>
    obtain rfl : c = .sql (.getMonitorByTeamID m team) := hallows
    rcases r with err | row
    · exact hsame
    obtain ⟨-, ks, now, hr, hw⟩ := serves_sql h hf
    obtain ⟨hfind, -⟩ := DB.monitor?_of_getMonitorByTeamID hr.symm
    have hold : m < s.world.db.nextID := by
      have hlt := hk.2 row (DB.mem_of_monitor? hfind)
      rwa [DB.id_of_monitor? hfind] at hlt
    have hnew : m < s'.world.db.nextID := by
      rw [hw]
      exact hold.trans_le (DB.nextID_exec now _ _)
    show Cleaned m .found _
    constructor
    case known => exact fun _ => hnew
    all_goals exact fun hq => absurd hq (by decide)
  | found =>
    obtain rfl : c = .redis (.delMonitor m) := hallows
    obtain ⟨-, ks, rfl, hw⟩ := serves_redis h hf
    have hunread := hx.copy rfl rfl
    obtain ⟨hg', -⟩ := unread_step hstep (hs.known (by decide)) id (hunread _ hmem)
    have hall := forall_mem_step (i := i) hunread (fun _ _ h => h) hg' (List.forall_mem_nil _)
    rw [List.append_nil] at hall
    have hcopy : s'.world.redis.monitor m = none := by
      rw [hw]
      exact Function.update_self ..
    show Cleaned m .uncopied _
    constructor
    case known => exact fun _ => hsame.known (by decide)
    case copy => exact fun _ => ⟨hcopy, hall⟩
    all_goals exact fun hq => absurd hq (by decide)
  | uncopied =>
    obtain rfl : c = .redis (.zRem (.id m)) := hallows
    obtain ⟨-, ks, rfl, hw⟩ := serves_redis h hf
    have hquiet := hx.plan rfl rfl
    obtain ⟨hg', -, hresults⟩ := quiet_step hstep (hs.known (by decide)) id id
      (hquiet.procs _ hmem) hquiet.results
    have hall := forall_mem_step (i := i) hquiet.procs (fun _ _ h => h) hg'
      (List.forall_mem_nil _)
    rw [List.append_nil] at hall
    have hplan : s'.world.redis.schedule.score (.id m) = none := by
      rw [hw]
      exact KeyValue.SortedSet.score_remove_self _ _
    show Cleaned m .unscheduled _
    constructor
    case known => exact fun _ => hsame.known (by decide)
    case copy => exact fun _ => hsame.copy (by decide)
    case plan => exact fun _ => ⟨hplan, hall, hresults⟩
    all_goals exact fun hq => absurd hq (by decide)
  | unscheduled =>
    obtain rfl : c = .redis (.delIncident m) := hallows
    obtain ⟨-, ks, rfl, hw⟩ := serves_redis h hf
    have hincident : s'.world.redis.incident m = .absent := by
      rw [hw]
      exact Redis.setIncident_incident ..
    show Cleaned m .cleared _
    constructor
    case known => exact fun _ => hsame.known (by decide)
    case copy => exact fun _ => hsame.copy (by decide)
    case plan => exact fun _ => hsame.plan (by decide)
    case incident => exact fun _ => hincident
    all_goals exact fun hq => absurd hq (by decide)
  | cleared =>
    obtain rfl : c = .redis (.hDelStatus m) := hallows
    have hstatus := status_of_serves h trivial (hx.status rfl rfl)
    show Cleaned m .swept _
    constructor
    case known => exact fun _ => hsame.known (by decide)
    case copy => exact fun _ => hsame.copy (by decide)
    case plan => exact fun _ => hsame.plan (by decide)
    case incident => exact fun _ => hsame.incident (by decide)
    case status => exact fun _ => hstatus
    case gone => exact fun hq => absurd hq (by decide)
  | swept =>
    obtain rfl : c = .sql (.deleteMonitor m team) := hallows
    rcases r with err | rows
    · exact hsame
    by_cases hrows : rows = 0
    · have hnext : (cleanUpProtocol team m).next .swept
          ⟨.sql (.deleteMonitor m team), .ok rows⟩ = .swept := if_pos hrows
      rw [hnext]
      exact hsame
    obtain ⟨-, ks, now, hr, hw⟩ := serves_sql h hf
    have hgone : s'.world.db.Gone m := by
      rw [hw]
      exact gone_of_delete hk hr hrows
    have hnext : (cleanUpProtocol team m).next .swept
        ⟨.sql (.deleteMonitor m team), .ok rows⟩ = .deleted := if_neg hrows
    rw [hnext]
    exact ⟨fun _ => hsame.known (by decide), fun _ => hsame.copy (by decide),
      fun _ => hsame.plan (by decide), fun _ => hsame.incident (by decide),
      fun _ => hsame.status (by decide), fun _ => hgone⟩
  | deleted => exact hsame

end Step

/-- **What every goroutine keeps** holds of all goroutines of a run. -/
theorem forall_procs_of_runs {J : Goroutine → Prop} {w : World} {s : System} {l : List Label}
    (hstands : ∀ p, J (.stands p)) (hrequest : ∀ req, J (.start cfg (.request req)))
    (hstep : ∀ {s s' : Shared} {g g' : Goroutine} {x : Label} {new : List Goroutine},
      Goroutine.Step cfg s g x s' g' new → J g → J g' ∧ ∀ p ∈ new, J p)
    (h : Runs (System.Step cfg) (.boot cfg w) l s) : ∀ g ∈ s.procs, J g := by
  refine h.invariant (I := fun s => ∀ g ∈ s.procs, J g)
    (System.forall_mem_boot (hstands _) (hstands _) (fun _ => hstands _) (hstands _) cfg w) ?_
  intro x _ s t hx hs
  cases hx with
  | proc hlive hi h =>
    obtain ⟨hg', hnew⟩ := hstep h (hs _ (List.mem_of_getElem? hi))
    exact forall_mem_step hs (fun _ _ h => h) hg' hnew
  | router hlive h => exact hs
  | main hlive h => exact hs
  | arrive hlive h req => exact forall_mem_join hs (hrequest req)

/-! ## The other monitors -/

/-- **The keys of the other monitors are as they were**, but for those that have run out, and
so is every other entry of the schedule. -/
def Redis.SparesOthers (m : UUID) (s s' : Redis) : Prop :=
  ∃ ks, (∀ x, x ≠ Member.id m → s'.schedule.score x = (s.expire ks).schedule.score x) ∧
    ∀ m', m' ≠ m → s'.incident m' = (s.expire ks).incident m' ∧
      s'.retry m' = (s.expire ks).retry m' ∧ s'.status m' = (s.expire ks).status m' ∧
        s'.monitor m' = (s.expire ks).monitor m'

/-- The calls of a `DeleteMonitor` of `m`. -/
def Cmd.Cleans (m : UUID) : Cmd → Prop
  | ctxDone => True
  | sql _ => True
  | redis (.delMonitor m') => m' = m
  | redis (.zRem member) => member = .id m
  | redis (.delIncident m') => m' = m
  | redis (.hDelStatus m') => m' = m
  | _ => False

/-- A request to delete goes on with calls of that kind. -/
def Goroutine.Cleanly : Goroutine → Prop
  | runs (.request (.delete _ m)) t => t.todo.Only (Cmd.Cleans m)
  | _ => True

/-- **A call of the delete** touches keys of its own monitor only. -/
theorem sparesOthers_of_serves {b : Bool} {s s' : Shared} {c : Cmd} {r : c.Resp}
    (h : s.Serves b c r s') (hc : c.Cleans m) :
    s.world.redis.SparesOthers m s'.world.redis := by
  obtain ⟨ks, hw | ⟨c', rfl, hw⟩⟩ := redis_cases_of_serves h
  · rw [hw]
    exact ⟨ks, fun _ _ => rfl, fun _ _ => ⟨rfl, rfl, rfl, rfl⟩⟩
  · rw [hw]
    refine ⟨ks, fun x hx => ?_, fun m' hm => ?_⟩
    · cases c' with
      | zRem member =>
        obtain rfl : member = .id m := hc
        exact KeyValue.SortedSet.score_remove_of_ne hx _
      | delMonitor | delIncident | hDelStatus => rfl
      | _ => exact hc.elim
    · cases c' with
      | delMonitor k =>
        obtain rfl : k = m := hc
        exact ⟨rfl, rfl, rfl, Function.update_of_ne hm ..⟩
      | delIncident k =>
        obtain rfl : k = m := hc
        exact ⟨Function.update_of_ne hm .., rfl, rfl, rfl⟩
      | zRem member => exact ⟨rfl, rfl, rfl, rfl⟩
      | hDelStatus k => exact ⟨rfl, rfl, rfl, rfl⟩
      | _ => exact hc.elim

theorem cleanly_start (cfg : Config) (task : Task) : (Goroutine.start cfg task).Cleanly := by
  cases task with
  | request req =>
    cases req with
    | delete team m =>
      have hprog : (MonitorService.deleteMonitor team m).Only (Cmd.Cleans m) :=
        MonitorService.only_deleteMonitor _ trivial trivial trivial (fun _ => trivial) rfl rfl rfl
          rfl
      have hreq : (Request.delete team m).prog.Only (Cmd.Cleans m) := hprog.bind fun _ => trivial
      exact hreq.bind fun _ => trivial
    | create | updateStatus | get => trivial
  | doWork | startWork | handle => trivial

theorem cleanly_step {s s' : Shared} {g g' : Goroutine} {x : Label} {new : List Goroutine}
    (h : Goroutine.Step cfg s g x s' g' new) (hg : g.Cleanly) :
    g'.Cleanly ∧ ∀ p ∈ new, p.Cleanly := by
  cases h with
  | @call _ task c k r log h =>
    refine ⟨?_, fun p hp => nomatch hp⟩
    cases task with
    | request req =>
      cases req with
      | delete => exact hg.2 r
      | create | updateStatus | get => trivial
    | doWork | startWork | handle => trivial
  | tick | take h | receive h => exact ⟨cleanly_start cfg _, fun p hp => nomatch hp⟩
  | spawn => exact ⟨trivial, List.forall_mem_singleton.mpr trivial⟩
  | _ => exact ⟨trivial, fun p hp => nomatch hp⟩

/-- **A delete changes no key of another monitor**, in whatever state it makes its call. -/
theorem sparesOthers_of_runs {w : World} {s t : System} {l : List Label} {team : UUID} {e : Call}
    (h : Runs (System.Step cfg) (.boot cfg w) l s)
    (hx : System.Step cfg s (.call (.request (.delete team m)) e) t) :
    s.shared.world.redis.SparesOthers m t.shared.world.redis := by
  have hcleanly : ∀ g ∈ s.procs, g.Cleanly :=
    forall_procs_of_runs (fun _ => trivial) (fun _ => cleanly_start cfg _) cleanly_step h
  cases hx with
  | proc hlive hi h =>
    have hg := hcleanly _ (List.mem_of_getElem? hi)
    cases h with
    | call h => exact sparesOthers_of_serves h hg.1

/-! ## Traces -/

/-- The trace of the goroutine is that of its task. -/
def Goroutine.Traced (cfg : Config) : Goroutine → Prop
  | stands _ => True
  | runs task t => t.From (task.prog cfg)

theorem traced_step {s s' : Shared} {g g' : Goroutine} {x : Label} {new : List Goroutine}
    (h : Goroutine.Step cfg s g x s' g' new) (hg : g.Traced cfg) :
    g'.Traced cfg ∧ ∀ p ∈ new, p.Traced cfg := by
  cases h with
  | call h => exact ⟨Thread.From.call hg _, fun p hp => nomatch hp⟩
  | tick | take h | receive h => exact ⟨Thread.from_start _, fun p hp => nomatch hp⟩
  | spawn => exact ⟨trivial, List.forall_mem_singleton.mpr trivial⟩
  | _ => exact ⟨trivial, fun p hp => nomatch hp⟩

/-- **A request to delete that has come to its end** has done what `DeleteMonitor` does. -/
theorem returns_of_runs {w : World} {s : System} {l : List Label} {i : ℕ} {team : UUID}
    {p : Point} {log : List Call} (h : Runs (System.Step cfg) (.boot cfg w) l s)
    (hi : s.procs[i]? = some (.runs (.request (.delete team m)) ⟨.ret p, log⟩)) :
    ∃ x, (MonitorService.deleteMonitor team m).Returns log x := by
  have htraced : ∀ g ∈ s.procs, g.Traced cfg :=
    forall_procs_of_runs (fun _ => trivial) (fun _ => Thread.from_start _) traced_step h
  have htask : ((Task.request (.delete team m)).prog cfg).Returns log p :=
    Thread.From.returns (htraced _ (List.mem_of_getElem? hi))
  obtain ⟨log₁, _, _, log₂, hreq, hend, rfl⟩ :=
    (exec_bind_iff (p := (Request.delete team m).prog)).mp htask
  obtain ⟨rfl, -, -⟩ := exec_ret_iff.mp hend
  obtain ⟨log₁, x, _, log₂, hdelete, hend, rfl⟩ := exec_bind_iff.mp hreq
  obtain ⟨rfl, -, -⟩ := exec_ret_iff.mp hend
  refine ⟨x, ?_⟩
  rwa [List.append_nil, List.append_nil]

/-! ## Runs -/

section Run

variable {i : ℕ} {team : UUID} {s t : System}

/-- The answer says that a row was deleted. -/
def Call.Deletes (team m : UUID) (e : Call) : Prop :=
  ∃ rows, rows ≠ 0 ∧ e = ⟨.sql (.deleteMonitor m team), .ok rows⟩

theorem next_deleted (e : Call) : (cleanUpProtocol team m).next .deleted e = .deleted := by
  rcases e with ⟨c, r⟩
  rfl

/-- The trace of `Repository.Delete`. -/
theorem returns_delete {log : List Call} {x : Except AppError Unit}
    (h : (MonitorRepository.delete team m).Returns log x) :
    ∃ y, log = [⟨.sql (.deleteMonitor m team), y⟩] ∧
      (x = .ok () ↔ Call.Deletes team m ⟨.sql (.deleteMonitor m team), y⟩) := by
  obtain ⟨y, _, log, -, rfl, hend⟩ := exec_call_iff.mp h
  refine ⟨y, ?_⟩
  rcases y with err | rows
  · obtain ⟨rfl, rfl, -⟩ := exec_ret_iff.mp hend
    exact ⟨rfl, (by nofun), fun ⟨rows, _, heq⟩ => nomatch heq⟩
  by_cases hrows : rows = 0
  · subst hrows
    obtain ⟨rfl, rfl, -⟩ := exec_ret_iff.mp hend
    refine ⟨rfl, (by nofun), fun ⟨rows, hrows, heq⟩ => ?_⟩
    cases heq
    exact absurd rfl hrows
  · have hret : Exec (fun (_ : Unit) _ _ _ => True) (.ret (.ok ())) () log x () := by
      have hend' : Exec (fun (_ : Unit) _ _ _ => True)
        (if rows = 0 then .ret _ else .ret (.ok ())) () log x () := hend
      rwa [if_neg hrows] at hend'
    obtain ⟨rfl, rfl, -⟩ := exec_ret_iff.mp hret
    exact ⟨rfl, fun _ => ⟨rows, hrows, rfl⟩, fun _ => rfl⟩

/-- **`DeleteMonitor` returns nil if and only if the row was deleted.** -/
theorem returns_nil_iff {log : List Call} {x : Except AppError Unit}
    (h : (MonitorService.deleteMonitor team m).Returns log x) :
    x = .ok () ↔ ∃ e ∈ log, Call.Deletes team m e := by
  have hother : ∀ {e : Call}, e.cmd ≠ .sql (.deleteMonitor m team) →
      ¬ Call.Deletes team m e := by
    rintro e he ⟨rows, -, rfl⟩
    exact he rfl
  obtain ⟨y, _, log, -, rfl, hget⟩ := exec_call_iff.mp h
  have hread : ¬ Call.Deletes team m ⟨.sql (.getMonitorByTeamID m team), y⟩ := hother (by nofun)
  rcases y with err | row
  · have hend : log = [] ∧ x ≠ .ok () := by
      cases err <;>
      · obtain ⟨hlog, rfl, -⟩ := exec_ret_iff.mp hget
        exact ⟨hlog, by nofun⟩
    simp [hend, hread]
  obtain ⟨log₁, _, _, log₂, hdisable, hrest, rfl⟩ :=
    (exec_bind_iff (p := MonitorService.disableMonitor m)).mp hget
  have hcleared : ∀ e ∈ log₁, ¬ Call.Deletes team m e := by
    have honly : (MonitorService.disableMonitor m).Only (· ≠ .sql (.deleteMonitor m team)) :=
      MonitorService.only_disableMonitor _ (by nofun) (by nofun) (by nofun) (by nofun) (by nofun)
    exact fun e he => hother (hdisable.only honly e he)
  obtain ⟨log₃, z, _, log₄, hdelete, hend, rfl⟩ := exec_bind_iff.mp hrest
  obtain ⟨y, rfl, hz⟩ := returns_delete hdelete
  rcases z with err | u
  · -- the row was not deleted
    obtain ⟨rfl, rfl, -⟩ := exec_ret_iff.mp hend
    have hkept : ¬ Call.Deletes team m ⟨.sql (.deleteMonitor m team), y⟩ :=
      fun hdel => nomatch hz.mpr hdel
    refine ⟨(by nofun), fun ⟨e, he, hdel⟩ => ?_⟩
    rcases List.mem_cons.mp he with rfl | he
    · exact (hread hdel).elim
    rcases List.mem_append.mp he with he | he
    · exact (hcleared e he hdel).elim
    · rw [List.mem_singleton.mp he] at hdel
      exact (hkept hdel).elim
  · -- the row was deleted, and the outcome of the count is not looked at
    obtain ⟨log₅, _, _, log₆, -, hret, -⟩ := exec_bind_iff.mp hend
    have hdel : Call.Deletes team m ⟨.sql (.deleteMonitor m team), y⟩ := hz.mp rfl
    exact ⟨fun _ => ⟨_, by simp, hdel⟩, fun _ => (exec_ret_iff.mp hret).2.1⟩

/-- Only the last stage follows an answer that says so. -/
theorem next_of_deletes {q : CleanUp} {e : Call} (he : e.Deletes team m)
    (hallows : (cleanUpProtocol team m).allows q e.cmd) :
    (cleanUpProtocol team m).next q e = .deleted := by
  obtain ⟨rows, hrows, rfl⟩ := he
  cases q with
  | swept => exact if_neg hrows
  | asked | found | uncopied | unscheduled | cleared => cases hallows
  | deleted =>
    obtain ⟨user, h⟩ := hallows
    cases h

/-- The invariant of the `i`-th goroutine while it runs the delete of `m`. -/
structure Underway (i : ℕ) (team m : UUID) (s : System) : Prop where
  keyed : s.shared.world.db.Keyed
  thread : ∀ u, s.procs[i]? = some (.runs (.request (.delete team m)) u) → NoFail u.log →
    u.todo.Follows (cleanUpProtocol team m) (fun _ _ => True)
        ((cleanUpProtocol team m).state u.log) ∧
      ((∃ e ∈ u.log, Call.Deletes team m e) → (cleanUpProtocol team m).state u.log = .deleted) ∧
      Cleaned m ((cleanUpProtocol team m).state u.log) s

theorem cleanUp_eq {u : Thread Cmd Cmd.Resp Point}
    (hi : s.procs[i]? = some (.runs (.request (.delete team m)) u)) :
    s.cleanUp i team m = (cleanUpProtocol team m).state u.log := by
  simp [System.cleanUp, hi]

theorem underway_boot {w : World} (hk : w.db.Keyed) : Underway i team m (.boot cfg w) := by
  refine ⟨hk, fun u hu => ?_⟩
  have hstands := System.forall_mem_boot (J := fun g => ∃ p, g = .stands p) ⟨_, rfl⟩ ⟨_, rfl⟩
    (fun _ => ⟨_, rfl⟩) ⟨_, rfl⟩ cfg w _ (List.mem_of_getElem? hu)
  obtain ⟨p, hp⟩ := hstands
  cases hp

/-- A request that another goroutine's step leaves behind was there before. -/
theorem request_of_step {s s' : Shared} {g g' : Goroutine} {x : Label} {l new : List Goroutine}
    {j : ℕ} {req : Request} {u : Thread Cmd Cmd.Resp Point}
    (h : Goroutine.Step cfg s g x s' g' new) (hj : j ≠ i)
    (hu : (l.set j g' ++ new)[i]? = some (.runs (.request req) u)) :
    l[i]? = some (.runs (.request req) u) := by
  have hnew : ∀ p ∈ new, p ≠ .runs (.request req) u := by
    cases h with
    | spawn => exact List.forall_mem_singleton.mpr nofun
    | _ => exact fun p hp => nomatch hp
  rcases lt_or_ge i (l.set j g').length with hlt | hge
  · rw [List.getElem?_append_left hlt, List.getElem?_set_ne hj] at hu
    exact hu
  · rw [List.getElem?_append_right hge] at hu
    exact absurd rfl (hnew _ (List.mem_of_getElem? hu))

/-- **One step while the delete is under way.** -/
theorem underway_step {x : Label} (h : System.Step cfg s x t)
    (hx : Undisturbed m (s.cleanUp i team m) (t.cleanUp i team m) s x)
    (hs : Underway i team m s) : Underway i team m t := by
  refine ⟨keyed_system_step h hs.keyed, fun u hu hno => ?_⟩
  -- a step that does not move the delete
  have hstays : s.procs[i]? = some (.runs (.request (.delete team m)) u) →
      u.todo.Follows (cleanUpProtocol team m) (fun _ _ => True)
          ((cleanUpProtocol team m).state u.log) ∧
        ((∃ e ∈ u.log, Call.Deletes team m e) → (cleanUpProtocol team m).state u.log = .deleted) ∧
        Cleaned m ((cleanUpProtocol team m).state u.log) t := by
    intro hi
    obtain ⟨hfollows, hlast, hcleaned⟩ := hs.thread u hi hno
    rw [cleanUp_eq hi] at hx
    exact ⟨hfollows, hlast, cleaned_step h hx.reads hx.plans hcleaned⟩
  cases id h with
  | @proc s s' l new j g g' x hlive hj hg =>
    by_cases hij : j = i
    · subst hij
      have hlt : j < l.length := (List.getElem?_eq_some_iff.mp hj).1
      have hg' : g' = .runs (.request (.delete team m)) u := by
        change (l.set j g' ++ new)[j]? = _ at hu
        rw [List.getElem?_append_left (by rwa [List.length_set]), List.getElem?_set_self hlt] at hu
        exact Option.some.inj hu
      cases hg with
      | @call _ task c k r log hcall =>
        cases hg'
        obtain ⟨hno, hf⟩ := noFail_append.mp hno
        have hf : Call.failed ⟨c, r⟩ = false := (noFail_cons.mp hf).1
        obtain ⟨hfollows, hlast, hcleaned⟩ := hs.thread _ hj hno
        rw [cleanUp_eq hj, cleanUp_eq hu] at hx
        simp only [Protocol.state_append] at hx ⊢
        refine ⟨hfollows.2 r (sound_of_serves hcall hf), ?_, ?_⟩
        · rintro ⟨e, he, hdel⟩
          rcases List.mem_append.mp he with he | he
          · rw [hlast ⟨e, he, hdel⟩]
            exact next_deleted _
          · rw [List.mem_singleton.mp he] at hdel
            exact next_of_deletes hdel hfollows.1
        · rw [List.append_nil]
          exact cleaned_advance cfg hj hcall hf hfollows.1 hs.keyed hx hcleaned
      | _ => cases hg'
    · exact hstays (request_of_step hg hij hu)
  | router hlive hr => exact hstays hu
  | main hlive hm => exact hstays hu
  | @arrive s l hlive hopen req =>
    change (l ++ [Goroutine.start cfg (.request req)])[i]? = _ at hu
    rcases lt_or_ge i l.length with hlt | hge
    · rw [List.getElem?_append_left hlt] at hu
      exact hstays hu
    · -- the request has just arrived
      rw [List.getElem?_append_right hge] at hu
      have hstart := List.mem_singleton.mp (List.mem_of_getElem? hu)
      cases hstart
      have hprog : (Request.delete team m).prog.Follows (cleanUpProtocol team m)
          (fun _ _ => True) .asked := (follows_cleanUp team m).bind fun _ _ _ => trivial
      have hfollows : ((Task.request (.delete team m)).prog cfg).Follows (cleanUpProtocol team m)
          (fun _ _ => True) .asked := hprog.bind fun _ _ _ => trivial
      exact ⟨hfollows, (fun ⟨e, he, _⟩ => nomatch he), cleaned_asked m _⟩

/-- **A deleted monitor leaves nothing behind** if the delete is not disturbed.  Each key is cleared
by some call of the delete, and by the condition nobody who would write it again is left by then or
comes after. -/
theorem forgets_of_undisturbed {w : World} {l l' : List Label} {p : Point} {log : List Call}
    (hk : w.db.Keyed)
    (h : Runs (fun s x t => System.Step cfg s x t ∧
      Undisturbed m (s.cleanUp i team m) (t.cleanUp i team m) s x) (.boot cfg w) l s)
    (hi : s.procs[i]? = some (.runs (.request (.delete team m)) ⟨.ret p, log⟩))
    (hno : NoFail log) (hnil : (MonitorService.deleteMonitor team m).Returns log (.ok ()))
    (h' : Runs (fun s x t => System.Step cfg s x t ∧ Undisturbed m .deleted .deleted s x) s l' t) :
    t.shared.world.redis.Forgets m ∧
      ∀ (l : List Label) (u v : System) (e : Call), Runs (System.Step cfg) (.boot cfg w) l u →
        System.Step cfg u (.call (.request (.delete team m)) e) v →
          u.shared.world.redis.SparesOthers m v.shared.world.redis := by
  refine ⟨?_, fun _ _ _ _ hu hv => sparesOthers_of_runs hu hv⟩
  have hunder : Underway i team m s :=
    h.invariant (I := Underway i team m) (underway_boot hk)
      fun _ _ _ _ hx hs => underway_step hx.1 hx.2 hs
  obtain ⟨-, hlast, hcleaned⟩ := hunder.thread _ hi hno
  rw [hlast ((returns_nil_iff hnil).mp rfl)] at hcleaned
  have hend : Cleaned m .deleted t :=
    h'.invariant (I := Cleaned m .deleted) hcleaned
      fun _ _ _ _ hx hs => cleaned_step hx.1 hx.2.reads hx.2.plans hs
  exact hend.forgets

end Run

/-! ## A monitor that nobody has read -/

/-- Nobody has anything of `m` in hand. -/
structure Unknown (m : UUID) (s : System) : Prop where
  known : m < s.shared.world.db.nextID
  unread : ∀ g ∈ s.procs, g.Unread m
  quiet : s.Quiet m

theorem unknown_boot {w : World} (hm : m < w.db.nextID) : Unknown m (.boot cfg w) where
  known := hm
  unread := System.forall_mem_boot trivial trivial (fun _ => trivial) trivial cfg w
  quiet :=
    ⟨System.forall_mem_boot id id (fun _ => id) id cfg w, (fun _ hr => by cases hr),
      (fun _ heq => by cases heq), fun ok r hr => by cases ok <;> cases hr⟩

/-- As long as nobody is given the row or made to schedule the monitor, it stays so. -/
theorem unknown_step {s t : System} {x : Label} (h : System.Step cfg s x t) (hx : ¬ x.Hands m)
    (hplan : ¬ x.Replans m) (hs : Unknown m s) : Unknown m t := by
  obtain ⟨hknown, hunread, hprocs, hresults⟩ := hs
  cases h with
  | @proc s s' l new i g g' x hlive hi h =>
    have hmem := List.mem_of_getElem? hi
    obtain ⟨hg, hnew⟩ := unread_step h hknown hx (hunread g hmem)
    obtain ⟨hg', hnew', hresults'⟩ := quiet_step h hknown hx hplan (hprocs g hmem) hresults
    refine ⟨?_, forall_mem_step hunread (fun _ _ h => h) hg hnew,
      forall_mem_step hprocs (fun _ _ h => h) hg' hnew', hresults'⟩
    rcases h.world with hworld | ⟨task, c, k, r, log, -, -, hcall⟩
    · show m < s'.world.db.nextID
      rwa [hworld]
    · exact Shared.serves_db (P := fun d => m < d.nextID) hcall
        (fun q now d _ hd => hd.trans_le (DB.nextID_exec now q d)) hknown
  | @router s s' l hlive h =>
    refine ⟨?_, hunread, hprocs, resultless_router h hresults⟩
    show m < s'.world.db.nextID
    rwa [(custody_router h).1]
  | main hlive h =>
    cases h <;>
      exact ⟨hknown, hunread, hprocs, hresults.resultChan, hresults.router, hresults.routed⟩
  | arrive hlive h req =>
    exact ⟨hknown, forall_mem_join hunread (unread_start cfg _),
      forall_mem_join hprocs (quiet_start cfg fun _ _ heq => by cases heq), hresults⟩

/-- **The delete of such a monitor is not disturbed** if it has no status hash. -/
theorem undisturbed_of_unknown {w : World} {s : System} {l : List Label} {i : ℕ} {team : UUID}
    (hm : m < w.db.nextID)
    (h : Runs (fun s x t => System.Step cfg s x t ∧ (¬ x.Hands m ∧ ¬ x.Replans m) ∧
      s.shared.world.redis.status m = none) (.boot cfg w) l s) :
    Runs (fun s x t => System.Step cfg s x t ∧
      Undisturbed m (s.cleanUp i team m) (t.cleanUp i team m) s x) (.boot cfg w) l s := by
  refine (h.induction (I := fun l s => Unknown m s ∧ Runs _ (.boot cfg w) l s)
    ⟨unknown_boot hm, .nil⟩ ?_).2
  rintro l s x t - ⟨hs, hrun⟩ ⟨hstep, ⟨hhands, hplan⟩, hstatus⟩
  refine ⟨unknown_step hstep hhands hplan hs, hrun.snoc ⟨hstep, ?_⟩⟩
  exact ⟨fun _ _ => hs.unread, fun _ _ => hs.quiet, fun _ _ => hstatus, fun _ _ => hhands,
    fun _ => hplan⟩

/-! ## What is worked off -/

/-- The goroutine is at work on `m`: it stands there with it, its function was given it, or
it has it in a batch. -/
def Goroutine.WorksOn (m : UUID) : Goroutine → Prop
  | stands p => p.Holds m
  | runs task t => m ∈ task.given ∨ m ∈ (custodyProtocol task.given).state t.log

instance (m : UUID) : DecidablePred (Goroutine.WorksOn m)
  | .stands p => inferInstanceAs (Decidable (p.Holds m))
  | .runs task t =>
    inferInstanceAs (Decidable (m ∈ task.given ∨ m ∈ (custodyProtocol task.given).state t.log))

/-- **Every job, check and result of `m` has been worked off.** -/
def System.WorkedOff (m : UUID) (s : System) : Prop :=
  ¬ s.shared.Holds m ∧ ∀ g ∈ s.procs, ¬ g.WorksOn m

instance (m : UUID) (s : System) : Decidable (s.WorkedOff m) :=
  inferInstanceAs (Decidable (_ ∧ _))

namespace Sample

/-- A request to delete the sample monitor, the goroutine `i`, is about to return. -/
def deleting (i : ℕ) : List Move := .arrive (.delete 9 1) :: moves i 7

/-- The goroutine `i` has deleted the sample monitor, and no call of it has failed. -/
def hasDeleted (i : ℕ) (s : System) : Bool :=
  match s.procs[i]? with
  | some (.runs (.request (.delete 9 1)) ⟨.ret _, log⟩) =>
    log.all (fun e => !Call.failed e) && log.any fun e =>
      match e with
      | ⟨.sql (.deleteMonitor 1 9), .ok rows⟩ => decide (rows ≠ 0)
      | _ => false
  | _ => false

theorem returns_of_hasDeleted {w : World} {s : System} {l : List Label} {i : ℕ}
    (h : Runs (System.Step cfg) (.boot cfg w) l s) (hdel : hasDeleted i s = true) :
    ∃ p log, s.procs[i]? = some (.runs (.request (.delete 9 1)) ⟨.ret p, log⟩) ∧ NoFail log ∧
      (MonitorService.deleteMonitor 9 1).Returns log (.ok ()) := by
  unfold hasDeleted at hdel
  split at hdel
  · rename_i p log hi
    obtain ⟨hno, hany⟩ := Bool.and_eq_true_iff.mp hdel
    obtain ⟨e, he, hrow⟩ := List.any_eq_true.mp hany
    have hdeletes : Call.Deletes 9 1 e := by
      split at hrow
      · exact ⟨_, of_decide_eq_true hrow, rfl⟩
      · cases hrow
    obtain ⟨x, hx⟩ := returns_of_runs h hi
    obtain rfl := (returns_nil_iff hx).mpr ⟨e, he, hdeletes⟩
    refine ⟨p, log, hi, ?_, hx⟩
    simpa [NoFail] using hno
  · cases hdel

end Sample

/-- **A deleted monitor is not forgotten**: it was checked once before the delete, all its
work is done, and its status hash is still there. -/
theorem status_left_behind :
    ¬ ∀ (cfg : Config) (w : World) (s t : System) (l l' : List Label) (i : ℕ) (team m : UUID)
      (p : Point) (log : List Call), cfg.Valid → w.db.Keyed → (∀ x ∈ l ++ l', x.Clean) →
      Runs (System.Step cfg) (.boot cfg w) l s →
      s.procs[i]? = some (.runs (.request (.delete team m)) ⟨.ret p, log⟩) →
      (MonitorService.deleteMonitor team m).Returns log (.ok ()) →
      Runs (System.Step cfg) s l' t → t.WorkedOff m →
      t.shared.world.redis.Forgets m ∧
        ∀ (l : List Label) (u v : System) (e : Call), Runs (System.Step cfg) (.boot cfg w) l u →
          System.Step cfg u (.call (.request (.delete team m)) e) v →
            u.shared.world.redis.SparesOthers m v.shared.world.redis := by
  intro hclaim
  have hplay : (System.play .least (fun _ x => decide x.Clean)
      (Sample.checkStarted ++ Sample.checkHandled ++ Sample.deleting 22)
      (.boot .least Sample.scheduled)).any (fun s =>
        Sample.hasDeleted 22 s &&
        (System.play .least (fun _ x => decide x.Clean) (Sample.moves 22 1) s).any fun t =>
          decide (t.WorkedOff 1) && (t.shared.world.redis.status 1).isSome) := by decide
  obtain ⟨s, hs, hcheck⟩ := (Option.any_eq_true _ _).mp hplay
  obtain ⟨hdel, hrest⟩ := Bool.and_eq_true_iff.mp hcheck
  obtain ⟨t, ht, hcheck'⟩ := (Option.any_eq_true _ _).mp hrest
  obtain ⟨hworked, hstatus⟩ := Bool.and_eq_true_iff.mp hcheck'
  obtain ⟨l, hl⟩ := System.runs_of_play hs
  obtain ⟨l', hl'⟩ := System.runs_of_play ht
  have hclean : ∀ x ∈ l ++ l', x.Clean := by
    intro x hx
    rcases List.mem_append.mp hx with hx | hx
    · exact hl.forall_label (fun _ _ _ h => of_decide_eq_true h.2) x hx
    · exact hl'.forall_label (fun _ _ _ h => of_decide_eq_true h.2) x hx
  have hrun := hl.mono fun _ _ _ h => h.1
  obtain ⟨p, log, hi, -, hnil⟩ := Sample.returns_of_hasDeleted hrun hdel
  have hforgets := (hclaim .least Sample.scheduled s t l l' 22 9 1 p log Config.least_valid
    Sample.keyed_scheduled hclean hrun hi hnil (hl'.mono fun _ _ _ h => h.1)
    (of_decide_eq_true hworked)).1
  rw [hforgets.status] at hstatus
  cases hstatus

namespace Sample

/-- The step is one of a request to delete, or of a scheduler that finds nothing due. -/
def harmless : Label → Bool
  | .call (.request (.delete ..)) _ => true
  | .call .doWork ⟨.timeNow, _⟩ => true
  | .call .doWork ⟨.redis (.zPopMin _), _⟩ => true
  | .call _ _ => false
  | _ => true

theorem not_hands_of_harmless {x : Label} (h : harmless x = true) :
    ¬ x.Hands m ∧ ¬ x.Replans m := by
  cases x with
  | call task e =>
    unfold harmless at h
    split at h
    · rename_i heq
      cases heq
      exact ⟨id, id⟩
    · rename_i heq
      cases heq
      exact ⟨id, id⟩
    · rename_i heq
      cases heq
      exact ⟨id, id⟩
    · cases h
    · rename_i hcall
      exact absurd rfl (hcall task e)
  | _ => exact ⟨id, id⟩

/-- The step is harmless, and the sample monitor has no status hash. -/
def statusless (s : System) (x : Label) : Bool :=
  harmless x && (s.shared.world.redis.status 1).isNone

end Sample

/-- The sample monitor is deleted before it has been checked, and then the scheduler looks
for it. -/
theorem forgets_of_undisturbed_sample :
    ∃ s t : System, (Sample.scheduled.Scheduled 1 ∧ s.cleanUp 21 9 1 = .deleted ∧
        t.shared.world.db.monitors = []) ∧
      t.shared.world.redis.Forgets 1 ∧
        ∀ (l : List Label) (u v : System) (e : Call),
          Runs (System.Step .least) (.boot .least Sample.scheduled) l u →
            System.Step .least u (.call (.request (.delete 9 1)) e) v →
              u.shared.world.redis.SparesOthers 1 v.shared.world.redis := by
  have hplay : (System.play .least Sample.statusless (Sample.deleting 21)
      (.boot .least Sample.scheduled)).any (fun s =>
        Sample.hasDeleted 21 s && (decide (s.cleanUp 21 9 1 = .deleted) &&
        (System.play .least Sample.statusless (Sample.moves 21 1 ++ Sample.moves 0 4) s).any
          fun t => t.shared.world.db.monitors.isEmpty)) := by decide
  obtain ⟨s, hs, hcheck⟩ := (Option.any_eq_true _ _).mp hplay
  simp only [Bool.and_eq_true, decide_eq_true_eq] at hcheck
  obtain ⟨hdel, hstage, hrest⟩ := hcheck
  obtain ⟨t, ht, hempty⟩ := (Option.any_eq_true _ _).mp hrest
  obtain ⟨l, hl⟩ := System.runs_of_play hs
  obtain ⟨l', hl'⟩ := System.runs_of_play ht
  obtain ⟨p, log, hi, hno, hnil⟩ := Sample.returns_of_hasDeleted (hl.mono fun _ _ _ h => h.1) hdel
  refine ⟨s, t, ⟨by decide, hstage, List.isEmpty_iff.mp hempty⟩, ?_⟩
  refine forgets_of_undisturbed (i := 21) Sample.keyed_scheduled
    (undisturbed_of_unknown (by decide) (hl.mono fun u x v h => ⟨h.1, ?_⟩)) hi hno hnil
    (hl'.mono fun u x v h => ⟨h.1, ?_⟩)
  · obtain ⟨hx, hstatus⟩ := Bool.and_eq_true_iff.mp h.2
    exact ⟨Sample.not_hands_of_harmless hx, Option.isNone_iff_eq_none.mp hstatus⟩
  · obtain ⟨hx, -⟩ := Bool.and_eq_true_iff.mp h.2
    exact ⟨(by nofun), (by nofun), (by nofun), fun _ hne => absurd rfl hne,
      fun _ => (Sample.not_hands_of_harmless hx).2⟩

end Sofon
