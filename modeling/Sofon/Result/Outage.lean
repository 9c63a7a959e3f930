import Sofon.Result.Handlers

/-!
# The record of an outage

The record of an outage of the monitor `m` has three parts: the incident hash in
Redis, the tables and the history of `alertChan`.  `World.outage m` collects
them.

* `outage_of_aside`: most calls of a handler leave every record as it was.
* `live_hIncrByFailureCount` and its neighbours: what each of the others does to
  it, if it gets through.
* `Cmd.isInsert`, `Cmd.isMark`, `Cmd.isClear`, `Cmd.isCount`: the calls that the
  statements about partial failures name.
-/

namespace Sofon

open Interleaving

/-- The record of an outage: the incident hash of a monitor, the tables and the
history of `alertChan`. -/
structure Outage where
  hash : IncidentHash
  db : DB
  sent : List AlertEvent

/-- The record of the outage of `m`. -/
def World.outage (m : UUID) (w : World) : Outage := ⟨w.redis.incident m, w.db, w.sent⟩

@[simp] theorem World.outage_expire (m : UUID) (ks : List UUID) (w : World) :
    (w.expire ks).outage m = w.outage m := rfl

/-! ## Calls that leave the record alone -/

/-- The incident hash a command names. -/
def RedisCmd.incidentKey : RedisCmd → Option UUID
  | hIncrByFailureCount m => some m
  | hSetFailureTimes m _ _ => some m
  | hSetNXAlerted m => some m
  | hSetNXRecoveredAlerted m => some m
  | hSetDBIncident m => some m
  | hGetAllIncident m => some m
  | delIncident m => some m
  | _ => none

/-- A command touches no incident hash but the one it names. -/
theorem Redis.exec_incident {c : RedisCmd} {m : UUID} (h : c.incidentKey ≠ some m) (s : Redis) :
    (s.exec c).2.incident m = s.incident m := by
  cases c with
  | hIncrByFailureCount m' | hSetFailureTimes m' | hSetDBIncident m' | delIncident m' =>
    have hm : m ≠ m' := fun e => h (by rw [e]; rfl)
    exact Function.update_of_ne hm _ _
  | hSetNXAlerted m' | hSetNXRecoveredAlerted m' =>
    have hm : m ≠ m' := fun e => h (by rw [e]; rfl)
    simp only [Redis.exec]
    split
    · rfl
    · exact Function.update_of_ne hm _ _
  | _ => rfl

/-- The calls that have no part in the record of any outage. -/
def Cmd.aside : Cmd → Bool
  | timeNow => true
  | ctxDone => true
  | redis c => c.incidentKey = none
  | sql _ => false
  | send _ => false
  | offer _ => true

/-- **A program of such calls leaves every record as it was.** -/
theorem outage_of_aside {α : Type} {p : Prog α} {w w' : World} {tr : List Call} {a : α}
    (h : Program.Exec World.Live p w tr a w') (hp : p.Only (Cmd.aside ·)) (m : UUID) :
    w'.outage m = w.outage m := by
  refine h.invariant (I := fun x => x.outage m = w.outage m) ?_ rfl
  intro e he t t' hc ht
  have haside := h.only hp e he
  obtain ⟨c, r⟩ := e
  rw [← ht]
  obtain ⟨ks, rfl | ⟨c, rfl, rfl⟩ | ⟨q, now, rfl, rfl⟩ | ⟨ev, rfl, rfl⟩⟩ := World.live_cases hc
  · rfl
  · have hkey : c.incidentKey = none := by simpa [Cmd.aside] using haside
    have hne : c.incidentKey ≠ some m := by simp [hkey]
    have hinc := Redis.exec_incident hne (t.redis.expire ks)
    rw [Redis.expire_incident] at hinc
    simp only [World.outage, hinc, World.expire_db, World.expire_sent]
  · simp [Cmd.aside] at haside
  · simp [Cmd.aside] at haside

theorem aside_scheduleMonitor (m : UUID) (i : ℤ) :
    (MonitorService.scheduleMonitor m i).Only (Cmd.aside ·) :=
  MonitorService.only_scheduleMonitor (Cmd.aside ·) rfl rfl (fun _ => rfl) i

theorem aside_storeStatus (m : UUID) (c l : ℤ) (t : Time) :
    (RedisClient.storeStatus m c l t).Only (Cmd.aside ·) :=
  RedisClient.only_retry_call (Cmd.aside ·) rfl rfl 2

theorem aside_clearRetry (m : UUID) : (RedisClient.clearRetry m).Only (Cmd.aside ·) :=
  RedisClient.only_retry_call (Cmd.aside ·) rfl rfl 2

theorem aside_retryPath (cfg : ResultProcessorConfig) (r : HTTPResult) :
    (ResultProcessor.retryPath cfg r).Only (Cmd.aside ·) :=
  ResultProcessor.only_retryPath (Cmd.aside ·) rfl rfl rfl rfl rfl fun _ => rfl

/-! ## What the calls do to the record -/

/-- The outage table is asked to insert an incident. -/
def Cmd.isInsert : Cmd → Bool
  | sql (.createMonitorIncident ..) => true
  | _ => false

/-- The incident hash is to be marked as having a row. -/
def Cmd.isMark : Cmd → Bool
  | redis (.hSetDBIncident _) => true
  | _ => false

/-- The incident hash is to be deleted. -/
def Cmd.isClear : Cmd → Bool
  | redis (.delIncident _) => true
  | _ => false

/-- A failure of `m` is to be counted. -/
def Cmd.isCount (m : UUID) : Cmd → Bool
  | redis (.hIncrByFailureCount m') => m' = m
  | _ => false

/-- The trace got as far as `IncrementIncident`. -/
def Reached (m : UUID) (tr : List Call) : Bool := tr.any fun e => e.cmd.isCount m

@[simp] theorem reached_append (m : UUID) (tr tr' : List Call) :
    Reached m (tr ++ tr') = (Reached m tr || Reached m tr') := List.any_append

theorem reached_of_only {α : Type} {p : Prog α} {m : UUID} {w w' : World} {tr : List Call} {a : α}
    (h : Program.Exec World.Live p w tr a w') (hp : p.Only fun c => c.isCount m = false) :
    Reached m tr = false := by
  rw [Reached, List.any_eq_false]
  intro e he
  rw [h.only hp e he]
  exact Bool.false_ne_true

theorem Cmd.not_of_aside {c : Cmd} (h : c.aside) (m : UUID) :
    c.isInsert = false ∧ c.isMark = false ∧ c.isClear = false ∧ c.isCount m = false := by
  cases c with
  | redis c => cases c <;> simp_all [aside, isInsert, isMark, isClear, isCount,
      RedisCmd.incidentKey]
  | _ => simp_all [aside, isInsert, isMark, isClear, isCount]

namespace Outage

/-- The record with another hash. -/
def withHash (h : IncidentHash) (o : Outage) : Outage := { o with hash := h }

@[simp] theorem withHash_hash (h : IncidentHash) (o : Outage) : (o.withHash h).hash = h := rfl

@[simp] theorem withHash_db (h : IncidentHash) (o : Outage) : (o.withHash h).db = o.db := rfl

@[simp] theorem withHash_sent (h : IncidentHash) (o : Outage) : (o.withHash h).sent = o.sent := rfl

/-- The count that the next failure brings. -/
def nextCount (o : Outage) : ℤ := o.hash.failureCount.getD 0 + 1

/-- The hash after a counted failure; the timestamps are something. -/
def counted (f l : Option ℤ) (o : Outage) : IncidentHash :=
  { o.hash with failureCount := some o.nextCount, firstFailureAt := f, lastFailureAt := l }

end Outage

section Commands

variable {m : UUID} {w w' : World}

/-- A command on the hash of `m` fails without effect or sees that hash only. -/
theorem live_incident {c : RedisCmd} {r : Except RedisError c.Reply}
    (h : World.Live w (.redis c) r w') :
    (r = .error .unavailable ∧ w'.outage m = w.outage m) ∨
      ∃ s : Redis, s.incident m = (w.outage m).hash ∧ r = (s.exec c).1 ∧
        w'.outage m = (w.outage m).withHash ((s.exec c).2.incident m) := by
  obtain ⟨ks, ⟨rfl, rfl⟩ | ⟨rfl, rfl⟩⟩ := World.live_redis h
  · exact Or.inl ⟨rfl, rfl⟩
  · exact Or.inr ⟨w.redis.expire ks, rfl, rfl, rfl⟩

theorem live_hIncrByFailureCount {r : Except RedisError ℤ}
    (h : World.Live w (.redis (.hIncrByFailureCount m)) r w') :
    (r = .error .unavailable ∧ w'.outage m = w.outage m) ∨
      r = .ok (w.outage m).nextCount ∧ w'.outage m = (w.outage m).withHash
        { (w.outage m).hash with failureCount := some (w.outage m).nextCount } := by
  rcases live_incident (m := m) h with h | ⟨s, hs, hr, hw⟩
  · exact Or.inl h
  · rw [hr, hw]
    simp only [Redis.exec, Redis.setIncident_incident, hs]
    exact Or.inr ⟨rfl, rfl⟩

theorem live_hSetFailureTimes {first : Option ℤ} {last : ℤ} {r : Except RedisError Unit}
    (h : World.Live w (.redis (.hSetFailureTimes m first last)) r w') :
    ∃ f l, w'.outage m = (w.outage m).withHash
      { (w.outage m).hash with firstFailureAt := f, lastFailureAt := l } := by
  rcases live_incident (m := m) h with ⟨-, hw⟩ | ⟨s, hs, -, hw⟩
  · exact ⟨_, _, hw⟩
  · rw [hw]
    simp only [Redis.exec, Redis.setIncident_incident, hs]
    exact ⟨_, _, rfl⟩

theorem live_hSetNXAlerted {r : Except RedisError Bool}
    (h : World.Live w (.redis (.hSetNXAlerted m)) r w') :
    (r = .error .unavailable ∧ w'.outage m = w.outage m) ∨
      (r = .ok false ∧ (w.outage m).hash.alerted ≠ none ∧ w'.outage m = w.outage m) ∨
      r = .ok true ∧ (w.outage m).hash.alerted = none ∧
        w'.outage m = (w.outage m).withHash { (w.outage m).hash with alerted := some true } := by
  rcases live_incident (m := m) h with h | ⟨s, hs, hr, hw⟩
  · exact Or.inl h
  · rw [hr, hw]
    simp only [Redis.exec, hs]
    cases ha : (w.outage m).hash.alerted with
    | some b =>
      refine Or.inr (Or.inl ⟨rfl, Option.some_ne_none b, ?_⟩)
      show (w.outage m).withHash (s.incident m) = _
      rw [hs]
      rfl
    | none => exact Or.inr (Or.inr ⟨rfl, rfl, by rw [Redis.setIncident_incident]⟩)

theorem live_hSetNXRecoveredAlerted {r : Except RedisError Bool}
    (h : World.Live w (.redis (.hSetNXRecoveredAlerted m)) r w') :
    (r = .error .unavailable ∧ w'.outage m = w.outage m) ∨
      (r = .ok false ∧ (w.outage m).hash.recoveredAlerted ≠ none ∧ w'.outage m = w.outage m) ∨
      r = .ok true ∧ (w.outage m).hash.recoveredAlerted = none ∧ w'.outage m =
        (w.outage m).withHash { (w.outage m).hash with recoveredAlerted := some true } := by
  rcases live_incident (m := m) h with h | ⟨s, hs, hr, hw⟩
  · exact Or.inl h
  · rw [hr, hw]
    simp only [Redis.exec, hs]
    cases ha : (w.outage m).hash.recoveredAlerted with
    | some b =>
      refine Or.inr (Or.inl ⟨rfl, Option.some_ne_none b, ?_⟩)
      show (w.outage m).withHash (s.incident m) = _
      rw [hs]
      rfl
    | none => exact Or.inr (Or.inr ⟨rfl, rfl, by rw [Redis.setIncident_incident]⟩)

theorem live_hSetDBIncident {r : Except RedisError Unit}
    (h : World.Live w (.redis (.hSetDBIncident m)) r w') :
    (r = .error .unavailable ∧ w'.outage m = w.outage m) ∨
      r = .ok () ∧ w'.outage m =
        (w.outage m).withHash { (w.outage m).hash with dbIncident := some true } := by
  rcases live_incident (m := m) h with h | ⟨s, hs, hr, hw⟩
  · exact Or.inl h
  · refine Or.inr ⟨hr, ?_⟩
    rw [hw]
    simp only [Redis.exec, Redis.setIncident_incident, hs]

theorem live_hGetAllIncident {r : Except RedisError IncidentHash}
    (h : World.Live w (.redis (.hGetAllIncident m)) r w') :
    w'.outage m = w.outage m ∧ (r = .error .unavailable ∨ r = .ok (w.outage m).hash) := by
  rcases live_incident (m := m) h with ⟨hr, hw⟩ | ⟨s, hs, hr, hw⟩
  · exact ⟨hw, Or.inl hr⟩
  · refine ⟨?_, Or.inr (hr.trans ?_)⟩
    · rw [hw]
      show (w.outage m).withHash (s.incident m) = _
      rw [hs]
      rfl
    · rw [← hs]
      rfl

theorem live_delIncident {r : Except RedisError Unit}
    (h : World.Live w (.redis (.delIncident m)) r w') :
    (r = .error .unavailable ∧ w'.outage m = w.outage m) ∨
      r = .ok () ∧ w'.outage m = (w.outage m).withHash .absent := by
  rcases live_incident (m := m) h with h | ⟨s, hs, hr, hw⟩
  · exact Or.inl h
  · refine Or.inr ⟨hr, ?_⟩
    rw [hw]
    simp only [Redis.exec, Redis.setIncident_incident]

end Commands

end Sofon
