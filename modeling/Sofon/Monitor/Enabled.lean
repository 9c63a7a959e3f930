import Sofon.Monitor.Service

/-!
# Enabled rows and scheduled monitors

The two facts about a monitor that are meant to agree: its row in `monitors` is
enabled (`DB.Enabled`), and it is in the schedule (`World.Scheduled`).  Most calls
touch neither (`Cmd.neutral`).
-/

namespace Sofon

open Interleaving Program

variable {m : UUID} {w w' : World}

/-- The row of the monitor is enabled. -/
def DB.Enabled (m : UUID) (d : DB) : Prop := ∃ row, d.monitor? m = some row ∧ row.enabled = true

/-- The monitor is in the schedule. -/
def World.Scheduled (m : UUID) (w : World) : Prop := Member.id m ∈ w.redis.schedule.members

instance (m : UUID) (d : DB) : Decidable (d.Enabled m) :=
  decidable_of_iff ((d.monitor? m).any (·.enabled)) (Option.any_eq_true _ _)

instance (m : UUID) (w : World) : Decidable (w.Scheduled m) :=
  inferInstanceAs (Decidable (Member.id m ∈ w.redis.schedule.members))

/-- The calls that neither touch the schedule nor write a row of `monitors`. -/
def Cmd.neutral : Cmd → Bool
  | redis (.zAdd _) => false
  | redis (.zPopMin _) => false
  | redis (.zRem _) => false
  | sql (.updateMonitorStatus ..) => false
  | sql (.createMonitor ..) => false
  | sql (.deleteMonitor ..) => false
  | _ => true

theorem Redis.exec_schedule {c : RedisCmd} (h : (Cmd.redis c).neutral) (s : Redis) :
    (s.exec c).2.schedule = s.schedule := by
  cases c with
  | zAdd items | zPopMin n | zRem member => cases h
  | hSetNXAlerted m | hSetNXRecoveredAlerted m =>
    simp only [Redis.exec]
    split <;> rfl
  | _ => rfl

theorem DB.exec_monitors {now : Time} {q : Query} (h : (Cmd.sql q).neutral) (d : DB) :
    (d.exec now q).2.monitors = d.monitors := by
  cases q with
  | updateMonitorStatus | createMonitor | deleteMonitor => cases h
  | createMonitorIncident | getMonitorByID | getMonitorByTeamID =>
    simp only [DB.exec]
    split <;> rfl
  | closeMonitorIncident m t =>
    simp only [DB.exec]
    split
    · rfl
    · split <;> rfl
  | incrementMonitorCount | decrementMonitorCount => rfl

/-- **The neutral calls** change neither the schedule nor the rows. -/
theorem neutral_of_live {c : Cmd} {r : c.Resp} (hc : c.neutral) (h : World.Live w c r w') :
    w'.db.monitors = w.db.monitors ∧ w'.redis.schedule = w.redis.schedule := by
  obtain ⟨ks, rfl | ⟨c, rfl, rfl⟩ | ⟨q, now, rfl, rfl⟩ | ⟨ev, rfl, rfl⟩⟩ := World.live_cases h
  · exact ⟨rfl, rfl⟩
  · exact ⟨rfl, Redis.exec_schedule hc _⟩
  · exact ⟨DB.exec_monitors hc _, rfl⟩
  · exact ⟨rfl, rfl⟩

/-- After an `UPDATE` the row is enabled only if it was before, or if the `UPDATE`
enabled it and says that it matched a row. -/
theorem enabled_of_update {now : Time} {d : DB} {team : UUID} {b : Bool}
    (h : (d.exec now (.updateMonitorStatus m b team)).2.Enabled m) :
    d.Enabled m ∨
      b = true ∧ ∃ rows, (d.exec now (.updateMonitorStatus m b team)).1 = .ok rows ∧ rows ≠ 0 := by
  obtain ⟨row, hrow, hen⟩ := h
  simp only [DB.monitor?, DB.exec, List.find?_map, Option.map_eq_some_iff] at hrow
  obtain ⟨old, hold, rfl⟩ := hrow
  have hsame : (fun x : MonitorRow => decide ((if x.id = m && x.teamID = team then
      { x with enabled := b } else x).id = m)) = fun x => decide (x.id = m) := by
    funext x
    split <;> rfl
  have hfound : d.monitor? m = some old := by
    rw [← hold, DB.monitor?]
    exact congrArg (fun p => d.monitors.find? p) hsame.symm
  split at hen
  · rename_i hmatch
    simp only [Bool.and_eq_true, decide_eq_true_eq] at hmatch
    refine Or.inr ⟨hen, _, rfl, DB.countP_monitors_ne_zero_iff.mpr ?_⟩
    exact ⟨old, DB.mem_of_monitor? hfound, hmatch⟩
  · exact Or.inl ⟨old, hfound, hen⟩

/-- The sample monitor, in the schedule. -/
def Sample.scheduled : World :=
  { world with
    redis := { Redis.empty with schedule := KeyValue.SortedSet.empty.insert ⟨0, .id 1⟩ } }

end Sofon
