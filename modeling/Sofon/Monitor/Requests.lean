import Sofon.Monitor.Enabled

/-!
# Requests one at a time

What a request does to the rows of `monitors` and to the schedule when it runs
from start to end with nothing in between and all its calls getting through
(`GetsThrough`; the database may still refuse a row).

The two are read off a state as its `core`.  A request leaves the core as it was,
or changes it in the one way that its name promises (`updateMonitorStatus_core`,
`createMonitor_core`, `deleteMonitor_core`).  What the loop of the pipeline needs
of all three is `Loyal`: a monitor that is enabled afterwards is scheduled, or it
was enabled before and has not been taken out of the schedule.
-/

namespace Sofon

open Interleaving Program

/-- The rows and the schedule. -/
def World.core (w : World) : List MonitorRow × KeyValue.SortedSet Member :=
  (w.db.monitors, w.redis.schedule)

variable {m : UUID} {w w' : World} {tr : List Call}

theorem World.of_core {rows : List MonitorRow} {schedule : KeyValue.SortedSet Member}
    (h : w.core = (rows, schedule)) : w.db.monitors = rows ∧ w.redis.schedule = schedule :=
  Prod.mk.inj h

/-- The call did not get through, or its context was cancelled. -/
def Call.lost : Call → Bool
  | ⟨.redis _, .error err⟩ => err ≠ .badArguments
  | ⟨.sql _, .error err⟩ => err = .unavailable || err = .canceled
  | _ => false

/-- Every call of the trace got through. -/
def GetsThrough (tr : List Call) : Prop := ∀ e ∈ tr, e.lost = false

@[simp] theorem getsThrough_cons {e : Call} {tr : List Call} :
    GetsThrough (e :: tr) ↔ e.lost = false ∧ GetsThrough tr := List.forall_mem_cons

@[simp] theorem getsThrough_append {tr tr' : List Call} :
    GetsThrough (tr ++ tr') ↔ GetsThrough tr ∧ GetsThrough tr' := List.forall_mem_append

/-! ## The parts of the requests -/

theorem core_of_neutral {α : Type} {p : Prog α} {a : α} (h : Exec World.Live p w tr a w')
    (hp : p.Only (Cmd.neutral ·)) : w'.core = w.core := by
  refine h.invariant (I := fun x => x.core = w.core) (fun e he t t' hlive ht => ?_) rfl
  obtain ⟨hrows, hsched⟩ := neutral_of_live (h.only hp e he) hlive
  rw [← ht, World.core, World.core, hrows, hsched]

/-- A query that got through did what the database does. -/
theorem sql_core {q : Query} {x : Except DBError q.Result} (h : World.Live w (.sql q) x w')
    (hx : Call.lost ⟨.sql q, x⟩ = false) :
    ∃ now, x = (w.db.exec now q).1 ∧ w'.db = (w.db.exec now q).2 ∧
      w'.redis.schedule = w.redis.schedule := by
  obtain ⟨ks, now, ⟨rfl, -⟩ | ⟨rfl, rfl⟩⟩ := World.live_sql h
  · cases hx
  · exact ⟨now, rfl, rfl, rfl⟩

theorem scheduleMonitor_core {i : ℤ}
    (h : Exec World.Live (MonitorService.scheduleMonitor m i) w tr () w')
    (hno : GetsThrough tr) :
    ∃ score, w'.core = (w.db.monitors, w.redis.schedule.add [⟨score, .id m⟩]) := by
  obtain ⟨now, w₁, tr₁, hnow, rfl, h⟩ := exec_call_bind h
  obtain ⟨ks, rfl⟩ := World.live_timeNow hnow
  obtain ⟨tr₂, x, w₂, tr₃, hretry, hret, rfl⟩ := exec_bind_iff.mp h
  obtain ⟨rfl, -, rfl⟩ := exec_ret_iff.mp hret
  obtain ⟨y, w₃, tr₄, hadd, rfl, hk⟩ := exec_call_bind hretry
  obtain ⟨ks', ⟨rfl, -⟩ | ⟨rfl, rfl⟩⟩ := World.live_redis hadd
  · -- the first attempt would have failed
    simp [Call.lost] at hno
  · obtain ⟨rfl, rfl, rfl⟩ := exec_ret_iff.mp hk
    exact ⟨_, rfl⟩

theorem disableMonitor_core (h : Exec World.Live (MonitorService.disableMonitor m) w tr () w')
    (hno : GetsThrough tr) : w'.core = (w.db.monitors, w.redis.schedule.remove (.id m)) := by
  obtain ⟨x, w₁, tr₁, hdel, rfl, h₁⟩ := exec_call_bind h
  obtain ⟨y, w₂, tr₂, hrem, rfl, h₂⟩ := exec_call_bind h₁
  obtain ⟨hrows, hsched⟩ := neutral_of_live (c := .redis (.delMonitor m)) rfl hdel
  have hrest : w'.core = w₂.core := by
    refine core_of_neutral h₂ ?_
    have hclear : (RedisClient.clearIncident m).Only (Cmd.neutral ·) :=
      RedisClient.only_retry_call (Cmd.neutral ·) rfl rfl 2
    exact hclear.bind fun _ => ⟨rfl, fun _ => trivial⟩
  obtain ⟨ks, ⟨rfl, -⟩ | ⟨-, rfl⟩⟩ := World.live_redis hrem
  · simp [Call.lost] at hno
  · rw [hrest, World.core]
    show (w₁.db.monitors, w₁.redis.schedule.remove (.id m)) = _
    rw [hrows, hsched]

/-- Reading a monitor: the row is there if a monitor comes back. -/
theorem get_core {team : UUID} {x : Except AppError Monitor}
    (h : Exec World.Live (MonitorRepository.get team m) w tr x w') (hno : GetsThrough tr) :
    w'.core = w.core ∧ ∀ y, x = .ok y →
      ∃ row, w.db.monitor? m = some row ∧ row.id = m ∧ row.teamID = team ∧
        y = MonitorRepository.ofRow row := by
  obtain ⟨r, w₁, tr₁, hget, rfl, hret⟩ := exec_call_bind h
  have hneutral : (Cmd.sql (.getMonitorByTeamID m team)).neutral := rfl
  obtain ⟨hrows, hsched⟩ := neutral_of_live hneutral hget
  have hcore : w₁.core = w.core := by rw [World.core, World.core, hrows, hsched]
  obtain ⟨now, hr, -⟩ := sql_core hget (getsThrough_cons.mp hno).1
  rcases r with err | row
  · obtain ⟨-, rfl, rfl⟩ := exec_ret_iff.mp hret
    exact ⟨hcore, fun y hy => nomatch hy⟩
  · obtain ⟨-, rfl, rfl⟩ := exec_ret_iff.mp hret
    refine ⟨hcore, fun y hy => ⟨row, ?_⟩⟩
    obtain ⟨hfind, hteam⟩ := DB.monitor?_of_getMonitorByTeamID hr.symm
    exact ⟨hfind, DB.id_of_monitor? hfind, hteam, (Except.ok.inj hy).symm⟩

/-- A monitor comes back if the row is there. -/
theorem get_found {team : UUID} {x : Except AppError Monitor} {row : MonitorRow}
    (h : Exec World.Live (MonitorRepository.get team m) w tr x w') (hno : GetsThrough tr)
    (hrow : w.db.monitor? m = some row) (hteam : row.teamID = team) :
    x = .ok (MonitorRepository.ofRow row) := by
  obtain ⟨r, w₁, tr₁, hget, rfl, hret⟩ := exec_call_bind h
  obtain ⟨now, rfl, -⟩ := sql_core hget (getsThrough_cons.mp hno).1
  have hfound : (w.db.monitor? m).filter (·.teamID = team) = some row := by
    rw [hrow, Option.filter_some, if_pos (decide_eq_true hteam)]
  simp only [DB.exec, hfound] at hret
  exact (exec_ret_iff.mp hret).2.1

/-! ## The requests -/

/-- What an `UPDATE` of the flag does to a row. -/
def MonitorRow.setEnabled (m team : UUID) (b : Bool) (row : MonitorRow) : MonitorRow :=
  if row.id = m && row.teamID = team then { row with enabled := b } else row

theorem setEnabled_core {team : UUID} {b : Bool} {x : Except AppError Unit}
    (h : Exec World.Live (MonitorRepository.setEnabled team m b) w tr x w') (hno : GetsThrough tr)
    {row : MonitorRow} (hrow : row ∈ w.db.monitors) (hid : row.id = m) (hteam : row.teamID = team) :
    x = .ok () ∧ w'.core = (w.db.monitors.map (·.setEnabled m team b), w.redis.schedule) := by
  obtain ⟨r, w₁, tr₁, hupd, rfl, hret⟩ := exec_call_bind h
  obtain ⟨now, rfl, hdb, hsched⟩ := sql_core hupd (getsThrough_cons.mp hno).1
  -- the row is there to be updated
  have hpos : w.db.monitors.countP (fun row => row.id = m && row.teamID = team) ≠ 0 :=
    DB.countP_monitors_ne_zero_iff.mpr ⟨row, hrow, hid, hteam⟩
  change Exec _ (if w.db.monitors.countP _ = 0 then ret _ else ret _) _ _ _ _ at hret
  rw [if_neg hpos] at hret
  obtain ⟨-, rfl, rfl⟩ := exec_ret_iff.mp hret
  refine ⟨rfl, ?_⟩
  rw [World.core, hdb, hsched]
  rfl

theorem updateMonitorStatus_core {team : UUID} {b : Bool} {x : Except AppError Bool}
    (h : Exec World.Live (MonitorService.updateMonitorStatus team m b) w tr x w')
    (hno : GetsThrough tr) :
    (w'.core = w.core ∧
        ∀ row, w.db.monitor? m = some row → row.teamID = team → row.enabled = b) ∨
      ∃ row, w.db.monitor? m = some row ∧ row.teamID = team ∧
        ((b = true ∧ ∃ score, w'.core =
          (w.db.monitors.map (·.setEnabled m team b), w.redis.schedule.add [⟨score, .id m⟩])) ∨
        (b = false ∧ w'.core =
          (w.db.monitors.map (·.setEnabled m team b), w.redis.schedule.remove (.id m)))) := by
  obtain ⟨tr₁, y, w₁, tr₂, hget, h₁, rfl⟩ := exec_bind_iff.mp h
  obtain ⟨hno₁, hno⟩ := getsThrough_append.mp hno
  obtain ⟨hcore, hok⟩ := get_core hget hno₁
  obtain ⟨hrows, hsched⟩ := World.of_core hcore
  rcases y with err | y
  · obtain ⟨-, -, rfl⟩ := exec_ret_iff.mp h₁
    exact Or.inl ⟨hcore, fun row hrow hteam => nomatch get_found hget hno₁ hrow hteam⟩
  obtain ⟨row, hrow, hid, hteam, rfl⟩ := hok y rfl
  change Exec _ (if row.enabled = b then _ else _) _ _ _ _ at h₁
  split at h₁
  · rename_i hsame
    obtain ⟨-, -, rfl⟩ := exec_ret_iff.mp h₁
    exact Or.inl ⟨hcore, fun row' hrow' _ => Option.some.inj (hrow.symm.trans hrow') ▸ hsame⟩
  obtain ⟨tr₃, z, w₂, tr₄, hset, h₂, rfl⟩ := exec_bind_iff.mp h₁
  obtain ⟨hno₂, hno⟩ := getsThrough_append.mp hno
  have hmem : row ∈ w₁.db.monitors := hrows ▸ DB.mem_of_monitor? hrow
  obtain ⟨rfl, hcore₂⟩ := setEnabled_core hset hno₂ hmem hid hteam
  have hrows₂ : w₂.db.monitors = w.db.monitors.map (·.setEnabled m team b) := by
    rw [← hrows]
    exact (World.of_core hcore₂).1
  have hsched₂ : w₂.redis.schedule = w.redis.schedule := (World.of_core hcore₂).2.trans hsched
  refine Or.inr ⟨row, hrow, hteam, ?_⟩
  change Exec _ (if b then _ else _) _ _ _ _ at h₂
  cases b with
  | true =>
    rw [if_pos rfl] at h₂
    obtain ⟨tr₅, u, w₃, tr₆, hplan, hret, rfl⟩ := exec_bind_iff.mp h₂
    obtain ⟨rfl, -, rfl⟩ := exec_ret_iff.mp hret
    obtain ⟨score, hw⟩ := scheduleMonitor_core hplan (getsThrough_append.mp hno).1
    refine Or.inl ⟨rfl, score, ?_⟩
    rw [hw, hrows₂, hsched₂]
    show (_, w.redis.schedule.add [⟨score, .id row.id⟩]) = _
    rw [hid]
  | false =>
    rw [if_neg Bool.false_ne_true] at h₂
    obtain ⟨tr₅, u, w₃, tr₆, hclose, h₃, rfl⟩ := exec_bind_iff.mp h₂
    obtain ⟨tr₇, v, w₄, tr₈, hdis, hret, rfl⟩ := exec_bind_iff.mp h₃
    obtain ⟨rfl, -, rfl⟩ := exec_ret_iff.mp hret
    obtain ⟨-, hno⟩ := getsThrough_append.mp hno
    have hneutral : (MonitorRepository.closeOpenIncident m).Only (Cmd.neutral ·) :=
      MonitorService.only_closeOpenIncident (Cmd.neutral ·) rfl fun _ => rfl
    obtain ⟨hrows₃, hsched₃⟩ := World.of_core (core_of_neutral hclose hneutral)
    refine Or.inr ⟨rfl, ?_⟩
    rw [disableMonitor_core hdis (getsThrough_append.mp hno).1, hrows₃, hsched₃, hrows₂, hsched₂]

theorem createMonitor_core {data : CreateMonitor} {x : Except AppError UUID}
    (h : Exec World.Live (MonitorService.createMonitor data) w tr x w') (hno : GetsThrough tr) :
    w'.core = w.core ∨ ∃ (row : MonitorRow) (score : ℤ),
      w'.core = (w.db.monitors ++ [row], w.redis.schedule.add [⟨score, .id row.id⟩]) := by
  obtain ⟨tr₁, y, w₁, tr₂, hcount, h₁, rfl⟩ := exec_bind_iff.mp h
  have hneutral : (UserRepository.incrementMonitorCount data.userID).Only (Cmd.neutral ·) := by
    refine ⟨rfl, fun r => ?_⟩
    rcases r with err | rows
    · trivial
    · show Only _ (if rows = 0 then _ else _)
      split <;> trivial
  have hcore := core_of_neutral hcount hneutral
  obtain ⟨hrows, hsched⟩ := World.of_core hcore
  rcases y with err | u
  · obtain ⟨-, -, rfl⟩ := exec_ret_iff.mp h₁
    exact Or.inl hcore
  obtain ⟨tr₃, z, w₂, tr₄, hcreate, h₂, rfl⟩ := exec_bind_iff.mp h₁
  obtain ⟨r, w₃, tr₅, hinsert, rfl, hret⟩ := exec_call_bind hcreate
  obtain ⟨-, hno₁⟩ := getsThrough_append.mp hno
  obtain ⟨hno₂, hno₃⟩ := getsThrough_append.mp hno₁
  obtain ⟨now, rfl, hdb, hsched₃⟩ := sql_core hinsert (getsThrough_cons.mp hno₂).1
  simp only [DB.exec] at hdb hret
  split at hdb
  · rename_i hcheck
    rw [if_pos hcheck] at hret
    obtain ⟨-, rfl, rfl⟩ := exec_ret_iff.mp hret
    have hrow : ∃ row : MonitorRow, w₂.db.monitors = w₁.db.monitors ++ [row] ∧
        row.id = w₁.db.nextID := ⟨_, congrArg DB.monitors hdb, rfl⟩
    obtain ⟨row, hrow, hid⟩ := hrow
    obtain ⟨tr₆, v, w₄, tr₇, hplan, hret', rfl⟩ := exec_bind_iff.mp h₂
    obtain ⟨-, -, rfl⟩ := exec_ret_iff.mp hret'
    obtain ⟨score, hw⟩ := scheduleMonitor_core hplan (getsThrough_append.mp hno₃).1
    refine Or.inr ⟨row, score, ?_⟩
    rw [hw, hrow, hsched₃, hsched, hrows, hid]
  · rename_i hcheck
    -- the database refused the row
    rw [if_neg hcheck] at hret
    obtain ⟨-, rfl, rfl⟩ := exec_ret_iff.mp hret
    obtain ⟨-, -, rfl⟩ := exec_ret_iff.mp h₂
    refine Or.inl ?_
    rw [World.core, hdb, hsched₃]
    exact hcore

theorem deleteMonitor_core {team : UUID} {x : Except AppError Unit}
    (h : Exec World.Live (MonitorService.deleteMonitor team m) w tr x w') (hno : GetsThrough tr) :
    w'.core = w.core ∨ ∃ row, w.db.monitor? m = some row ∧ row.teamID = team ∧
      w'.core = (w.db.monitors.filter fun row => !(row.id = m && row.teamID = team),
        w.redis.schedule.remove (.id m)) := by
  obtain ⟨tr₁, y, w₁, tr₂, hget, h₁, rfl⟩ := exec_bind_iff.mp h
  obtain ⟨hno₁, hno₂⟩ := getsThrough_append.mp hno
  obtain ⟨hcore, hok⟩ := get_core hget hno₁
  obtain ⟨hrows, hsched⟩ := World.of_core hcore
  rcases y with err | y
  · obtain ⟨-, -, rfl⟩ := exec_ret_iff.mp h₁
    exact Or.inl hcore
  obtain ⟨row, hrow, hid, hteam, rfl⟩ := hok y rfl
  obtain ⟨tr₃, u, w₂, tr₄, hdis, h₂, rfl⟩ := exec_bind_iff.mp h₁
  obtain ⟨hno₃, hno₄⟩ := getsThrough_append.mp hno₂
  obtain ⟨hrows₂, hsched₂⟩ := World.of_core (disableMonitor_core hdis hno₃)
  obtain ⟨tr₅, z, w₃, tr₆, hdel, h₃, rfl⟩ := exec_bind_iff.mp h₂
  obtain ⟨hno₅, -⟩ := getsThrough_append.mp hno₄
  obtain ⟨r, w₄, tr₇, hexec, rfl, hret⟩ := exec_call_bind hdel
  obtain ⟨now, rfl, hdb, hsched₄⟩ := sql_core hexec (getsThrough_cons.mp hno₅).1
  have hcore₄ : w₄.core = (w.db.monitors.filter fun row => !(row.id = m && row.teamID = team),
      w.redis.schedule.remove (.id m)) := by
    rw [World.core, hdb, hsched₄, hsched₂, hsched]
    show (w₂.db.monitors.filter _, _) = _
    rw [hrows₂, hrows]
  have hw₃ : w₃ = w₄ := by
    change Exec _ (if w₂.db.monitors.countP _ = 0 then ret _ else ret _) _ _ _ _ at hret
    split at hret <;> exact (exec_ret_iff.mp hret).2.2
  have hend : w'.core = w₃.core := by
    refine core_of_neutral h₃ ?_
    rcases z with err | v
    · trivial
    · refine Only.bind ⟨rfl, fun r => ?_⟩ fun _ => trivial
      rcases r with err | rows <;> trivial
  refine Or.inr ⟨row, hrow, hteam, ?_⟩
  rw [hend, hw₃, hcore₄]

/-! ## What the loop needs of them -/

/-- Ids are keys, and the next one is new. -/
def DB.Keyed (d : DB) : Prop :=
  (d.monitors.map MonitorRow.id).Nodup ∧ ∀ row ∈ d.monitors, row.id < d.nextID

theorem DB.keyed_exec (now : Time) (q : Query) {d : DB} (h : d.Keyed) : (d.exec now q).2.Keyed := by
  obtain ⟨hnodup, hnew⟩ := h
  cases q with
  | createMonitorIncident =>
    simp only [DB.exec]
    split
    · exact ⟨hnodup, fun row hrow => (hnew row hrow).trans (Nat.lt_succ_self _)⟩
    · exact ⟨hnodup, hnew⟩
  | closeMonitorIncident =>
    simp only [DB.exec]
    split
    · exact ⟨hnodup, hnew⟩
    · split <;> exact ⟨hnodup, hnew⟩
  | getMonitorByID | getMonitorByTeamID =>
    simp only [DB.exec]
    split <;> exact ⟨hnodup, hnew⟩
  | updateMonitorStatus m b team =>
    have hid : ∀ row : MonitorRow, (if row.id = m && row.teamID = team then
        { row with enabled := b } else row).id = row.id := by
      intro row
      split <;> rfl
    constructor
    · simp only [DB.exec, List.map_map, Function.comp_def, hid]
      exact hnodup
    · intro row hrow
      obtain ⟨old, hold, rfl⟩ := List.mem_map.mp hrow
      rw [hid]
      exact hnew old hold
  | createMonitor data channels =>
    simp only [DB.exec]
    split
    · constructor
      · rw [List.map_append, List.map_singleton, ← List.concat_eq_append, List.nodup_concat]
        refine ⟨fun hmem => ?_, hnodup⟩
        obtain ⟨row, hrow, hid⟩ := List.mem_map.mp hmem
        have hlt := hnew row hrow
        rw [hid] at hlt
        exact absurd hlt (lt_irrefl _)
      · intro row hrow
        rcases List.mem_append.mp hrow with hrow | hrow
        · exact (hnew row hrow).trans (Nat.lt_succ_self _)
        · rw [List.mem_singleton.mp hrow]
          exact Nat.lt_succ_self _
    · exact ⟨hnodup, hnew⟩
  | deleteMonitor =>
    refine ⟨hnodup.sublist (List.filter_sublist.map _), fun row hrow => ?_⟩
    exact hnew row (List.mem_filter.mp hrow).1
  | incrementMonitorCount | decrementMonitorCount => exact ⟨hnodup, hnew⟩

theorem keyed_of_live {c : Cmd} {r : c.Resp} (h : World.Live w c r w') (hk : w.db.Keyed) :
    w'.db.Keyed := by
  obtain ⟨ks, rfl | ⟨c, rfl, rfl⟩ | ⟨q, now, rfl, rfl⟩ | ⟨ev, rfl, rfl⟩⟩ := World.live_cases h
  · exact hk
  · exact hk
  · exact DB.keyed_exec now q hk
  · exact hk

/-- A monitor that is enabled afterwards is scheduled, or it was enabled before and
has not been taken out of the schedule. -/
def Loyal (m : UUID) (w w' : World) : Prop :=
  w'.db.Enabled m → w'.Scheduled m ∨ w.db.Enabled m ∧ (w.Scheduled m → w'.Scheduled m)

theorem loyal_of_core (h : w'.core = w.core) : Loyal m w w' := by
  obtain ⟨hrows, hsched⟩ := World.of_core h
  intro hen
  refine Or.inr ⟨by rwa [DB.Enabled, DB.monitor?, hrows] at hen, fun hs => ?_⟩
  rwa [World.Scheduled, hsched]

/-- Updating one monitor leaves the flags of the others. -/
theorem find?_setEnabled (rows : List MonitorRow) (m₀ team : UUID) (b : Bool) :
    (rows.map (·.setEnabled m₀ team b)).find? (·.id = m) =
      (rows.find? (·.id = m)).map (·.setEnabled m₀ team b) := by
  have hid : ∀ row : MonitorRow, (row.setEnabled m₀ team b).id = row.id := by
    intro row
    rw [MonitorRow.setEnabled]
    split <;> rfl
  rw [List.find?_map]
  congr 1
  exact congrArg (fun p => rows.find? p) (funext fun row => by simp [hid])

theorem enabled_of_setEnabled {m₀ team : UUID} {b : Bool} (hne : m ≠ m₀)
    (hrows : w'.db.monitors = w.db.monitors.map (·.setEnabled m₀ team b)) (h : w'.db.Enabled m) :
    w.db.Enabled m := by
  obtain ⟨row, hrow, hen⟩ := h
  rw [DB.monitor?, hrows, find?_setEnabled] at hrow
  obtain ⟨old, hold, rfl⟩ := Option.map_eq_some_iff.mp hrow
  have hid : old.id = m := DB.id_of_monitor? hold
  have hsame : old.setEnabled m₀ team b = old := by
    rw [MonitorRow.setEnabled, if_neg]
    simp [hid, hne]
  rw [hsame] at hen
  exact ⟨old, hold, hen⟩

/-- With unique ids, any row will do. -/
theorem DB.Keyed.enabled_iff {d : DB} (h : d.Keyed) :
    d.Enabled m ↔ ∃ row ∈ d.monitors, row.id = m ∧ row.enabled = true := by
  constructor
  · rintro ⟨row, hrow, hen⟩
    exact ⟨row, DB.mem_of_monitor? hrow, DB.id_of_monitor? hrow, hen⟩
  · rintro ⟨row, hrow, rfl, hen⟩
    cases hfind : d.monitor? row.id with
    | none =>
      have hnot := List.find?_eq_none.mp hfind row hrow
      simp at hnot
    | some row' =>
      have heq : row' = row :=
        List.inj_on_of_nodup_map h.1 (DB.mem_of_monitor? hfind) hrow (DB.id_of_monitor? hfind)
      exact ⟨row, heq ▸ hfind, hen⟩

theorem loyal_updateMonitorStatus {m₀ team : UUID} {b : Bool} {x : Except AppError Bool}
    (h : Exec World.Live (MonitorService.updateMonitorStatus team m₀ b) w tr x w')
    (hno : GetsThrough tr) : Loyal m w w' := by
  rcases updateMonitorStatus_core h hno with
    ⟨hcore, -⟩ | ⟨row, hrow, hteam, ⟨rfl, score, hcore⟩ | ⟨rfl, hcore⟩⟩
  · exact loyal_of_core hcore
  · intro hen
    obtain ⟨hrows, hsched⟩ := World.of_core hcore
    rw [World.Scheduled, hsched, KeyValue.SortedSet.mem_members_add]
    by_cases hm : m = m₀
    · subst hm
      exact Or.inl (Or.inl (List.mem_singleton_self _))
    · exact Or.inr ⟨enabled_of_setEnabled hm hrows hen, Or.inr⟩
  · intro hen
    obtain ⟨hrows, hsched⟩ := World.of_core hcore
    by_cases hm : m = m₀
    · -- its row has just been disabled
      subst hm
      obtain ⟨row', hrow', hen'⟩ := hen
      rw [DB.monitor?, hrows, find?_setEnabled] at hrow'
      rw [DB.monitor?] at hrow
      rw [hrow] at hrow'
      have hid : row.id = m := DB.id_of_monitor? hrow
      obtain rfl : row.setEnabled m team false = row' := Option.some.inj hrow'
      rw [MonitorRow.setEnabled, if_pos (by simp [hid, hteam])] at hen'
      cases hen'
    · refine Or.inr ⟨enabled_of_setEnabled hm hrows hen, fun hs => ?_⟩
      rw [World.Scheduled, hsched, KeyValue.SortedSet.mem_members_remove]
      exact ⟨hs, fun heq => hm (Member.id.inj heq)⟩

theorem loyal_createMonitor {data : CreateMonitor} {x : Except AppError UUID}
    (h : Exec World.Live (MonitorService.createMonitor data) w tr x w') (hno : GetsThrough tr) :
    Loyal m w w' := by
  rcases createMonitor_core h hno with hcore | ⟨row, score, hcore⟩
  · exact loyal_of_core hcore
  · rintro ⟨row', hrow', hen⟩
    obtain ⟨hrows, hsched⟩ := World.of_core hcore
    rw [World.Scheduled, hsched, KeyValue.SortedSet.mem_members_add]
    by_cases hm : m = row.id
    · exact Or.inl (Or.inl (hm ▸ List.mem_singleton_self _))
    · rw [DB.monitor?, hrows, List.find?_append,
        List.find?_singleton, if_neg (by simpa using Ne.symm hm), Option.or_none] at hrow'
      exact Or.inr ⟨⟨row', hrow', hen⟩, Or.inr⟩

theorem loyal_deleteMonitor {m₀ team : UUID} {x : Except AppError Unit}
    (h : Exec World.Live (MonitorService.deleteMonitor team m₀) w tr x w') (hno : GetsThrough tr)
    (hk : w.db.Keyed) (hk' : w'.db.Keyed) : Loyal m w w' := by
  rcases deleteMonitor_core h hno with hcore | ⟨row, hrow, hteam, hcore⟩
  · exact loyal_of_core hcore
  · intro hen
    obtain ⟨row', hrow', hid', hen'⟩ := hk'.enabled_iff.mp hen
    obtain ⟨hrows, hsched⟩ := World.of_core hcore
    rw [hrows] at hrow'
    obtain ⟨hmem, hkept⟩ := List.mem_filter.mp hrow'
    have hm : m ≠ m₀ := by
      -- the row that was read is the only one, and it has been deleted
      rintro rfl
      have hid : row.id = m := DB.id_of_monitor? hrow
      have heq : row' = row :=
        List.inj_on_of_nodup_map hk.1 hmem (DB.mem_of_monitor? hrow) (hid'.trans hid.symm)
      rw [heq] at hkept
      simp [hid, hteam] at hkept
    refine Or.inr ⟨hk.enabled_iff.mpr ⟨row', hmem, hid', hen'⟩, fun hs => ?_⟩
    rw [World.Scheduled, hsched, KeyValue.SortedSet.mem_members_remove]
    exact ⟨hs, fun heq => hm (Member.id.inj heq)⟩

end Sofon
