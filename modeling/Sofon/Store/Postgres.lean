import Sofon.Domain
import Mathlib.Data.List.Basic
import Mathlib.Data.Option.Basic

/-!
# PostgreSQL

The tables that the monitoring pipeline reads and writes, with the constraints
of the migrations, and its queries, one constructor for each query of
`sqlc/queries` it uses.  A statement takes effect as a whole or, if it violates
a constraint, not at all.

Row ids of incidents and monitors come from `gen_random_uuid()`; here they count
up from one, so that they are fresh and never `uuid.Nil`.  Timestamps are whole
microseconds.
-/

namespace Sofon

/-- A row of `users`, as far as the monitor quota reads it. -/
structure UserRow where
  id : UUID
  monitorsCount : ℤ

/-- A row of `monitors`. -/
structure MonitorRow where
  id : UUID
  userID : UUID
  teamID : UUID
  url : String
  intervalSec : ℤ
  timeoutSec : ℤ
  latencyThresholdMs : Option ℤ
  expectedStatus : Option ℤ
  enabled : Bool
  notificationChannels : String
  createdAt : ℤ

namespace MonitorRow

/-- The `CHECK` constraints of `monitors`. -/
def check (row : MonitorRow) : Bool :=
  row.url.length ≤ 2048 && 60 ≤ row.intervalSec && 0 < row.timeoutSec &&
    row.latencyThresholdMs.all (0 ≤ ·) &&
    row.expectedStatus.all (fun s => 100 ≤ s && s ≤ 599)

end MonitorRow

/-- A row of `monitor_incidents`. -/
structure IncidentRow where
  id : UUID
  monitorID : UUID
  startTime : ℤ
  endTime : Option ℤ
  alerted : Bool
  httpStatus : ℤ
  latencyMs : ℤ
  deriving DecidableEq

namespace IncidentRow

/-- The `CHECK` constraints of `monitor_incidents` on the check it records. -/
def check (row : IncidentRow) : Bool :=
  100 ≤ row.httpStatus && row.httpStatus ≤ 599 && 0 ≤ row.latencyMs

/-- `monitor_id = m AND end_time IS NULL`. -/
def openFor (m : UUID) (row : IncidentRow) : Bool := row.monitorID = m && row.endTime.isNone

/-- `SET end_time = t WHERE monitor_id = m AND end_time IS NULL`. -/
def close (m : UUID) (t : ℤ) (row : IncidentRow) : IncidentRow :=
  if row.openFor m then { row with endTime := some t } else row

@[simp] theorem close_id (m : UUID) (t : ℤ) (row : IncidentRow) : (row.close m t).id = row.id := by
  unfold close
  split <;> rfl

@[simp] theorem close_monitorID (m : UUID) (t : ℤ) (row : IncidentRow) :
    (row.close m t).monitorID = row.monitorID := by
  unfold close
  split <;> rfl

/-- A closed row is not open, for its own monitor or for another. -/
theorem openFor_close (m m' : UUID) (t : ℤ) (row : IncidentRow) :
    (row.close m t).openFor m' = (row.openFor m' && m' ≠ m) := by
  rw [close]
  split
  · rename_i h
    rw [openFor, Bool.and_eq_true, decide_eq_true_eq] at h
    by_cases hm : m' = m
    · simp [openFor, hm]
    · simp [openFor, h.1, Ne.symm hm]
  · rename_i h
    by_cases hm : m' = m
    · simpa [hm] using h
    · simp [hm]

end IncidentRow

/-- The tables. -/
structure DB where
  users : List UserRow
  monitors : List MonitorRow
  incidents : List IncidentRow
  nextID : UUID

/-- The queries. -/
inductive Query where
  /-- `CreateMonitorIncident :one` -/
  | createMonitorIncident (m : UUID) (alerted : Bool) (httpStatus latencyMs : ℤ)
      (startTime : Time)
  /-- `CloseMonitorIncident :one` -/
  | closeMonitorIncident (m : UUID) (endTime : Time)
  /-- `GetMonitorByID :one` -/
  | getMonitorByID (m : UUID)
  /-- `GetMonitorByTeamID :one` -/
  | getMonitorByTeamID (m team : UUID)
  /-- `UpdateMonitorStatus :execrows` -/
  | updateMonitorStatus (m : UUID) (enabled : Bool) (team : UUID)
  /-- `CreateMonitor :one` -/
  | createMonitor (data : CreateMonitor) (notificationChannels : String)
  /-- `DeleteMonitor :execrows` -/
  | deleteMonitor (m team : UUID)
  /-- `IncrementMonitorCount :execrows` -/
  | incrementMonitorCount (user : UUID)
  /-- `DecrementMonitorCount :exec` -/
  | decrementMonitorCount (user : UUID)

/-- What a query returns when it succeeds. -/
@[reducible] def Query.Result : Query → Type
  | createMonitorIncident .. => UUID
  | closeMonitorIncident .. => UUID
  | getMonitorByID .. => MonitorRow
  | getMonitorByTeamID .. => MonitorRow
  | updateMonitorStatus .. => ℕ
  | createMonitor .. => UUID
  | deleteMonitor .. => ℕ
  | incrementMonitorCount .. => ℕ
  | decrementMonitorCount .. => Unit

/-- Why a query failed: there was no row to return, a constraint was violated, it
did not get through, or its context was cancelled. -/
inductive DBError where
  | noRows
  | constraint
  | unavailable
  | canceled
  deriving DecidableEq

namespace DB

/-- The row of a monitor. -/
def monitor? (d : DB) (m : UUID) : Option MonitorRow := d.monitors.find? (·.id = m)

/-- The open incidents of a monitor. -/
def openIncidents (d : DB) (m : UUID) : List IncidentRow := d.incidents.filter (·.openFor m)

/-- What a query that gets through does, at the time `now`. -/
def exec (now : Time) : (q : Query) → DB → Except DBError q.Result × DB
  | .createMonitorIncident m alerted httpStatus latencyMs startTime, d =>
    let row : IncidentRow :=
      ⟨d.nextID, m, startTime.micros, none, alerted, httpStatus, latencyMs⟩
    if row.check && (d.monitor? m).isSome then
      (.ok d.nextID, { d with incidents := d.incidents ++ [row], nextID := d.nextID + 1 })
    else (.error .constraint, d)
  | .closeMonitorIncident m endTime, d =>
    match d.openIncidents m with
    | [] => (.error .noRows, d)
    | row :: rows =>
      if (row :: rows).all (·.startTime ≤ endTime.micros) then
        (.ok row.id, { d with incidents := d.incidents.map (·.close m endTime.micros) })
      else (.error .constraint, d)
  | .getMonitorByID m, d =>
    match d.monitor? m with
    | some row => (.ok row, d)
    | none => (.error .noRows, d)
  | .getMonitorByTeamID m team, d =>
    match (d.monitor? m).filter (·.teamID = team) with
    | some row => (.ok row, d)
    | none => (.error .noRows, d)
  | .updateMonitorStatus m enabled team, d =>
    (.ok (d.monitors.countP fun row => row.id = m && row.teamID = team),
      { d with monitors := d.monitors.map fun row =>
        if row.id = m && row.teamID = team then { row with enabled := enabled } else row })
  | .createMonitor data channels, d =>
    let row : MonitorRow :=
      ⟨d.nextID, data.userID, data.teamID, data.url, data.intervalSec, data.timeoutSec,
        data.latencyThresholdMs, data.expectedStatus, true, channels, now.micros⟩
    if row.check && d.users.any (·.id = data.userID) then
      (.ok d.nextID, { d with monitors := d.monitors ++ [row], nextID := d.nextID + 1 })
    else (.error .constraint, d)
  | .deleteMonitor m team, d =>
    -- the incidents go with the monitor: ON DELETE CASCADE
    (.ok (d.monitors.countP fun row => row.id = m && row.teamID = team),
      { d with
        monitors := d.monitors.filter fun row => !(row.id = m && row.teamID = team)
        incidents := d.incidents.filter fun row =>
          !(row.monitorID = m && d.monitors.any fun x => x.id = m && x.teamID = team) })
  | .incrementMonitorCount user, d =>
    (.ok (d.users.countP fun row => row.id = user && row.monitorsCount < 10),
      { d with users := d.users.map fun row =>
        if row.id = user && row.monitorsCount < 10 then
          { row with monitorsCount := row.monitorsCount + 1 } else row })
  | .decrementMonitorCount user, d =>
    (.ok (), { d with users := d.users.map fun row =>
      if row.id = user then
        { row with monitorsCount := max (row.monitorsCount - 1) 0 } else row })

section Monitor

variable {d : DB} {m team : UUID} {row : MonitorRow}

theorem id_of_monitor? (h : d.monitor? m = some row) : row.id = m := by
  have hid := List.find?_some h
  exact of_decide_eq_true hid

theorem mem_of_monitor? (h : d.monitor? m = some row) : row ∈ d.monitors :=
  List.mem_of_find?_eq_some h

/-- What the query finds is the row of the monitor. -/
theorem monitor?_of_getMonitorByID {now : Time}
    (h : (d.exec now (.getMonitorByID m)).1 = .ok row) : d.monitor? m = some row := by
  simp only [exec] at h
  split at h
  · rename_i found hfound
    obtain rfl := Except.ok.inj h
    exact hfound
  · cases h

theorem exec_getMonitorByTeamID_snd (now : Time) (d : DB) :
    (d.exec now (.getMonitorByTeamID m team)).2 = d := by
  simp only [exec]
  split <;> rfl

/-- What the query with the team finds is the row of the monitor, and a row of the team. -/
theorem monitor?_of_getMonitorByTeamID {now : Time}
    (h : (d.exec now (.getMonitorByTeamID m team)).1 = .ok row) :
    d.monitor? m = some row ∧ row.teamID = team := by
  simp only [exec] at h
  split at h
  · rename_i found hfound
    obtain rfl := Except.ok.inj h
    obtain ⟨hfind, hteam⟩ := Option.filter_eq_some_iff.mp hfound
    exact ⟨hfind, of_decide_eq_true hteam⟩
  · cases h

/-- A statement on the monitor of a team matches a row just when there is one. -/
theorem countP_monitors_ne_zero_iff :
    d.monitors.countP (fun row => row.id = m && row.teamID = team) ≠ 0 ↔
      ∃ row ∈ d.monitors, row.id = m ∧ row.teamID = team := by
  rw [← Nat.pos_iff_ne_zero, List.countP_pos_iff]
  simp only [Bool.and_eq_true, decide_eq_true_eq]

/-- Counting up matches a row just when the user has room left. -/
theorem countP_users_ne_zero_iff {user : UUID} :
    d.users.countP (fun row => row.id = user && row.monitorsCount < 10) ≠ 0 ↔
      ∃ row ∈ d.users, row.id = user ∧ row.monitorsCount < 10 := by
  rw [← Nat.pos_iff_ne_zero, List.countP_pos_iff]
  simp only [Bool.and_eq_true, decide_eq_true_eq]

/-- No query adds, removes or renames a user. -/
theorem exec_users_map_id (now : Time) (q : Query) (d : DB) :
    (d.exec now q).2.users.map UserRow.id = d.users.map UserRow.id := by
  cases q with
  | incrementMonitorCount user | decrementMonitorCount user =>
    simp only [exec, List.map_map]
    refine List.map_congr_left fun row _ => ?_
    rw [Function.comp]
    split <;> rfl
  | updateMonitorStatus | deleteMonitor => rfl
  | getMonitorByID | getMonitorByTeamID | createMonitor | createMonitorIncident =>
    simp only [exec]
    split <;> rfl
  | closeMonitorIncident =>
    simp only [exec]
    split
    · rfl
    · split <;> rfl

end Monitor

/-- Closing leaves no incident of the monitor open. -/
theorem openIncidents_map_close (d : DB) (m : UUID) (t : ℤ) :
    (d.incidents.map (·.close m t)).filter (·.openFor m) = [] := by
  rw [List.filter_eq_nil_iff]
  intro row hrow
  obtain ⟨row', -, rfl⟩ := List.mem_map.mp hrow
  rw [IncidentRow.openFor_close]
  simp

end DB

end Sofon
