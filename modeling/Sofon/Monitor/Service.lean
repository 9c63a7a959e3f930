import Sofon.AppError
import Sofon.Store.RedisClient

/-!
# The monitor service

`monitor.Service` and the repository functions it calls.  A request handler runs
one of these programs with the context of the request; the executor and the
result workers call `loadMonitor` and `scheduleMonitor` with the shared context.

The log lines are left out: they return nothing.
-/

namespace Sofon

open Interleaving

namespace MonitorRepository

def channelsToString (channels : List String) : String := ",".intercalate channels

def channelsFromString (s : String) : List String := if s = "" then [] else s.splitOn ","

/-- The monitor that `Get` and `GetByID` make of a row. -/
def ofRow (row : MonitorRow) : Monitor where
  id := row.id
  teamID := row.teamID
  userID := row.userID
  url := row.url
  intervalSec := row.intervalSec
  timeoutSec := row.timeoutSec
  latencyThresholdMs := row.latencyThresholdMs
  expectedStatus := row.expectedStatus
  enabled := row.enabled
  createdAt := Time.zero
  isDown := false
  notificationChannels := channelsFromString row.notificationChannels

/-- `Repository.Create` -/
def create (data : CreateMonitor) : Prog (Except AppError UUID) := do
  match ← call (.sql (.createMonitor data (channelsToString data.notificationChannels))) with
  | .ok id => return .ok id
  | .error err => return .error (wrapRepoError "repo.monitor.create" err)

/-- `Repository.GetByID` -/
def getByID (m : UUID) : Prog (Except AppError Monitor) := do
  match ← call (.sql (.getMonitorByID m)) with
  | .ok row => return .ok (ofRow row)
  | .error err => return .error (wrapGetError "repo.monitor.get_by_id" err)

/-- `Repository.Get` -/
def get (team m : UUID) : Prog (Except AppError Monitor) := do
  match ← call (.sql (.getMonitorByTeamID m team)) with
  | .ok row => return .ok (ofRow row)
  | .error err => return .error (wrapGetError "repo.monitor.get" err)

/-- `Repository.Delete` -/
def delete (team m : UUID) : Prog (Except AppError Unit) := do
  match ← call (.sql (.deleteMonitor m team)) with
  | .ok rows =>
    if rows = 0 then return .error ⟨.notFound, "repo.monitor.delete", "monitor not found"⟩
    else return .ok ()
  | .error err => return .error (wrapRepoError "repo.monitor.delete" err)

/-- `Repository.CloseOpenIncident`: having nothing to close is no error. -/
def closeOpenIncident (m : UUID) : Prog (Except AppError Unit) := do
  let now ← call .timeNow
  match ← call (.sql (.closeMonitorIncident m now)) with
  | .ok _ => return .ok ()
  | .error .noRows => return .ok ()
  | .error err => return .error (wrapRepoError "repo.monitor.close_open_incident" err)

/-- `Repository.SetEnabled` -/
def setEnabled (team m : UUID) (enabled : Bool) : Prog (Except AppError Unit) := do
  match ← call (.sql (.updateMonitorStatus m enabled team)) with
  | .ok rows =>
    if rows = 0 then
      return .error ⟨.notFound, "repo.monitor.enable_disable_monitor", "monitor not found"⟩
    else return .ok ()
  | .error err => return .error (wrapRepoError "repo.monitor.enable_disable_monitor" err)

end MonitorRepository

namespace UserRepository

def incrementMonitorCount (user : UUID) : Prog (Except AppError Unit) := do
  match ← call (.sql (.incrementMonitorCount user)) with
  | .ok rows =>
    if rows = 0 then
      return .error ⟨.forbidden, "repo.user.increment_monitor_count", "monitor quota exceed"⟩
    else return .ok ()
  | .error err => return .error (wrapRepoError "repo.user.increment_monitor_count" err)

def decrementMonitorCount (user : UUID) : Prog (Except AppError Unit) := do
  match ← call (.sql (.decrementMonitorCount user)) with
  | .ok _ => return .ok ()
  | .error err => return .error (wrapRepoError "repo.user.decrement_monitor_count" err)

end UserRepository

namespace MonitorService

/-- `ScheduleMonitor`: the error of the schedule write is logged and dropped. -/
def scheduleMonitor (m : UUID) (intervalSec : ℤ) : Prog Unit := do
  let now ← call .timeNow
  let nextRun := Time.addSeconds now intervalSec
  let _ ← RedisClient.schedule (.id m) nextRun
  return ()

def disableMonitor (m : UUID) : Prog Unit := do
  let _ ← RedisClient.delMonitor m
  let _ ← RedisClient.delSchedule (.id m)
  let _ ← RedisClient.clearIncident m
  let _ ← RedisClient.delStatus m
  return ()

def createMonitor (data : CreateMonitor) : Prog (Except AppError UUID) := do
  match ← UserRepository.incrementMonitorCount data.userID with
  | .error err => return .error err
  | .ok _ =>
    match ← MonitorRepository.create data with
    | .error err => return .error err
    | .ok m =>
      scheduleMonitor m data.intervalSec
      return .ok m

def getMonitor (team m : UUID) : Prog (Except AppError Monitor) := do
  let cached ← RedisClient.getMonitor m
  match cached.filter (·.teamID = team) with
  | some x => return .ok x
  | none =>
    match ← MonitorRepository.get team m with
    | .error err => return .error err
    | .ok x =>
      let _ ← RedisClient.setMonitor x
      return .ok x

def loadMonitor (m : UUID) : Prog (Except AppError Monitor) := do
  match ← MonitorRepository.getByID m with
  | .error err => return .error err
  | .ok x =>
    let _ ← RedisClient.setMonitor x
    return .ok x

def updateMonitorStatus (team m : UUID) (enable : Bool) : Prog (Except AppError Bool) := do
  match ← MonitorRepository.get team m with
  | .error err => return .error err
  | .ok x =>
    if x.enabled = enable then
      return .ok true
    else
      match ← MonitorRepository.setEnabled team m enable with
      | .error err => return .error err
      | .ok _ =>
        if enable then
          scheduleMonitor x.id x.intervalSec
          return .ok true
        else
          -- the error is logged and the clean-up goes on
          let _ ← MonitorRepository.closeOpenIncident m
          disableMonitor m
          return .ok true

def deleteMonitor (team m : UUID) : Prog (Except AppError Unit) := do
  match ← MonitorRepository.get team m with
  | .error err => return .error err
  | .ok x =>
    disableMonitor m
    match ← MonitorRepository.delete team m with
    | .error err => return .error err
    | .ok _ =>
      let _ ← UserRepository.decrementMonitorCount x.userID
      return .ok ()

/-! ## The calls of the service -/

theorem only_scheduleMonitor (S : Cmd → Prop) {m : UUID} (hnow : S .timeNow) (hctx : S .ctxDone)
    (hadd : ∀ score, S (.redis (.zAdd [⟨score, .id m⟩]))) (i : ℤ) :
    (scheduleMonitor m i).Only S :=
  ⟨hnow, fun _ => (RedisClient.only_retry_call S (hadd _) hctx 3).bind fun _ => trivial⟩

theorem only_closeOpenIncident (S : Cmd → Prop) {m : UUID} (hnow : S .timeNow)
    (hclose : ∀ t, S (.sql (.closeMonitorIncident m t))) :
    (MonitorRepository.closeOpenIncident m).Only S := by
  refine ⟨hnow, fun now => ⟨hclose now, fun x => ?_⟩⟩
  rcases x with err | id
  · cases err <;> trivial
  · trivial

theorem only_disableMonitor (S : Cmd → Prop) {m : UUID} (hctx : S .ctxDone)
    (hmonitor : S (.redis (.delMonitor m))) (hrem : S (.redis (.zRem (.id m))))
    (hincident : S (.redis (.delIncident m))) (hstatus : S (.redis (.hDelStatus m))) :
    (disableMonitor m).Only S := by
  refine ⟨hmonitor, fun _ => ⟨hrem, fun _ => ?_⟩⟩
  refine (RedisClient.only_retry_call S hincident hctx 2).bind fun _ => ?_
  exact ⟨hstatus, fun _ => trivial⟩

theorem only_getMonitor (S : Cmd → Prop) {team m : UUID} (hcached : S (.redis (.getMonitor m)))
    (hget : S (.sql (.getMonitorByTeamID m team))) (hset : ∀ x, S (.redis (.setMonitor x))) :
    (getMonitor team m).Only S := by
  have hread : (RedisClient.getMonitor m).Only S := by
    refine ⟨hcached, fun x => ?_⟩
    cases x <;> trivial
  refine hread.bind fun cached => ?_
  cases cached.filter (·.teamID = team) with
  | some x => trivial
  | none =>
    refine ⟨hget, fun y => ?_⟩
    cases y with
    | error err => cases err <;> trivial
    | ok row => exact ⟨hset _, fun _ => trivial⟩

theorem only_updateMonitorStatus (S : Cmd → Prop) {team m : UUID} {enable : Bool}
    (hnow : S .timeNow) (hctx : S .ctxDone) (hget : S (.sql (.getMonitorByTeamID m team)))
    (hupdate : S (.sql (.updateMonitorStatus m enable team)))
    (hadd : ∀ id score, S (.redis (.zAdd [⟨score, .id id⟩])))
    (hclose : ∀ t, S (.sql (.closeMonitorIncident m t)))
    (hmonitor : S (.redis (.delMonitor m))) (hrem : S (.redis (.zRem (.id m))))
    (hincident : S (.redis (.delIncident m))) (hstatus : S (.redis (.hDelStatus m))) :
    (updateMonitorStatus team m enable).Only S := by
  refine ⟨hget, fun x => ?_⟩
  rcases x with err | row
  · trivial
  · show Program.Only _ (if row.enabled = enable then _ else _)
    split
    · trivial
    · refine ⟨hupdate, fun y => ?_⟩
      rcases y with err | rows
      · trivial
      · show Program.Only _ ((if rows = 0 then .ret _ else .ret _ : Prog _) >>= _)
        split
        · trivial
        · show Program.Only _ (if enable then _ else _)
          split
          · exact (only_scheduleMonitor S hnow hctx (hadd _) _).bind fun _ => trivial
          · refine (only_closeOpenIncident S hnow hclose).bind fun _ => ?_
            exact (only_disableMonitor S hctx hmonitor hrem hincident hstatus).bind fun _ => trivial

theorem only_createMonitor (S : Cmd → Prop) {data : CreateMonitor} (hnow : S .timeNow)
    (hctx : S .ctxDone) (hcount : S (.sql (.incrementMonitorCount data.userID)))
    (hinsert : ∀ channels, S (.sql (.createMonitor data channels)))
    (hadd : ∀ id score, S (.redis (.zAdd [⟨score, .id id⟩]))) : (createMonitor data).Only S := by
  refine Program.Only.bind ⟨hcount, fun x => ?_⟩ fun y => ?_
  · rcases x with err | rows
    · trivial
    · show Program.Only _ (if rows = 0 then _ else _)
      split <;> trivial
  · rcases y with err | u
    · trivial
    · refine Program.Only.bind ⟨hinsert _, fun x => ?_⟩ fun z => ?_
      · rcases x with err | id <;> trivial
      · rcases z with err | id
        · trivial
        · exact (only_scheduleMonitor S hnow hctx (hadd id) _).bind fun _ => trivial

theorem only_deleteMonitor (S : Cmd → Prop) {team m : UUID} (hctx : S .ctxDone)
    (hget : S (.sql (.getMonitorByTeamID m team))) (hdelete : S (.sql (.deleteMonitor m team)))
    (hcount : ∀ user, S (.sql (.decrementMonitorCount user)))
    (hmonitor : S (.redis (.delMonitor m))) (hrem : S (.redis (.zRem (.id m))))
    (hincident : S (.redis (.delIncident m))) (hstatus : S (.redis (.hDelStatus m))) :
    (deleteMonitor team m).Only S := by
  refine ⟨hget, fun x => ?_⟩
  rcases x with err | row
  · cases err <;> trivial
  · refine (only_disableMonitor S hctx hmonitor hrem hincident hstatus).bind fun _ => ?_
    refine Program.Only.bind ⟨hdelete, fun x => ?_⟩ fun y => ?_
    · rcases x with err | rows
      · trivial
      · show Program.Only _ (if rows = 0 then _ else _)
        split <;> trivial
    · rcases y with err | u
      · trivial
      · refine Program.Only.bind ⟨hcount _, fun x => ?_⟩ fun _ => trivial
        rcases x with err | u <;> trivial

end MonitorService

end Sofon
