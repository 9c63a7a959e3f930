import Sofon.Config
import Sofon.Monitor.Service

/-!
# The result handlers

`handleSuccess` and `handleFailure` of the result processor, and the repository
functions they call.  Both schedule the next run in a deferred call, which here
follows the body; `handleFailure` guards it with the flag `reschedule`, which the
body returns.

The body of `handleFailure` is cut at the borders of the three cases its comments
name: `retryPath` is "Case 2", `failurePath` is "Case 3".
-/

namespace Sofon

open Interleaving

namespace MonitorIncidentRepository

/-- `MonitorIncidentRepository.Create` -/
def create (startTime : Time) (e : HTTPResult) : Prog (Except AppError UUID) := do
  match ← call (.sql (.createMonitorIncident e.monitorID true (toInt32 e.status)
      (toInt32 e.latencyMs) startTime)) with
  | .ok incidentID => return .ok incidentID
  | .error err => return .error (wrapRepoError "repo.monitor_incident.create" err)

/-- `MonitorIncidentRepository.CloseIncident`: the id of the incident it closed,
and whether there was one. -/
def closeIncident (m : UUID) (endTime : Time) : Prog (Except AppError (UUID × Bool)) := do
  match ← call (.sql (.closeMonitorIncident m endTime)) with
  | .ok closedIncidentID => return .ok (closedIncidentID, true)
  | .error .noRows => return .ok (UUID.nil, false)
  | .error err => return .error (wrapRepoError "repo.monitor_incident.close_incident" err)

end MonitorIncidentRepository

namespace ResultProcessor

open RedisClient MonitorService

/-- The alert of a new incident. -/
def downEvent (incidentID : UUID) (r : HTTPResult) : AlertEvent where
  incidentID := incidentID
  type := .down
  monitorID := r.monitorID
  teamID := r.teamID
  monitorURL := r.monitorURL
  notificationChannels := r.notificationChannels
  reason := r.reason
  statusCode := r.status
  latencyMs := r.latencyMs
  checkedAt := r.checkedAt

/-- The alert of a recovery. -/
def recoveredEvent (incidentID : UUID) (r : HTTPResult) : AlertEvent :=
  { downEvent incidentID r with type := .recovered, reason := .recovered }

/-! ## `failure_worker.go` -/

/-- "Case 2": a retryable failure within its budget ends the handler, and the
value is its flag `reschedule`; otherwise the handler goes on. -/
def retryPath (cfg : ResultProcessorConfig) (r : HTTPResult) : Prog (Option Bool) := do
  if r.retryable then
    match ← incrementRetry r.monitorID with
    | .error _ =>
      scheduleMonitor r.monitorID r.intervalSec
      return some false
    | .ok retryCount =>
      if retryCount ≤ cfg.retryLimit then
        scheduleMonitor r.monitorID 5
        return some false
      else
        -- retry budget exhausted
        let _ ← clearRetry r.monitorID
        return none
  else return none

/-- What `handleFailure` does once it has the alert flag: record the incident and
send the alert. -/
def alertDown (r : HTTPResult) : Prog Unit := do
  let now ← call .timeNow
  match ← MonitorIncidentRepository.create now r with
  | .error _ => return ()
  | .ok incidentID =>
    let _ ← markDBIncidentCreated r.monitorID
    call (.send (downEvent incidentID r))

/-- "Case 3": count the failure and report an outage at the threshold. -/
def failurePath (cfg : ResultProcessorConfig) (r : HTTPResult) : Prog Unit := do
  match ← incrementIncident r.monitorID with
  | .error _ => return ()
  | .ok (failCount, _) =>
    if failCount < cfg.failureThreshold then return ()
    else
      -- atomic alert decision
      match ← markIncidentAlertedIfNotSet r.monitorID with
      | .error _ => return ()
      | .ok false => return ()
      | .ok true => alertDown r

/-- The body of `handleFailure`; the value is the flag `reschedule`. -/
def handleFailureBody (cfg : ResultProcessorConfig) (r : HTTPResult) : Prog Bool := do
  if r.terminal then
    let _ ← storeStatus r.monitorID r.status r.latencyMs r.checkedAt
    return false
  else
    match ← retryPath cfg r with
    | some reschedule => return reschedule
    | none =>
      failurePath cfg r
      return true

def handleFailure (cfg : ResultProcessorConfig) (r : HTTPResult) : Prog Unit := do
  let reschedule ← handleFailureBody cfg r
  if reschedule then scheduleMonitor r.monitorID r.intervalSec

/-! ## `success_worker.go` -/

/-- What `handleSuccess` does with the id of the incident it closed: send the
recovery, once for each incident hash. -/
def alertRecovered (r : HTTPResult) (closedIncidentID : UUID) : Prog Unit := do
  if closedIncidentID ≠ UUID.nil then
    match ← markIncidentRecoveredAlertedIfNotSet r.monitorID with
    | .error _ => return ()
    | .ok false => return ()
    | .ok true => call (.send (recoveredEvent closedIncidentID r))

/-- The end of `handleSuccess`: forget the outage. -/
def cleanup (r : HTTPResult) : Prog Unit := do
  let _ ← clearIncident r.monitorID
  let _ ← clearRetry r.monitorID
  return ()

/-- The body of `handleSuccess`. -/
def handleSuccessBody (r : HTTPResult) : Prog Unit := do
  let _ ← storeStatus r.monitorID r.status r.latencyMs r.checkedAt
  match ← getIncident r.monitorID with
  | .error _ => return ()
  | .ok none => return ()
  | .ok (some incident) =>
    if incident.dbIncident = some true then
      let now ← call .timeNow
      match ← MonitorIncidentRepository.closeIncident r.monitorID now with
      | .error _ => return ()
      | .ok (closedIncidentID, _) =>
        alertRecovered r closedIncidentID
        cleanup r
    else cleanup r

def handleSuccess (r : HTTPResult) : Prog Unit := do
  handleSuccessBody r
  scheduleMonitor r.monitorID r.intervalSec

/-- What becomes of a result: the router sends it to the workers of its kind. -/
def handle (cfg : ResultProcessorConfig) (r : HTTPResult) : Prog Unit :=
  if r.success then handleSuccess r else handleFailure cfg r

/-! ## The calls of the handlers -/

theorem only_retryPath (S : Cmd → Prop) {cfg : ResultProcessorConfig} {r : HTTPResult}
    (hnow : S .timeNow) (hctx : S .ctxDone) (hincr : S (.redis (.incrRetry r.monitorID)))
    (hexpire : S (.redis (.expireRetry r.monitorID))) (hdel : S (.redis (.delRetry r.monitorID)))
    (hadd : ∀ score, S (.redis (.zAdd [⟨score, .id r.monitorID⟩]))) :
    (retryPath cfg r).Only S := by
  rw [retryPath]
  split
  · refine (only_incrementRetry S hctx hincr hexpire).bind fun x => ?_
    cases x with
    | error err => exact (only_scheduleMonitor S hnow hctx hadd _).bind fun _ => trivial
    | ok count =>
      show Program.Only _ (if count ≤ cfg.retryLimit then _ else _)
      split
      · exact (only_scheduleMonitor S hnow hctx hadd _).bind fun _ => trivial
      · exact (only_retry_call S hdel hctx 2).bind fun _ => trivial
  · trivial

theorem only_alertDown (S : Cmd → Prop) {r : HTTPResult} (hnow : S .timeNow)
    (hinsert : ∀ alerted status latency t,
      S (.sql (.createMonitorIncident r.monitorID alerted status latency t)))
    (hmark : S (.redis (.hSetDBIncident r.monitorID)))
    (hsend : ∀ id, S (.send (downEvent id r))) : (alertDown r).Only S := by
  refine ⟨hnow, fun now => ⟨hinsert _ _ _ _, fun x => ?_⟩⟩
  cases x with
  | error err => trivial
  | ok id => exact ⟨hmark, fun _ => ⟨hsend id, fun _ => trivial⟩⟩

theorem only_failurePath (S : Cmd → Prop) {cfg : ResultProcessorConfig} {r : HTTPResult}
    (hincr : (incrementIncident r.monitorID).Only S)
    (halert : S (.redis (.hSetNXAlerted r.monitorID))) (hdown : (alertDown r).Only S) :
    (failurePath cfg r).Only S := by
  refine hincr.bind fun x => ?_
  cases x with
  | error err => trivial
  | ok y =>
    show Program.Only _ (if y.1 < cfg.failureThreshold then _ else _)
    split
    · trivial
    · refine ⟨halert, fun z => ?_⟩
      rcases z with err | _ | _
      · trivial
      · trivial
      · exact hdown

theorem only_handleFailure (S : Cmd → Prop) {cfg : ResultProcessorConfig} {r : HTTPResult}
    (hstore : (storeStatus r.monitorID r.status r.latencyMs r.checkedAt).Only S)
    (hretry : (retryPath cfg r).Only S) (hpath : (failurePath cfg r).Only S)
    (hsched : (scheduleMonitor r.monitorID r.intervalSec).Only S) :
    (handleFailure cfg r).Only S := by
  refine Program.Only.bind ?_ fun b => ?_
  · rw [handleFailureBody]
    split
    · exact hstore.bind fun _ => trivial
    · refine hretry.bind fun x => ?_
      cases x with
      | none => exact hpath.bind fun _ => trivial
      | some b => trivial
  · cases b
    · trivial
    · exact hsched

theorem only_handleSuccessBody (S : Cmd → Prop) {r : HTTPResult} (hnow : S .timeNow)
    (hctx : S .ctxDone) (hstatus : ∀ x, S (.redis (.hSetStatus r.monitorID x)))
    (hget : S (.redis (.hGetAllIncident r.monitorID)))
    (hclose : ∀ t, S (.sql (.closeMonitorIncident r.monitorID t)))
    (hrecovered : S (.redis (.hSetNXRecoveredAlerted r.monitorID)))
    (hsend : ∀ id, S (.send (recoveredEvent id r)))
    (hincident : S (.redis (.delIncident r.monitorID)))
    (hretry : S (.redis (.delRetry r.monitorID))) : (handleSuccessBody r).Only S := by
  have hcleanup : (cleanup r).Only S :=
    (only_retry_call S hincident hctx 2).bind fun _ =>
      (only_retry_call S hretry hctx 2).bind fun _ => trivial
  have halert : ∀ id, (alertRecovered r id).Only S := by
    intro id
    rw [alertRecovered]
    split
    · refine ⟨hrecovered, fun z => ?_⟩
      rcases z with err | _ | _
      · trivial
      · trivial
      · exact ⟨hsend id, fun _ => trivial⟩
    · trivial
  refine (only_retry_call S (hstatus _) hctx 2).bind fun _ => ?_
  refine (only_getIncident S hget).bind fun x => ?_
  rcases x with err | _ | incident
  · trivial
  · trivial
  · show Program.Only _ (if incident.dbIncident = some true then _ else _)
    split
    · refine ⟨hnow, fun now => ⟨hclose now, fun y => ?_⟩⟩
      rcases y with err | id
      · cases err with
        | noRows => exact hcleanup
        | constraint | unavailable | canceled => trivial
      · exact (halert id).bind fun _ => hcleanup
    · exact hcleanup

end ResultProcessor

end Sofon
