import Sofon.Cursor
import Sofon.Monitor.List
import Sofon.Plugin.Config

/-!
# The list of incidents

`incident.Service` with its repository and the handlers: a page of the incidents of a team
that pass some filters, newest first, with a cursor for the next page, and a single incident.

A request arrives with the numbers, times and ids in its query parsed, and the status in lower
case.  The handler answers with the page itself; of the texts it makes of the incidents only
the reason is modelled, in `Incident.Reason`.  The ids of an incident are texts in the code;
here they become texts where the cursor is made.
-/

namespace Sofon

open Interleaving

/-- `incident.Incident` -/
structure Incident where
  id : UUID
  monitorID : UUID
  monitorURL : String
  startTime : Time
  endTime : Option Time
  alerted : Bool
  httpStatus : ℤ
  latencyMs : ℤ
  createdAt : Time
  isActive : Bool
  durationSec : ℤ
  alertStatus : String
  alertEmail : String
  alertSentAt : Option Time
  expectedStatus : ℤ
  latencyThresholdMs : ℤ

/-- `incident.ListFilters` -/
structure ListFilters where
  status : String
  query : String
  monitorID : Option UUID
  from' : Option Time
  to' : Option Time

/-- `incident.ListIncidentsOptions` -/
structure ListIncidentsOptions where
  limit : ℕ
  cursor : Option Cursor
  filters : ListFilters

/-- `incident.ListIncidentsPage` -/
structure ListIncidentsPage where
  incidents : List Incident
  hasMore : Bool
  nextCursor : Option String
  applied : ListFilters
  limit : ℕ

namespace IncidentRepository

/-- The incident that the repository makes of a row. -/
def ofRow (row : IncidentListRow) : Incident where
  id := row.id
  monitorID := row.monitorID
  monitorURL := row.monitorURL
  startTime := Time.ofMicros row.startTime
  endTime := row.endTime.map Time.ofMicros
  alerted := row.alerted
  httpStatus := row.httpStatus
  latencyMs := row.latencyMs
  createdAt := Time.ofMicros row.createdAt
  isActive := row.isActive
  durationSec := row.durationSec
  alertStatus := row.alertStatus
  alertEmail := row.alertEmail
  alertSentAt := row.alertSentAt.map Time.ofMicros
  expectedStatus := row.expectedStatus.getD 0
  latencyThresholdMs := row.latencyThresholdMs.getD 0

/-- The filters as they are sent to the database. -/
def sent (f : ListFilters) : IncidentFilters :=
  ⟨f.status, f.from'.map Time.micros, f.to'.map Time.micros, f.query, f.monitorID⟩

/-- `Repository.ListByTeamID` -/
def listByTeamID (uuids : UUIDText) (team : UUID) (opts : ListIncidentsOptions) :
    ListingProg (Except AppError (List Incident × Bool)) :=
  let op := "repo.incident.list_by_team_id"
  let limit := if opts.limit = 0 then 20 else opts.limit
  let list (cursorStart : Option ℤ) (cursorID : Option UUID) :
      ListingProg (Except AppError (List Incident × Bool)) := do
    match ← select (.listIncidentsByTeamCursor team (sent opts.filters) cursorStart cursorID
      (limit + 1)) with
    | .error err => pure (.error (wrapRepoError op err))
    | .ok rows =>
      let incidents := rows.map ofRow
      let hasMore : Bool := limit < incidents.length
      pure (.ok (if hasMore then incidents.take limit else incidents, hasMore))
  match opts.cursor with
  | none => list none none
  | some c =>
    match uuids.parse c.id with
    | none => pure (.error ⟨.invalidInput, op, "invalid cursor"⟩)
    | some id => list (some c.time.micros) (some id)

/-- `Repository.GetByIDAndTeamID` -/
def getByIDAndTeamID (incident team : UUID) : ListingProg (Except AppError Incident) := do
  let op := "repo.incident.get_by_id_and_team_id"
  match ← select (.getIncidentByIDAndTeamID incident team) with
  | .ok row => pure (.ok (ofRow row))
  | .error .noRows => pure (.error ⟨.notFound, op, "incident not found"⟩)
  | .error err => pure (.error (wrapRepoError op err))

end IncidentRepository

namespace IncidentService

/-- `Service.ListByTeamID` -/
def listByTeamID (uuids : UUIDText) (team : UUID) (opts : ListIncidentsOptions) :
    ListingProg (Except AppError ListIncidentsPage) := do
  match ← IncidentRepository.listByTeamID uuids team opts with
  | .error err => pure (.error err)
  | .ok (incidents, hasMore) =>
    let nextCursor := if hasMore then incidents.getLast?.map fun last =>
      IncidentCursor.encode ⟨last.startTime, uuids.string last.id⟩ else none
    pure (.ok ⟨incidents, hasMore, nextCursor, opts.filters, opts.limit⟩)

/-- `Service.GetByIDAndTeamID` -/
def getByIDAndTeamID (incident team : UUID) : ListingProg (Except AppError Incident) :=
  IncidentRepository.getByIDAndTeamID incident team

end IncidentService

namespace IncidentHandler

/-- The checks that `Handler.ListIncidents` makes of the filters. -/
def checkFilters (f : ListFilters) : Except ErrorBody Unit :=
  if f.status ≠ "all" ∧ f.status ≠ "active" ∧ f.status ≠ "resolved" then
    .error ⟨400, .invalidInput, "invalid status"⟩
  else
    match f.from', f.to' with
    | some t, some t' =>
      if t' < t then .error ⟨400, .invalidInput, "`from` must be before `to`"⟩
      else .ok ()
    | _, _ => .ok ()

/-- `Handler.ListIncidents` -/
def listIncidents (uuids : UUIDText) (team : UUID) (limit : Option ℤ) (filters : ListFilters)
    (cursor : String) : ListingProg (Except ErrorBody ListIncidentsPage) :=
  match pageLimit 20 limit, checkFilters filters with
  | none, _ => pure (.error ⟨400, .invalidInput, "invalid limit"⟩)
  | some _, .error body => pure (.error body)
  | some limit, .ok _ =>
    let list (cursor : Option Cursor) : ListingProg (Except ErrorBody ListIncidentsPage) := do
      match ← IncidentService.listByTeamID uuids team ⟨limit, cursor, filters⟩ with
      | .ok page => pure (.ok page)
      | .error err => pure (.error err.body)
    let cursorStr := trimSpace cursor
    if cursorStr = "" then list none
    else
      match IncidentCursor.decode cursorStr with
      | none => pure (.error ⟨400, .invalidInput, "invalid cursor"⟩)
      | some decoded =>
        match uuids.parse decoded.id with
        | none => pure (.error ⟨400, .invalidInput, "invalid cursor"⟩)
        | some _ => list (some decoded)

end IncidentHandler

end Sofon
