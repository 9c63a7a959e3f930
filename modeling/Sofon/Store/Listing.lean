import Sofon.Foundations.Program
import Sofon.Store.Postgres
import Mathlib.Data.Prod.Lex

/-!
# The tables that lists are made of

The queries behind the list of monitors and the list of incidents, and the one for a single
incident.  They only read.  What they read of `monitor_incidents` is more than the pipeline
has of it, and `alerts` it does not have at all, so both are here with all the columns read.

`ILIKE` depends on the locale of the database; which texts match which search is a
parameter.
-/

namespace Sofon

open Interleaving

/-- A row of `monitor_incidents`, with the time it was inserted. -/
structure IncidentRecord extends IncidentRow where
  createdAt : ℤ

/-- A row of `alerts`. -/
structure AlertRecord where
  incidentID : UUID
  sentAt : Option ℤ
  alertEmail : String
  status : String
  createdAt : ℤ

/-- The tables. -/
structure Listing where
  monitors : List MonitorRow
  incidents : List IncidentRecord
  alerts : List AlertRecord

/-- `db.ListMonitorsByTeamCursorRow` -/
structure MonitorListRow extends MonitorRow where
  isDown : Bool

/-- `db.ListIncidentsByTeamCursorRow` and `db.GetIncidentByIDAndTeamIDRow` -/
structure IncidentListRow where
  id : UUID
  monitorID : UUID
  monitorURL : String
  startTime : ℤ
  endTime : Option ℤ
  alerted : Bool
  httpStatus : ℤ
  latencyMs : ℤ
  createdAt : ℤ
  isActive : Bool
  durationSec : ℤ
  alertStatus : String
  alertEmail : String
  alertSentAt : Option ℤ
  expectedStatus : Option ℤ
  latencyThresholdMs : Option ℤ

/-- The filters of `ListIncidentsByTeamCursor`, as they are sent. -/
structure IncidentFilters where
  status : String
  fromTS : Option ℤ
  toTS : Option ℤ
  query : String
  monitorID : Option UUID

/-- The queries. -/
inductive ListingQuery where
  /-- `ListMonitorsByTeamCursor :many` -/
  | listMonitorsByTeamCursor (team : UUID) (cursorTS : Option ℤ) (cursorID : Option UUID)
      (limit : ℕ)
  /-- `ListIncidentsByTeamCursor :many` -/
  | listIncidentsByTeamCursor (team : UUID) (filters : IncidentFilters) (cursorStart : Option ℤ)
      (cursorID : Option UUID) (limit : ℕ)
  /-- `GetIncidentByIDAndTeamID :one` -/
  | getIncidentByIDAndTeamID (id team : UUID)

/-- What a query returns when it succeeds. -/
@[reducible] def ListingQuery.Result : ListingQuery → Type
  | listMonitorsByTeamCursor .. => List MonitorListRow
  | listIncidentsByTeamCursor .. => List IncidentListRow
  | getIncidentByIDAndTeamID .. => IncidentListRow

/-- What a query returns. -/
@[reducible] def ListingQuery.Resp (q : ListingQuery) : Type := Except DBError q.Result

/-- The code that reads the lists. -/
abbrev ListingProg := Program ListingQuery ListingQuery.Resp

/-- Run one query. -/
def select (q : ListingQuery) : ListingProg (Except DBError q.Result) := Program.perform q

/-- `$ts IS NULL OR (ts, id) < ($ts, $id)`; with an id that is `NULL`, a comparison that comes
down to it is not true. -/
def beforeCursor (cursorTS : Option ℤ) (cursorID : Option UUID) (ts : ℤ) (id : UUID) : Bool :=
  match cursorTS with
  | none => true
  | some ts' => ts < ts' || (ts = ts' && cursorID.any (id < ·))

/-- The place of a row in `ORDER BY ts DESC, id DESC`. -/
def place (ts : ℤ) (id : UUID) : ℤ ×ₗ ℕ := toLex (ts, id)

namespace Listing

/-- `SELECT …, EXISTS (SELECT 1 FROM monitor_incidents mi WHERE …) AS is_down` -/
def monitorRow (l : Listing) (row : MonitorRow) : MonitorListRow :=
  ⟨row, l.incidents.any fun mi => mi.monitorID = row.id && mi.endTime.isNone⟩

/-- The alert that the `LATERAL` join finds. -/
def latestAlert (l : Listing) (incident : UUID) : Option AlertRecord :=
  ((l.alerts.filter (·.incidentID = incident)).mergeSort fun x y =>
    y.createdAt ≤ x.createdAt).head?

/-- `EXTRACT(EPOCH FROM d)::BIGINT`, which rounds to the nearest second, and half a second
away from zero. -/
def seconds (us : ℤ) : ℤ :=
  if 0 ≤ us then (us + 500000) / 1000000 else -((-us + 500000) / 1000000)

/-- The columns that are selected of an incident and its monitor. -/
def incidentRow (l : Listing) (now : Time) (mi : IncidentRecord) (m : MonitorRow) :
    IncidentListRow where
  id := mi.id
  monitorID := mi.monitorID
  monitorURL := m.url
  startTime := mi.startTime
  endTime := mi.endTime
  alerted := mi.alerted
  httpStatus := mi.httpStatus
  latencyMs := mi.latencyMs
  createdAt := mi.createdAt
  isActive := mi.endTime.isNone
  durationSec := seconds (mi.endTime.getD now.micros - mi.startTime)
  alertStatus := ((l.latestAlert mi.id).map AlertRecord.status).getD ""
  alertEmail := ((l.latestAlert mi.id).map AlertRecord.alertEmail).getD ""
  alertSentAt := (l.latestAlert mi.id).bind AlertRecord.sentAt
  expectedStatus := m.expectedStatus
  latencyThresholdMs := m.latencyThresholdMs

/-- `FROM monitor_incidents mi JOIN monitors m ON m.id = mi.monitor_id … WHERE m.team_id = $1`,
of the incidents and monitors for which `p` holds. -/
def teamIncidents (l : Listing) (now : Time) (team : UUID)
    (p : IncidentRecord → MonitorRow → Bool) : List IncidentListRow :=
  l.incidents.flatMap fun mi =>
    (l.monitors.filter fun m => m.id = mi.monitorID && m.teamID = team && p mi m).map fun m =>
      l.incidentRow now mi m

/-- The filters of the `WHERE` clause. -/
def matchesFilters (ilike : String → String → Bool) (f : IncidentFilters) (mi : IncidentRecord)
    (m : MonitorRow) : Bool :=
  (f.status = "all" || (f.status = "active" && mi.endTime.isNone) ||
    (f.status = "resolved" && mi.endTime.isSome)) &&
  f.fromTS.all (· ≤ mi.startTime) && f.toTS.all (mi.startTime ≤ ·) &&
  (f.query = "" || ilike m.url f.query) &&
  f.monitorID.all (mi.monitorID = ·)

/-- What a query that gets through returns, at the time `now`. -/
def exec (ilike : String → String → Bool) (now : Time) (l : Listing) :
    (q : ListingQuery) → q.Resp
  | .listMonitorsByTeamCursor team cursorTS cursorID limit =>
    .ok ((((l.monitors.filter fun row =>
      row.teamID = team && beforeCursor cursorTS cursorID row.createdAt row.id).mergeSort
        fun x y => place y.createdAt y.id ≤ place x.createdAt x.id).take limit).map l.monitorRow)
  | .listIncidentsByTeamCursor team filters cursorStart cursorID limit =>
    .ok (((l.teamIncidents now team fun mi m =>
      matchesFilters ilike filters mi m && beforeCursor cursorStart cursorID mi.startTime
        mi.id).mergeSort fun x y => place y.startTime y.id ≤ place x.startTime x.id).take limit)
  | .getIncidentByIDAndTeamID id team =>
    match l.teamIncidents now team fun mi _ => mi.id = id with
    | row :: _ => .ok row
    | [] => .error .noRows

end Listing

/-- What the environment decides about one query. -/
structure ListingEnv where
  fails : Bool
  now : Time

/-- Nothing fails, at the epoch. -/
instance : Inhabited ListingEnv := ⟨⟨false, 0⟩⟩

namespace Listing

/-- One query. -/
def serve (ilike : String → String → Bool) (e : ListingEnv) (l : Listing) (q : ListingQuery) :
    q.Resp × Listing :=
  (if e.fails then .error .unavailable else l.exec ilike e.now q, l)

end Listing

end Sofon
