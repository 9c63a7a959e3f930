import Sofon.Cursor
import Sofon.Monitor.Service
import Sofon.Store.Listing

/-!
# The list of monitors

`GetAllMonitors` from the handler to the query: a page of the monitors of a team, newest
first, with a cursor for the next page.  One row more than the page holds is fetched, so that
it is known whether there is another page.

A request arrives with the number in its query parsed.  The handler answers with the page
itself; that it leaves some fields of the monitors out is not modelled.
-/

namespace Sofon

open Interleaving

/-- `monitor.ListMonitorsOptions` -/
structure ListMonitorsOptions where
  limit : ℕ
  cursor : Option Cursor

/-- `monitor.ListMonitorsPage` -/
structure ListMonitorsPage where
  monitors : List Monitor
  hasMore : Bool
  nextCursor : Option String
  limit : ℕ

namespace MonitorRepository

/-- The monitor that `GetAll` makes of a row. -/
def ofListRow (row : MonitorListRow) : Monitor where
  id := row.id
  teamID := row.teamID
  userID := row.userID
  url := row.url
  intervalSec := row.intervalSec
  timeoutSec := row.timeoutSec
  latencyThresholdMs := row.latencyThresholdMs
  expectedStatus := row.expectedStatus
  enabled := row.enabled
  notificationChannels := channelsFromString row.notificationChannels
  createdAt := Time.ofMicros row.createdAt
  isDown := row.isDown

/-- `Repository.GetAll`: a cursor whose id cannot be parsed goes without it. -/
def getAll (uuids : UUIDText) (team : UUID) (opts : ListMonitorsOptions) :
    ListingProg (Except AppError (List Monitor × Bool)) := do
  let fetchLimit := opts.limit + 1
  let cursorTS := opts.cursor.map fun c => c.time.micros
  let cursorID := opts.cursor.bind fun c => uuids.parse c.id
  match ← select (.listMonitorsByTeamCursor team cursorTS cursorID fetchLimit) with
  | .ok rows =>
    let monitors := rows.map ofListRow
    let hasMore : Bool := opts.limit < monitors.length
    pure (.ok (if hasMore then monitors.take opts.limit else monitors, hasMore))
  | .error err => pure (.error (wrapRepoError "repo.monitor.get_all" err))

end MonitorRepository

namespace MonitorService

def getAllMonitors (uuids : UUIDText) (team : UUID) (opts : ListMonitorsOptions) :
    ListingProg (Except AppError ListMonitorsPage) := do
  match ← MonitorRepository.getAll uuids team opts with
  | .error err => pure (.error err)
  | .ok (monitors, hasMore) =>
    let nextCursor := if hasMore then monitors.getLast?.map fun last =>
      MonitorCursor.encode ⟨last.createdAt, uuids.string last.id⟩ else none
    pure (.ok ⟨monitors, hasMore, nextCursor, opts.limit⟩)

end MonitorService

/-- The number of rows on a page that a request asks for, if the handler lets it through. -/
def pageLimit (default : ℕ) : Option ℤ → Option ℕ
  | none => some default
  | some l => if l ≤ 0 ∨ 100 < l then none else some l.toNat

namespace MonitorHandler

/-- `Handler.GetAllMonitors` -/
def getAllMonitors (uuids : UUIDText) (team : UUID) (limit : Option ℤ) (cursor : String) :
    ListingProg (Except ErrorBody ListMonitorsPage) :=
  match pageLimit 10 limit with
  | none => pure (.error ⟨400, .invalidInput, "invalid limit"⟩)
  | some limit =>
    let list (cursor : Option Cursor) : ListingProg (Except ErrorBody ListMonitorsPage) := do
      match ← MonitorService.getAllMonitors uuids team ⟨limit, cursor⟩ with
      | .ok page => pure (.ok page)
      | .error err => pure (.error err.body)
    if cursor = "" then list none
    else
      match MonitorCursor.decode cursor with
      | some decoded => list (some decoded)
      | none => pure (.error ⟨400, .invalidInput, "invalid cursor"⟩)

end MonitorHandler

end Sofon
