import Mathlib.Algebra.Group.Int.Defs
import Mathlib.Algebra.Group.Nat.Defs

/-!
# What the components exchange

The records that travel through the pipeline: monitors, check results and
alerts.  They are the structs of `monitor/domain.go`, `executor/result.go`,
`alert/domain.go` and `scheduler/job.go`, field for field.

Identifiers are numbers, since nothing is done with a `uuid.UUID` but to compare
it, print it and parse it; `UUID.nil` is `uuid.Nil`.  An instant is the number
of nanoseconds since the epoch, as `time.Now` reads it.
-/

namespace Sofon

/-- A `uuid.UUID`. -/
abbrev UUID := ℕ

/-- `uuid.Nil`. -/
def UUID.nil : UUID := 0

/-- A `time.Time`: nanoseconds since the epoch. -/
abbrev Time := ℤ

namespace Time

/-- The zero `time.Time`: the start of the year 1. -/
def zero : Time := -62135596800000000000

/-- `Time.Unix`: whole seconds since the epoch. -/
def unix (t : Time) : ℤ := t / 1000000000

/-- `time.Unix(s, 0)` -/
def ofUnix (s : ℤ) : Time := s * 1000000000

/-- `Time.Add` of a number of seconds. -/
def addSeconds (t : Time) (s : ℤ) : Time := t + s * 1000000000

/-- The precision of a `timestamptz`: whole microseconds. -/
def micros (t : Time) : ℤ := t / 1000

/-- The instant of a `timestamptz`. -/
def ofMicros (us : ℤ) : Time := us * 1000

end Time

/-- The conversion `int32(x)`: the low 32 bits, read as a signed number. -/
def toInt32 (x : ℤ) : ℤ := x.bmod (2 ^ 32)

/-- What a check or an alert gives as its reason.  `blank` is the empty string of
a check that got a response. -/
inductive Reason where
  | blank
  | invalidRequest
  | timeout
  | dnsFailure
  | networkTimeout
  | networkError
  | unknownError
  | recovered
  deriving DecidableEq

/-- `monitor.Monitor`. -/
structure Monitor where
  id : UUID
  teamID : UUID
  userID : UUID
  url : String
  intervalSec : ℤ
  timeoutSec : ℤ
  latencyThresholdMs : Option ℤ
  expectedStatus : Option ℤ
  enabled : Bool
  createdAt : Time
  isDown : Bool
  notificationChannels : List String

/-- `monitor.CreateMonitor`: what a client asks to be monitored. -/
structure CreateMonitor where
  teamID : UUID
  userID : UUID
  url : String
  intervalSec : ℤ
  timeoutSec : ℤ
  latencyThresholdMs : Option ℤ
  expectedStatus : Option ℤ
  notificationChannels : List String

/-- `executor.HTTPResult`: the outcome of one check. -/
structure HTTPResult where
  monitorID : UUID
  teamID : UUID
  monitorURL : String
  success : Bool
  status : ℤ
  latencyMs : ℤ
  reason : Reason
  retryable : Bool
  checkedAt : Time
  intervalSec : ℤ
  notificationChannels : List String

namespace HTTPResult

/-- The failures after which monitoring stops: "Case 1" of `handleFailure`. -/
def terminal (r : HTTPResult) : Bool := r.reason = .invalidRequest || r.reason = .dnsFailure

end HTTPResult

/-- `alert.AlertType`. -/
inductive AlertType where
  | down
  | recovered
  deriving DecidableEq

/-- `alert.AlertEvent`. -/
structure AlertEvent where
  incidentID : UUID
  type : AlertType
  monitorID : UUID
  teamID : UUID
  monitorURL : String
  notificationChannels : List String
  reason : Reason
  statusCode : ℤ
  latencyMs : ℤ
  checkedAt : Time

/-- `scheduler.JobPayload`. -/
structure JobPayload where
  monitorID : UUID
  deriving DecidableEq

end Sofon
