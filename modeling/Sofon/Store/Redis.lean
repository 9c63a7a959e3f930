import Sofon.Domain
import Sofon.Foundations.SortedSet
import Mathlib.Data.String.Basic
import Mathlib.Data.Sum.Order
import Mathlib.Logic.Function.Basic

/-!
# Redis

The keys the server uses, and the commands it sends, one constructor for each
call of `c.rdb` in `pkg/redis`:

* `monitor:schedule`, the sorted set of the next runs;
* `monitor:incident:<id>`, the hash that counts failures and holds the alert
  flags;
* `monitor:retry:<id>`, the retry counter, which expires;
* `monitor:status:<id>`, the last check;
* `monitor:<id>`, the cached monitor, which expires.

A command takes effect at once and as a whole.  Whether it gets through at all is
decided one layer up, in `Store.World`.
-/

namespace Sofon

open KeyValue

/-- A member of the schedule: the text of an id, as `uuid.UUID.String` prints it,
or any other text.  The code writes no other texts itself, but it may find them. -/
inductive Member where
  | id (m : UUID)
  | text (s : String)
  deriving DecidableEq

namespace Member

/-- What `uuid.Parse` makes of a member, if `parse` is what it makes of the other texts: it
reads some of them as ids, in capitals, in braces, as `urn:uuid:` or without hyphens. -/
def uuid? (parse : String → Option UUID) : Member → Option UUID
  | id m => some m
  | text s => parse s

/-- No other text is read as an id. -/
def printedOnly : String → Option UUID := fun _ => none

theorem uuid?_printedOnly_eq_some {member : Member} {m : UUID} :
    member.uuid? printedOnly = some m ↔ member = id m := by
  cases member <;> simp [uuid?, printedOnly]

theorem uuid?_printedOnly_eq_none {member : Member} :
    member.uuid? printedOnly = none ↔ ∃ s, member = text s := by
  cases member <;> simp [uuid?, printedOnly]

/-- Ids sort by their value, as their texts do.  Nothing depends on where the other texts
stand among them. -/
def key : Member → ℕ ⊕ₗ String
  | id m => Sum.inlₗ m
  | text s => Sum.inrₗ s

theorem key_injective : Function.Injective key := by
  intro a b h
  cases a <;> cases b <;> simp_all [key]

instance : LinearOrder Member := LinearOrder.lift' key key_injective

end Member

/-- `redis.Z`. -/
abbrev Z := Scored Member

/-- The fields of an incident hash; an absent field is `none`.  A hash without
fields does not exist. -/
structure IncidentHash where
  failureCount : Option ℤ
  firstFailureAt : Option ℤ
  lastFailureAt : Option ℤ
  alerted : Option Bool
  dbIncident : Option Bool
  recoveredAlerted : Option Bool
  deriving DecidableEq

/-- The key does not exist. -/
def IncidentHash.absent : IncidentHash := ⟨none, none, none, none, none, none⟩

/-- The retry counter, and whether it has been given a time to live. -/
structure RetryKey where
  count : ℤ
  expires : Bool
  deriving DecidableEq

/-- The fields of a status hash. -/
structure StatusHash where
  statusCode : ℤ
  latencyMs : ℤ
  checkedAt : ℤ
  deriving DecidableEq

/-- The contents of Redis. -/
structure Redis where
  schedule : SortedSet Member
  incident : UUID → IncidentHash
  retry : UUID → Option RetryKey
  status : UUID → Option StatusHash
  monitor : UUID → Option Monitor

/-- The commands sent to Redis. -/
inductive RedisCmd where
  /-- `HINCRBY monitor:incident:m failure_count 1` -/
  | hIncrByFailureCount (m : UUID)
  /-- `HSET monitor:incident:m [first_failure_at first] last_failure_at last` -/
  | hSetFailureTimes (m : UUID) (first : Option ℤ) (last : ℤ)
  /-- `HSETNX monitor:incident:m alerted true` -/
  | hSetNXAlerted (m : UUID)
  /-- `HSETNX monitor:incident:m recovered_alerted true` -/
  | hSetNXRecoveredAlerted (m : UUID)
  /-- `HSET monitor:incident:m db_incident true` -/
  | hSetDBIncident (m : UUID)
  /-- `HGETALL monitor:incident:m` -/
  | hGetAllIncident (m : UUID)
  /-- `DEL monitor:incident:m` -/
  | delIncident (m : UUID)
  /-- `INCR monitor:retry:m` -/
  | incrRetry (m : UUID)
  /-- `EXPIRE monitor:retry:m 300` -/
  | expireRetry (m : UUID)
  /-- `DEL monitor:retry:m` -/
  | delRetry (m : UUID)
  /-- `HSET monitor:status:m status_code .. latency_ms .. checked_at ..` -/
  | hSetStatus (m : UUID) (s : StatusHash)
  /-- `HDEL monitor:status:m`, with no field names -/
  | hDelStatus (m : UUID)
  /-- `SET monitor:x.id x EX 86400` -/
  | setMonitor (x : Monitor)
  /-- `GET monitor:m` -/
  | getMonitor (m : UUID)
  /-- `DEL monitor:m` -/
  | delMonitor (m : UUID)
  /-- `ZADD monitor:schedule ..` -/
  | zAdd (items : List Z)
  /-- `ZPOPMIN monitor:schedule n` -/
  | zPopMin (n : ℕ)
  /-- `ZREM monitor:schedule member` -/
  | zRem (member : Member)

/-- What Redis replies to a command that succeeds. -/
@[reducible] def RedisCmd.Reply : RedisCmd → Type
  | hIncrByFailureCount _ => ℤ
  | hSetNXAlerted _ => Bool
  | hSetNXRecoveredAlerted _ => Bool
  | hGetAllIncident _ => IncidentHash
  | incrRetry _ => ℤ
  | getMonitor _ => Option Monitor
  | zPopMin _ => List Z
  | _ => Unit

/-- Why a command failed: it did not get through, its context was cancelled, or
Redis rejected it. -/
inductive RedisError where
  | unavailable
  | canceled
  | badArguments
  deriving DecidableEq

namespace Redis

/-- The empty store. -/
def empty : Redis where
  schedule := SortedSet.empty
  incident := fun _ => .absent
  retry := fun _ => none
  status := fun _ => none
  monitor := fun _ => none

/-- Replace the incident hash of `m`. -/
def setIncident (m : UUID) (h : IncidentHash) (s : Redis) : Redis :=
  { s with incident := Function.update s.incident m h }

/-- Replace the retry counter of `m`. -/
def setRetry (m : UUID) (k : Option RetryKey) (s : Redis) : Redis :=
  { s with retry := Function.update s.retry m k }

/-- The keys of `ks` that have a time to live run out. -/
def expire (ks : List UUID) (s : Redis) : Redis :=
  { s with
    retry := fun m => (s.retry m).filter fun k => !(k.expires && ks.contains m)
    monitor := fun m => (s.monitor m).filter fun _ => !ks.contains m }

/-- What a command that gets through does. -/
def exec : (c : RedisCmd) → Redis → Except RedisError c.Reply × Redis
  | .hIncrByFailureCount m, s =>
    let n := ((s.incident m).failureCount.getD 0) + 1
    (.ok n, s.setIncident m { s.incident m with failureCount := some n })
  | .hSetFailureTimes m first last, s =>
    (.ok (), s.setIncident m { s.incident m with
      firstFailureAt := first.or (s.incident m).firstFailureAt, lastFailureAt := some last })
  | .hSetNXAlerted m, s =>
    match (s.incident m).alerted with
    | some _ => (.ok false, s)
    | none => (.ok true, s.setIncident m { s.incident m with alerted := some true })
  | .hSetNXRecoveredAlerted m, s =>
    match (s.incident m).recoveredAlerted with
    | some _ => (.ok false, s)
    | none => (.ok true, s.setIncident m { s.incident m with recoveredAlerted := some true })
  | .hSetDBIncident m, s =>
    (.ok (), s.setIncident m { s.incident m with dbIncident := some true })
  | .hGetAllIncident m, s => (.ok (s.incident m), s)
  | .delIncident m, s => (.ok (), s.setIncident m .absent)
  | .incrRetry m, s =>
    let k := (s.retry m).getD ⟨0, false⟩
    (.ok (k.count + 1), s.setRetry m (some ⟨k.count + 1, k.expires⟩))
  | .expireRetry m, s => (.ok (), s.setRetry m ((s.retry m).map fun k => ⟨k.count, true⟩))
  | .delRetry m, s => (.ok (), s.setRetry m none)
  | .hSetStatus m x, s => (.ok (), { s with status := Function.update s.status m (some x) })
  -- HDEL wants at least one field name
  | .hDelStatus _, s => (.error .badArguments, s)
  | .setMonitor x, s => (.ok (), { s with monitor := Function.update s.monitor x.id (some x) })
  | .getMonitor m, s => (.ok (s.monitor m), s)
  | .delMonitor m, s => (.ok (), { s with monitor := Function.update s.monitor m none })
  | .zAdd items, s => (.ok (), { s with schedule := s.schedule.add items })
  | .zPopMin n, s =>
    ((.ok (s.schedule.popMin n).1), { s with schedule := (s.schedule.popMin n).2 })
  | .zRem member, s => (.ok (), { s with schedule := s.schedule.remove member })

@[simp] theorem setIncident_incident (m : UUID) (h : IncidentHash) (s : Redis) :
    (s.setIncident m h).incident m = h := Function.update_self ..

@[simp] theorem setIncident_schedule (m : UUID) (h : IncidentHash) (s : Redis) :
    (s.setIncident m h).schedule = s.schedule := rfl

@[simp] theorem setIncident_retry (m : UUID) (h : IncidentHash) (s : Redis) :
    (s.setIncident m h).retry = s.retry := rfl

@[simp] theorem setRetry_incident (m : UUID) (k : Option RetryKey) (s : Redis) :
    (s.setRetry m k).incident = s.incident := rfl

@[simp] theorem setRetry_schedule (m : UUID) (k : Option RetryKey) (s : Redis) :
    (s.setRetry m k).schedule = s.schedule := rfl

@[simp] theorem setRetry_retry (m : UUID) (k : Option RetryKey) (s : Redis) :
    (s.setRetry m k).retry m = k := Function.update_self ..

@[simp] theorem expire_incident (ks : List UUID) (s : Redis) :
    (s.expire ks).incident = s.incident := rfl

@[simp] theorem expire_schedule (ks : List UUID) (s : Redis) :
    (s.expire ks).schedule = s.schedule := rfl

end Redis

end Sofon
