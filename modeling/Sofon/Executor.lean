import Sofon.Monitor.Service

/-!
# The executor

What a worker does with a job (`startWork`), and what a check makes of the
outcome of its request (`executeHTTPCheck`).  The request itself, with its
timeout, is up to the network: the environment chooses an `Outcome`.

`startWork` stops short of the semaphore; from there on the worker meets other
goroutines, and the pipeline takes over.
-/

namespace Sofon

open Interleaving

namespace Executor

/-- A layer of an error, as far as `errors.Is` and `errors.As` are asked about it and as far
as it reports on itself.  An error is the list of its layers, in the order in which they are
asked, the outermost first. -/
inductive ErrorLayer where
  /-- `context.DeadlineExceeded` -/
  | deadlineExceeded
  /-- `*net.DNSError`, with its `IsTimeout` and `IsTemporary` -/
  | dns (isTimeout isTemporary : Bool)
  /-- any other `net.Error`, with its `Timeout()` and `Temporary()` -/
  | net (timeout temporary : Bool)
  /-- any other error; has it one of the two methods, and does that report `true`? -/
  | other (transient : Bool)
  deriving DecidableEq

namespace ErrorLayer

/-- `errors.As` with a `*net.DNSError` -/
def isDNS : ErrorLayer → Bool
  | dns _ _ => true
  | _ => false

/-- `errors.As` with a `net.Error`, and what `Timeout()` is then.  The deadline and DNS errors
are such errors too. -/
def timeout? : ErrorLayer → Option Bool
  | deadlineExceeded => some true
  | dns isTimeout _ => some isTimeout
  | net timeout _ => some timeout
  | other _ => none

/-- Does the layer report itself as a timeout or as temporary?  A DNS error is temporary if it
is a timeout. -/
def transient : ErrorLayer → Bool
  | deadlineExceeded => true
  | dns isTimeout isTemporary => isTimeout || isTemporary
  | net timeout temporary => timeout || temporary
  | other transient => transient

end ErrorLayer

def classifyError (err : List ErrorLayer) : Reason × Bool :=
  if .deadlineExceeded ∈ err then (.timeout, true)
  else if err.any ErrorLayer.isDNS then (.dnsFailure, false)
  else
    match err.findSome? ErrorLayer.timeout? with
    | some true => (.networkTimeout, true)
    | some false => (.networkError, true)
    | none => (.unknownError, true)

/-- **Which errors are final.**  A DNS error anywhere in the chain is, and a deadline anywhere
in the chain goes before it. -/
theorem classifyError_reason_eq_dnsFailure_iff {err : List ErrorLayer} :
    (classifyError err).1 = .dnsFailure ↔
      .deadlineExceeded ∉ err ∧ ∃ layer ∈ err, layer.isDNS := by
  unfold classifyError
  split
  · rename_i hdeadline
    exact iff_of_false (by decide) fun h => h.1 hdeadline
  · rename_i hdeadline
    rw [and_iff_right hdeadline]
    split
    · rename_i hdns
      exact iff_of_true rfl (List.any_eq_true.mp hdns)
    · rename_i hdns
      refine iff_of_false ?_ fun h => hdns (List.any_eq_true.mpr h)
      split <;> decide

/-- No error is one of a request that cannot be built. -/
theorem classifyError_reason_ne_invalidRequest (err : List ErrorLayer) :
    (classifyError err).1 ≠ .invalidRequest := by
  unfold classifyError
  split
  · decide
  · split
    · decide
    · split <;> decide

/-- What becomes of the request of a check, and when. -/
inductive Outcome where
  /-- the request cannot be built -/
  | invalid (checkedAt : Time)
  /-- `httpClient.Do` fails -/
  | failed (err : List ErrorLayer) (latencyMs : ℤ) (checkedAt : Time)
  /-- there is a response -/
  | response (statusCode latencyMs : ℤ) (checkedAt : Time)

/-- `http.StatusServiceUnavailable` -/
def statusServiceUnavailable : ℤ := 503

def executeHTTPCheck (x : Monitor) : Outcome → HTTPResult
  | .invalid checkedAt =>
    ⟨x.id, x.teamID, x.url, false, 0, 0, .invalidRequest, false, checkedAt, x.intervalSec,
      x.notificationChannels⟩
  | .failed err latency checkedAt =>
    let (reason, isRetryable) := classifyError err
    ⟨x.id, x.teamID, x.url, false, statusServiceUnavailable, latency, reason, isRetryable,
      checkedAt, x.intervalSec, x.notificationChannels⟩
  | .response statusCode latency checkedAt =>
    let statusMatch : Bool :=
      match x.expectedStatus with
      | none => 200 ≤ statusCode && statusCode < 400
      | some expected => statusCode = expected
    let latencyMatch : Bool :=
      match x.latencyThresholdMs with
      | none => true
      | some threshold => latency ≤ threshold
    ⟨x.id, x.teamID, x.url, statusMatch && latencyMatch, statusCode, latency, .blank, false,
      checkedAt, x.intervalSec, x.notificationChannels⟩

/-- The result names the monitor that was checked. -/
@[simp] theorem executeHTTPCheck_monitorID (x : Monitor) (o : Outcome) :
    (executeHTTPCheck x o).monitorID = x.id := by
  cases o <;> rfl

/-- The body of the loop of `startWork`, up to the semaphore: the value is the
monitor to check, if there is one. -/
def startWork (m : UUID) : Prog (Option Monitor) := do
  match ← MonitorService.loadMonitor m with
  | .error err =>
    if err.kind = .notFound then return none
    else
      MonitorService.scheduleMonitor m 5
      return none
  | .ok x => if x.enabled then return some x else return none

theorem only_startWork (S : Cmd → Prop) {m : UUID} (hnow : S .timeNow) (hctx : S .ctxDone)
    (hget : S (.sql (.getMonitorByID m))) (hset : ∀ x, S (.redis (.setMonitor x)))
    (hadd : ∀ score, S (.redis (.zAdd [⟨score, .id m⟩]))) : (startWork m).Only S := by
  refine Program.Only.bind ⟨hget, fun x => ?_⟩ fun y => ?_
  · rcases x with err | row
    · trivial
    · exact ⟨hset _, fun _ => trivial⟩
  · rcases y with err | x
    · show Program.Only _ (if err.kind = .notFound then _ else _)
      split
      · trivial
      · exact (MonitorService.only_scheduleMonitor S hnow hctx hadd _).bind fun _ => trivial
    · show Program.Only _ (if x.enabled then _ else _)
      split <;> trivial

end Executor

end Sofon
