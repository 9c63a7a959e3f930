import Sofon.Foundations.Run
import Sofon.Result.Outcomes

/-!
# Histories of one monitor

A history is the list of the results of one monitor that have been handled, one
after another, each with the trace of its handler run.  `Handles` is the
transition relation: any answer of the environment is admitted, so a history may
be full of failures, and what a statement wants to know about them it reads off
the traces.

`handles_cases` is the only thing later files use of a handler.  `replay`
computes a history from the choices of the environment.
-/

namespace Sofon

open Interleaving Transition

namespace HTTPResult

/-- A failure that is counted at once. -/
def hardFailure (r : HTTPResult) : Bool := !r.success && !r.terminal && !r.retryable

/-- A failure that is retried before it is counted. -/
def retryableFailure (r : HTTPResult) : Bool := !r.success && !r.terminal && r.retryable

end HTTPResult

/-- A result that has been handled, and the calls its handler made. -/
structure Handled where
  result : HTTPResult
  trace : List Call

variable {cfg : ResultProcessorConfig} {m : UUID} {w w' : World} {x : Handled}

/-- A result of the monitor `m` is handled. -/
def Handles (cfg : ResultProcessorConfig) (m : UUID) (w : World) (x : Handled) (w' : World) :
    Prop :=
  x.result.monitorID = m ∧
    Program.Exec World.Live (ResultProcessor.handle cfg x.result) w x.trace () w'

/-- What handling a result does to the record of the outage. -/
theorem handles_cases (h : Handles cfg m w x w') :
    (x.result.success = true ∧
        SuccessOutcome x.result (w.outage m) x.trace (w'.outage m)) ∨
      x.result.success = false ∧
        FailureOutcome cfg x.result (w.outage m) x.trace (w'.outage m) := by
  obtain ⟨rfl, hx⟩ := h
  rw [ResultProcessor.handle] at hx
  by_cases hs : x.result.success = true
  · rw [if_pos hs] at hx
    exact Or.inl ⟨hs, successOutcome_of_exec hx⟩
  · rw [if_neg hs] at hx
    exact Or.inr ⟨Bool.not_eq_true _ ▸ hs, failureOutcome_of_exec hx⟩

/-- Nothing is known about the monitor `m`: no hash, no retry counter, no open
incident.  Row ids are never `uuid.Nil`. -/
structure World.Fresh (m : UUID) (w : World) : Prop where
  hash : w.redis.incident m = .absent
  retry : w.redis.retry m = none
  rows : w.db.openIncidents m = []
  ids : 0 < w.db.nextID

/-! ## Computing a history -/

/-- Handle the results in order, with the given choices of the environment. -/
def replay (cfg : ResultProcessorConfig) :
    List (HTTPResult × List Env) → World → List Handled × World
  | [], w => ([], w)
  | (r, es) :: rest, w =>
    let y := Program.run (World.exec false) es (ResultProcessor.handle cfg r) w
    let z := replay cfg rest y.2.2
    (⟨r, y.1⟩ :: z.1, z.2)

/-- **A replayed history is a history.** -/
theorem runs_replay (cfg : ResultProcessorConfig) {m : UUID} (script : List (HTTPResult × List Env))
    (h : ∀ q ∈ script, q.1.monitorID = m) (w : World) :
    Runs (Handles cfg m) w (replay cfg script w).1 (replay cfg script w).2 := by
  induction script generalizing w with
  | nil => exact Runs.nil
  | cons q rest ih =>
    refine runs_cons_iff.mpr ⟨_, ⟨h q List.mem_cons_self, ?_⟩, ih (fun q' hq' => ?_) _⟩
    · exact Program.exec_run _ _ _ _
    · exact h q' (List.mem_cons_of_mem _ hq')

/-! ## A monitor to run things on -/

namespace Sample

/-- The server answers 500. -/
def failing : HTTPResult :=
  ⟨1, 9, "https://example.org", false, 500, 10, .blank, false, 0, 60, ["ops@example.org"]⟩

/-- The check times out. -/
def hanging : HTTPResult := { failing with status := 503, reason := .timeout, retryable := true }

/-- The server answers 200. -/
def passing : HTTPResult := { failing with success := true, status := 200 }

/-- The first `n` calls get through, and the next one does not. -/
def failAt (n : ℕ) : List Env :=
  List.replicate n default ++ [{ (default : Env) with fails := true }]

/-- The history of a script, with the default settings. -/
def after (script : List (HTTPResult × List Env)) : List Handled × World :=
  replay Config.default.resultProcessor script world

theorem runs_after (script : List (HTTPResult × List Env)) (h : ∀ q ∈ script, q.1.monitorID = 1) :
    Runs (Handles Config.default.resultProcessor 1) world (after script).1 (after script).2 :=
  runs_replay _ _ h _

/-- One more result, handled with every call getting through. -/
def next (r : HTTPResult) (w : World) : Handled × World :=
  let y := Program.run (World.exec false) []
    (ResultProcessor.handle Config.default.resultProcessor r) w
  (⟨r, y.1⟩, y.2.2)

theorem handles_next (r : HTTPResult) (hr : r.monitorID = 1) (w : World) :
    Handles Config.default.resultProcessor 1 w (next r w).1 (next r w).2 :=
  ⟨hr, Program.exec_run _ _ _ _⟩

theorem fresh_world : world.Fresh 1 := ⟨rfl, rfl, rfl, by decide⟩

end Sample

end Sofon
