import Mathlib.Data.Int.Notation
import Mathlib.Data.Nat.Notation

/-!
# The configuration

The settings that the pipeline reads, and what `validateConfig` has checked of
them before the server starts.  The validation tags are the only promise made
about a setting, so `Valid` is the only hypothesis a theorem may take about one.
-/

namespace Sofon

/-- `config.AppConfig`: the capacities of the three channels between the
components. -/
structure AppConfig where
  jobChannelSize : ℕ
  resultChannelSize : ℕ
  alertChannelSize : ℕ

/-- `config.ExecutorConfig`. -/
structure ExecutorConfig where
  workerCount : ℕ
  httpSemCount : ℕ

/-- `config.ResultProcessorConfig`.  The two limits are compared with counters
as they are, so they keep the type `int` of the source. -/
structure ResultProcessorConfig where
  successWorkerCount : ℕ
  successChannelSize : ℕ
  failureWorkerCount : ℕ
  failureChannelSize : ℕ
  failureThreshold : ℤ
  retryLimit : ℤ

/-- `config.Config`, as far as the monitoring pipeline reads it. -/
structure Config where
  app : AppConfig
  batchSize : ℕ
  executor : ExecutorConfig
  alertWorkerCount : ℕ
  resultProcessor : ResultProcessorConfig

namespace Config

/-- The validation tags of `config.go`. -/
structure Valid (cfg : Config) : Prop where
  jobChannelSize : 100 ≤ cfg.app.jobChannelSize ∧ cfg.app.jobChannelSize ≤ 5000
  resultChannelSize : 100 ≤ cfg.app.resultChannelSize ∧ cfg.app.resultChannelSize ≤ 5000
  alertChannelSize : 100 ≤ cfg.app.alertChannelSize ∧ cfg.app.alertChannelSize ≤ 5000
  batchSize : 0 < cfg.batchSize
  workerCount : 5 ≤ cfg.executor.workerCount ∧ cfg.executor.workerCount ≤ 200
  httpSemCount : 5 ≤ cfg.executor.httpSemCount ∧ cfg.executor.httpSemCount ≤ 6000
  alertWorkerCount : 5 ≤ cfg.alertWorkerCount
  successWorkerCount : 5 ≤ cfg.resultProcessor.successWorkerCount
  successChannelSize : 5 ≤ cfg.resultProcessor.successChannelSize
  failureWorkerCount : 5 ≤ cfg.resultProcessor.failureWorkerCount
  failureChannelSize : 5 ≤ cfg.resultProcessor.failureChannelSize
  failureThreshold : 1 ≤ cfg.resultProcessor.failureThreshold
  retryLimit : 1 ≤ cfg.resultProcessor.retryLimit

/-- `setDefaults`. -/
def default : Config where
  app := ⟨500, 500, 500⟩
  batchSize := 100
  executor := ⟨20, 100⟩
  alertWorkerCount := 10
  resultProcessor := ⟨10, 500, 10, 500, 3, 2⟩

/-- The defaults pass their own validation. -/
theorem default_valid : default.Valid := by
  constructor <;> decide

/-- The least settings that pass the validation. -/
def least : Config where
  app := ⟨100, 100, 100⟩
  batchSize := 1
  executor := ⟨5, 5⟩
  alertWorkerCount := 5
  resultProcessor := ⟨5, 5, 5, 5, 1, 1⟩

theorem least_valid : least.Valid := by
  constructor <;> decide

end Config

end Sofon
