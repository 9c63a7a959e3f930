import Sofon.Incident.Service
import Sofon.Result.Recordable

/-!
# The reason shown for an incident

An incident is shown with a reason, which nobody has stored: `deriveReason` makes it of the
status and the latency of the row and of the settings of its monitor, both read back together.
`executeHTTPCheck` came to its verdict with the same numbers and settings, some time before.

## What is lost on the way

* A transport error is stored with the status 503.  `deriveReason` looks for 0, which the table
  does not allow.
* A setting that is absent is read back as 0, and 0 is taken for absent.  For the status this
  does no harm, as 0 is no status; as a latency threshold it is allowed.
* Without an expected status, a status problem is what is reported when nothing else is, so a
  breach of the latency threshold hides it.
* The latency is stored in 32 bits.

## That there is nothing else

The texts are compared by what they report, which can be read off them
(`reports_of_text_eq`).  A row that was stored has a status, so its reason is one of four: both
problems, the latency, the expected status, or what is left (`deriveReason_of_status`).  What the
check found and what is found in the row are compared setting by setting: a status mismatch is
the same in both (`statusMismatch_iff`), a breach of the threshold is the same unless the threshold
is 0 or the latency does not fit (`breach_iff`, `latencyKept_iff`), and a bad status is hidden by
a breach exactly when nothing was expected (`hidden_iff`).

`deriveReason_agrees_iff` puts them together for every row, outcome and content of the tables.
-/

namespace Sofon

open Executor

/-- What `deriveReason` finds, with the numbers it puts in its text. -/
inductive DerivedReason where
  | noResponse
  | statusAndLatency (got expected latencyMs thresholdMs : ℤ)
  | status (got expected : ℤ)
  | latency (latencyMs thresholdMs : ℤ)
  | statusOnly (got : ℤ)
  deriving DecidableEq

namespace DerivedReason

/-- The text. -/
def text : DerivedReason → String
  | noResponse => "No response (timeout or connection failure)"
  | statusAndLatency got expected latencyMs thresholdMs =>
    "Status mismatch (got " ++ toString got ++ ", expected " ++ toString expected ++
      ") and latency threshold exceeded (" ++ toString latencyMs ++ "ms > " ++
      toString thresholdMs ++ "ms)"
  | status got expected =>
    "Unexpected status code (got " ++ toString got ++ ", expected " ++ toString expected ++ ")"
  | latency latencyMs thresholdMs =>
    "Latency threshold exceeded (" ++ toString latencyMs ++ "ms > " ++ toString thresholdMs ++
      "ms)"
  | statusOnly got => "Unexpected status code (" ++ toString got ++ ")"

/-- Does the text speak of the status? -/
def reportsStatus : DerivedReason → Bool
  | statusAndLatency .. | status .. | statusOnly _ => true
  | noResponse | latency .. => false

/-- Does the text speak of the latency? -/
def reportsLatency : DerivedReason → Bool
  | statusAndLatency .. | latency .. => true
  | noResponse | status .. | statusOnly _ => false

/-- The first letter of the text. -/
def initial : DerivedReason → Char
  | noResponse => 'N'
  | statusAndLatency .. => 'S'
  | status .. | statusOnly _ => 'U'
  | latency .. => 'L'

theorem head?_text (r : DerivedReason) : r.text.toList.head? = some r.initial := by
  have hs : "Status mismatch (got ".toList.head? = some 'S' := by decide
  have hu : "Unexpected status code (got ".toList.head? = some 'U' := by decide
  have hl : "Latency threshold exceeded (".toList.head? = some 'L' := by decide
  have ho : "Unexpected status code (".toList.head? = some 'U' := by decide
  cases r with
  | noResponse => decide
  | statusAndLatency | status | latency | statusOnly =>
    unfold text initial
    simp only [String.toList_append, List.append_assoc, List.head?_append, hs, hu, hl, ho,
      Option.some_or]

/-- **What is reported can be read off the text.** -/
theorem reports_of_text_eq {r r' : DerivedReason} (h : r.text = r'.text) :
    (r = .noResponse ↔ r' = .noResponse) ∧ r.reportsStatus = r'.reportsStatus ∧
      r.reportsLatency = r'.reportsLatency := by
  have hinitial : r.initial = r'.initial := by
    rw [← Option.some_inj, ← head?_text, ← head?_text, h]
  cases r <;> cases r' <;> simp [initial, reportsStatus, reportsLatency] at hinitial ⊢

end DerivedReason

namespace IncidentHandler

def deriveReason (i : Incident) : DerivedReason :=
  if i.httpStatus = 0 then .noResponse
  else
    let statusMismatch : Bool := 0 < i.expectedStatus && i.httpStatus ≠ i.expectedStatus
    let latencyBreach : Bool := 0 < i.latencyThresholdMs && i.latencyThresholdMs < i.latencyMs
    match statusMismatch, latencyBreach with
    | true, true =>
      .statusAndLatency i.httpStatus i.expectedStatus i.latencyMs i.latencyThresholdMs
    | true, false => .status i.httpStatus i.expectedStatus
    | false, true => .latency i.latencyMs i.latencyThresholdMs
    | false, false => .statusOnly i.httpStatus

variable {i : Incident}

/-- **What is reported of a row with a status.**  The status is what is left when the latency
is no reason. -/
theorem deriveReason_of_status (h : i.httpStatus ≠ 0) :
    deriveReason i ≠ .noResponse ∧
      ((deriveReason i).reportsStatus ↔
        (0 < i.expectedStatus ∧ i.httpStatus ≠ i.expectedStatus) ∨
          ¬(0 < i.latencyThresholdMs ∧ i.latencyThresholdMs < i.latencyMs)) ∧
      ((deriveReason i).reportsLatency ↔
        0 < i.latencyThresholdMs ∧ i.latencyThresholdMs < i.latencyMs) := by
  have hstatus : (0 < i.expectedStatus && i.httpStatus ≠ i.expectedStatus) = true ↔
      0 < i.expectedStatus ∧ i.httpStatus ≠ i.expectedStatus := by simp
  have hlatency : (0 < i.latencyThresholdMs && i.latencyThresholdMs < i.latencyMs) = true ↔
      0 < i.latencyThresholdMs ∧ i.latencyThresholdMs < i.latencyMs := by simp
  rw [deriveReason, if_neg h, ← hstatus, ← hlatency]
  cases (0 < i.expectedStatus && i.httpStatus ≠ i.expectedStatus : Bool) <;>
    cases (0 < i.latencyThresholdMs && i.latencyThresholdMs < i.latencyMs : Bool) <;>
    simp [DerivedReason.reportsStatus, DerivedReason.reportsLatency]

end IncidentHandler

open IncidentHandler

/-! ## The verdict -/

namespace Executor

/-- `statusMatch` of `executeHTTPCheck` -/
def statusMatch (x : Monitor) (statusCode : ℤ) : Bool :=
  match x.expectedStatus with
  | none => 200 ≤ statusCode && statusCode < 400
  | some expected => statusCode = expected

/-- `latencyMatch` of `executeHTTPCheck` -/
def latencyMatch (x : Monitor) (latency : ℤ) : Bool :=
  match x.latencyThresholdMs with
  | none => true
  | some threshold => latency ≤ threshold

theorem executeHTTPCheck_success (x : Monitor) (statusCode latency : ℤ) (checkedAt : Time) :
    (executeHTTPCheck x (.response statusCode latency checkedAt)).success =
      (statusMatch x statusCode && latencyMatch x latency) := rfl

end Executor

/-- **The reason agrees with the verdict**: it is a missing response just for a transport
error, and else it names the status just when it did not match, and the latency just when that
did not. -/
def ReasonAgrees (x : Monitor) (o : Outcome) (shown : DerivedReason) : Prop :=
  match o with
  | .response statusCode latency _ => shown ≠ .noResponse ∧
      (shown.reportsStatus ↔ statusMatch x statusCode = false) ∧
      (shown.reportsLatency ↔ latencyMatch x latency = false)
  | _ => shown = .noResponse

/-- **Where it does.**  There was a response; the latency is above a threshold just when the
latency in 32 bits is above one that is not zero; and unless a status was expected, the status
and the latency are not both bad. -/
def ReasonKept (x : Monitor) : Outcome → Prop
  | .response statusCode latency _ =>
    (∀ threshold, x.latencyThresholdMs = some threshold →
      (threshold < latency ↔ 0 < threshold ∧ threshold < toInt32 latency)) ∧
    ¬(x.expectedStatus = none ∧ (statusCode < 200 ∨ 400 ≤ statusCode) ∧
      ∃ threshold, x.latencyThresholdMs = some threshold ∧ threshold < latency)
  | _ => False

/-- For a latency that fits, the first condition fails only for a threshold of zero. -/
theorem latencyKept_iff {threshold latency : ℤ} (hthreshold : 0 ≤ threshold) (h₀ : 0 ≤ latency)
    (h₁ : latency < 2 ^ 31) :
    (threshold < latency ↔ 0 < threshold ∧ threshold < toInt32 latency) ↔
      threshold ≠ 0 ∨ latency = 0 := by
  rw [toInt32_of_fits h₀ h₁]
  omega

/-- The row of an incident some time after it was inserted. -/
def storedIncident (id : UUID) (start : Time) (endTime : Option ℤ) (createdAt : ℤ)
    (r : HTTPResult) : IncidentRecord :=
  ⟨{ IncidentRow.opened id start r with endTime := endTime }, createdAt⟩

/-- The incident as it is read back. -/
def Listing.shown (l : Listing) (now : Time) (mi : IncidentRecord) (row : MonitorRow) :
    Incident := IncidentRepository.ofRow (l.incidentRow now mi row)

variable {statusCode latency : ℤ}

/-- The mismatch that is found in the row: 0 is no status. -/
theorem statusMismatch_iff {expected : Option ℤ} (hexpected : ∀ e ∈ expected, 100 ≤ e ∧ e ≤ 599) :
    0 < expected.getD 0 ∧ statusCode ≠ expected.getD 0 ↔
      ∃ e, expected = some e ∧ statusCode ≠ e := by
  cases expected with
  | none => simp
  | some e =>
    have hpos : 0 < e := by
      have he := (hexpected e rfl).1
      omega
    simp [hpos]

theorem statusMatch_eq_false_iff (x : Monitor) (statusCode : ℤ) : statusMatch x statusCode = false ↔
    (x.expectedStatus = none ∧ (statusCode < 200 ∨ 400 ≤ statusCode)) ∨
      ∃ e, x.expectedStatus = some e ∧ statusCode ≠ e := by
  unfold statusMatch
  cases x.expectedStatus with
  | none =>
    simp
    omega
  | some e => simp

theorem latencyMatch_eq_false_iff (x : Monitor) (latency : ℤ) : latencyMatch x latency = false ↔
    ∃ threshold, x.latencyThresholdMs = some threshold ∧ threshold < latency := by
  unfold latencyMatch
  cases x.latencyThresholdMs <;> simp

/-- The breach that is found in the row is the one the check found, or is not. -/
theorem breach_iff {threshold : Option ℤ} {stored : ℤ} :
    ((0 < threshold.getD 0 ∧ threshold.getD 0 < stored) ↔ ∃ t, threshold = some t ∧ t < latency) ↔
      ∀ t, threshold = some t → (t < latency ↔ 0 < t ∧ t < stored) := by
  cases threshold with
  | none => simp
  | some t =>
    simp only [Option.getD_some, Option.some.injEq, exists_eq_left', forall_eq']
    exact Iff.comm

/-- When the check failed, the status is reported as it should unless the latency hides it. -/
theorem hidden_iff {absent bad mismatch breach : Prop} (hone : ¬(absent ∧ mismatch))
    (hfailing : (absent ∧ bad ∨ mismatch) ∨ breach) :
    (mismatch ∨ ¬breach ↔ absent ∧ bad ∨ mismatch) ↔ ¬(absent ∧ bad ∧ breach) := by
  tauto

/-- **The reason that is shown agrees with the verdict exactly where nothing was lost** between the
check and the row: the row has only a status and a latency, and from these the reason is guessed. -/
theorem deriveReason_agrees_iff (l : Listing) (now : Time) (id : UUID) (start : Time)
    (endTime : Option ℤ) (createdAt : ℤ) (row : MonitorRow)
    (hexpected : ∀ e ∈ row.expectedStatus, 100 ≤ e ∧ e ≤ 599) (o : Outcome) (ho : o.Recordable)
    (hfailing : (executeHTTPCheck (MonitorRepository.ofRow row) o).success = false) :
    ReasonAgrees (MonitorRepository.ofRow row) o (deriveReason (l.shown now
      (storedIncident id start endTime createdAt
        (executeHTTPCheck (MonitorRepository.ofRow row) o)) row)) ↔
      ReasonKept (MonitorRepository.ofRow row) o := by
  cases o with
  | invalid checkedAt => exact ho.elim
  | failed err latency checkedAt =>
    refine iff_of_false (fun hagrees => ?_) not_false
    have hstatus : toInt32 statusServiceUnavailable ≠ 0 := by decide
    exact (deriveReason_of_status hstatus).1 hagrees
  | response statusCode latency checkedAt =>
    obtain ⟨hlow, hhigh⟩ := ho
    have hfits : toInt32 statusCode = statusCode := toInt32_of_fits (by omega) (by omega)
    have hstatus : toInt32 statusCode ≠ 0 := by omega
    obtain ⟨hresponse, hshowsStatus, hshowsLatency⟩ := deriveReason_of_status
      (i := l.shown now (storedIncident id start endTime createdAt (executeHTTPCheck
        (MonitorRepository.ofRow row) (.response statusCode latency checkedAt))) row) hstatus
    -- what the row holds
    change _ ↔ (0 < row.expectedStatus.getD 0 ∧ toInt32 statusCode ≠ row.expectedStatus.getD 0) ∨
      ¬(0 < row.latencyThresholdMs.getD 0 ∧ row.latencyThresholdMs.getD 0 < toInt32 latency)
      at hshowsStatus
    change _ ↔ 0 < row.latencyThresholdMs.getD 0 ∧
      row.latencyThresholdMs.getD 0 < toInt32 latency at hshowsLatency
    rw [hfits, statusMismatch_iff hexpected] at hshowsStatus
    -- what the check found
    have hstatusMatch := statusMatch_eq_false_iff (MonitorRepository.ofRow row) statusCode
    have hlatencyMatch := latencyMatch_eq_false_iff (MonitorRepository.ofRow row) latency
    rw [executeHTTPCheck_success, Bool.and_eq_false_iff, hstatusMatch, hlatencyMatch] at hfailing
    have hone : ¬(row.expectedStatus = none ∧ ∃ e, row.expectedStatus = some e ∧
        statusCode ≠ e) := by
      rintro ⟨hnone, e, he, -⟩
      rw [hnone] at he
      cases he
    change (_ ∧ (_ ↔ _) ∧ (_ ↔ _)) ↔ (_ ∧ _)
    rw [and_iff_right hresponse, hshowsStatus, hshowsLatency, hstatusMatch, hlatencyMatch]
    change ((_ ∨ ¬_ ↔ (row.expectedStatus = none ∧ _) ∨ ∃ e, row.expectedStatus = some e ∧ _) ∧
      (_ ↔ ∃ t, row.latencyThresholdMs = some t ∧ _)) ↔ _
    rw [breach_iff, and_comm]
    refine and_congr_right fun hkept => ?_
    rw [breach_iff.mpr hkept]
    exact hidden_iff hone hfailing

namespace Sample

/-- A monitor that is to answer 204 within a second. -/
def strictRow : MonitorRow :=
  { row with latencyThresholdMs := some 1000, expectedStatus := some 204 }

/-- No alert has been written. -/
def listing : Listing := ⟨[strictRow], [], []⟩

end Sample

/-- Status 500 after two seconds: both are shown. -/
theorem deriveReason_agrees_sample :
    ReasonAgrees (MonitorRepository.ofRow Sample.strictRow) (.response 500 2000 0)
      (deriveReason (Sample.listing.shown 0 (storedIncident 5 0 none 0
        (executeHTTPCheck (MonitorRepository.ofRow Sample.strictRow) (.response 500 2000 0)))
        Sample.strictRow)) := by
  refine (deriveReason_agrees_iff _ _ _ _ _ _ Sample.strictRow ?_ (.response 500 2000 0) ?_
    rfl).mpr ⟨?_, ?_⟩
  · intro e he
    obtain rfl := Option.some.inj he
    decide
  · exact ⟨by decide, by decide⟩
  · intro t ht
    obtain rfl := Option.some.inj ht
    decide
  · rintro ⟨hnone, -⟩
    cases hnone

/-- A request that is refused is stored with status 503, and that is what is shown. -/
theorem transport_error_shown_as_status : ¬∀ (l : Listing) (now : Time) (id : UUID)
    (start : Time) (endTime : Option ℤ) (createdAt : ℤ) (row : MonitorRow),
    (∀ e ∈ row.expectedStatus, 100 ≤ e ∧ e ≤ 599) → (∀ t ∈ row.latencyThresholdMs, 0 ≤ t) →
    ∀ o : Outcome, o.Recordable →
      (executeHTTPCheck (MonitorRepository.ofRow row) o).success = false →
      ReasonAgrees (MonitorRepository.ofRow row) o (deriveReason (l.shown now
        (storedIncident id start endTime createdAt
          (executeHTTPCheck (MonitorRepository.ofRow row) o)) row)) := by
  intro hall
  have hagrees := hall Sample.listing 0 5 0 none 0 Sample.row (by simp [Sample.row])
    (by simp [Sample.row]) (.failed [.net false false] 12 0) trivial rfl
  have hshown : deriveReason (Sample.listing.shown 0 (storedIncident 5 0 none 0 (executeHTTPCheck
    (MonitorRepository.ofRow Sample.row) (.failed [.net false false] 12 0))) Sample.row) =
      .noResponse := hagrees
  exact absurd hshown (by decide)

end Sofon
