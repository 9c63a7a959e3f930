import Sofon.Result.History

/-!
# What a lost command leaves behind

A handler writes the record of an outage in several steps, and a failure between
two of them leaves a record that no undisturbed run would leave.  Two such
records do harm later:

* an open row whose hash was never marked: recoveries do not close it;
* an alert flag without a reported open row (`Silenced`): later outages are not
  reported.

## How it is proved

Both results have the same three parts.

The first is about one handler and nothing else.  `SuccessOutcome.openIncidents_eq_nil_iff`
reads the outcome of an undisturbed success: it closes the open rows exactly when the hash is
marked.  `hardFailure_of_handles` reads the outcome of an undisturbed hard failure: with the
flag set it counts and reports nothing, and without it counts and reports when the threshold
is reached.

The second says what a handler leaves that may lose commands, but not the one that matters.
`marked_of_handles` keeps open rows marked as long as no mark is lost.  `not_silenced_of_handles`
keeps the flag from being left without a report as long as neither an insert nor the clean-up
of a recovery is lost.

The third is a history.  `recovery_closes_iff_marked` has one success at the end of it, and
`reported_iff_not_silenced` a window of as many undisturbed hard failures as the threshold.
While no flag is set the window counts up, and once the flag is set nothing more is reported
(`hardFailures_of_runs`).  The window is long enough to reach the threshold wherever the count
stood at its start, as the count is never negative (`count_of_handles`).

So each theorem is an equivalence with the condition on the record at the moment it matters,
and a run theorem that says which lost commands bring the condition about.
`recovery_leaves_incident_open` and `outage_silenced_by_lost_insert` are the two histories in
which they do.
-/

namespace Sofon

open Interleaving Transition

variable {cfg : ResultProcessorConfig} {m : UUID} {w₀ w w' : World} {h : List Handled} {x : Handled}

/-! ## Recoveries -/

/-- Open rows are marked in the hash. -/
def Outage.Marked (m : UUID) (o : Outage) : Prop :=
  o.db.openIncidents m = [] ∨ o.hash.dbIncident = some true

/-- An undisturbed recovery closes the outage exactly when it is marked. -/
theorem SuccessOutcome.openIncidents_eq_nil_iff {r : HTTPResult} {o o' : Outage} {tr : List Call}
    (hout : SuccessOutcome r o tr o') (hno : NoFail tr) :
    o'.db.openIncidents r.monitorID = [] ↔ o.Marked r.monitorID := by
  cases hout with
  | kept ho hquiet =>
    have hd : o.hash.dbIncident ≠ some true := by
      rw [hquiet hno]
      exact nofun
    rw [ho, Outage.Marked, or_iff_left hd]
  | dropped ho hnone =>
    rcases ho with ho | ⟨-, hf⟩
    · rw [ho, Outage.withHash_db, Outage.Marked]
      exact ⟨Or.inl, fun hm => hm.elim id hnone⟩
    · exact absurd hno hf.not_noFail
  | closed row rows t h ra evs ho hopen hd hh hevs =>
    refine iff_of_true ?_ (Or.inr hd)
    rw [ho]
    exact Outage.openIncidents_closeAll _ _ (o.withHash h)

/-- A handler that loses no mark leaves what is open marked. -/
theorem marked_of_handles (hx : Handles cfg m w x w') (hmark : ¬ FailedAt Cmd.isMark x.trace)
    (hw : (w.outage m).Marked m) : (w'.outage m).Marked m := by
  obtain rfl := hx.1
  rcases handles_cases hx with ⟨-, hout⟩ | ⟨-, hout⟩
  · cases hout with
    | kept ho _ => rwa [ho]
    | dropped ho hnone =>
      rcases ho with ho | ⟨ho, -⟩
      · rw [ho]
        exact Or.inl (hw.elim id hnone)
      · rwa [ho]
    | closed row rows t h ra evs ho hopen hd hh hevs =>
      rw [ho]
      exact Or.inl (Outage.openIncidents_closeAll _ _ ((w.outage _).withHash h))
  · cases hout with
    | skipped ho _ => rwa [ho]
    | counted f l ho _ _ => rwa [ho]
    | claimed f l ho _ _ _ _ => rwa [ho]
    | reported f l now mark ho _ _ _ hm =>
      rcases hm with rfl | ⟨-, hf⟩
      · rw [ho]
        exact Or.inr rfl
      · exact absurd hf hmark

/-- **A recovery closes the outage exactly when the record is marked**, and the
record is marked as long as no mark of an inserted row is lost. -/
theorem recovery_closes_iff_marked (h₀ : w₀.Fresh m) (hist : Runs (Handles cfg m) w₀ h w)
    (hx : Handles cfg m w x w') (hs : x.result.success = true) (hno : NoFail x.trace) :
    (w'.db.openIncidents m = [] ↔ (w.outage m).Marked m) ∧
      ((∀ y ∈ h, ¬ FailedAt Cmd.isMark y.trace) → (w.outage m).Marked m) := by
  constructor
  · obtain rfl := hx.1
    rcases handles_cases hx with ⟨-, hout⟩ | ⟨hfalse, -⟩
    · exact hout.openIncidents_eq_nil_iff hno
    · exact absurd (hs.symm.trans hfalse) nofun
  · intro hmark
    refine hist.invariant (I := fun w => (w.outage m).Marked m) (Or.inl h₀.rows) ?_
    exact fun y hy t u hstep ht => marked_of_handles hstep (hmark y hy) ht

/-- Three failures open an incident, and its mark is lost. -/
def Sample.lostMark : List (HTTPResult × List Env) :=
  [(failing, []), (failing, []), (failing, failAt 6)]

/-- The recovery that follows a lost mark leaves its incident open. -/
theorem recovery_leaves_incident_open :
    ¬ ∀ (w₀ w w' : World) (h : List Handled) (x : Handled), w₀.Fresh 1 →
      Runs (Handles Config.default.resultProcessor 1) w₀ h w →
      Handles Config.default.resultProcessor 1 w x w' → x.result.success = true →
      NoFail x.trace → w'.db.openIncidents 1 = [] := by
  intro hclaim
  have hopen := hclaim _ _ _ _ _ Sample.fresh_world (Sample.runs_after Sample.lostMark (by decide))
    (Sample.handles_next Sample.passing rfl _) rfl (by decide)
  exact absurd hopen (by decide)

/-- Three failures and a recovery, with nothing lost. -/
theorem recovery_closes_iff_marked_sample :
    let y := Sample.after [(Sample.failing, []), (Sample.failing, []), (Sample.failing, [])]
    ((Sample.next Sample.passing y.2).2.db.openIncidents 1 = [] ↔ (y.2.outage 1).Marked 1) ∧
      ((∀ x ∈ y.1, ¬ FailedAt Cmd.isMark x.trace) → (y.2.outage 1).Marked 1) :=
  recovery_closes_iff_marked Sample.fresh_world (Sample.runs_after _ (by decide))
    (Sample.handles_next Sample.passing rfl _) rfl (by decide)

/-! ## Silenced outages -/

namespace Outage

/-- The table has an open incident, and its alert was sent. -/
def Reported (m : UUID) (o : Outage) : Prop :=
  ∃ row ∈ o.db.openIncidents m, ∃ ev ∈ o.sent,
    ev.type = .down ∧ ev.monitorID = m ∧ ev.incidentID = row.id

instance (m : UUID) (o : Outage) : Decidable (o.Reported m) :=
  inferInstanceAs (Decidable (∃ row ∈ o.db.openIncidents m, ∃ ev ∈ o.sent,
    ev.type = .down ∧ ev.monitorID = m ∧ ev.incidentID = row.id))

/-- The alert flag is set without a reported incident. -/
def Silenced (m : UUID) (o : Outage) : Prop := o.hash.alerted ≠ none ∧ ¬ o.Reported m

/-- The number of failures on record. -/
def count (o : Outage) : ℤ := o.hash.failureCount.getD 0

@[simp] theorem reported_withHash (m : UUID) (h : IncidentHash) (o : Outage) :
    (o.withHash h).Reported m ↔ o.Reported m := Iff.rfl

/-- A new incident with its alert is a reported one. -/
theorem reported_insert (r : HTTPResult) (now : Time) (id : UUID) (o : Outage) :
    ((o.insert (.opened id now r)).alert [ResultProcessor.downEvent id r]).Reported
      r.monitorID := by
  refine ⟨.opened id now r, ?_, ResultProcessor.downEvent id r, ?_, rfl, rfl, rfl⟩
  · show _ ∈ (o.insert (.opened id now r)).db.openIncidents r.monitorID
    rw [openIncidents_insert]
    simp [IncidentRow.openFor_opened]
  · exact List.mem_append_right _ (List.mem_singleton_self _)

end Outage

theorem count_of_handles (hx : Handles cfg m w x w') (hw : 0 ≤ (w.outage m).count) :
    0 ≤ (w'.outage m).count := by
  have hnext : 0 ≤ (w.outage m).nextCount := by
    show 0 ≤ (w.outage m).count + 1
    omega
  obtain rfl := hx.1
  rcases handles_cases hx with ⟨-, hout⟩ | ⟨-, hout⟩
  · cases hout with
    | kept ho _ => rwa [ho]
    | dropped ho _ =>
      rcases ho with ho | ⟨ho, -⟩
      · rw [ho]
        exact le_refl 0
      · rwa [ho]
    | closed row rows t h ra evs ho _ _ hh _ =>
      rw [ho]
      rcases hh with rfl | ⟨rfl, -⟩
      · exact le_refl 0
      · exact hw
  · cases hout with
    | skipped ho _ => rwa [ho]
    | counted f l ho _ _ | claimed f l ho _ _ _ _ | reported f l now mark ho _ _ _ _ =>
      rw [ho]
      exact hnext

/-- A handler that loses no insert and no clean-up leaves no flag behind. -/
theorem not_silenced_of_handles (hx : Handles cfg m w x w')
    (hins : ¬ FailedAt Cmd.isInsert x.trace)
    (hclear : x.result.success = true → ¬ FailedAt Cmd.isClear x.trace)
    (hw : ¬ (w.outage m).Silenced m) : ¬ (w'.outage m).Silenced m := by
  rintro ⟨ha, hrep⟩
  obtain rfl := hx.1
  rcases handles_cases hx with ⟨hs, hout⟩ | ⟨-, hout⟩
  · cases hout with
    | kept ho _ =>
      rw [ho] at ha hrep
      exact hw ⟨ha, hrep⟩
    | dropped ho _ =>
      rcases ho with ho | ⟨ho, -⟩
      · rw [ho] at ha
        exact ha rfl
      · rw [ho] at ha hrep
        exact hw ⟨ha, hrep⟩
    | closed row rows t h ra evs ho _ _ hh _ =>
      rcases hh with rfl | ⟨-, hf⟩
      · rw [ho] at ha
        exact ha rfl
      · exact hclear hs hf
  · cases hout with
    | skipped ho _ =>
      rw [ho] at ha hrep
      exact hw ⟨ha, hrep⟩
    | counted f l ho _ _ =>
      rw [ho] at ha hrep
      exact hw ⟨ha, hrep⟩
    | claimed f l ho _ _ _ hi => exact hins hi
    | reported f l now mark ho _ _ _ _ =>
      rw [ho] at hrep
      exact hrep (Outage.reported_insert _ _ _ _)

/-- What an undisturbed hard failure does, with the flag set and without. -/
theorem hardFailure_of_handles (hx : Handles cfg m w x w') (hhard : x.result.hardFailure = true)
    (hno : NoFail x.trace) :
    ((w.outage m).hash.alerted ≠ none →
      (w'.outage m).hash.alerted ≠ none ∧ ((w'.outage m).Reported m ↔ (w.outage m).Reported m)) ∧
    ((w.outage m).hash.alerted = none →
      ((w'.outage m).hash.alerted ≠ none ∧ (w'.outage m).Reported m) ∨
      (w'.outage m).hash.alerted = none ∧ (w'.outage m).count = (w.outage m).count + 1 ∧
        (w'.outage m).count < cfg.failureThreshold) := by
  obtain ⟨⟨hs, hterm⟩, hretry⟩ : (x.result.success = false ∧ x.result.terminal = false) ∧
      x.result.retryable = false := by
    simpa [HTTPResult.hardFailure] using hhard
  have hexec := hx.2
  rw [ResultProcessor.handle, hs, if_neg Bool.false_ne_true] at hexec
  have hreach := reached_of_hard hterm hretry hexec
  have hout := failureOutcome_of_exec hexec
  obtain rfl := hx.1
  cases hout with
  | skipped ho hr => exact absurd ((hr hno).symm.trans hreach) Bool.false_ne_true
  | counted f l ho _ hquiet =>
    rw [ho]
    refine ⟨fun ha => ⟨ha, Iff.rfl⟩, fun ha => Or.inr ⟨ha, rfl, ?_⟩⟩
    exact (hquiet hno).resolve_right (not_not.mpr ha)
  | claimed f l ho _ ha ht hi => exact absurd hno hi.not_noFail
  | reported f l now mark ho _ ha ht hm =>
    refine ⟨fun ha' => absurd ha ha', fun _ => Or.inl ?_⟩
    rw [ho]
    exact ⟨Option.some_ne_none true, Outage.reported_insert _ _ _ _⟩

/-- What a run of undisturbed hard failures does. -/
theorem hardFailures_of_runs {win : List Handled} (hwin : Runs (Handles cfg m) w win w')
    (hhard : ∀ y ∈ win, y.result.hardFailure = true ∧ NoFail y.trace) :
    ((w.outage m).hash.alerted ≠ none → ((w'.outage m).Reported m ↔ (w.outage m).Reported m)) ∧
    ((w.outage m).hash.alerted = none → win ≠ [] →
      (w.outage m).count + win.length < cfg.failureThreshold ∨ (w'.outage m).Reported m) := by
  -- the flag stays set once it is set; before that every failure is counted
  suffices hkey : (∀ y ∈ win, y.result.hardFailure = true ∧ NoFail y.trace) →
      ((w.outage m).hash.alerted ≠ none →
        (w'.outage m).hash.alerted ≠ none ∧
          ((w'.outage m).Reported m ↔ (w.outage m).Reported m)) ∧
      ((w.outage m).hash.alerted = none →
        ((w'.outage m).hash.alerted ≠ none ∧ (w'.outage m).Reported m) ∨
        (w'.outage m).hash.alerted = none ∧
          (w'.outage m).count = (w.outage m).count + win.length ∧
          (win ≠ [] → (w'.outage m).count < cfg.failureThreshold)) by
    obtain ⟨hset, hunset⟩ := hkey hhard
    refine ⟨fun ha => (hset ha).2, fun ha hne => ?_⟩
    rcases hunset ha with ⟨-, hrep⟩ | ⟨-, hcount, hlt⟩
    · exact Or.inr hrep
    · exact Or.inl (hcount ▸ hlt hne)
  refine hwin.induction (I := fun l t => (∀ y ∈ l, y.result.hardFailure = true ∧ NoFail y.trace) →
    ((w.outage m).hash.alerted ≠ none →
      (t.outage m).hash.alerted ≠ none ∧ ((t.outage m).Reported m ↔ (w.outage m).Reported m)) ∧
    ((w.outage m).hash.alerted = none →
      ((t.outage m).hash.alerted ≠ none ∧ (t.outage m).Reported m) ∨
      (t.outage m).hash.alerted = none ∧ (t.outage m).count = (w.outage m).count + l.length ∧
        (l ≠ [] → (t.outage m).count < cfg.failureThreshold))) ?_ ?_
  · intro _
    exact ⟨fun ha => ⟨ha, Iff.rfl⟩, fun ha => Or.inr ⟨ha, by simp, fun h => absurd rfl h⟩⟩
  · intro l t y u _ ih hy hl
    obtain ⟨hset, hunset⟩ := ih fun z hz => hl z (List.mem_append_left _ hz)
    obtain ⟨hyhard, hyno⟩ := hl y (List.mem_append_right _ (List.mem_singleton_self y))
    obtain ⟨hstepset, hstepunset⟩ := hardFailure_of_handles hy hyhard hyno
    constructor
    · intro ha
      obtain ⟨ht, hrep⟩ := hset ha
      exact ⟨(hstepset ht).1, (hstepset ht).2.trans hrep⟩
    · intro ha
      rcases hunset ha with ⟨ht, hrep⟩ | ⟨ht, hcount, -⟩
      · exact Or.inl ⟨(hstepset ht).1, (hstepset ht).2.mpr hrep⟩
      · rcases hstepunset ht with hu | ⟨hu, hcount', hlt⟩
        · exact Or.inl hu
        · refine Or.inr ⟨hu, ?_, fun _ => hlt⟩
          rw [hcount', hcount, List.length_append, List.length_singleton]
          push_cast
          omega

/-- **An outage is reported exactly when the record is not silenced**, and it is
not as long as no insert is lost and no recovery loses its clean-up. -/
theorem reported_iff_not_silenced {win : List Handled} (hT : 1 ≤ cfg.failureThreshold)
    (h₀ : w₀.Fresh m) (hist : Runs (Handles cfg m) w₀ h w) (hwin : Runs (Handles cfg m) w win w')
    (hlen : (win.length : ℤ) = cfg.failureThreshold)
    (hhard : ∀ y ∈ win, y.result.hardFailure = true ∧ NoFail y.trace) :
    ((w'.outage m).Reported m ↔ ¬ (w.outage m).Silenced m) ∧
      ((∀ y ∈ h, ¬ FailedAt Cmd.isInsert y.trace ∧
          (y.result.success = true → ¬ FailedAt Cmd.isClear y.trace)) →
        ¬ (w.outage m).Silenced m) := by
  have hcount : 0 ≤ (w.outage m).count := by
    refine hist.invariant (I := fun w => 0 ≤ (w.outage m).count) ?_ fun _ _ t u hy ht =>
      count_of_handles hy ht
    rw [Outage.count, World.outage, h₀.hash]
    exact le_refl 0
  obtain ⟨hset, hunset⟩ := hardFailures_of_runs hwin hhard
  constructor
  · by_cases ha : (w.outage m).hash.alerted = none
    · refine iff_of_true ?_ fun hsil => hsil.1 ha
      have hne : win ≠ [] := by
        rintro rfl
        simp at hlen
        omega
      rcases hunset ha hne with hlt | hrep
      · omega
      · exact hrep
    · rw [hset ha, Outage.Silenced, not_and_not_right]
      exact ⟨fun hrep _ => hrep, fun hrep => hrep ha⟩
  · intro hclean
    refine hist.invariant (I := fun w => ¬ (w.outage m).Silenced m) ?_ ?_
    · rintro ⟨ha, -⟩
      rw [World.outage, h₀.hash] at ha
      exact ha rfl
    · exact fun y hy t u hstep ht =>
        not_silenced_of_handles hstep (hclean y hy).1 (hclean y hy).2 ht

/-- The third failure claims the alert flag, and its insert is lost. -/
def Sample.lostInsert : List (HTTPResult × List Env) :=
  [(failing, []), (failing, []), (failing, failAt 5)]

/-- Three undisturbed failures. -/
def Sample.threeFailures : List (HTTPResult × List Env) :=
  [(failing, []), (failing, []), (failing, [])]

/-- After a lost insert, three undisturbed failures are not reported. -/
theorem outage_silenced_by_lost_insert :
    ¬ ∀ (w₀ w w' : World) (h win : List Handled), w₀.Fresh 1 →
      Runs (Handles Config.default.resultProcessor 1) w₀ h w →
      Runs (Handles Config.default.resultProcessor 1) w win w' →
      (win.length : ℤ) = Config.default.resultProcessor.failureThreshold →
      (∀ y ∈ win, y.result.hardFailure = true ∧ 100 ≤ y.result.status ∧ y.result.status ≤ 599 ∧
        NoFail y.trace) →
      (w'.outage 1).Reported 1 := by
  intro hclaim
  have hwin := runs_replay (m := 1) Config.default.resultProcessor
    Sample.threeFailures (by decide) (Sample.after Sample.lostInsert).2
  have hrep := hclaim _ _ _ _ _ Sample.fresh_world (Sample.runs_after Sample.lostInsert (by decide))
    hwin (by decide) (by decide)
  exact absurd hrep (by decide)

/-- A failure and a recovery, then an outage: with nothing lost, it is reported. -/
theorem reported_iff_not_silenced_sample :
    let y := Sample.after [(Sample.failing, []), (Sample.passing, [])]
    let z := replay Config.default.resultProcessor Sample.threeFailures y.2
    ((z.2.outage 1).Reported 1 ↔ ¬ (y.2.outage 1).Silenced 1) ∧
      ((∀ x ∈ y.1, ¬ FailedAt Cmd.isInsert x.trace ∧
          (x.result.success = true → ¬ FailedAt Cmd.isClear x.trace)) →
        ¬ (y.2.outage 1).Silenced 1) :=
  reported_iff_not_silenced (by decide) Sample.fresh_world (Sample.runs_after _ (by decide))
    (runs_replay _ _ (by decide) _) (by decide) (by decide)

end Sofon
