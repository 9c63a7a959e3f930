import Sofon.Result.History

/-!
# The alert trace of one monitor

When no command fails, the alerts of a monitor tell its outages and nothing else:
`DOWN` and `RECOVERED` take turns, each recovery names the incident of the `DOWN`
before it, and an incident is open exactly while the last alert is a `DOWN`.

The state of a history is one number, the failures counted since the last success
(`streak`).  Below the threshold the record is `Quiet`: no hash with a flag, no open row.  From
the threshold on it is `Down`: there is one open incident, marked in the hash and known by the
id of the last `DOWN`.  `Tracks` ties the number, the hash, the table and the alerts together.

* A success ends the streak (`tracks_of_success`).  From `Down` it closes the row and sends the
  `RECOVERED` with its id; from `Quiet` it sends nothing.
* A failure that is only retried leaves all four as they are, and one that is counted adds one
  to the streak (`tracks_of_failure`).  The `DOWN` goes out when the streak reaches the
  threshold and at no later failure, as the flag is set by then.
* `tracks_of_handles` is the two together, the step lemma from which everything else follows.

`tracks_of_runs` is the induction along the history; `alert_trace` reads from it that alerts
alternate, what they name, at which results they are sent, and what is open at the end.
-/

namespace Sofon

open Interleaving Transition

variable {cfg : ResultProcessorConfig} {m : UUID} {w₀ w w' : World} {h : List Handled} {x : Handled}

/-- The alerts of a history. -/
def emitted (h : List Handled) : List AlertEvent := h.flatMap fun x => alerts x.trace

/-- `DOWN` and `RECOVERED` take turns, and a `RECOVERED` has the id of the `DOWN`
before it.  The two outer arguments are the id of the outage that is open before
and after. -/
def Alternates : Option UUID → List AlertEvent → Option UUID → Prop
  | down, [], down' => down' = down
  | none, ev :: evs, down' => ev.type = .down ∧ Alternates (some ev.incidentID) evs down'
  | some id, ev :: evs, down' =>
    ev.type = .recovered ∧ ev.incidentID = id ∧ Alternates none evs down'

theorem Alternates.append {a b c : Option UUID} {l l' : List AlertEvent} (h : Alternates a l b)
    (h' : Alternates b l' c) : Alternates a (l ++ l') c := by
  induction l generalizing a with
  | nil =>
    obtain rfl : b = a := by
      cases a <;> exact h
    exact h'
  | cons ev evs ih =>
    cases a with
    | none => exact ⟨h.1, ih h.2⟩
    | some id => exact ⟨h.1, h.2.1, ih h.2.2⟩

/-- The failures that reached `IncrementIncident` since the last success. -/
def streak (m : UUID) (h : List Handled) : ℤ :=
  h.foldl (fun n x => if x.result.success then 0 else if Reached m x.trace then n + 1 else n) 0

theorem streak_snoc (m : UUID) (h : List Handled) (x : Handled) :
    streak m (h ++ [x]) =
      if x.result.success then 0 else if Reached m x.trace then streak m h + 1 else streak m h := by
  simp [streak]

/-- The trace has an alert of this type. -/
def Emits (type : AlertType) (tr : List Call) : Prop := ∃ ev ∈ alerts tr, ev.type = type

/-- A `DOWN` was sent, and no success has come since. -/
def DownSince (h : List Handled) : Prop :=
  ∃ before x after, h = before ++ x :: after ∧ Emits .down x.trace ∧
    ∀ y ∈ after, y.result.success = false

theorem downSince_snoc_of_success (hs : x.result.success = true) (hx : ¬ Emits .down x.trace) :
    ¬ DownSince (h ++ [x]) := by
  rintro ⟨before, y, after, heq, hy, hafter⟩
  induction after using List.reverseRecOn with
  | nil =>
    obtain ⟨-, hlast⟩ := List.append_inj' heq rfl
    rw [List.singleton_inj] at hlast
    exact hx (hlast ▸ hy)
  | append_singleton after z _ =>
    rw [← List.cons_append, ← List.append_assoc] at heq
    obtain ⟨-, hlast⟩ := List.append_inj' heq rfl
    rw [List.singleton_inj] at hlast
    have hfalse := hafter z (List.mem_append_right _ (List.mem_singleton_self z))
    rw [← hlast, hs] at hfalse
    cases hfalse

theorem downSince_snoc_of_failure (hs : x.result.success = false) :
    DownSince (h ++ [x]) ↔ DownSince h ∨ Emits .down x.trace := by
  constructor
  · rintro ⟨before, y, after, heq, hy, hafter⟩
    induction after using List.reverseRecOn with
    | nil =>
      obtain ⟨-, hlast⟩ := List.append_inj' heq rfl
      rw [List.singleton_inj] at hlast
      exact Or.inr (hlast ▸ hy)
    | append_singleton after z _ =>
      rw [← List.cons_append, ← List.append_assoc] at heq
      obtain ⟨hinit, -⟩ := List.append_inj' heq rfl
      refine Or.inl ⟨before, y, after, hinit, hy, fun u hu => ?_⟩
      exact hafter u (List.mem_append_left _ hu)
  · rintro (⟨before, y, after, rfl, hy, hafter⟩ | hx)
    · refine ⟨before, y, after ++ [x], by simp, hy, fun u hu => ?_⟩
      rcases List.mem_append.mp hu with hu | hu
      · exact hafter u hu
      · rw [List.mem_singleton.mp hu]
        exact hs
    · exact ⟨h, x, [], rfl, hx, by simp⟩

/-- The record below the threshold. -/
structure Quiet (m : UUID) (h : List Handled) (o : Outage) : Prop where
  rows : o.db.openIncidents m = []
  alerted : o.hash.alerted = none
  unmarked : o.hash.dbIncident = none
  alerts : Alternates none (emitted h) none
  recovered : ¬ DownSince h

/-- The record from the threshold on, with the incident of the outage. -/
structure Down (m : UUID) (h : List Handled) (o : Outage) (row : IncidentRow) : Prop where
  rows : o.db.openIncidents m = [row]
  id : row.id ≠ UUID.nil
  alerted : o.hash.alerted ≠ none
  marked : o.hash.dbIncident = some true
  alerts : Alternates none (emitted h) (some row.id)
  down : DownSince h

/-- The record tells the history. -/
structure Tracks (cfg : ResultProcessorConfig) (m : UUID) (h : List Handled) (o : Outage) :
    Prop where
  count : o.hash.failureCount.getD 0 = streak m h
  unrecovered : o.hash.recoveredAlerted = none
  ids : 0 < o.db.nextID
  phase : (streak m h < cfg.failureThreshold ∧ Quiet m h o) ∨
    cfg.failureThreshold ≤ streak m h ∧ ∃ row, Down m h o row

/-- The alerts of a handler run are what it added to the history of `alertChan`. -/
theorem alerts_of_handles (hx : Handles cfg m w x w') :
    (w'.outage m).sent = (w.outage m).sent ++ alerts x.trace := sent_of_exec hx.2

theorem emitted_snoc (h : List Handled) (x : Handled) :
    emitted (h ++ [x]) = emitted h ++ alerts x.trace := by
  simp [emitted]

theorem not_emits_of_nil {type : AlertType} {tr : List Call} (h : alerts tr = []) :
    ¬ Emits type tr := by
  rintro ⟨ev, hev, -⟩
  rw [h] at hev
  cases hev

theorem emits_of_singleton {type : AlertType} {tr : List Call} {ev : AlertEvent}
    (h : alerts tr = [ev]) : Emits type tr ↔ ev.type = type := by
  simp [Emits, h]

/-- A success that leaves nothing open and no hash leaves the record quiet. -/
theorem Tracks.of_success {o : Outage} (hs : x.result.success = true)
    (hT : 1 ≤ cfg.failureThreshold)
    (hhash : o.hash = .absent) (hrows : o.db.openIncidents m = []) (hids : 0 < o.db.nextID)
    (hdown : ¬ Emits .down x.trace) (halt : Alternates none (emitted (h ++ [x])) none) :
    Tracks cfg m (h ++ [x]) o := by
  have hstreak : streak m (h ++ [x]) = 0 := by rw [streak_snoc, if_pos hs]
  have hrec := downSince_snoc_of_success (h := h) hs hdown
  refine ⟨?_, ?_, hids, Or.inl ⟨by omega, ⟨hrows, ?_, ?_, halt, hrec⟩⟩⟩
  · rw [hhash, hstreak]
    rfl
  all_goals
    rw [hhash]
    rfl

/-- What one more success does to the record, and when it sends a recovery. -/
theorem tracks_of_success {o o' : Outage} (hs : x.result.success = true)
    (hout : SuccessOutcome x.result o x.trace o') (hsent : o'.sent = o.sent ++ alerts x.trace)
    (hno : NoFail x.trace) (hT : 1 ≤ cfg.failureThreshold)
    (hw : Tracks cfg x.result.monitorID h o) :
    Tracks cfg x.result.monitorID (h ++ [x]) o' ∧ ¬ Emits .down x.trace ∧
      (Emits .recovered x.trace ↔ DownSince h) := by
  have hnil : o'.sent = o.sent → alerts x.trace = [] := fun hsame => by
    rw [hsame] at hsent
    exact List.self_eq_append_right.mp hsent
  -- with nothing sent, a quiet record stays quiet
  have hquiet : Quiet x.result.monitorID h o → o'.hash = .absent → o'.db = o.db →
      o'.sent = o.sent → Tracks cfg x.result.monitorID (h ++ [x]) o' ∧
        ¬ Emits .down x.trace ∧ (Emits .recovered x.trace ↔ DownSince h) := by
    intro hq hhash hdb hsame
    have halerts := hnil hsame
    refine ⟨?_, not_emits_of_nil halerts, ?_⟩
    · refine Tracks.of_success hs hT hhash ?_ ?_ (not_emits_of_nil halerts) ?_
      · rw [hdb]
        exact hq.rows
      · rw [hdb]
        exact hw.ids
      · rw [emitted_snoc, halerts, List.append_nil]
        exact hq.alerts
    · exact iff_of_false (not_emits_of_nil halerts) hq.recovered
  cases hout with
  | kept ho hq =>
    have habsent := hq hno
    rcases hw.phase with ⟨-, hquiet'⟩ | ⟨-, row, hdown⟩
    · rw [ho] at hquiet ⊢
      exact hquiet hquiet' habsent rfl rfl
    · exact absurd (congrArg IncidentHash.alerted habsent) hdown.alerted
  | dropped ho hrows =>
    rcases ho with ho | ⟨-, hf⟩
    · rcases hw.phase with ⟨-, hquiet'⟩ | ⟨-, row, hdown⟩
      · rw [ho] at hquiet ⊢
        exact hquiet hquiet' rfl rfl rfl
      · have hempty := hrows hdown.marked
        rw [hdown.rows] at hempty
        cases hempty
    · exact absurd hno hf.not_noFail
  | closed row rows t hash ra evs ho hopen hd hh hevs =>
    rcases hw.phase with ⟨-, hquiet'⟩ | ⟨-, row', hdown⟩
    · rw [hquiet'.unmarked] at hd
      cases hd
    · rw [hdown.rows] at hopen
      obtain ⟨rfl, -⟩ := List.cons.inj hopen
      have habsent : hash = .absent := hh.resolve_right fun hf => hf.2.not_noFail hno
      have halerts : alerts x.trace = evs := by
        rw [ho] at hsent
        exact (List.append_cancel_left hsent).symm
      rcases hevs with ⟨-, hsilent⟩ | ⟨hevs, -⟩
      · rcases hsilent hno with hnil' | hset
        · exact absurd hnil' hdown.id
        · exact absurd hw.unrecovered hset
      · rw [hevs] at halerts
        have hnodown : ¬ Emits .down x.trace := by
          rw [emits_of_singleton halerts]
          exact nofun
        refine ⟨?_, hnodown, iff_of_true ((emits_of_singleton halerts).mpr rfl) hdown.down⟩
        rw [ho]
        refine Tracks.of_success hs hT habsent ?_ hw.ids hnodown ?_
        · exact Outage.openIncidents_closeAll _ _ (o.withHash hash)
        · rw [emitted_snoc, halerts]
          exact hdown.alerts.append ⟨rfl, rfl, rfl⟩

/-- What one more failure does to the record, and when it sends a `DOWN`. -/
theorem tracks_of_failure {o o' : Outage} (hs : x.result.success = false)
    (hout : FailureOutcome cfg x.result o x.trace o') (hsent : o'.sent = o.sent ++ alerts x.trace)
    (hno : NoFail x.trace) (hw : Tracks cfg x.result.monitorID h o) :
    Tracks cfg x.result.monitorID (h ++ [x]) o' ∧ ¬ Emits .recovered x.trace ∧
      (Emits .down x.trace ↔ Reached x.result.monitorID x.trace = true ∧
        streak x.result.monitorID h + 1 = cfg.failureThreshold) := by
  have hstreak := streak_snoc x.result.monitorID h x
  rw [hs, if_neg Bool.false_ne_true] at hstreak
  -- a failure that sends nothing leaves a quiet record quiet and an open one open
  have hquiet : ∀ o'' : Outage, o''.db = o.db → o''.hash.alerted = o.hash.alerted →
      o''.hash.dbIncident = o.hash.dbIncident → alerts x.trace = [] →
      (Quiet x.result.monitorID h o → Quiet x.result.monitorID (h ++ [x]) o'') ∧
        ∀ row, Down x.result.monitorID h o row → Down x.result.monitorID (h ++ [x]) o'' row := by
    intro o'' hdb ha hd halerts
    have hsince : DownSince (h ++ [x]) ↔ DownSince h := by
      rw [downSince_snoc_of_failure hs, or_iff_left (not_emits_of_nil halerts)]
    constructor
    · rintro ⟨rows, alerted, unmarked, halt, hrec⟩
      refine ⟨hdb ▸ rows, ha.trans alerted, hd.trans unmarked, ?_, hsince.not.mpr hrec⟩
      rwa [emitted_snoc, halerts, List.append_nil]
    · rintro row ⟨rows, id, alerted, marked, halt, hdown⟩
      refine ⟨hdb ▸ rows, id, ha ▸ alerted, hd.trans marked, ?_, hsince.mpr hdown⟩
      rwa [emitted_snoc, halerts, List.append_nil]
  have hnil : o'.sent = o.sent → alerts x.trace = [] := fun hsame => by
    rw [hsame] at hsent
    exact List.self_eq_append_right.mp hsent
  cases hout with
  | skipped ho hr =>
    have halerts := hnil (congrArg Outage.sent ho)
    rw [hr hno, if_neg Bool.false_ne_true] at hstreak
    refine ⟨?_, not_emits_of_nil halerts, iff_of_false (not_emits_of_nil halerts) ?_⟩
    · obtain ⟨hq, hd⟩ := hquiet o rfl rfl rfl halerts
      rw [ho]
      refine ⟨hw.count.trans hstreak.symm, hw.unrecovered, hw.ids, ?_⟩
      rw [hstreak]
      exact hw.phase.imp (fun hp => ⟨hp.1, hq hp.2⟩) fun hp => ⟨hp.1, hp.2.imp hd⟩
    · rw [hr hno]
      exact fun hreach => Bool.false_ne_true hreach.1
  | counted f l ho hr hsmall =>
    have halerts := hnil (by rw [ho, Outage.withHash_sent])
    have hnext : o.nextCount = streak x.result.monitorID h + 1 := by
      rw [Outage.nextCount, hw.count]
    rw [hr, if_pos rfl] at hstreak
    obtain ⟨hq, hd⟩ := hquiet (o.withHash (o.counted f l)) rfl rfl rfl halerts
    rw [ho]
    refine ⟨⟨hnext.trans hstreak.symm, hw.unrecovered, hw.ids, ?_⟩, not_emits_of_nil halerts,
      iff_of_false (not_emits_of_nil halerts) ?_⟩
    · rcases hw.phase with ⟨-, hp⟩ | ⟨hT, row, hp⟩
      · have hlt := (hsmall hno).resolve_right (not_not.mpr hp.alerted)
        exact Or.inl ⟨by omega, hq hp⟩
      · exact Or.inr ⟨by omega, row, hd row hp⟩
    · rintro ⟨-, heq⟩
      rcases hw.phase with ⟨-, hp⟩ | ⟨hT, row, hp⟩
      · have hlt := (hsmall hno).resolve_right (not_not.mpr hp.alerted)
        omega
      · omega
  | claimed f l ho hr ha ht hi => exact absurd hno hi.not_noFail
  | reported f l now mark ho hr ha ht hm =>
    have hmark : mark = some true := hm.resolve_right fun hf => hf.2.not_noFail hno
    have hnext : o.nextCount = streak x.result.monitorID h + 1 := by
      rw [Outage.nextCount, hw.count]
    rw [hr, if_pos rfl] at hstreak
    rcases hw.phase with ⟨hlt, hp⟩ | ⟨-, row, hp⟩
    · have halerts : alerts x.trace = [ResultProcessor.downEvent o.db.nextID x.result] := by
        rw [ho] at hsent
        exact (List.append_cancel_left hsent).symm
      have hdown : Emits .down x.trace := (emits_of_singleton halerts).mpr rfl
      refine ⟨⟨?_, ?_, ?_,
        Or.inr ⟨by omega, .opened o.db.nextID now x.result, ?_, ?_, ?_, ?_, ?_, ?_⟩⟩,
        ?_, iff_of_true hdown ⟨hr, by omega⟩⟩
      · rw [ho]
        exact hnext.trans hstreak.symm
      · rw [ho]
        exact hw.unrecovered
      · rw [ho]
        exact Nat.succ_pos _
      · rw [ho]
        show ((o.withHash _).insert _).db.openIncidents _ = _
        rw [Outage.openIncidents_insert, Outage.withHash_db, hp.rows]
        simp [IncidentRow.openFor_opened]
      · exact hw.ids.ne'
      · rw [ho]
        exact Option.some_ne_none true
      · rw [ho]
        exact hmark
      · rw [emitted_snoc, halerts]
        exact hp.alerts.append ⟨rfl, rfl⟩
      · exact (downSince_snoc_of_failure hs).mpr (Or.inr hdown)
      · rw [emits_of_singleton halerts]
        exact nofun
    · exact absurd ha hp.alerted

/-- **What one more result does**, and when it sends which alert. -/
theorem tracks_of_handles (hx : Handles cfg m w x w') (hno : NoFail x.trace)
    (hT : 1 ≤ cfg.failureThreshold) (hw : Tracks cfg m h (w.outage m)) :
    Tracks cfg m (h ++ [x]) (w'.outage m) ∧
      (Emits .down x.trace ↔ x.result.success = false ∧ Reached m x.trace = true ∧
        streak m h + 1 = cfg.failureThreshold) ∧
      (Emits .recovered x.trace ↔ x.result.success = true ∧ DownSince h) := by
  have hsent := alerts_of_handles hx
  obtain rfl := hx.1
  rcases handles_cases hx with ⟨hs, hout⟩ | ⟨hs, hout⟩
  · obtain ⟨htracks, hdown, hrec⟩ := tracks_of_success hs hout hsent hno hT hw
    refine ⟨htracks, iff_of_false hdown ?_, ?_⟩
    · rw [hs]
      exact fun hfalse => nomatch hfalse.1
    · rw [hrec]
      exact ⟨fun hsince => ⟨hs, hsince⟩, fun hboth => hboth.2⟩
  · obtain ⟨htracks, hrec, hdown⟩ := tracks_of_failure hs hout hsent hno hw
    refine ⟨htracks, ?_, iff_of_false hrec ?_⟩
    · rw [hdown]
      exact ⟨fun hcount => ⟨hs, hcount⟩, fun hall => hall.2⟩
    · rw [hs]
      exact fun htrue => nomatch htrue.1

/-- A record about which nothing is known tells the empty history. -/
theorem tracks_of_fresh (h₀ : w₀.Fresh m) (hT : 1 ≤ cfg.failureThreshold) :
    Tracks cfg m [] (w₀.outage m) := by
  have hhash : (w₀.outage m).hash = .absent := h₀.hash
  have hquiet : Quiet m [] (w₀.outage m) := by
    refine ⟨h₀.rows, ?_, ?_, rfl, ?_⟩
    · rw [hhash]
      rfl
    · rw [hhash]
      rfl
    · rintro ⟨before, x, after, heq, -⟩
      simp at heq
  have hzero : streak m [] = 0 := rfl
  refine ⟨?_, ?_, h₀.ids, Or.inl ⟨by omega, hquiet⟩⟩
  · rw [hhash]
    rfl
  · rw [hhash]
    rfl

/-- The record tells every undisturbed history. -/
theorem tracks_of_runs (hT : 1 ≤ cfg.failureThreshold) (h₀ : w₀.Fresh m)
    (hist : Runs (Handles cfg m) w₀ h w) (hno : ∀ x ∈ h, NoFail x.trace) :
    Tracks cfg m h (w.outage m) := by
  refine hist.induction (I := fun l t => (∀ x ∈ l, NoFail x.trace) → Tracks cfg m l (t.outage m))
    (fun _ => tracks_of_fresh h₀ hT) ?_ hno
  intro l t x u _ ih hx hl
  have hlast := hl x (List.mem_append_right _ (List.mem_singleton_self x))
  exact (tracks_of_handles hx hlast hT (ih fun y hy => hl y (List.mem_append_left _ hy))).1

/-- **The alert trace of one monitor.**  As long as no call fails, its alerts alternate between down
and recovered; an alert that it is down goes out with the failure that makes the streak as long as
the threshold, and one that it is up again with the first success after that; and the database has
an open incident exactly while the hash is marked. -/
theorem alert_trace (hT : 1 ≤ cfg.failureThreshold) (h₀ : w₀.Fresh m)
    (hist : Runs (Handles cfg m) w₀ h w) (hno : ∀ x ∈ h, NoFail x.trace) :
    (∃ down, Alternates none (emitted h) down) ∧
      (∀ before x after, h = before ++ x :: after →
        (Emits .down x.trace ↔ x.result.success = false ∧ Reached m x.trace = true ∧
          streak m before + 1 = cfg.failureThreshold) ∧
        (Emits .recovered x.trace ↔ x.result.success = true ∧ DownSince before)) ∧
      (w.db.openIncidents m).length =
        if (w.redis.incident m).dbIncident = some true then 1 else 0 := by
  have htracks := tracks_of_runs hT h₀ hist hno
  refine ⟨?_, ?_, ?_⟩
  · rcases htracks.phase with ⟨-, hq⟩ | ⟨-, row, hd⟩
    · exact ⟨_, hq.alerts⟩
    · exact ⟨_, hd.alerts⟩
  · rintro before x after rfl
    obtain ⟨t, t', hbefore, hx, -⟩ := hist.at
    have hpast := tracks_of_runs hT h₀ hbefore fun y hy => hno y (List.mem_append_left _ hy)
    exact (tracks_of_handles hx (hno x (by simp)) hT hpast).2
  · show ((w.outage m).db.openIncidents m).length =
      if (w.outage m).hash.dbIncident = some true then 1 else 0
    rcases htracks.phase with ⟨-, hq⟩ | ⟨-, row, hd⟩
    · rw [hq.rows, hq.unmarked]
      rfl
    · rw [hd.rows, hd.marked]
      rfl

/-- Three failures, a time-out that is retried, a recovery. -/
theorem alert_trace_sample :
    let y := Sample.after [(Sample.failing, []), (Sample.failing, []), (Sample.failing, []),
      (Sample.hanging, []), (Sample.passing, [])]
    (∃ down, Alternates none (emitted y.1) down) ∧
      (∀ before x after, y.1 = before ++ x :: after →
        (Emits .down x.trace ↔ x.result.success = false ∧ Reached 1 x.trace = true ∧
          streak 1 before + 1 = Config.default.resultProcessor.failureThreshold) ∧
        (Emits .recovered x.trace ↔ x.result.success = true ∧ DownSince before)) ∧
      (y.2.db.openIncidents 1).length =
        if (y.2.redis.incident 1).dbIncident = some true then 1 else 0 :=
  alert_trace (by decide) Sample.fresh_world (Sample.runs_after _ (by decide)) (by decide)

end Sofon
