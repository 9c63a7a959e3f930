import Sofon.Pipeline.Loop

/-!
# The schedule after the signal

The signal cancels the context that the scheduler, the executor and the result
processor make their calls with, so from then on none of their calls reaches
Redis.  "ALWAYS re-schedule at last" and "100% Re-schedule" are promises that a
handler can keep only before the signal.

`schedule_of_canceled` says it of one call.  `scheduled_step` says it of one step: whether a
monitor is scheduled changes by calls of requests only, as requests have a context of their own.
Over the run from the signal on, a monitor that no request moves is in the schedule at the end if
and only if it was there when the signal came (`scheduled_after_signal`).

The monitors that the promises are about are the `Tracked` ones: enabled and in the loop at the
signal, with no terminal result and no request for them later on.  A shutdown keeps all of them
exactly when all of them are in the schedule at the signal (`shutdown_keeps_iff`).  The condition
is about the state at the signal and nothing after it, since after it nothing can be done.  A
monitor that is being checked then is lost (`monitor_lost_at_shutdown`).
-/

namespace Sofon

open Interleaving Program Transition

/-- The command moves the entry of `m`. -/
def Cmd.touches (m : UUID) : Cmd → Bool
  | redis (.zAdd items) => m ∈ ids items
  | redis (.zPopMin _) => true
  | redis (.zRem member) => member = .id m
  | _ => false

/-- The step is no call of a request that moves the entry of `m`. -/
def Label.LeavesEntry (m : UUID) : Label → Prop
  | call (.request _) e => e.cmd.touches m = false
  | _ => True

instance (m : UUID) : DecidablePred (Label.LeavesEntry m)
  | .call (.request _) e => inferInstanceAs (Decidable (e.cmd.touches m = false))
  | .call .doWork _ => inferInstanceAs (Decidable True)
  | .call (.startWork _) _ => inferInstanceAs (Decidable True)
  | .call (.handle _ _) _ => inferInstanceAs (Decidable True)
  | .silent => inferInstanceAs (Decidable True)
  | .returned _ => inferInstanceAs (Decidable True)
  | .arrive _ => inferInstanceAs (Decidable True)
  | .main _ => inferInstanceAs (Decidable True)

/-- The call failed although its context was live. -/
def Call.broken : Call → Bool
  | ⟨.redis _, .error err⟩ => err = .unavailable
  | ⟨.sql _, .error err⟩ => err = .unavailable
  | _ => false

/-- Redis and the database work: a call fails only for its context. -/
def Label.Works : Label → Prop
  | call _ e => e.broken = false
  | _ => True

instance : DecidablePred Label.Works
  | .call _ e => inferInstanceAs (Decidable (e.broken = false))
  | .silent => inferInstanceAs (Decidable True)
  | .returned _ => inferInstanceAs (Decidable True)
  | .arrive _ => inferInstanceAs (Decidable True)
  | .main _ => inferInstanceAs (Decidable True)

instance (m : UUID) : DecidablePred (Task.Stops m)
  | .handle ok r => inferInstanceAs (Decidable (ok = false ∧ r.terminal = true ∧ r.monitorID = m))
  | .doWork => inferInstanceAs (Decidable False)
  | .startWork _ => inferInstanceAs (Decidable False)
  | .request _ => inferInstanceAs (Decidable False)

instance (m : UUID) : DecidablePred (Label.Stops m)
  | .returned task => inferInstanceAs (Decidable (task.Stops m))
  | .silent => inferInstanceAs (Decidable False)
  | .call _ _ => inferInstanceAs (Decidable False)
  | .arrive _ => inferInstanceAs (Decidable False)
  | .main _ => inferInstanceAs (Decidable False)

variable {m : UUID} {cfg : Config}

/-- **With a cancelled context nothing reaches the schedule.** -/
theorem schedule_of_canceled {b : Bool} {w w' : World} {c : Cmd} {r : c.Resp} (hb : b = true)
    (h : Interpreter (World.exec b) w c r w') : w'.redis.schedule = w.redis.schedule := by
  subst hb
  obtain ⟨e, he⟩ := h
  have hw : w' = (World.exec true e w c).2 := (congrArg Prod.snd he).symm
  rw [hw]
  cases c <;> rfl

/-- A call that leaves the entry of `m` where it is. -/
theorem scheduled_of_live {w w' : World} {c : Cmd} {r : c.Resp} (h : World.Live w c r w')
    (hc : c.touches m = false) : w'.Scheduled m ↔ w.Scheduled m := by
  obtain ⟨ks, rfl | ⟨c, rfl, rfl⟩ | ⟨q, now, rfl, rfl⟩ | ⟨ev, rfl, rfl⟩⟩ := World.live_cases h
  · exact Iff.rfl
  · cases c with
    | zAdd items =>
      have hout : m ∉ ids items := of_decide_eq_false hc
      show Member.id m ∈ (w.redis.schedule.add items).members ↔ _
      rw [KeyValue.SortedSet.mem_members_add, ← mem_ids]
      exact or_iff_right hout
    | zPopMin n => cases hc
    | zRem member =>
      have hne : member ≠ .id m := of_decide_eq_false hc
      show Member.id m ∈ (w.redis.schedule.remove member).members ↔ _
      rw [KeyValue.SortedSet.mem_members_remove]
      exact and_iff_left hne.symm
    | hSetNXAlerted m' | hSetNXRecoveredAlerted m' =>
      simp only [World.Scheduled, Redis.exec]
      split <;> exact Iff.rfl
    | _ => exact Iff.rfl
  · exact Iff.rfl
  · exact Iff.rfl

/-- **A step after the signal** leaves a monitor in or out of the schedule, unless it
is a call of a request. -/
theorem scheduled_step {s t : System} {x : Label} (h : System.Step cfg s x t)
    (hsig : s.shared.cancelled = true) (hx : x.LeavesEntry m) :
    t.shared.cancelled = true ∧ (t.shared.world.Scheduled m ↔ s.shared.world.Scheduled m) := by
  cases h with
  | proc hlive hi h =>
    refine ⟨?_, ?_⟩
    · rw [Shared.cancelled, h.frame.1]
      exact hsig
    · cases h with
      | @call _ task c k r log h =>
        rcases Shared.serves_world h with hw | hw
        · rw [hw]
        · cases task with
          | request req => exact scheduled_of_live hw hx
          | doWork | startWork m' | handle ok r' =>
            rw [World.Scheduled, World.Scheduled, schedule_of_canceled hsig hw]
      | @ret task p log => cases task <;> exact Iff.rfl
      | _ => exact Iff.rfl
  | router hlive h =>
    obtain ⟨hworld, hmain, -⟩ := custody_router h
    rw [Shared.cancelled, hmain, hworld]
    exact ⟨hsig, Iff.rfl⟩
  | main hlive h =>
    cases h with
    | signal hm => exact ⟨rfl, Iff.rfl⟩
    | _ => exact ⟨rfl, Iff.rfl⟩
  | arrive => exact ⟨hsig, Iff.rfl⟩

/-- **After the signal** a monitor is scheduled if and only if it was scheduled when
the signal came. -/
theorem scheduled_after_signal {s t : System} {l : List Label} (h : Runs (System.Step cfg) s l t)
    (hsig : s.shared.cancelled = true) (hl : ∀ x ∈ l, x.LeavesEntry m) :
    t.shared.world.Scheduled m ↔ s.shared.world.Scheduled m := by
  refine (h.invariant (I := fun u => u.shared.cancelled = true ∧
    (u.shared.world.Scheduled m ↔ s.shared.world.Scheduled m)) ⟨hsig, Iff.rfl⟩ ?_).2
  rintro x hx u v hstep ⟨hu, hiff⟩
  obtain ⟨hv, hiff'⟩ := scheduled_step hstep hu (hl x hx)
  exact ⟨hv, hiff'.trans hiff⟩

/-- The monitor is enabled and in the loop in `s`, and in the run from there neither a
terminal result of it is handled nor a request moves its entry. -/
def Tracked (s : System) (l : List Label) (m : UUID) : Prop :=
  s.shared.world.db.Enabled m ∧ s.InLoop m ∧ ∀ x ∈ l, ¬ x.Stops m ∧ x.LeavesEntry m

/-- **A shutdown keeps the monitors of the loop if and only if all of them are in the
schedule when the signal comes.** -/
theorem shutdown_keeps_iff {s t : System} {l : List Label} (h : Runs (System.Step cfg) s l t)
    (hsig : s.shared.main = .signalled) :
    (∀ m, Tracked s l m → t.shared.world.Scheduled m) ↔
      ∀ m, Tracked s l m → s.shared.world.Scheduled m := by
  have hcancelled : s.shared.cancelled = true := by
    rw [Shared.cancelled, hsig]
    rfl
  refine forall_congr' fun m => imp_congr_right fun hm => ?_
  exact scheduled_after_signal h hcancelled fun x hx => (hm.2.2 x hx).2

namespace Sample

/-- The handlers and the alert workers leave, and `main` returns. -/
def workersLeave : List Move :=
  (List.range 10).map (fun i => Move.proc (i + 6) default) ++ [Move.main, Move.main] ++
    (List.range 5).map (fun i => Move.proc (i + 16) default) ++ [Move.main]

/-- The signal comes, the goroutines `running` get to the end, and `main` shuts
everything down. -/
def shutDown (running : List Move) : List Move :=
  running ++ List.replicate 4 Move.main ++ List.replicate 3 Move.router ++ workersLeave

/-- The check that was under way, the router and the handler. -/
def checkEnds : List Move := moves 21 4 ++ [.router, .router] ++ moves 6 8

/-- Nothing befalls the sample monitor but the pipeline. -/
def undisturbed (_ : System) (x : Label) : Bool :=
  decide x.Works && (!decide (x.Stops 1) && decide (x.LeavesEntry 1))

theorem tracked_of_undisturbed {s t : System} {l : List Label}
    (h : Runs (fun s x t => System.Step .least s x t ∧ undisturbed s x = true) s l t)
    (hen : s.shared.world.db.Enabled 1) (hin : s.InLoop 1) : Tracked s l 1 := by
  refine ⟨hen, hin, h.forall_label fun _ x _ hx => ?_⟩
  obtain ⟨-, hrest⟩ := Bool.and_eq_true_iff.mp hx.2
  obtain ⟨hstop, hentry⟩ := Bool.and_eq_true_iff.mp hrest
  exact ⟨of_decide_eq_false (Bool.not_eq_true' _ ▸ hstop), of_decide_eq_true hentry⟩

end Sample

/-- The signal comes while the scheduler waits for its tick: nothing is lost. -/
theorem shutdown_keeps_iff_sample :
    ∃ s t : System, ∃ l : List Label, (t.shared.main = .returned ∧ Tracked s l 1) ∧
      ((∀ m, Tracked s l m → t.shared.world.Scheduled m) ↔
        ∀ m, Tracked s l m → s.shared.world.Scheduled m) := by
  have hplay : (System.play .least (fun _ _ => true) [.main] (.boot .least Sample.scheduled)).any
      (fun s => decide (s.shared.main = .signalled) && (decide (s.shared.world.db.Enabled 1) &&
        (decide (s.InLoop 1) &&
        (System.play .least Sample.undisturbed (Sample.shutDown []) s).any fun t =>
          decide (t.shared.main = .returned)))) := by decide
  obtain ⟨s, -, hcheck⟩ := (Option.any_eq_true _ _).mp hplay
  simp only [Bool.and_eq_true, decide_eq_true_eq] at hcheck
  obtain ⟨hsig, hen, hin, hrest⟩ := hcheck
  obtain ⟨t, ht, hret⟩ := (Option.any_eq_true _ _).mp hrest
  obtain ⟨l, hl⟩ := System.runs_of_play ht
  have htracked := Sample.tracked_of_undisturbed hl hen hin
  refine ⟨s, t, l, ⟨of_decide_eq_true hret, htracked⟩, ?_⟩
  exact shutdown_keeps_iff (hl.mono fun _ _ _ h => h.1) hsig

/-- A monitor that is being checked when the signal comes is lost. -/
theorem monitor_lost_at_shutdown :
    ¬ ∀ (cfg : Config) (w : World) (s t : System) (l l' : List Label), cfg.Valid →
      (∀ x ∈ l ++ l', x.Works) → Runs (System.Step cfg) (.boot cfg w) l s →
      s.shared.main = .signalled → Runs (System.Step cfg) s l' t → t.shared.main = .returned →
      ∀ m, Tracked s l' m → t.shared.world.Scheduled m := by
  intro hclaim
  have hplay : (System.play .least (fun _ x => decide x.Works) (Sample.checkStarted ++ [.main])
      (.boot .least Sample.scheduled)).any (fun s =>
        decide (s.shared.main = .signalled) && (decide (s.shared.world.db.Enabled 1) &&
          (decide (s.InLoop 1) &&
          (System.play .least Sample.undisturbed (Sample.shutDown Sample.checkEnds) s).any fun t =>
            decide (t.shared.main = .returned) && !decide (t.shared.world.Scheduled 1)))) := by
    decide
  obtain ⟨s, hs, hcheck⟩ := (Option.any_eq_true _ _).mp hplay
  simp only [Bool.and_eq_true, decide_eq_true_eq] at hcheck
  obtain ⟨hsig, hen, hin, hrest⟩ := hcheck
  obtain ⟨t, ht, hcheck'⟩ := (Option.any_eq_true _ _).mp hrest
  simp only [Bool.and_eq_true, decide_eq_true_eq, Bool.not_eq_true', decide_eq_false_iff_not]
    at hcheck'
  obtain ⟨hret, hout⟩ := hcheck'
  obtain ⟨l, hl⟩ := System.runs_of_play hs
  obtain ⟨l', hl'⟩ := System.runs_of_play ht
  have hworks : ∀ x ∈ l ++ l', x.Works := by
    intro x hx
    rcases List.mem_append.mp hx with hx | hx
    · exact of_decide_eq_true (hl.forall_label (fun _ _ _ h => h.2) x hx)
    · refine hl'.forall_label (fun _ x _ h => ?_) x hx
      exact of_decide_eq_true (Bool.and_eq_true_iff.mp h.2).1
  refine hout (hclaim .least Sample.scheduled s t l l' Config.least_valid hworks
    (hl.mono fun _ _ _ h => h.1) hsig (hl'.mono fun _ _ _ h => h.1) hret 1 ?_)
  exact Sample.tracked_of_undisturbed hl' hen hin

end Sofon
