import Sofon.Foundations.Pool
import Sofon.Store.Postgres
import Sofon.Store.Redis

/-!
# The outside of a component

What the code of a component reaches through its calls: Redis, the database, the
clock, its context and the channels it sends on.  A call is a command `Cmd`; the
code itself is a program over these commands (`Prog`).

The environment decides, for each command, whether it gets through, what the
clock shows and which expiring keys have run out before it (`Env`).  A failed
command has no effect.  `Live` is the service a component sees while its context
is live: any environment, so any command may fail.  A theorem about runs in which
nothing fails says so of the trace (`NoFail`).

`World.sent` is the history of `alertChan`: every event ever put on it.  The
buffers of the channels are no part of the world; the pipeline keeps them, and
until then the answer to an offer is the environment's.
-/

namespace Sofon

open Interleaving

/-- The three ways out of the scheduler's `select`: the job is on `jobChan`, the
context is done, or neither was possible at once. -/
inductive Offer where
  | sent
  | done
  | full
  deriving DecidableEq

/-- The calls a component makes. -/
inductive Cmd where
  /-- `time.Now()` -/
  | timeNow
  /-- Has the context been cancelled when a pause between two attempts ends? -/
  | ctxDone
  | redis (c : RedisCmd)
  | sql (q : Query)
  /-- `alertChan <- ev` -/
  | send (ev : AlertEvent)
  /-- `select { case jobChan <- job: case <-ctx.Done(): default: }` -/
  | offer (job : JobPayload)

/-- What a call returns. -/
@[reducible] def Cmd.Resp : Cmd → Type
  | timeNow => Time
  | ctxDone => Bool
  | redis c => Except RedisError c.Reply
  | sql q => Except DBError q.Result
  | send _ => Unit
  | offer _ => Offer

/-- The code of a component. -/
abbrev Prog := Program Cmd Cmd.Resp

/-- A call and what it returned. -/
abbrev Call := Event Cmd Cmd.Resp

/-- Make one call. -/
def call (c : Cmd) : Prog c.Resp := Program.perform c

/-- What the calls act on. -/
structure World where
  redis : Redis
  db : DB
  sent : List AlertEvent

/-- What the environment decides about one call. -/
structure Env where
  fails : Bool
  now : Time
  expired : List UUID
  offer : Offer

/-- Nothing fails and nothing expires, at the epoch. -/
instance : Inhabited Env := ⟨⟨false, 0, [], .sent⟩⟩

namespace World

/-- Expiring keys run out. -/
def expire (ks : List UUID) (w : World) : World := { w with redis := w.redis.expire ks }

/-- One call, made with a context that may have been cancelled. -/
def exec (canceled : Bool) (e : Env) (w₀ : World) (c : Cmd) : c.Resp × World :=
  let w := w₀.expire e.expired
  match c with
  | .timeNow => (e.now, w)
  | .ctxDone => (canceled, w)
  | .redis c =>
    if canceled then (.error .canceled, w)
    else if e.fails then (.error .unavailable, w)
    else ((w.redis.exec c).1, { w with redis := (w.redis.exec c).2 })
  | .sql q =>
    if canceled then (.error .canceled, w)
    else if e.fails then (.error .unavailable, w)
    else ((w.db.exec e.now q).1, { w with db := (w.db.exec e.now q).2 })
  | .send ev => ((), { w with sent := w.sent ++ [ev] })
  | .offer _ => (e.offer, w)

/-- The service seen with a live context. -/
def Live : World → (c : Cmd) → c.Resp → World → Prop := Program.Interpreter (exec false)

variable {w w' : World}

theorem live_timeNow {t : Time} (h : Live w .timeNow t w') : ∃ ks, w' = w.expire ks := by
  obtain ⟨e, he⟩ := h
  exact ⟨e.expired, (congrArg Prod.snd he).symm⟩

theorem live_ctxDone {b : Bool} (h : Live w .ctxDone b w') :
    b = false ∧ ∃ ks, w' = w.expire ks := by
  obtain ⟨e, he⟩ := h
  exact ⟨(congrArg Prod.fst he).symm, e.expired, (congrArg Prod.snd he).symm⟩

theorem live_send {ev : AlertEvent} {u : Unit} (h : Live w (.send ev) u w') :
    ∃ ks, w' = { w.expire ks with sent := w.sent ++ [ev] } := by
  obtain ⟨e, he⟩ := h
  exact ⟨e.expired, (congrArg Prod.snd he).symm⟩

theorem live_offer {job : JobPayload} {o : Offer} (h : Live w (.offer job) o w') :
    ∃ ks, w' = w.expire ks := by
  obtain ⟨e, he⟩ := h
  exact ⟨e.expired, (congrArg Prod.snd he).symm⟩

/-- A Redis command fails without effect, or does what Redis does. -/
theorem live_redis {c : RedisCmd} {r : Except RedisError c.Reply} (h : Live w (.redis c) r w') :
    ∃ ks, (r = .error .unavailable ∧ w' = w.expire ks) ∨
      (r = ((w.redis.expire ks).exec c).1 ∧
        w' = { w.expire ks with redis := ((w.redis.expire ks).exec c).2 }) := by
  obtain ⟨e, he⟩ := h
  refine ⟨e.expired, ?_⟩
  cases hf : e.fails with
  | true =>
    simp only [exec, hf] at he
    exact Or.inl ⟨(congrArg Prod.fst he).symm, (congrArg Prod.snd he).symm⟩
  | false =>
    simp only [exec, hf] at he
    exact Or.inr ⟨(congrArg Prod.fst he).symm, (congrArg Prod.snd he).symm⟩

/-- A query fails without effect, or does what the database does. -/
theorem live_sql {q : Query} {r : Except DBError q.Result} (h : Live w (.sql q) r w') :
    ∃ ks now, (r = .error .unavailable ∧ w' = w.expire ks) ∨
      (r = (w.db.exec now q).1 ∧ w' = { w.expire ks with db := (w.db.exec now q).2 }) := by
  obtain ⟨e, he⟩ := h
  refine ⟨e.expired, e.now, ?_⟩
  cases hf : e.fails with
  | true =>
    simp only [exec, hf] at he
    exact Or.inl ⟨(congrArg Prod.fst he).symm, (congrArg Prod.snd he).symm⟩
  | false =>
    simp only [exec, hf] at he
    exact Or.inr ⟨(congrArg Prod.fst he).symm, (congrArg Prod.snd he).symm⟩

/-- **What a call can do.**  Keys run out, and then nothing else happens, or one of
Redis, the database and `alertChan` does what it is told. -/
theorem live_cases {c : Cmd} {r : c.Resp} (h : Live w c r w') : ∃ ks, w' = w.expire ks ∨
    (∃ c', c = .redis c' ∧
      w' = { w.expire ks with redis := ((w.redis.expire ks).exec c').2 }) ∨
    (∃ q now, c = .sql q ∧ w' = { w.expire ks with db := (w.db.exec now q).2 }) ∨
    ∃ ev, c = .send ev ∧ w' = { w.expire ks with sent := w.sent ++ [ev] } := by
  cases c with
  | timeNow =>
    obtain ⟨ks, hw⟩ := live_timeNow h
    exact ⟨ks, Or.inl hw⟩
  | ctxDone =>
    obtain ⟨-, ks, hw⟩ := live_ctxDone h
    exact ⟨ks, Or.inl hw⟩
  | redis c =>
    obtain ⟨ks, ⟨-, hw⟩ | ⟨-, hw⟩⟩ := live_redis h
    · exact ⟨ks, Or.inl hw⟩
    · exact ⟨ks, Or.inr (Or.inl ⟨c, rfl, hw⟩)⟩
  | sql q =>
    obtain ⟨ks, now, ⟨-, hw⟩ | ⟨-, hw⟩⟩ := live_sql h
    · exact ⟨ks, Or.inl hw⟩
    · exact ⟨ks, Or.inr (Or.inr (Or.inl ⟨q, now, rfl, hw⟩))⟩
  | send ev =>
    obtain ⟨ks, hw⟩ := live_send h
    exact ⟨ks, Or.inr (Or.inr (Or.inr ⟨ev, rfl, hw⟩))⟩
  | offer job =>
    obtain ⟨ks, hw⟩ := live_offer h
    exact ⟨ks, Or.inl hw⟩

@[simp] theorem expire_incident (ks : List UUID) (w : World) :
    (w.expire ks).redis.incident = w.redis.incident := rfl

@[simp] theorem expire_schedule (ks : List UUID) (w : World) :
    (w.expire ks).redis.schedule = w.redis.schedule := rfl

@[simp] theorem expire_db (ks : List UUID) (w : World) : (w.expire ks).db = w.db := rfl

@[simp] theorem expire_sent (ks : List UUID) (w : World) : (w.expire ks).sent = w.sent := rfl

end World

theorem exec_call {c : Cmd} {w w' : World} {tr : List Call} {r : c.Resp}
    (h : Program.Exec World.Live (call c) w tr r w') : World.Live w c r w' ∧ tr = [⟨c, r⟩] := by
  obtain ⟨r', w₁, tr', hc, rfl, hk⟩ := Program.exec_call_iff.mp h
  obtain ⟨rfl, rfl, rfl⟩ := Program.exec_ret_iff.mp hk
  exact ⟨hc, rfl⟩

/-- A call, and what is done with its answer. -/
theorem exec_call_bind {α : Type} {c : Cmd} {f : c.Resp → Prog α} {w w'' : World}
    {tr : List Call} {a : α} (h : Program.Exec World.Live (call c >>= f) w tr a w'') :
    ∃ r w' tr', World.Live w c r w' ∧ tr = ⟨c, r⟩ :: tr' ∧
      Program.Exec World.Live (f r) w' tr' a w'' := Program.exec_call_iff.mp h

theorem only_call {S : Cmd → Prop} {c : Cmd} (h : S c) : (call c).Only S := ⟨h, fun _ => trivial⟩

/-! ## Reading a trace -/

namespace Call

/-- The call failed: it did not get through, its context was cancelled, or the
database refused it.  An empty answer is no failure, and neither is the rejection
of a command that Redis never accepts. -/
def failed : Call → Bool
  | ⟨.redis _, .error err⟩ => err ≠ .badArguments
  | ⟨.sql _, .error err⟩ => err ≠ .noRows
  | _ => false

/-- The alert the call put on `alertChan`. -/
def alert? (e : Call) : Option AlertEvent :=
  match e.cmd with
  | .send ev => some ev
  | _ => none

end Call

/-- A call that did not fail, with an answer that some live state gives. -/
def Call.Genuine (e : Call) : Prop := e.failed = false ∧ ∃ w w', World.Live w e.cmd e.resp w'

namespace Call

theorem genuine_redis {c : RedisCmd} {r : Except RedisError c.Reply}
    (h : Genuine ⟨.redis c, r⟩) : ∃ s : Redis, r = (s.exec c).1 := by
  obtain ⟨hf, w, w', hlive⟩ := h
  obtain ⟨ks, ⟨rfl, -⟩ | ⟨hr, -⟩⟩ := World.live_redis hlive
  · cases hf
  · exact ⟨_, hr⟩

theorem genuine_sql {q : Query} {r : Except DBError q.Result} (h : Genuine ⟨.sql q, r⟩) :
    ∃ now d, r = (DB.exec now q d).1 := by
  obtain ⟨hf, w, w', hlive⟩ := h
  obtain ⟨ks, now, ⟨rfl, -⟩ | ⟨hr, -⟩⟩ := World.live_sql hlive
  · cases hf
  · exact ⟨now, _, hr⟩

end Call

/-- No call of the trace failed. -/
def NoFail (tr : List Call) : Prop := ∀ e ∈ tr, e.failed = false

instance (tr : List Call) : Decidable (NoFail tr) :=
  inferInstanceAs (Decidable (∀ e ∈ tr, e.failed = false))

/-- The alerts put on `alertChan`, in order. -/
def alerts (tr : List Call) : List AlertEvent := tr.filterMap Call.alert?

@[simp] theorem noFail_nil : NoFail [] := by
  simp [NoFail]

@[simp] theorem noFail_cons {e : Call} {tr : List Call} :
    NoFail (e :: tr) ↔ e.failed = false ∧ NoFail tr := by
  simp [NoFail]

@[simp] theorem noFail_append {tr tr' : List Call} :
    NoFail (tr ++ tr') ↔ NoFail tr ∧ NoFail tr' := by
  simp [NoFail, or_imp, forall_and]

@[simp] theorem alerts_nil : alerts [] = [] := rfl

@[simp] theorem alerts_cons (e : Call) (tr : List Call) :
    alerts (e :: tr) = e.alert?.toList ++ alerts tr := by
  rw [alerts, List.filterMap_cons]
  cases e.alert? <;> rfl

@[simp] theorem alerts_append (tr tr' : List Call) : alerts (tr ++ tr') = alerts tr ++ alerts tr' :=
  List.filterMap_append

/-- The calls satisfying `P` were issued, and each of them failed. -/
def FailedAt (P : Cmd → Bool) (tr : List Call) : Prop :=
  (∃ e ∈ tr, P e.cmd) ∧ ∀ e ∈ tr, P e.cmd → e.failed

instance (P : Cmd → Bool) (tr : List Call) : Decidable (FailedAt P tr) :=
  inferInstanceAs (Decidable ((∃ e ∈ tr, P e.cmd) ∧ ∀ e ∈ tr, P e.cmd → e.failed))

theorem FailedAt.not_noFail {P : Cmd → Bool} {tr : List Call} (h : FailedAt P tr) :
    ¬ NoFail tr := by
  intro hno
  obtain ⟨⟨e, he, hP⟩, hfail⟩ := h
  have hfailed := hfail e he hP
  rw [hno e he] at hfailed
  exact absurd hfailed Bool.false_ne_true

theorem failedAt_singleton {P : Cmd → Bool} {e : Call} (hP : P e.cmd) (hf : e.failed) :
    FailedAt P [e] := by
  refine ⟨⟨e, List.mem_singleton_self e, hP⟩, fun e' he' _ => ?_⟩
  rw [List.mem_singleton.mp he']
  exact hf

/-- Calls before that do not satisfy `P` do not matter. -/
theorem FailedAt.append_left {P : Cmd → Bool} {tr₁ tr₂ : List Call} (h : FailedAt P tr₂)
    (h₁ : ∀ e ∈ tr₁, P e.cmd = false) : FailedAt P (tr₁ ++ tr₂) := by
  obtain ⟨⟨e, he, hP⟩, hfail⟩ := h
  refine ⟨⟨e, List.mem_append_right _ he, hP⟩, fun e' he' hP' => ?_⟩
  rcases List.mem_append.mp he' with he' | he'
  · rw [h₁ e' he'] at hP'
    exact absurd hP' Bool.false_ne_true
  · exact hfail e' he' hP'

theorem FailedAt.append_right {P : Cmd → Bool} {tr₁ tr₂ : List Call} (h : FailedAt P tr₁)
    (h₂ : ∀ e ∈ tr₂, P e.cmd = false) : FailedAt P (tr₁ ++ tr₂) := by
  obtain ⟨⟨e, he, hP⟩, hfail⟩ := h
  refine ⟨⟨e, List.mem_append_left _ he, hP⟩, fun e' he' hP' => ?_⟩
  rcases List.mem_append.mp he' with he' | he'
  · exact hfail e' he' hP'
  · rw [h₂ e' he'] at hP'
    exact absurd hP' Bool.false_ne_true

theorem FailedAt.cons {P : Cmd → Bool} {e : Call} {tr : List Call} (h : FailedAt P tr)
    (he : P e.cmd = false) : FailedAt P (e :: tr) := by
  have hbefore : ∀ e' ∈ [e], P e'.cmd = false := by
    intro e' he'
    rw [List.mem_singleton.mp he']
    exact he
  exact h.append_left hbefore

/-- **The history of `alertChan` is what the traces sent.** -/
theorem sent_of_exec {α : Type} {p : Prog α} {w w' : World} {tr : List Call} {a : α}
    (h : Program.Exec World.Live p w tr a w') : w'.sent = w.sent ++ alerts tr := by
  induction h with
  | ret => simp
  | @call c k w w₁ w₂ r tr a hc _ ih =>
    rw [ih]
    cases c with
    | timeNow =>
      obtain ⟨ks, rfl⟩ := World.live_timeNow hc
      simp [Call.alert?]
    | ctxDone =>
      obtain ⟨-, ks, rfl⟩ := World.live_ctxDone hc
      simp [Call.alert?]
    | redis c =>
      obtain ⟨ks, ⟨-, rfl⟩ | ⟨-, rfl⟩⟩ := World.live_redis hc <;> simp [Call.alert?]
    | sql q =>
      obtain ⟨ks, now, ⟨-, rfl⟩ | ⟨-, rfl⟩⟩ := World.live_sql hc <;> simp [Call.alert?]
    | send ev =>
      obtain ⟨ks, rfl⟩ := World.live_send hc
      simp [Call.alert?]
    | offer job =>
      obtain ⟨ks, rfl⟩ := World.live_offer hc
      simp [Call.alert?]

/-! ## A monitor to run things on -/

namespace Sample

/-- An enabled monitor. -/
def row : MonitorRow :=
  ⟨1, 7, 9, "https://example.org", 60, 120, none, none, true, "ops@example.org", 0⟩

/-- Nothing has happened yet. -/
def world : World := ⟨Redis.empty, ⟨[⟨7, 1⟩], [row], [], 2⟩, []⟩

end Sample

end Sofon
