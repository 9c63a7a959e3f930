import Sofon.Pipeline.Writeback

/-!
# One tick of the scheduler

`doWork` pops a batch and has to find a place for every entry of it: `jobChan`, or the
schedule again, at the old time or two seconds later.  Which of them it is depends on the
clock and on the room in the channel, which others empty while the loop runs.

A tick is a run of `doWork` with the others acting before each of its calls (`Tick K`).
They may do anything but write the entries of `K` or send on `jobChan` (`Bystand`); what
is concluded is about the entries of `K`.

## What is conserved

An entry is a member with its time, and a member is a text.  `uuid.Parse` may read two of
them as one monitor, so entries are counted and not monitors: `Placed` has a list `sent` of
entries, a part of the batch in its order, and the jobs on the channel are those of `sent`,
one for each.  Every entry that is due and read as a monitor is in `sent` and no longer in
the schedule, or not in `sent` and in the schedule with two seconds more; an entry that is
not due is not in `sent` and in the schedule as it was.  `Conserves` adds where the batch
came from: its entries were in the schedule, each once, and it has them in the order of
their times.

Why an entry goes back is said twice.  `Placed.offered` has all offers of the tick and
their answers, in order: an entry goes back exactly if its own offer was refused.  And an
offer is refused exactly if the channel is full at that moment, which is part of the
service (`Tick.Fair`, `fair_of_tick`).

## The argument

The loop is taken apart from the front.  While the batch is popped, none of its members is
in the schedule, and this stays so for the members behind the one at hand, because what is
written is only ever the one at hand, and the members of a popped batch are distinct
(`SortedSet.nodup_popMin`).  An iteration is one of three things (`Dealt`), and
`Placed.cons` adds it in front of what the rest of the batch does, where the induction is
over the batch (`placed_of_doWorkLoop`).  When the first entry is found that is not due,
neither is any behind it, because the batch is sorted, and all of them are written at once
(`Placed.of_later`).
-/

namespace Sofon

open Interleaving Program KeyValue

/-- The time of the next run of a member. -/
def Shared.nextRun (k : Member) (s : Shared) : Option ℤ := s.world.redis.schedule.score k

/-- What the others may do between two calls of a tick: they receive from `jobChan`, and
leave the entries of `K` alone. -/
structure Bystand (K : Set Member) (s u : Shared) : Prop where
  nextRun : ∀ k ∈ K, u.nextRun k = s.nextRun k
  queue : ∃ n, u.jobChan.queue = s.jobChan.queue.drop n
  capacity : u.jobChan.capacity = s.jobChan.capacity
  closed : u.jobChan.closed = s.jobChan.closed

/-- A call of a tick, after the others have acted. -/
def Tick (K : Set Member) (s : Shared) (c : Cmd) (r : c.Resp) (s' : Shared) : Prop :=
  ∃ u, Bystand K s u ∧ u.Serves false c r s'

/-- An offer is refused when there is no room, and only then. -/
def Shared.Fair (u : Shared) : (c : Cmd) → c.Resp → Prop
  | .offer job, o => (o = .sent ↔ (u.jobChan.send job).isSome) ∧
      (o = .full ↔ (u.jobChan.send job).isNone)
  | _, _ => True

/-- The same with a fair offer. -/
def Tick.Fair (K : Set Member) (s : Shared) (c : Cmd) (r : c.Resp) (s' : Shared) : Prop :=
  ∃ u, Bystand K s u ∧ u.Serves false c r s' ∧ u.Fair c r

/-- What has been offered, and what became of it. -/
def Call.offered : Call → List (UUID × Offer)
  | ⟨.offer job, o⟩ => [(job.monitorID, o)]
  | _ => []

/-- The offers of a trace. -/
def offers (tr : List Call) : List (UUID × Offer) := tr.flatMap Call.offered

/-- The jobs a trace has sent. -/
def sentJobs (tr : List Call) : List UUID :=
  (offers tr).filterMap fun offer => if offer.2 = .sent then some offer.1 else none

/-- What becomes of an offer, if these entries are sent. -/
def fate (sent : List Z) (x : Z) : Offer := if x ∈ sent then .sent else .full

/-- The offers that a tick has to make: of the due entries that are read as monitors. -/
def dueOffers (parse : String → Option UUID) (now : ℤ) (sent items : List Z) :
    List (UUID × Offer) :=
  (items.filter (·.score ≤ now)).filterMap fun x =>
    (x.member.uuid? parse).map fun m => (m, fate sent x)

/-- Where the entries of a batch go, from the state `s` on: those of `sent` to `jobChan`. -/
structure Placed (parse : String → Option UUID) (K : Set Member) (s : Shared) (tr : List Call)
    (s' : Shared) (now : ℤ) (items sent : List Z) : Prop where
  /-- An entry that is not due goes back as it was. -/
  later : ∀ x ∈ items, now < x.score → x ∉ sent ∧ s'.nextRun x.member = some x.score
  /-- A due entry that is read as a monitor is sent, or goes back two seconds after its time. -/
  due : ∀ x ∈ items, x.score ≤ now → (x.member.uuid? parse).isSome = true →
    x ∈ sent ∧ s'.nextRun x.member = none ∨
      x ∉ sent ∧ s'.nextRun x.member = some (x.score + 2)
  /-- It goes back if it has been offered and refused. -/
  offered : offers tr = dueOffers parse now sent items
  /-- The jobs are those of the entries sent, one for each. -/
  jobs : sent.map (·.member.uuid? parse) = (sentJobs tr).map some
  /-- They are sent in the order of the batch. -/
  order : sent.Sublist items
  /-- Nothing else is touched. -/
  others : ∀ k ∈ K, k ∉ items.map Scored.member → s'.nextRun k = s.nextRun k

/-- **Where the entries of the popped batch went**, in terms of the state before. -/
structure Conserves (parse : String → Option UUID) (K : Set Member) (s : Shared)
    (tr : List Call) (s' : Shared) (now : ℤ) (items sent : List Z) : Prop
    extends Placed parse K s tr s' now items sent where
  /-- The batch holds entries with their times, -/
  old : ∀ x ∈ items, s.nextRun x.member = some x.score
  /-- each of them once, -/
  distinct : (items.map Scored.member).Nodup
  /-- in the order of the times. -/
  sorted : items.Pairwise fun x y => x.score ≤ y.score

variable {parse : String → Option UUID} {K : Set Member} {s s' : Shared} {tr : List Call}
  {now : ℤ} {items sent : List Z}

/-! ## The calls of a tick -/

theorem tick_timeNow {t : Time} (h : Tick K s .timeNow t s') {k : Member} (hk : k ∈ K) :
    s'.nextRun k = s.nextRun k := by
  obtain ⟨u, hu, hserves⟩ := h
  obtain ⟨w', hw, rfl⟩ := Shared.serves_worldly (c := .timeNow) rfl hserves
  obtain ⟨ks, rfl⟩ := World.live_timeNow hw
  exact hu.nextRun k hk

theorem tick_offer {job : JobPayload} {o : Offer} (h : Tick K s (.offer job) o s') :
    (o = .sent ∨ o = .full) ∧ ∀ k ∈ K, s'.nextRun k = s.nextRun k := by
  obtain ⟨u, hu, hserves⟩ := h
  rcases Shared.serves_offer hserves with
    ⟨rfl, ⟨ch, -, rfl⟩ | ⟨-, rfl⟩⟩ | ⟨-, hb, -⟩ | ⟨rfl, -, rfl⟩
  · exact ⟨Or.inl rfl, hu.nextRun⟩
  · exact ⟨Or.inl rfl, hu.nextRun⟩
  · cases hb
  · exact ⟨Or.inr rfl, hu.nextRun⟩

/-- A Redis command that does not fail does what Redis does. -/
theorem tick_redis {c : RedisCmd} {r : Except RedisError c.Reply}
    (h : Tick K s (.redis c) r s') (hok : Call.failed ⟨.redis c, r⟩ = false) :
    ∃ u ks, Bystand K s u ∧ r = ((u.world.redis.expire ks).exec c).1 ∧
      s'.world.redis.schedule = ((u.world.redis.expire ks).exec c).2.schedule := by
  obtain ⟨u, hu, hserves⟩ := h
  obtain ⟨w', hw, rfl⟩ := Shared.serves_worldly (c := .redis c) rfl hserves
  obtain ⟨ks, ⟨rfl, -⟩ | ⟨hr, rfl⟩⟩ := World.live_redis hw
  · cases hok
  · exact ⟨u, ks, hu, hr, rfl⟩

/-- **The first attempt of a repeated command is the last** when nothing fails. -/
theorem exec_retry_of_noFail {σ : Type} {service : σ → (c : Cmd) → c.Resp → σ → Prop}
    {c : RedisCmd} {n : ℕ} {t t' : σ} {x : Except RedisError c.Reply}
    (h : Exec service (RedisClient.retry (n + 1) (call (.redis c))) t tr x t') (hno : NoFail tr)
    (hargs : ∀ err t t', service t (.redis c) (.error err) t' → err ≠ .badArguments) :
    ∃ a, x = .ok a ∧ tr = [⟨.redis c, .ok a⟩] ∧ service t (.redis c) (.ok a) t' := by
  obtain ⟨r, t₁, tr₁, hc, rfl, hk⟩ := exec_call_iff.mp h
  rcases r with err | a
  · have hfailed := (noFail_cons.mp hno).1
    exact absurd (of_decide_eq_false hfailed) (not_not.mpr (hargs err t t₁ hc))
  · obtain ⟨rfl, rfl, rfl⟩ := exec_ret_iff.mp hk
    exact ⟨a, rfl, rfl, hc⟩

theorem tick_error {c : RedisCmd} (hc : ∀ t : Redis, ∃ a, (t.exec c).1 = .ok a)
    {err : RedisError} (h : Tick K s (.redis c) (.error err) s') : err ≠ .badArguments := by
  obtain ⟨u, -, hserves⟩ := h
  obtain ⟨w', hw, rfl⟩ := Shared.serves_worldly (c := .redis c) rfl hserves
  obtain ⟨ks, ⟨hr, -⟩ | ⟨hr, -⟩⟩ := World.live_redis hw
  · rw [Except.error.inj hr]
    exact nofun
  · obtain ⟨a, ha⟩ := hc (u.world.redis.expire ks)
    rw [ha] at hr
    cases hr

/-- A schedule write gives its members their times, and touches no other. -/
theorem exec_zAdd {n : ℕ} {x : Except RedisError Unit}
    (h : Exec (Tick K) (RedisClient.retry (n + 1) (call (.redis (.zAdd items)))) s tr x s')
    (hno : NoFail tr) (hnodup : (items.map Scored.member).Nodup) :
    offers tr = [] ∧ (∀ y ∈ items, s'.nextRun y.member = some y.score) ∧
      ∀ k ∈ K, k ∉ items.map Scored.member → s'.nextRun k = s.nextRun k := by
  obtain ⟨a, -, rfl, hc⟩ := exec_retry_of_noFail h hno fun err t t' =>
    tick_error fun t => ⟨(), rfl⟩
  obtain ⟨u, ks, hu, -, hsched⟩ := tick_redis hc rfl
  refine ⟨rfl, fun y hy => ?_, fun k hk hnot => ?_⟩
  · rw [Shared.nextRun, hsched]
    exact SortedSet.score_add_of_mem hy hnodup _
  · rw [← hu.nextRun k hk, Shared.nextRun, hsched]
    exact SortedSet.score_add_of_not_mem hnot _

/-! ## The loop -/

theorem offers_append (tr tr' : List Call) : offers (tr ++ tr') = offers tr ++ offers tr' :=
  List.flatMap_append

theorem sentJobs_append (tr tr' : List Call) :
    sentJobs (tr ++ tr') = sentJobs tr ++ sentJobs tr' := by
  rw [sentJobs, offers_append, List.filterMap_append]
  rfl

/-- What the loop does with one due entry: it is read as no monitor, or it is sent, or it is
refused and scheduled again.  The last argument is what it adds to the entries sent. -/
inductive Dealt (parse : String → Option UUID) (s₁ : Shared) (tr₁ : List Call) (x : Z) :
    List Z → Prop
  | skipped (hx : x.member.uuid? parse = none) (hoffers : offers tr₁ = []) :
      Dealt parse s₁ tr₁ x []
  | sent (m : UUID) (hx : x.member.uuid? parse = some m) (hoffers : offers tr₁ = [(m, .sent)])
      (hnext : s₁.nextRun x.member = none) : Dealt parse s₁ tr₁ x [x]
  | refused (m : UUID) (hx : x.member.uuid? parse = some m)
      (hoffers : offers tr₁ = [(m, .full)])
      (hnext : s₁.nextRun x.member = some (x.score + 2)) : Dealt parse s₁ tr₁ x []

section Dealt

variable {s₁ : Shared} {tr₁ : List Call} {x : Z} {part : List Z}

theorem Dealt.mem (h : Dealt parse s₁ tr₁ x part) {y : Z} (hy : y ∈ part) : y = x := by
  cases h with
  | skipped | refused => cases hy
  | sent => exact List.mem_singleton.mp hy

/-- The offer for one entry. -/
theorem Dealt.offers_eq (h : Dealt parse s₁ tr₁ x part) (hdue : x.score ≤ now)
    (hx : x ∉ sent) : offers tr₁ = dueOffers parse now (part ++ sent) [x] := by
  have hfilter : [x].filter (·.score ≤ now) = [x] :=
    List.filter_cons_of_pos (decide_eq_true hdue)
  rw [dueOffers, hfilter]
  cases h with
  | skipped hread hoffers => simp [hread, hoffers]
  | sent m hread hoffers => simp [hread, hoffers, fate]
  | refused m hread hoffers => simp [hread, hoffers, fate, hx]

theorem Dealt.jobs_eq (h : Dealt parse s₁ tr₁ x part) :
    part.map (·.member.uuid? parse) = (sentJobs tr₁).map some := by
  cases h with
  | skipped hread hoffers => simp [sentJobs, hoffers]
  | sent m hread hoffers => simp [sentJobs, hread, hoffers]
  | refused m hread hoffers => simp [sentJobs, hoffers]

/-- The offers for the others do not depend on what became of this entry. -/
theorem Dealt.dueOffers_eq (h : Dealt parse s₁ tr₁ x part)
    (hnot : x.member ∉ items.map Scored.member) :
    dueOffers parse now (part ++ sent) items = dueOffers parse now sent items := by
  refine List.filterMap_congr fun y hy => ?_
  have hother : y ∉ part := by
    intro hmem
    exact hnot (h.mem hmem ▸ List.mem_map_of_mem (List.mem_of_mem_filter hy))
  have hfate : fate (part ++ sent) y = fate sent y := by
    simp only [fate, List.mem_append, hother, false_or]
  rw [hfate]

/-- **One due entry, and the rest of the batch.** -/
theorem Placed.cons (h : Placed parse K s₁ tr s' now items sent) (hdue : x.score ≤ now)
    (hx : Dealt parse s₁ tr₁ x part) (hxK : x.member ∈ K)
    (hnot : x.member ∉ items.map Scored.member)
    (hsame : ∀ k ∈ K, k ≠ x.member → s₁.nextRun k = s.nextRun k) :
    Placed parse K s (tr₁ ++ tr) s' now (x :: items) (part ++ sent) := by
  have hunsent : x ∉ sent := fun hmem => hnot (List.mem_map_of_mem (h.order.subset hmem))
  -- the entries of the rest are others
  have hrest : ∀ y ∈ items, (y ∈ part ++ sent ↔ y ∈ sent) := by
    intro y hy
    rw [List.mem_append, or_iff_right]
    exact fun hmem => hnot (hx.mem hmem ▸ List.mem_map_of_mem hy)
  have hleft : s'.nextRun x.member = s₁.nextRun x.member := h.others _ hxK hnot
  refine ⟨fun y hy hlater => ?_, fun y hy hy' hread => ?_, ?_, ?_, ?_, fun k hk hk' => ?_⟩
  · rcases List.mem_cons.mp hy with rfl | hy
    · exact absurd hlater (not_lt.mpr hdue)
    · rw [hrest y hy]
      exact h.later y hy hlater
  · rcases List.mem_cons.mp hy with rfl | hy
    · cases hx with
      | skipped hx =>
        rw [hx] at hread
        cases hread
      | sent m hx hoffers hnext =>
        exact Or.inl ⟨List.mem_append_left _ (List.mem_singleton_self _), hleft.trans hnext⟩
      | refused m hx hoffers hnext => exact Or.inr ⟨hunsent, hleft.trans hnext⟩
    · rw [hrest y hy]
      exact h.due y hy hy' hread
  · rw [offers_append, hx.offers_eq hdue hunsent, h.offered, ← hx.dueOffers_eq hnot]
    simp only [dueOffers, ← List.filterMap_append, ← List.filter_append, List.singleton_append]
  · rw [List.map_append, hx.jobs_eq, h.jobs, sentJobs_append, List.map_append]
  · cases hx with
    | skipped | refused => exact h.order.cons x
    | sent => exact h.order.cons_cons x
  · rw [List.map_cons, List.mem_cons, not_or] at hk'
    exact (h.others k hk hk'.2).trans (hsame k hk hk'.1)

end Dealt

theorem Placed.of_later (hoffers : offers tr = [])
    (hback : ∀ x ∈ items, s'.nextRun x.member = some x.score)
    (hlater : ∀ x ∈ items, now < x.score)
    (hothers : ∀ k ∈ K, k ∉ items.map Scored.member → s'.nextRun k = s.nextRun k) :
    Placed parse K s tr s' now items [] := by
  have hnone : items.filter (·.score ≤ now) = [] := by
    refine List.filter_eq_nil_iff.mpr fun x hx => ?_
    simpa using hlater x hx
  refine ⟨fun x hx _ => ⟨List.not_mem_nil, hback x hx⟩, fun x hx hdue => ?_, ?_, ?_,
    List.nil_sublist _, hothers⟩
  · exact absurd (hlater x hx) (not_lt.mpr hdue)
  · rw [hoffers, dueOffers, hnone]
    rfl
  · rw [sentJobs, hoffers]
    rfl

/-- **The loop places its batch**: distinct entries of `K`, in the order of their times,
none of them in the schedule. -/
theorem placed_of_doWorkLoop
    (h : Exec (Tick K) (Scheduler.doWorkLoop parse now items) s tr () s')
    (hno : NoFail tr) (hK : ∀ x ∈ items, x.member ∈ K)
    (hnodup : (items.map Scored.member).Nodup)
    (hsorted : items.Pairwise fun x y => x.score ≤ y.score)
    (hout : ∀ x ∈ items, s.nextRun x.member = none) :
    ∃ sent, Placed parse K s tr s' now items sent := by
  induction items generalizing s tr with
  | nil =>
    obtain ⟨rfl, -, rfl⟩ := exec_ret_iff.mp h
    exact ⟨[], .of_later rfl (fun x hx => (nomatch hx)) (fun x hx => (nomatch hx))
      fun k _ _ => rfl⟩
  | cons x rest ih =>
    obtain ⟨hnot, hrest⟩ := List.nodup_cons.mp hnodup
    obtain ⟨hle, hsorted'⟩ := List.pairwise_cons.mp hsorted
    rw [Scheduler.doWorkLoop] at h
    split at h
    · -- this entry and all behind it go back
      rename_i hlater
      obtain ⟨tr₁, y, s₁, tr₂, hadd, hret, rfl⟩ := exec_bind_iff.mp h
      obtain ⟨rfl, -, rfl⟩ := exec_ret_iff.mp hret
      rw [List.append_nil] at hno ⊢
      obtain ⟨hoffers, hback, hothers⟩ := exec_zAdd hadd hno hnodup
      refine ⟨[], .of_later hoffers hback (fun z hz => ?_) hothers⟩
      rcases List.mem_cons.mp hz with rfl | hz
      · exact hlater
      · exact lt_of_lt_of_le hlater (hle z hz)
    · rename_i hdue
      have hxdue : x.score ≤ now := not_lt.mp hdue
      have hxK : x.member ∈ K := hK x List.mem_cons_self
      -- what an iteration that leaves the rest out of the schedule does to the state
      have hplaced : ∀ {s₁ : Shared} {l tr₂ : List Call} {part : List Z},
          Dealt parse s₁ l x part → (∀ k ∈ K, k ≠ x.member → s₁.nextRun k = s.nextRun k) →
          Exec (Tick K) (Scheduler.doWorkLoop parse now rest) s₁ tr₂ () s' → NoFail tr₂ →
          ∃ sent, Placed parse K s (l ++ tr₂) s' now (x :: rest) sent := by
        intro s₁ l tr₂ part hdealt hsame hrun hno
        have hrestK : ∀ y ∈ rest, y.member ∈ K := fun y hy => hK y (List.mem_cons_of_mem _ hy)
        obtain ⟨sent, hsent⟩ := ih hrun hno hrestK hrest hsorted' fun y hy => by
          rw [hsame _ (hrestK y hy) fun heq => hnot (heq ▸ List.mem_map_of_mem hy)]
          exact hout y (List.mem_cons_of_mem _ hy)
        exact ⟨_, hsent.cons hxdue hdealt hxK hnot hsame⟩
      split at h
      · rename_i hread
        exact hplaced (l := []) (.skipped hread rfl) (fun _ _ _ => rfl) h hno
      · rename_i m hread
        obtain ⟨o, s₁, tr₁, hoffer, rfl, h₁⟩ := exec_call_iff.mp h
        obtain ⟨ho, hsame⟩ := tick_offer hoffer
        rcases ho with rfl | rfl
        · refine hplaced (l := [⟨.offer ⟨m⟩, .sent⟩]) (.sent m hread rfl ?_)
            (fun k hk _ => hsame k hk) h₁ (noFail_cons.mp hno).2
          rw [hsame _ hxK, hout x List.mem_cons_self]
        · have hfull : Exec (Tick K) (RedisClient.schedule x.member
              (Time.addSeconds (Time.ofUnix x.score) 2) >>= fun _ =>
                Scheduler.doWorkLoop parse now rest) s₁ tr₁ () s' := h₁
          obtain ⟨tr₂, y, s₂, tr₃, hadd, h₂, rfl⟩ := exec_bind_iff.mp hfull
          obtain ⟨hno₂, hno₃⟩ := noFail_append.mp (noFail_cons.mp hno).2
          have hbackoff : (Time.addSeconds (Time.ofUnix x.score) 2).unix = x.score + 2 := by
            simp only [Time.addSeconds, Time.ofUnix, Time.unix]
            omega
          rw [RedisClient.schedule, hbackoff] at hadd
          obtain ⟨hoffers, hback, hothers⟩ := exec_zAdd hadd hno₂ (List.nodup_singleton _)
          have hnext := hback _ (List.mem_singleton_self _)
          rw [← List.singleton_append, ← List.append_assoc]
          refine hplaced (.refused m hread ?_ hnext) (fun k hk hne => ?_) h₂ hno₃
          · rw [offers_append, hoffers]
            rfl
          · exact (hothers k hk fun hmem => hne (List.mem_singleton.mp hmem)).trans (hsame k hk)

/-! ## The tick -/

theorem fair_of_serves {u u' : Shared} {c : Cmd} {r : c.Resp} (h : u.Serves false c r u')
    (hopen : u.jobChan.closed = false) : u.Fair c r ∧ u'.jobChan.closed = false := by
  cases c with
  | offer job =>
    obtain ⟨e, he⟩ := h
    simp only [Shared.exec] at he
    split at he
    · split at he
      · rename_i ch hch
        cases he
        refine ⟨?_, (Channel.send_ok hch).2.1⟩
        simp [Shared.Fair, hch]
      · rename_i hch
        rw [Channel.closed_of_panics hch] at hopen
        cases hopen
      · cases he
    · simp at he
    · split at he
      · rename_i hfull
        cases he
        refine ⟨?_, hopen⟩
        have hnone : u.jobChan.send job = none := by simpa using hfull
        simp [Shared.Fair, hnone]
      · cases he
  | send ev =>
    refine ⟨trivial, ?_⟩
    rcases Shared.serves_send h with ⟨ch, ks, -, rfl⟩ | ⟨-, rfl⟩ <;> exact hopen
  | timeNow | ctxDone | redis c | sql q =>
    refine ⟨trivial, ?_⟩
    obtain ⟨w', -, rfl⟩ := Shared.serves_worldly rfl h
    exact hopen

/-- The channel stays open, and every offer is fair. -/
theorem fair_of_tick {p : Prog Unit} (h : Exec (Tick K) p s tr () s')
    (hopen : s.jobChan.closed = false) : Exec (Tick.Fair K) p s tr () s' := by
  refine h.restrict (J := fun s => s.jobChan.closed = false) (fun t c r t' ht hc => ?_) hopen
  obtain ⟨u, hu, hserves⟩ := hc
  obtain ⟨hfair, hopen'⟩ := fair_of_serves hserves (hu.closed.trans ht)
  exact ⟨⟨u, hu, hserves, hfair⟩, hopen'⟩

/-- **A tick conserves its batch.**  It reads the clock, pops, and places what it popped,
provided that nobody else writes those entries. -/
theorem tick_conserves (parse : String → Option UUID) (K : Set Member) {n : ℕ}
    (h : Exec (Tick K) (Scheduler.doWork parse n) s tr () s') (hopen : s.jobChan.closed = false)
    (hno : NoFail tr) :
    Exec (Tick.Fair K) (Scheduler.doWork parse n) s tr () s' ∧
      ∃ now items rest, tr = ⟨.timeNow, now⟩ :: ⟨.redis (.zPopMin n), .ok items⟩ :: rest ∧
        ((∀ x ∈ items, x.member ∈ K) →
          ∃ sent, Conserves parse K s tr s' (Time.unix now) items sent) := by
  refine ⟨fair_of_tick h hopen, ?_⟩
  obtain ⟨now, s₁, tr₁, hnow, rfl, h₁⟩ := exec_call_iff.mp h
  obtain ⟨tr₂, x, s₂, tr₃, hpop, hloop, rfl⟩ :=
    (exec_bind_iff (p := RedisClient.popDue n)).mp h₁
  obtain ⟨hno₂, hno₃⟩ := noFail_append.mp (noFail_cons.mp hno).2
  obtain ⟨items, rfl, rfl, hc⟩ := exec_retry_of_noFail hpop hno₂ fun err t t' =>
    tick_error fun t => ⟨_, rfl⟩
  obtain ⟨u, ks, hu, hitems, hsched⟩ := tick_redis hc rfl
  obtain rfl : items = (u.world.redis.schedule.popMin n).1 := Except.ok.inj hitems
  refine ⟨now, _, tr₃, rfl, fun hK => ?_⟩
  have hbefore : ∀ k ∈ K, u.nextRun k = s.nextRun k := fun k hk =>
    (hu.nextRun k hk).trans (tick_timeNow hnow hk)
  have hnodup : ((u.world.redis.schedule.popMin n).1.map Scored.member).Nodup :=
    (List.nodup_append'.mp (SortedSet.nodup_popMin n _)).1
  have hsorted := SortedSet.pairwise_popMin n u.world.redis.schedule
  have hafter : ∀ k, s₂.nextRun k = (u.world.redis.schedule.popMin n).2.score k := by
    intro k
    rw [Shared.nextRun, hsched]
    rfl
  obtain ⟨sent, hplaced⟩ := placed_of_doWorkLoop hloop hno₃ hK hnodup hsorted fun x hx => by
    rw [hafter]
    exact SortedSet.score_popMin_of_mem (List.mem_map_of_mem hx)
  -- the clock and the pop offer nothing
  refine ⟨sent, ⟨hplaced.later, hplaced.due, hplaced.offered, hplaced.jobs, hplaced.order,
    fun k hk hnot => ?_⟩, fun x hx => ?_, hnodup, hsorted⟩
  · rw [hplaced.others k hk hnot, hafter, SortedSet.score_popMin_of_not_mem hnot]
    exact hbefore k hk
  · rw [← hbefore _ (hK x hx)]
    exact SortedSet.score_of_mem_popMin hx

theorem Bystand.refl (K : Set Member) (s : Shared) : Bystand K s s :=
  ⟨fun _ _ => rfl, ⟨0, rfl⟩, rfl, rfl⟩

/-- Braces are read. -/
def Sample.spelling (t : String) : Option UUID := if t = "{2}" then some 2 else none

/-- Two monitors are due, one of them in braces, and one is not; the last member is no id.  The
channel has room for one job. -/
def Sample.crowd : Shared :=
  { (System.boot .least Sample.scheduled).shared with
    world := { Sample.scheduled with
      redis := { Sample.scheduled.redis with
        schedule := KeyValue.SortedSet.empty.add
          [⟨0, .id 1⟩, ⟨0, .text "{2}"⟩, ⟨9, .id 3⟩, ⟨0, .text "none"⟩] } }
    jobChan := Channel.make 1 }

/-- One entry is sent, one is refused, one is no id, and one is not due. -/
theorem tick_conserves_sample : ∃ tr s' sent, sentJobs tr = [1] ∧
    s'.nextRun (.id 1) = none ∧ s'.nextRun (.text "{2}") = some 2 ∧
      s'.nextRun (.text "none") = none ∧ s'.nextRun (.id 3) = some 9 ∧
        Conserves Sample.spelling Set.univ Sample.crowd tr s' 0
          [⟨0, .id 1⟩, ⟨0, .text "none"⟩, ⟨0, .text "{2}"⟩, ⟨9, .id 3⟩] sent := by
  obtain ⟨s', hrun, h₁, h₂, hnone, h₃⟩ : ∃ s', Exec (Tick Set.univ)
      (Scheduler.doWork Sample.spelling 5) Sample.crowd [⟨.timeNow, 0⟩,
        ⟨.redis (.zPopMin 5),
          .ok [⟨0, .id 1⟩, ⟨0, .text "none"⟩, ⟨0, .text "{2}"⟩, ⟨9, .id 3⟩]⟩,
        ⟨.offer ⟨1⟩, .sent⟩, ⟨.offer ⟨2⟩, .full⟩,
        ⟨.redis (.zAdd [⟨2, .text "{2}"⟩]), .ok ()⟩,
        ⟨.redis (.zAdd [⟨9, .id 3⟩]), .ok ()⟩] () s' ∧
      s'.nextRun (.id 1) = none ∧ s'.nextRun (.text "{2}") = some 2 ∧
      s'.nextRun (.text "none") = none ∧ s'.nextRun (.id 3) = some 9 := by
    refine ⟨_, .call ⟨_, .refl _ _, default, rfl⟩ <| .call ⟨_, .refl _ _, default, rfl⟩ <|
      .call ⟨_, .refl _ _, default, rfl⟩ <| .call ⟨_, .refl _ _, ⟨false, 0, [], .full⟩, rfl⟩ <|
      .call ⟨_, .refl _ _, default, rfl⟩ <| .call ⟨_, .refl _ _, default, rfl⟩ <| .ret _ _,
      ?_, ?_, ?_, ?_⟩
    all_goals rfl
  obtain ⟨-, now, items, rest, htr, hconserves⟩ :=
    tick_conserves Sample.spelling Set.univ hrun rfl (by decide)
  cases htr
  obtain ⟨sent, hsent⟩ := hconserves fun x _ => Set.mem_univ _
  exact ⟨_, s', sent, rfl, h₁, h₂, hnone, h₃, hsent⟩

end Sofon
