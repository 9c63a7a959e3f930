import Sofon.Monitor.Requests
import Sofon.Foundations.Run

/-!
# Reading through the cache

`GetMonitor` answers from a copy in Redis if there is one of the right team, and from
the database otherwise.  Copies are made by `GetMonitor` and `LoadMonitor`; disabling
and deleting a monitor throw its copy away, and enabling it does not.  So a copy made
of a disabled monitor outlives the moment at which it is enabled.

A state in which every `GetMonitor` would be answered as by the database is `Faithful`.  That
is a statement about all requests that could come, and the first step is to see that it is a
matter of the copies alone: every copy is one of the current row (`faithful_iff_coherent`).
One direction needs `getMonitor_cases`, what a `GetMonitor` may answer; the other asks for the
very monitor whose copy is wrong (`getMonitor_of_copy`).

What an access does to the copies comes in two kinds.  Some only lose copies (`World.Fewer`),
and most calls do no more than that (`fewer_of_exec`).  Some also make one, of the row as it is
at that moment (`World.Refreshed`).  Neither harms as long as the rows stay, and rows change in
two requests:

* a delete throws the copy away before the row goes (`coherent_of_deleteMonitor`);
* a change of status throws it away when it disables, and leaves it there when it enables
  (`coherent_updateMonitorStatus`).

So one access keeps the copies current exactly when it evicts (`coherent_iff_evicts`), and by
induction a sequence keeps to faithful states just as long as no monitor is enabled next to a
copy of it (`agrees_of_evicts`).
-/

namespace Sofon

open Interleaving Program Transition

/-- The calls of the monitor service that read or write the row of a monitor. -/
inductive Access where
  | create (data : CreateMonitor)
  | get (team m : UUID)
  | load (m : UUID)
  | updateStatus (team m : UUID) (enable : Bool)
  | delete (team m : UUID)

/-- What an access runs, with the answer of a `GetMonitor`. -/
def Access.prog : Access → Prog (Option (Except AppError Monitor))
  | create data => do
    let _ ← MonitorService.createMonitor data
    return none
  | get team m => do
    let x ← MonitorService.getMonitor team m
    return some x
  | load m => do
    let _ ← MonitorService.loadMonitor m
    return none
  | updateStatus team m enable => do
    let _ ← MonitorService.updateMonitorStatus team m enable
    return none
  | delete team m => do
    let _ ← MonitorService.deleteMonitor team m
    return none

/-- An access that was served, with the states around it. -/
structure Visit where
  before : World
  access : Access
  trace : List Call
  answer : Option (Except AppError Monitor)
  after : World

/-- One access, from start to end, with every call getting through. -/
def Visits (w : World) (x : Visit) (w' : World) : Prop :=
  x.before = w ∧ x.after = w' ∧ Exec World.Live x.access.prog w x.trace x.answer w' ∧
    GetsThrough x.trace

namespace World

/-- What `repo.Get` would return at this moment. -/
def direct (team m : UUID) (w : World) : Except AppError Monitor :=
  (run (exec false) [] (MonitorRepository.get team m) w).2.1

/-- Every `GetMonitor` that is called now returns what `repo.Get` would. -/
def Faithful (w : World) : Prop :=
  ∀ team m tr x w', Exec Live (MonitorService.getMonitor team m) w tr x w' → GetsThrough tr →
    x = w.direct team m

/-- The row of `m` is the one that `x` was made of. -/
def Current (m : UUID) (x : Monitor) (w : World) : Prop :=
  ∃ row, w.db.monitor? m = some row ∧ x = MonitorRepository.ofRow row

/-- Every copy is one of the current row. -/
def Coherent (w : World) : Prop := ∀ m x, w.redis.monitor m = some x → w.Current m x

/-- Copies have run out, been thrown away, or been made of the current row. -/
def Refreshed (w w' : World) : Prop :=
  ∀ m x, w'.redis.monitor m = some x → w.redis.monitor m = some x ∨ w.Current m x

/-- Copies have only run out or been thrown away. -/
def Fewer (w w' : World) : Prop :=
  ∀ m x, w'.redis.monitor m = some x → w.redis.monitor m = some x

end World

/-- The answer of a `GetMonitor` is the one of `repo.Get`. -/
def Visit.Agrees (x : Visit) : Prop :=
  match x.access with
  | .get team m => x.answer = some (x.before.direct team m)
  | _ => True

/-- A monitor is enabled only when there is no copy of it, or the copy runs out before
the request is over. -/
def Visit.Evicts (x : Visit) : Prop :=
  match x.access with
  | .updateStatus team m true =>
    (∃ row, x.before.db.monitor? m = some row ∧ row.teamID = team ∧ row.enabled = false) →
      x.after.redis.monitor m = none
  | _ => True

variable {m : UUID} {w w' w'' : World} {tr : List Call}

/-! ## Copies -/

theorem World.Fewer.trans (h : w.Fewer w') (h' : w'.Fewer w'') : w.Fewer w'' :=
  fun m x hx => h m x (h' m x hx)

theorem World.Fewer.gone (h : w.Fewer w') (hm : w.redis.monitor m = none) :
    w'.redis.monitor m = none := by
  refine Option.eq_none_iff_forall_ne_some.mpr fun x hx => ?_
  rw [h m x hx] at hm
  cases hm

theorem World.fewer_expire (ks : List UUID) (w : World) : w.Fewer (w.expire ks) := by
  intro m x hx
  exact (Option.filter_eq_some_iff.mp hx).1

/-- The calls that make no copy. -/
def Cmd.copiesNothing : Cmd → Bool
  | redis (.setMonitor _) => false
  | _ => true

theorem Redis.exec_fewer {c : RedisCmd} (hc : (Cmd.redis c).copiesNothing) (s : Redis) (m : UUID)
    (x : Monitor) (hx : (s.exec c).2.monitor m = some x) : s.monitor m = some x := by
  cases c with
  | setMonitor y => cases hc
  | delMonitor m' =>
    simp only [Redis.exec, Function.update_apply] at hx
    split at hx
    · cases hx
    · exact hx
  | hSetNXAlerted m' | hSetNXRecoveredAlerted m' =>
    simp only [Redis.exec] at hx
    split at hx <;> exact hx
  | _ => exact hx

theorem fewer_of_live {c : Cmd} {r : c.Resp} (hc : c.copiesNothing) (h : World.Live w c r w') :
    w.Fewer w' := by
  obtain ⟨ks, rfl | ⟨c, rfl, rfl⟩ | ⟨q, now, rfl, rfl⟩ | ⟨ev, rfl, rfl⟩⟩ := World.live_cases h
  · exact World.fewer_expire ks w
  · intro m x hx
    exact World.fewer_expire ks w m x (Redis.exec_fewer hc _ m x hx)
  · exact World.fewer_expire ks w
  · exact World.fewer_expire ks w

theorem fewer_of_exec {α : Type} {p : Prog α} {a : α} (h : Exec World.Live p w tr a w')
    (hp : p.Only (Cmd.copiesNothing ·)) : w.Fewer w' := by
  refine h.invariant (I := fun x => w.Fewer x) (fun e he t t' hlive ht => ?_) fun _ _ hx => hx
  exact ht.trans (fewer_of_live (h.only hp e he) hlive)

/-- Throwing a copy away. -/
theorem gone_of_disableMonitor (h : Exec World.Live (MonitorService.disableMonitor m) w tr () w')
    (hno : GetsThrough tr) : w'.redis.monitor m = none := by
  obtain ⟨x, w₁, tr₁, hdel, rfl, h₁⟩ := exec_call_bind h
  have hrest : w₁.Fewer w' := by
    refine fewer_of_exec h₁ ⟨rfl, fun _ => ?_⟩
    have hclear : (RedisClient.clearIncident m).Only (Cmd.copiesNothing ·) :=
      RedisClient.only_retry_call (Cmd.copiesNothing ·) rfl rfl 2
    exact hclear.bind fun _ => ⟨rfl, fun _ => trivial⟩
  refine hrest.gone ?_
  obtain ⟨ks, ⟨rfl, -⟩ | ⟨-, rfl⟩⟩ := World.live_redis hdel
  · simp [Call.lost] at hno
  · exact Function.update_self ..

/-! ## One state -/

theorem World.direct_eq (team m : UUID) (w : World) : w.direct team m =
    match (w.db.monitor? m).filter (·.teamID = team) with
    | some row => .ok (MonitorRepository.ofRow row)
    | none => .error (wrapGetError "repo.monitor.get" .noRows) := by
  unfold direct MonitorRepository.get
  cases hrow : (w.db.monitor? m).filter (·.teamID = team) with
  | some row | none => simp [run, call, World.exec, DB.exec, hrow]

theorem World.current_congr {x : Monitor} (h : w'.db.monitors = w.db.monitors) :
    w'.Current m x ↔ w.Current m x := by
  unfold Current DB.monitor?
  rw [h]

theorem get_direct {team : UUID} {x : Except AppError Monitor}
    (h : Exec World.Live (MonitorRepository.get team m) w tr x w') (hno : GetsThrough tr) :
    x = w.direct team m ∧ w'.db.monitors = w.db.monitors ∧ w.Fewer w' := by
  have hrows := (World.of_core (get_core h hno).1).1
  have hfewer : w.Fewer w' := by
    refine fewer_of_exec h ⟨rfl, fun r => ?_⟩
    rcases r with err | row <;> trivial
  refine ⟨?_, hrows, hfewer⟩
  obtain ⟨r, w₁, tr₁, hget, rfl, hret⟩ := exec_call_bind h
  obtain ⟨now, rfl, -⟩ := sql_core hget (getsThrough_cons.mp hno).1
  rw [World.direct_eq]
  cases hrow : (w.db.monitor? m).filter (·.teamID = team) with
  | some row | none =>
    simp only [DB.exec, hrow] at hret
    exact (exec_ret_iff.mp hret).2.1

theorem World.Current.id_eq {x : Monitor} (h : w.Current m x) : x.id = m := by
  obtain ⟨row, hrow, rfl⟩ := h
  exact DB.id_of_monitor? hrow

theorem refreshed_of_setMonitor {x : Monitor} {u : Except RedisError Unit}
    (h : Exec World.Live (RedisClient.setMonitor x) w tr u w') (hx : w.Current m x) :
    w'.db.monitors = w.db.monitors ∧ w.Refreshed w' := by
  have hid := hx.id_eq
  obtain ⟨ks, ⟨-, rfl⟩ | ⟨-, rfl⟩⟩ := World.live_redis (exec_call h).1
  · exact ⟨rfl, fun m' y hy => Or.inl (World.fewer_expire ks w m' y hy)⟩
  · refine ⟨rfl, fun m' y hy => ?_⟩
    by_cases hm : m' = m
    · subst hm
      simp only [Redis.exec, hid, Function.update_self, Option.some.injEq] at hy
      exact Or.inr (hy ▸ hx)
    · simp only [Redis.exec, hid, Function.update_of_ne hm] at hy
      exact Or.inl (World.fewer_expire ks w m' y hy)

theorem World.Fewer.refreshed (h : w.Fewer w') (hrows : w'.db.monitors = w.db.monitors)
    (h' : w'.Refreshed w'') : w.Refreshed w'' := by
  intro m x hx
  rcases h' m x hx with hcopy | hcur
  · exact Or.inl (h m x hcopy)
  · exact Or.inr ((World.current_congr hrows).mp hcur)

/-- **A `GetMonitor`** is answered by a copy or by the database, and the copy it may
make is one of the current row. -/
theorem getMonitor_cases {team : UUID} {x : Except AppError Monitor}
    (h : Exec World.Live (MonitorService.getMonitor team m) w tr x w') (hno : GetsThrough tr) :
    w'.db.monitors = w.db.monitors ∧ w.Refreshed w' ∧
      ((∃ y, w.redis.monitor m = some y ∧ y.teamID = team ∧ x = .ok y) ∨
        x = w.direct team m) := by
  obtain ⟨tr₁, cached, w₁, tr₂, hread, h₁, rfl⟩ := exec_bind_iff.mp h
  obtain ⟨hno₁, hno₂⟩ := getsThrough_append.mp hno
  obtain ⟨r, w₂, tr₃, hget, rfl, hret⟩ := exec_call_bind hread
  obtain ⟨ks, ⟨rfl, -⟩ | ⟨rfl, rfl⟩⟩ := World.live_redis hget
  · simp [Call.lost] at hno₁
  obtain ⟨-, hcopy, rfl⟩ := exec_ret_iff.mp hret
  have hexp : w.Fewer (w.expire ks) := World.fewer_expire ks w
  cases hcached : cached.filter (·.teamID = team) with
  | some y =>
    simp only [hcached] at h₁
    obtain ⟨-, rfl, rfl⟩ := exec_ret_iff.mp h₁
    obtain ⟨hy, hteam⟩ := Option.filter_eq_some_iff.mp hcached
    exact ⟨rfl, fun m' z hz => Or.inl (hexp m' z hz),
      Or.inl ⟨y, hexp m y (hcopy ▸ hy), of_decide_eq_true hteam, rfl⟩⟩
  | none =>
    simp only [hcached] at h₁
    obtain ⟨tr₄, z, w₃, tr₅, hdb, h₂, rfl⟩ := exec_bind_iff.mp h₁
    obtain ⟨hno₃, hno₄⟩ := getsThrough_append.mp hno₂
    obtain ⟨hz, hrows, hfewer⟩ := get_direct hdb hno₃
    have hz : z = w.direct team m := by
      rw [World.direct_eq] at hz ⊢
      exact hz
    have hfewer : w.Fewer w₃ := hexp.trans hfewer
    rcases z with err | y
    · obtain ⟨-, rfl, rfl⟩ := exec_ret_iff.mp h₂
      exact ⟨hrows, fun m' y hy => Or.inl (hfewer m' y hy), Or.inr hz⟩
    · obtain ⟨tr₆, u, w₄, tr₇, hset, hend, rfl⟩ := exec_bind_iff.mp h₂
      obtain ⟨-, rfl, rfl⟩ := exec_ret_iff.mp hend
      have hcur : w.Current m y := by
        rw [World.direct_eq] at hz
        split at hz
        · rename_i row hrow
          exact ⟨row, (Option.filter_eq_some_iff.mp hrow).1, Except.ok.inj hz⟩
        · cases hz
      obtain ⟨hrows', hfresh⟩ := refreshed_of_setMonitor hset
        ((World.current_congr (w := w) hrows).mpr hcur)
      exact ⟨hrows'.trans hrows, hfewer.refreshed hrows hfresh, Or.inr hz⟩

/-- **A `LoadMonitor`** makes a copy of the current row. -/
theorem loadMonitor_cases {x : Except AppError Monitor}
    (h : Exec World.Live (MonitorService.loadMonitor m) w tr x w') (hno : GetsThrough tr) :
    w'.db.monitors = w.db.monitors ∧ w.Refreshed w' := by
  obtain ⟨tr₁, z, w₁, tr₂, hread, h₁, rfl⟩ := exec_bind_iff.mp h
  obtain ⟨r, w₂, tr₃, hget, rfl, hret⟩ := exec_call_bind hread
  obtain ⟨hno₁, -⟩ := getsThrough_append.mp hno
  have hrows := (neutral_of_live (c := .sql (.getMonitorByID m)) rfl hget).1
  have hfewer : w.Fewer w₂ := fewer_of_live (c := .sql (.getMonitorByID m)) rfl hget
  obtain ⟨now, hr, -⟩ := sql_core hget (getsThrough_cons.mp hno₁).1
  rcases r with err | row
  · obtain ⟨-, rfl, rfl⟩ := exec_ret_iff.mp hret
    obtain ⟨-, -, rfl⟩ := exec_ret_iff.mp h₁
    exact ⟨hrows, fun m' y hy => Or.inl (hfewer m' y hy)⟩
  · obtain ⟨-, rfl, rfl⟩ := exec_ret_iff.mp hret
    obtain ⟨tr₄, u, w₃, tr₅, hset, hend, rfl⟩ := exec_bind_iff.mp h₁
    obtain ⟨-, -, rfl⟩ := exec_ret_iff.mp hend
    have hcur : w.Current m (MonitorRepository.ofRow row) := by
      exact ⟨row, DB.monitor?_of_getMonitorByID hr.symm, rfl⟩
    obtain ⟨hrows', hfresh⟩ := refreshed_of_setMonitor hset
      ((World.current_congr (w := w) hrows).mpr hcur)
    exact ⟨hrows'.trans hrows, hfewer.refreshed hrows hfresh⟩

/-- A copy of the right team is an answer. -/
theorem getMonitor_of_copy {y : Monitor} (hy : w.redis.monitor m = some y) :
    Exec World.Live (MonitorService.getMonitor y.teamID m) w
      [⟨.redis (.getMonitor m), .ok (some y)⟩] (.ok y) (w.expire []) := by
  have hexp : (w.expire []).redis.monitor m = some y := by
    simp [World.expire, Redis.expire, hy]
  have hlive : World.Live w (.redis (.getMonitor m)) (.ok (some y)) (w.expire []) := by
    refine ⟨default, ?_⟩
    show (Except.ok ((w.expire []).redis.monitor m), _) = _
    rw [hexp]
    rfl
  refine exec_bind_iff.mpr ⟨_, some y, _, [], Exec.call hlive (Exec.ret _ _), ?_, rfl⟩
  simp only [Option.filter_some, decide_true, if_true]
  exact Exec.ret _ _

/-- **Faithful are the states whose copies are current.** -/
theorem faithful_iff_coherent : w.Faithful ↔ w.Coherent := by
  constructor
  · intro h m y hy
    have hdirect := h _ _ _ _ _ (getMonitor_of_copy hy) (by simp [GetsThrough, Call.lost])
    rw [World.direct_eq] at hdirect
    split at hdirect
    · rename_i row hrow
      exact ⟨row, (Option.filter_eq_some_iff.mp hrow).1, Except.ok.inj hdirect⟩
    · cases hdirect
  · intro h team m tr x w' hexec hno
    obtain ⟨-, -, ⟨y, hy, rfl, rfl⟩ | hx⟩ := getMonitor_cases hexec hno
    · obtain ⟨row, hrow, rfl⟩ := h m y hy
      rw [World.direct_eq, hrow, Option.filter_some, if_pos (by simp [MonitorRepository.ofRow])]
    · exact hx

/-! ## One access -/

/-- A request that disables a monitor throws its copy away. -/
theorem gone_of_updateMonitorStatus {team : UUID} {x : Except AppError Bool}
    (h : Exec World.Live (MonitorService.updateMonitorStatus team m false) w tr x w')
    (hno : GetsThrough tr) : w'.core = w.core ∨ w'.redis.monitor m = none := by
  obtain ⟨tr₁, y, w₁, tr₂, hget, h₁, rfl⟩ := exec_bind_iff.mp h
  obtain ⟨hno₁, hno₂⟩ := getsThrough_append.mp hno
  obtain ⟨hcore, hok⟩ := get_core hget hno₁
  rcases y with err | y
  · obtain ⟨-, -, rfl⟩ := exec_ret_iff.mp h₁
    exact Or.inl hcore
  obtain ⟨row, hrow, hid, hteam, rfl⟩ := hok y rfl
  change Exec _ (if row.enabled = false then _ else _) _ _ _ _ at h₁
  split at h₁
  · obtain ⟨-, -, rfl⟩ := exec_ret_iff.mp h₁
    exact Or.inl hcore
  obtain ⟨tr₃, z, w₂, tr₄, hset, h₂, rfl⟩ := exec_bind_iff.mp h₁
  obtain ⟨hno₃, hno₄⟩ := getsThrough_append.mp hno₂
  have hmem : row ∈ w₁.db.monitors := (World.of_core hcore).1 ▸ DB.mem_of_monitor? hrow
  obtain ⟨rfl, -⟩ := setEnabled_core hset hno₃ hmem hid hteam
  obtain ⟨tr₅, u, w₃, tr₆, hclose, h₃, rfl⟩ := exec_bind_iff.mp h₂
  obtain ⟨tr₇, v, w₄, tr₈, hdis, hret, rfl⟩ := exec_bind_iff.mp h₃
  obtain ⟨-, -, rfl⟩ := exec_ret_iff.mp hret
  exact Or.inr (gone_of_disableMonitor hdis
    (getsThrough_append.mp (getsThrough_append.mp hno₄).2).1)

theorem gone_of_deleteMonitor {team : UUID} {x : Except AppError Unit}
    (h : Exec World.Live (MonitorService.deleteMonitor team m) w tr x w') (hno : GetsThrough tr) :
    w'.core = w.core ∨ w'.redis.monitor m = none := by
  obtain ⟨tr₁, y, w₁, tr₂, hget, h₁, rfl⟩ := exec_bind_iff.mp h
  obtain ⟨hno₁, hno₂⟩ := getsThrough_append.mp hno
  rcases y with err | y
  · obtain ⟨-, -, rfl⟩ := exec_ret_iff.mp h₁
    exact Or.inl (get_core hget hno₁).1
  obtain ⟨tr₃, u, w₂, tr₄, hdis, h₂, rfl⟩ := exec_bind_iff.mp h₁
  have hrest : w₂.Fewer w' := by
    refine fewer_of_exec h₂ (Only.bind ⟨rfl, fun z => ?_⟩ fun z => ?_)
    · rcases z with err | rows
      · trivial
      · show Only _ (if rows = 0 then _ else _)
        split <;> trivial
    · rcases z with err | v
      · trivial
      · refine Only.bind ⟨rfl, fun z => ?_⟩ fun _ => trivial
        rcases z with err | v <;> trivial
  exact Or.inr (hrest.gone (gone_of_disableMonitor hdis (getsThrough_append.mp hno₂).1))

/-- Copies stay current as long as their rows stay. -/
theorem World.Coherent.fewer (h : w.Coherent) (hfewer : w.Fewer w')
    (hrows : ∀ m x row, w'.redis.monitor m = some x → w.db.monitor? m = some row →
      w'.db.monitor? m = some row) : w'.Coherent := by
  intro m x hx
  obtain ⟨row, hrow, rfl⟩ := h m x (hfewer m x hx)
  exact ⟨row, hrows m _ row hx hrow, rfl⟩

theorem World.Coherent.refreshed (h : w.Coherent) (hrows : w'.db.monitors = w.db.monitors)
    (hfresh : w.Refreshed w') : w'.Coherent := by
  intro m x hx
  rw [current_congr hrows]
  exact (hfresh m x hx).elim (h m x) id

theorem coherent_of_createMonitor {data : CreateMonitor} {x : Except AppError UUID}
    (h : Exec World.Live (MonitorService.createMonitor data) w tr x w') (hno : GetsThrough tr)
    (hw : w.Coherent) : w'.Coherent := by
  have hfewer : w.Fewer w' := fewer_of_exec h
    (MonitorService.only_createMonitor (Cmd.copiesNothing ·) rfl rfl rfl (fun _ => rfl)
      fun _ _ => rfl)
  refine hw.fewer hfewer fun m x row _ hrow => ?_
  rcases createMonitor_core h hno with hcore | ⟨new, score, hcore⟩
  · rw [DB.monitor?, (World.of_core hcore).1]
    exact hrow
  · rw [DB.monitor?, (World.of_core hcore).1, List.find?_append]
    rw [DB.monitor?] at hrow
    rw [hrow, Option.some_or]

theorem coherent_of_deleteMonitor {team m₀ : UUID} {x : Except AppError Unit}
    (h : Exec World.Live (MonitorService.deleteMonitor team m₀) w tr x w') (hno : GetsThrough tr)
    (hw : w.Coherent) : w'.Coherent := by
  have hfewer : w.Fewer w' := fewer_of_exec h
    (MonitorService.only_deleteMonitor (Cmd.copiesNothing ·) rfl rfl rfl (fun _ => rfl) rfl rfl
      rfl rfl)
  refine hw.fewer hfewer fun m y row hy hrow => ?_
  rcases gone_of_deleteMonitor h hno with hcore | hgone
  · rw [DB.monitor?, (World.of_core hcore).1]
    exact hrow
  have hm : m ≠ m₀ := by
    rintro rfl
    rw [hgone] at hy
    cases hy
  rcases deleteMonitor_core h hno with hcore | ⟨old, -, -, hcore⟩
  · rw [DB.monitor?, (World.of_core hcore).1]
    exact hrow
  · rw [DB.monitor?, (World.of_core hcore).1, List.find?_filter]
    rw [DB.monitor?] at hrow
    rw [← hrow]
    refine congrArg (fun p => w.db.monitors.find? p) (funext fun z => ?_)
    by_cases hz : z.id = m
    · simp [hz, hm]
    · simp [hz]

/-- What an `UPDATE` of the flag does to the row of a monitor. -/
theorem monitor?_setEnabled {m₀ team : UUID} {b : Bool} {row : MonitorRow}
    (hrows : w'.db.monitors = w.db.monitors.map (·.setEnabled m₀ team b))
    (hrow : w.db.monitor? m = some row) :
    w'.db.monitor? m = some (row.setEnabled m₀ team b) := by
  rw [DB.monitor?] at hrow ⊢
  rw [hrows, find?_setEnabled, hrow, Option.map_some]

/-- **A status request** leaves the copies current just when it evicts. -/
theorem coherent_updateMonitorStatus {team m₀ : UUID} {b : Bool} {x : Except AppError Bool}
    (h : Exec World.Live (MonitorService.updateMonitorStatus team m₀ b) w tr x w')
    (hno : GetsThrough tr) (hw : w.Coherent) :
    w'.Coherent ↔ (b = true → (∃ row, w.db.monitor? m₀ = some row ∧ row.teamID = team ∧
      row.enabled = false) → w'.redis.monitor m₀ = none) := by
  have hfewer : w.Fewer w' := fewer_of_exec h
    (MonitorService.only_updateMonitorStatus (Cmd.copiesNothing ·) rfl rfl rfl rfl
      (fun _ _ => rfl) (fun _ => rfl) rfl rfl rfl rfl)
  rcases updateMonitorStatus_core h hno with
    ⟨hcore, hsame⟩ | ⟨old, hold, hteam, hchange⟩
  · -- nothing was to be done
    refine iff_of_true (hw.fewer hfewer fun m x row _ hrow => ?_) ?_
    · rw [DB.monitor?, (World.of_core hcore).1]
      exact hrow
    · rintro rfl ⟨row, hrow, hteam, hen⟩
      rw [hsame row hrow hteam] at hen
      cases hen
  have hrows : w'.db.monitors = w.db.monitors.map (·.setEnabled m₀ team b) := by
    rcases hchange with ⟨-, score, hcore⟩ | ⟨-, hcore⟩ <;> exact (World.of_core hcore).1
  have hid : old.id = m₀ := DB.id_of_monitor? hold
  have hset : old.setEnabled m₀ team b = { old with enabled := b } :=
    if_pos (by simp [hid, hteam])
  constructor
  · -- a copy that is still there was made of the row as it was
    rintro hcoh rfl ⟨row, hrow, -, hen⟩
    obtain rfl := Option.some.inj (hold.symm.trans hrow)
    refine Option.eq_none_iff_forall_ne_some.mpr fun y hy => ?_
    obtain ⟨row', hrow', rfl⟩ := hcoh m₀ y hy
    obtain ⟨row'', hrow'', heq⟩ := hw m₀ _ (hfewer m₀ _ hy)
    obtain rfl := Option.some.inj (hold.symm.trans hrow'')
    obtain rfl := Option.some.inj ((monitor?_setEnabled hrows hold).symm.trans hrow')
    have hflag : true = old.enabled := by
      rw [hset] at heq
      exact congrArg Monitor.enabled heq
    rw [hen] at hflag
    cases hflag
  · intro hevict
    refine hw.fewer hfewer fun m y row hy hrow => ?_
    rw [monitor?_setEnabled hrows hrow]
    refine congrArg some ?_
    by_cases hm : m = m₀
    · subst hm
      obtain rfl := Option.some.inj (hold.symm.trans hrow)
      cases b with
      | true =>
        have hen : old.enabled = true := by
          by_contra hen
          rw [hevict rfl ⟨old, hold, hteam, by simpa using hen⟩] at hy
          cases hy
        rw [hset, ← hen]
      | false =>
        rcases gone_of_updateMonitorStatus h hno with hcore | hgone
        · have hkept := monitor?_setEnabled hrows hold
          rw [DB.monitor?, (World.of_core hcore).1] at hkept
          exact Option.some.inj (hkept.symm.trans hold)
        · rw [hgone] at hy
          cases hy
    · have hrowid : row.id = m := DB.id_of_monitor? hrow
      exact if_neg (by simp [hrowid, hm])

/-- **One access** keeps the copies current just when it evicts. -/
theorem coherent_iff_evicts {x : Visit} (h : Visits w x w') (hw : w.Coherent) :
    w'.Coherent ↔ x.Evicts := by
  obtain ⟨rfl, rfl, hexec, hno⟩ := h
  obtain ⟨before, access, tr, answer, after⟩ := x
  cases access with
  | create data =>
    obtain ⟨tr₁, y, w₁, tr₂, hcreate, hret, rfl⟩ := exec_bind_iff.mp hexec
    obtain ⟨-, -, rfl⟩ := exec_ret_iff.mp hret
    exact iff_of_true
      (coherent_of_createMonitor hcreate (getsThrough_append.mp hno).1 hw) trivial
  | get team m =>
    obtain ⟨tr₁, y, w₁, tr₂, hget, hret, rfl⟩ := exec_bind_iff.mp hexec
    obtain ⟨-, -, rfl⟩ := exec_ret_iff.mp hret
    obtain ⟨hrows, hfresh, -⟩ := getMonitor_cases hget (getsThrough_append.mp hno).1
    exact iff_of_true (hw.refreshed hrows hfresh) trivial
  | load m =>
    obtain ⟨tr₁, y, w₁, tr₂, hload, hret, rfl⟩ := exec_bind_iff.mp hexec
    obtain ⟨-, -, rfl⟩ := exec_ret_iff.mp hret
    obtain ⟨hrows, hfresh⟩ := loadMonitor_cases hload (getsThrough_append.mp hno).1
    exact iff_of_true (hw.refreshed hrows hfresh) trivial
  | updateStatus team m enable =>
    obtain ⟨tr₁, y, w₁, tr₂, hupdate, hret, rfl⟩ := exec_bind_iff.mp hexec
    obtain ⟨-, -, rfl⟩ := exec_ret_iff.mp hret
    have hiff := coherent_updateMonitorStatus hupdate (getsThrough_append.mp hno).1 hw
    cases enable with
    | true => exact hiff.trans ⟨fun hall => hall rfl, fun hall _ => hall⟩
    | false => exact iff_of_true (hiff.mpr nofun) trivial
  | delete team m =>
    obtain ⟨tr₁, y, w₁, tr₂, hdelete, hret, rfl⟩ := exec_bind_iff.mp hexec
    obtain ⟨-, -, rfl⟩ := exec_ret_iff.mp hret
    exact iff_of_true
      (coherent_of_deleteMonitor hdelete (getsThrough_append.mp hno).1 hw) trivial

/-- A `GetMonitor` agrees with the database in a faithful state. -/
theorem agrees_of_faithful {x : Visit} (h : Visits w x w') (hw : w.Faithful) : x.Agrees := by
  obtain ⟨rfl, rfl, hexec, hno⟩ := h
  obtain ⟨before, access, tr, answer, after⟩ := x
  cases access with
  | get team m =>
    obtain ⟨tr₁, y, w₁, tr₂, hget, hret, rfl⟩ := exec_bind_iff.mp hexec
    obtain ⟨-, rfl, -⟩ := exec_ret_iff.mp hret
    exact congrArg some (hw team m _ _ _ hget (getsThrough_append.mp hno).1)
  | _ => trivial

/-! ## Sequences -/

/-- **Reading through the cache is reading the database** in a sequence of calls that
evicts before it enables, and in no other are all the states on the way faithful. -/
theorem agrees_of_evicts {w₀ : World} {l : List Visit} (h₀ : w₀.Faithful)
    (h : Runs Visits w₀ l w) :
    ((∀ x ∈ l, x.Evicts) → ∀ x ∈ l, x.Agrees) ∧
      ((∀ x ∈ l, x.Evicts) ↔ ∀ x ∈ l, x.after.Faithful) := by
  -- the induction carries that the last state is faithful if every access evicted
  suffices hall : ((∀ x ∈ l, x.Evicts) → w.Coherent) ∧
      ((∀ x ∈ l, x.Evicts) → ∀ x ∈ l, x.Agrees) ∧
      ((∀ x ∈ l, x.Evicts) ↔ ∀ x ∈ l, x.after.Faithful) from hall.2
  induction h with
  | nil => exact ⟨fun _ => faithful_iff_coherent.mp h₀, by simp, by simp⟩
  | @snoc l w w' x h hx ih =>
    obtain ⟨hend, hagrees, hiff⟩ := ih
    have hafter : x.after = w' := hx.2.1
    simp only [List.forall_mem_append, List.forall_mem_singleton, ← hiff, hafter]
    refine ⟨fun hall => (coherent_iff_evicts hx (hend hall.1)).mpr hall.2, fun hall => ?_, ?_⟩
    · exact ⟨hagrees hall.1, agrees_of_faithful hx (faithful_iff_coherent.mpr (hend hall.1))⟩
    · refine and_congr_right fun hall => ?_
      rw [faithful_iff_coherent]
      exact (coherent_iff_evicts hx (hend hall)).symm

/-- Serve an access with nothing failing and nothing running out. -/
def Access.serve (access : Access) (w : World) : Visit :=
  let y := run (World.exec false) [] access.prog w
  ⟨w, access, y.1, y.2.1, y.2.2⟩

/-- Serve accesses one after another. -/
def Access.serveAll : List Access → World → List Visit
  | [], _ => []
  | access :: rest, w => access.serve w :: serveAll rest (access.serve w).after

theorem runs_serveAll {l : List Access} (h : ∀ x ∈ Access.serveAll l w, GetsThrough x.trace) :
    ∃ w', Runs Visits w (Access.serveAll l w) w' := by
  induction l generalizing w with
  | nil => exact ⟨w, Runs.nil⟩
  | cons access rest ih =>
    obtain ⟨hno, hrest⟩ := List.forall_mem_cons.mp h
    obtain ⟨w', hruns⟩ := ih hrest
    exact ⟨w', runs_cons_iff.mpr ⟨_, ⟨rfl, rfl, exec_run _ _ _ _, hno⟩, hruns⟩⟩

instance (tr : List Call) : Decidable (GetsThrough tr) :=
  inferInstanceAs (Decidable (∀ e ∈ tr, e.lost = false))

/-- The sample monitor is disabled, read, enabled and read again. -/
def Sample.toggled : List Access :=
  [.updateStatus 9 1 false, .get 9 1, .updateStatus 9 1 true, .get 9 1]

theorem Sample.faithful_world : world.Faithful :=
  faithful_iff_coherent.mpr fun _ _ hx => nomatch hx

/-- The sample monitor is read, disabled, enabled with no copy left, and read again. -/
def Sample.evicted : List Access :=
  [.get 9 1, .updateStatus 9 1 false, .updateStatus 9 1 true, .get 9 1]

/-- There is no copy of what has been enabled. -/
def Sample.uncopied (x : Visit) : Bool :=
  match x.access with
  | .updateStatus _ m true => (x.after.redis.monitor m).isNone
  | _ => true

theorem Sample.evicts_of_uncopied {x : Visit} (h : uncopied x) : x.Evicts := by
  unfold uncopied at h
  unfold Visit.Evicts
  split at h
  · exact fun _ => Option.isNone_iff_eq_none.mp h
  · trivial

/-- In the first sequence every read agrees with the database; in the second the read between
the two requests leaves a copy behind. -/
theorem agrees_of_evicts_sample :
    (∃ w, Runs Visits Sample.world (Access.serveAll Sample.evicted Sample.world) w ∧
      (∀ x ∈ Access.serveAll Sample.evicted Sample.world, x.Agrees) ∧
      ∀ x ∈ Access.serveAll Sample.evicted Sample.world, x.after.Faithful) ∧
    ∃ w, Runs Visits Sample.world (Access.serveAll Sample.toggled Sample.world) w ∧
      ((∀ x ∈ Access.serveAll Sample.toggled Sample.world, x.Evicts) →
        ∀ x ∈ Access.serveAll Sample.toggled Sample.world, x.Agrees) ∧
      ((∀ x ∈ Access.serveAll Sample.toggled Sample.world, x.Evicts) ↔
        ∀ x ∈ Access.serveAll Sample.toggled Sample.world, x.after.Faithful) := by
  have huncopied : ∀ x ∈ Access.serveAll Sample.evicted Sample.world, Sample.uncopied x := by
    decide
  have hevicts : ∀ x ∈ Access.serveAll Sample.evicted Sample.world, x.Evicts :=
    fun x hx => Sample.evicts_of_uncopied (huncopied x hx)
  obtain ⟨w, hevicted⟩ := runs_serveAll (w := Sample.world) (l := Sample.evicted) (by decide)
  obtain ⟨hagrees, hfaithful⟩ := agrees_of_evicts Sample.faithful_world hevicted
  obtain ⟨w', htoggled⟩ := runs_serveAll (w := Sample.world) (l := Sample.toggled) (by decide)
  exact ⟨⟨w, hevicted, hagrees hevicts, hfaithful.mp hevicts⟩, w', htoggled,
    agrees_of_evicts Sample.faithful_world htoggled⟩

/-- **A `GetMonitor` may return what is no longer so**: that the monitor is disabled. -/
theorem not_agrees_of_runs : ¬∀ (w₀ w : World) (l : List Visit),
    w₀.Faithful → Runs Visits w₀ l w → ∀ x ∈ l, x.Agrees := by
  intro hall
  obtain ⟨w, hruns⟩ := runs_serveAll (w := Sample.world) (l := Sample.toggled) (by decide)
  have hagrees := hall _ _ _ Sample.faithful_world hruns
  simp only [Sample.toggled, Access.serveAll, List.forall_mem_cons] at hagrees
  have hflag := congrArg (fun x => x.map fun y => y.toOption.map Monitor.enabled)
    hagrees.2.2.2.1
  exact absurd hflag (by decide)

end Sofon
