import Sofon.AppError
import Sofon.Store.Directory

/-!
# Registration

`Register` reads the flag, asks whether there are users, hashes the password, inserts the
account and, if there were no users, closes the flag; `SetupStatus` closes the flag as well.
Nothing ties these calls together.  `Register` goes on when it finds users behind an open
flag, and nothing keeps two of them apart.

So registration ends with its first account (`closed_of_reaches`) in the interleavings in
which neither happens (`Careful`): a `Register` that asks for users finds none, and no
`Register` inserts while another stands between its question and its `INSERT`.

A `Register` that has asked and not yet inserted is *undecided*, and `setupProtocol` reads it from
its trace.  The invariant is that while there are users, no `Register` is undecided (`Settled`).
`settled_step` has the three things that could break it.

* A `Register` becomes undecided by its question, and a careful one has then found no user.
* An account is added by the `INSERT` of a `Register` that was undecided
  (`follows_register`, `users_of_serves`), and at that moment no other one is.
* Nothing else makes a call undecided (`undecided_of_step`).

So an account is added to an empty table only, whatever the flag says, and once a user exists the
next statement adds none (`settled_of_reaches`).  The flag plays no part in the argument, and the
failures of statements, before or after they take effect, need no case of their own.
`not_closed_of_reaches` shows both ways in which it fails without care.
-/

namespace Sofon

open Interleaving Program

/-- `user.CreateUserCmd` -/
structure CreateUserCmd where
  name : String
  email : String
  passwordHash : String
  role : String

/-- An `error` as a service returns it: its own, or one of another package handed on. -/
inductive Failure where
  | app (err : AppError)
  | foreign

namespace UserRepository

/-- `repository.CreateUser` -/
def createUser (user : CreateUserCmd) : DirectoryProg (Except AppError UUID) := do
  let op := "repo.user.create_user"
  match ← query (.createUser user.name user.email user.passwordHash user.role) with
  | .ok id => pure (.ok id)
  -- the one constraint an account can violate is that its email is new
  | .error .constraint => pure (.error ⟨.alreadyExists, op, "user already exists"⟩)
  | .error err => pure (.error (wrapRepoError op err))

/-- `repository.HasUsers` -/
def hasUsers : DirectoryProg (Except AppError Bool) := do
  match ← query .hasUsers with
  | .ok has => pure (.ok has)
  | .error err => pure (.error (wrapRepoError "repo.user.has_users" err))

/-- `repository.GetRegistrationsEnabled` -/
def getRegistrationsEnabled : DirectoryProg (Except AppError Bool) := do
  match ← query .getRegistrationsEnabled with
  | .ok enabled => pure (.ok enabled)
  | .error err =>
    pure (.error (wrapRepoError "repo.instance_settings.get_registrations_enabled" err))

/-- `repository.SetRegistrationsEnabled` -/
def setRegistrationsEnabled (enabled : Bool) : DirectoryProg (Except AppError Unit) := do
  match ← query (.setRegistrationsEnabled enabled) with
  | .ok _ => pure (.ok ())
  | .error err =>
    pure (.error (wrapRepoError "repo.instance_settings.set_registrations_enabled" err))

end UserRepository

namespace UserService

open UserRepository

/-- `Service.Register` -/
def register (data : CreateUserCmd) : DirectoryProg (Except Failure UUID) := do
  match ← getRegistrationsEnabled with
  | .error err => pure (.error (.app err))
  | .ok false =>
    pure (.error (.app ⟨.forbidden, "service.user.register",
      "registration is disabled. Please contact the administrator."⟩))
  | .ok true =>
    match ← hasUsers with
    | .error err => pure (.error (.app err))
    | .ok has =>
      let role := if has then "member" else "owner"
      match ← hashPassword data.passwordHash with
      | .error _ => pure (.error .foreign)
      | .ok hashedPassword =>
        match ← createUser { data with role := role, passwordHash := hashedPassword } with
        | .error err => pure (.error (.app err))
        | .ok id =>
          if has then pure (.ok id)
          else do
            -- the first user is there, and the error is dropped
            let _ ← setRegistrationsEnabled false
            pure (.ok id)

/-- `Service.SetupStatus` -/
def setupStatus : DirectoryProg (Bool × Option AppError) := do
  match ← getRegistrationsEnabled with
  | .error err => pure (false, some err)
  | .ok false => pure (false, none)
  | .ok true =>
    match ← hasUsers with
    | .error err => pure (false, some err)
    | .ok true =>
      let _ ← setRegistrationsEnabled false
      pure (false, none)
    | .ok false => pure (true, none)

end UserService

/-- The calls of the set-up, which any number of visitors make. -/
inductive SetupCall where
  | register (data : CreateUserCmd)
  | setupStatus

namespace SetupCall

/-- What a call runs. -/
def prog : SetupCall → DirectoryProg Unit
  | register data => do
    let _ ← UserService.register data
    pure ()
  | setupStatus => do
    let _ ← UserService.setupStatus
    pure ()

/-- Is it a `Register`? -/
def registers : SetupCall → Bool
  | register _ => true
  | setupStatus => false

end SetupCall

/-! ## Where a call stands -/

/-- How far a call has got. -/
inductive Standing where
  | outside
  /-- it has asked whether there are users -/
  | between
  /-- its `INSERT` has run -/
  | inserted
  deriving DecidableEq

/-- The order in which a call asks for users and inserts: only a `Register` inserts, and
after it has asked. -/
def setupProtocol (registers : Bool) : Protocol DirectoryCmd DirectoryCmd.Resp Standing where
  start := .outside
  next q e := match e with
    | ⟨.sql .hasUsers, _⟩ => .between
    | ⟨.sql (.createUser ..), _⟩ => .inserted
    | _ => q
  allows q c := match c with
    | .sql (.createUser ..) => registers ∧ q = .between
    | _ => True
  answers _ := True

/-- The protocol of the call with number `i`. -/
def setupProtocols (calls : List SetupCall) (i : ℕ) :
    Protocol DirectoryCmd DirectoryCmd.Resp Standing :=
  setupProtocol (calls[i]?.any SetupCall.registers)

/-- A pool of such calls. -/
abbrev SetupPool := Pool DirectoryCmd DirectoryCmd.Resp Unit Directory

/-- Call `i` is a `Register` between its question and its `INSERT`. -/
def SetupPool.Undecided (calls : List SetupCall) (p : SetupPool) (i : ℕ) : Prop :=
  calls[i]?.any SetupCall.registers ∧
    p.threads[i]?.any fun t =>
      (setupProtocol true).state t.log = .between && !t.todo.returned

instance (calls : List SetupCall) (p : SetupPool) (i : ℕ) : Decidable (p.Undecided calls i) :=
  inferInstanceAs (Decidable (_ ∧ _))

/-- **The steps that keep registration closed.**  A `Register` that asks for users finds
none, and no `Register` inserts while another is undecided. -/
def SetupPool.Careful (calls : List SetupCall) (p : SetupPool) (i : ℕ)
    (e : Event DirectoryCmd DirectoryCmd.Resp) : Prop :=
  match e.cmd with
  | .sql .hasUsers => calls[i]?.any SetupCall.registers → p.shared.users = []
  | .sql (.createUser ..) => ∀ j < p.threads.length, j ≠ i → ¬ p.Undecided calls j
  | _ => True

/-! ## What the calls do -/

/-- A `Register` inserts after it has asked. -/
theorem follows_register (data : CreateUserCmd) :
    (UserService.register data).Follows (setupProtocol true) (fun _ _ => True) .outside := by
  refine ⟨trivial, fun enabled _ => ?_⟩
  rcases enabled with err | _ | _
  · trivial
  · trivial
  refine ⟨trivial, fun has _ => ?_⟩
  rcases has with err | has
  · trivial
  refine ⟨trivial, fun hashed _ => ?_⟩
  rcases hashed with err | hashed
  · trivial
  refine ⟨⟨rfl, rfl⟩, fun id _ => ?_⟩
  rcases id with err | id
  · cases err <;> trivial
  cases has with
  | true => trivial
  | false =>
    refine ⟨trivial, fun closed _ => ?_⟩
    rcases closed with err | u <;> trivial

/-- `SetupStatus` inserts nothing. -/
theorem follows_setupStatus :
    UserService.setupStatus.Follows (setupProtocol false) (fun _ _ => True) .outside := by
  refine ⟨trivial, fun enabled _ => ?_⟩
  rcases enabled with err | _ | _
  · trivial
  · trivial
  refine ⟨trivial, fun has _ => ?_⟩
  rcases has with err | _ | _
  · trivial
  · trivial
  refine ⟨trivial, fun closed _ => ?_⟩
  rcases closed with err | u <;> trivial

theorem follows_setupCall (call : SetupCall) :
    call.prog.Follows (setupProtocol call.registers) (fun _ _ => True) .outside := by
  cases call with
  | register data => exact (follows_register data).bind fun _ _ _ => trivial
  | setupStatus => exact follows_setupStatus.bind fun _ _ _ => trivial

variable {d d' : Directory} {calls : List SetupCall} {p p' : SetupPool} {i : ℕ}
  {e : Event DirectoryCmd DirectoryCmd.Resp}

theorem obeys_setup (d : Directory) (calls : List SetupCall) :
    Pool.Obeys (setupProtocols calls) (Pool.start d (calls.map SetupCall.prog)) := by
  refine Pool.obeys_start fun i q hq => ?_
  rw [List.getElem?_map] at hq
  obtain ⟨call, hcall, rfl⟩ := Option.map_eq_some_iff.mp hq
  rw [setupProtocols, hcall]
  exact follows_setupCall call

/-- A call adds an account only by an `INSERT`, and then it adds one. -/
theorem users_of_serves {c : DirectoryCmd} {r : c.Resp} (h : Directory.Serves d c r d') :
    d'.users = d.users ∨
      (∃ name email hash role, c = .sql (.createUser name email hash role)) ∧
        ∃ row, d'.users = d.users ++ [row] := by
  cases c with
  | timeNow | hashPassword password | randRead n =>
    rw [Directory.serves_aside (fun q hq => by cases hq) h]
    exact Or.inl rfl
  | sql q =>
    obtain ⟨-, rfl⟩ | ⟨now, -, rfl⟩ := Directory.serves_sql h
    · exact Or.inl rfl
    obtain hsame | ⟨⟨_, _, _, _, rfl⟩, hrow⟩ := Directory.exec_users now q d
    · exact Or.inl hsame
    · exact Or.inr ⟨⟨_, _, _, _, rfl⟩, hrow⟩

/-! ## Registration closes -/

/-- While there are users, no `Register` is undecided. -/
def SetupPool.Settled (calls : List SetupCall) (p : SetupPool) : Prop :=
  p.shared.users ≠ [] → ∀ j, ¬ p.Undecided calls j

/-- A call that is not an `INSERT` leaves an undecided call undecided, and makes one
undecided only by asking for users. -/
theorem undecided_of_step {t t' : Thread DirectoryCmd DirectoryCmd.Resp Unit} {j : ℕ}
    (ht : p.threads[i]? = some t) (hlive : t.todo.returned = false)
    (hset : p'.threads = p.threads.set i t') (hlog : t'.log = t.log ++ [e])
    (hins : ∀ name email hash role, e.cmd ≠ .sql (.createUser name email hash role))
    (hask : e.cmd = .sql .hasUsers → calls[i]?.any SetupCall.registers = false)
    (h : p'.Undecided calls j) : p.Undecided calls j := by
  obtain ⟨hreg, hbetween⟩ := h
  refine ⟨hreg, ?_⟩
  obtain ⟨x, hx, hxb⟩ := (Option.any_eq_true _ _).mp hbetween
  rw [hset] at hx
  obtain ⟨rfl, rfl⟩ | ⟨-, hx⟩ := Pool.thread_of_set hx
  · refine (Option.any_eq_true _ _).mpr ⟨t, ht, ?_⟩
    rw [Bool.and_eq_true, decide_eq_true_eq, hlog, Protocol.state_append] at hxb
    obtain ⟨hbefore, -⟩ := hxb
    rw [hlive, Bool.not_false, Bool.and_true, decide_eq_true_eq]
    obtain ⟨c, r⟩ := e
    cases c with
    | timeNow | hashPassword password | randRead n => exact hbefore
    | sql q =>
      cases q with
      | createUser name email hash role => exact absurd rfl (hins name email hash role)
      | hasUsers => exact absurd hreg (by rw [hask rfl]; exact Bool.false_ne_true)
      | _ => exact hbefore
  · exact (Option.any_eq_true _ _).mpr ⟨x, hx, hxb⟩

/-- **One step.**  An account is added only to an empty table, and the pool stays settled. -/
theorem settled_step (hobeys : Pool.Obeys (setupProtocols calls) p) (hsettled : p.Settled calls)
    (hs : Pool.Step Directory.Serves p i e p') (hcareful : p.Careful calls i e) :
    p'.Settled calls ∧ (p'.shared.users = p.shared.users ∨
      p.shared.users = [] ∧ ∃ row, p'.shared.users = p.shared.users ++ [row]) := by
  obtain ⟨-, t, t', ht, hlive, hallow, hset, hlog⟩ := Pool.obeys_step hs hobeys trivial
  by_cases hins : ∃ name email hash role, e.cmd = .sql (.createUser name email hash role)
  · obtain ⟨name, email, hash, role, hcmd⟩ := hins
    unfold SetupPool.Careful at hcareful
    rw [hcmd] at hallow hcareful
    obtain ⟨hreg, hbetween⟩ := hallow
    have hself : p.Undecided calls i := by
      refine ⟨hreg, (Option.any_eq_true _ _).mpr ⟨t, ht, ?_⟩⟩
      rw [Bool.and_eq_true, decide_eq_true_eq, hlive]
      exact ⟨hbetween, rfl⟩
    have hempty : p.shared.users = [] := by
      by_contra hne
      exact hsettled hne i hself
    refine ⟨fun _ j hj => ?_, ?_⟩
    · -- the caller has inserted, and by the guard no other call is undecided
      obtain ⟨hreg', hthread⟩ := hj
      obtain ⟨x, hx, hxb⟩ := (Option.any_eq_true _ _).mp hthread
      rw [hset] at hx
      obtain ⟨rfl, rfl⟩ | ⟨hne, hx⟩ := Pool.thread_of_set hx
      · rw [Bool.and_eq_true, decide_eq_true_eq, hlog, Protocol.state_append] at hxb
        obtain ⟨hbefore, -⟩ := hxb
        obtain ⟨c, r⟩ := e
        obtain rfl : c = _ := hcmd
        cases hbefore
      · have hlt : j < p.threads.length := (List.getElem?_eq_some_iff.mp hx).1
        exact hcareful j hlt hne ⟨hreg', (Option.any_eq_true _ _).mpr ⟨x, hx, hxb⟩⟩
    · obtain hsame | ⟨-, hrow⟩ := users_of_serves hs.serves
      · exact Or.inl hsame
      · exact Or.inr ⟨hempty, hrow⟩
  · have hsame : p'.shared.users = p.shared.users :=
      (users_of_serves hs.serves).resolve_right fun h => hins h.1
    refine ⟨fun hne j hj => ?_, Or.inl hsame⟩
    rw [hsame] at hne
    refine hsettled hne j (undecided_of_step ht hlive hset hlog (fun _ _ _ _ h => ?_) ?_ hj)
    · exact hins ⟨_, _, _, _, h⟩
    · intro hcmd
      unfold SetupPool.Careful at hcareful
      rw [hcmd] at hcareful
      exact Bool.eq_false_iff.mpr fun hreg => hne (hcareful hreg)

/-- **Registration is closed once a user exists**: the next step that meets the guard adds
an account only to an empty table, and registration has added at most one so far, and at
most one owner. -/
def SetupPool.Closed (guard : SetupPool → ℕ → Event DirectoryCmd DirectoryCmd.Resp → Prop)
    (d : Directory) (p : SetupPool) : Prop :=
  (∀ i e p', Pool.Step Directory.Serves p i e p' → guard p i e →
    p'.shared.users ≠ p.shared.users → p.shared.users = []) ∧
  ∃ created, p.shared.users = d.users ++ created ∧ created.length ≤ 1 ∧
    created.countP (·.role = "owner") ≤ 1

/-- What careful steps keep. -/
theorem settled_of_reaches (h : Pool.Reaches Directory.Serves (SetupPool.Careful calls)
    (Pool.start d (calls.map SetupCall.prog)) p) :
    Pool.Obeys (setupProtocols calls) p ∧ p.Settled calls ∧
      ∃ created, p.shared.users = d.users ++ created ∧ created.length ≤ 1 := by
  refine Pool.Reaches.induction
    (I := fun p => Pool.Obeys (setupProtocols calls) p ∧ SetupPool.Settled calls p ∧
      ∃ created, p.shared.users = d.users ++ created ∧ created.length ≤ 1) h
    ⟨obeys_setup d calls, ?_, [], (List.append_nil _).symm, Nat.zero_le 1⟩ ?_
  · -- nobody has asked yet
    intro _ j hj
    obtain ⟨x, hx, hxb⟩ := (Option.any_eq_true _ _).mp hj.2
    rw [Pool.start, List.getElem?_map] at hx
    obtain ⟨q, -, rfl⟩ := Option.map_eq_some_iff.mp hx
    cases hxb
  · rintro p i e p' hs hcareful ⟨hobeys, hsettled, created, hcreated, hlen⟩
    obtain ⟨hsettled', husers⟩ := settled_step hobeys hsettled hs hcareful
    refine ⟨(Pool.obeys_step hs hobeys trivial).1, hsettled', ?_⟩
    obtain hsame | ⟨hempty, row, hrow⟩ := husers
    · exact ⟨created, hsame.trans hcreated, hlen⟩
    · obtain ⟨hnil, rfl⟩ := List.append_eq_nil_iff.mp (hcreated.symm.trans hempty)
      exact ⟨[row], by rw [hrow, hcreated, List.append_nil], Nat.le_refl 1⟩

/-- **Careful interleavings keep registration closed**, from any directory and whatever statements
fail: an account is inserted only where there is none, so no more than one is. -/
theorem closed_of_reaches (h : Pool.Reaches Directory.Serves (SetupPool.Careful calls)
    (Pool.start d (calls.map SetupCall.prog)) p) : p.Closed (SetupPool.Careful calls) d := by
  obtain ⟨hobeys, hsettled, created, hcreated, hlen⟩ := settled_of_reaches h
  refine ⟨fun i e p' hs hcareful hne => ?_, created, hcreated, hlen,
    Nat.le_trans List.countP_le_length hlen⟩
  obtain ⟨-, husers⟩ := settled_step hobeys hsettled hs hcareful
  obtain ⟨hempty, -⟩ := husers.resolve_left hne
  exact hempty

namespace Sample

/-- A new instance, as the migrations leave it. -/
def fresh : Directory := ⟨[], true, [], [], 1, []⟩

/-- An instance that had an account when the flag came. -/
def upgraded : Directory :=
  ⟨[⟨1, "Ada", "ada@example.org", "$argon2id$", "owner", true, 0⟩], true, [], [], 2, []⟩

def ada : CreateUserCmd := ⟨"Ada", "ada@example.org", "correct horse", ""⟩

def bob : CreateUserCmd := ⟨"Bob", "bob@example.org", "battery staple", ""⟩

/-- Ada registers, `SetupStatus` runs while she does, and Bob comes too late.  Her attempt
to close the flag fails. -/
def orderly : List (ℕ × DirectoryEnv) :=
  ([0, 0, 1, 0, 0, 1].map fun i => (i, default)) ++ [(0, ⟨true, false, 0, .ok "", .ok []⟩)] ++
    [(1, default), (2, default)]

end Sample

instance (calls : List SetupCall) (p : SetupPool) (i : ℕ)
    (e : Event DirectoryCmd DirectoryCmd.Resp) : Decidable (p.Careful calls i e) :=
  match e with
  | ⟨.timeNow, _⟩ => isTrue trivial
  | ⟨.hashPassword _, _⟩ => isTrue trivial
  | ⟨.randRead _, _⟩ => isTrue trivial
  | ⟨.sql q, _⟩ =>
    match q with
    | .hasUsers =>
      inferInstanceAs (Decidable (calls[i]?.any SetupCall.registers → p.shared.users = []))
    | .createUser .. =>
      inferInstanceAs (Decidable (∀ j < p.threads.length, j ≠ i → ¬ p.Undecided calls j))
    | .getRegistrationsEnabled => isTrue trivial
    | .setRegistrationsEnabled _ => isTrue trivial
    | .getUserByEmail _ => isTrue trivial
    | .addTeamMember .. => isTrue trivial
    | .getTeamMembership .. => isTrue trivial
    | .listTeamMembers _ => isTrue trivial
    | .setTeamMemberActive .. => isTrue trivial
    | .userIsMember .. => isTrue trivial
    | .createInvitation .. => isTrue trivial
    | .getInvitationByToken _ => isTrue trivial
    | .acceptInvitation _ => isTrue trivial
    | .listInvitations _ => isTrue trivial
    | .deleteInvitation .. => isTrue trivial

theorem closed_of_reaches_sample :
    ∃ p : SetupPool, (p.shared.users.map AccountRow.email = ["ada@example.org"] ∧
      p.shared.registrationsEnabled = false) ∧
      p.Closed (SetupPool.Careful [.register Sample.ada, .setupStatus, .register Sample.bob])
        Sample.fresh := by
  obtain ⟨p, hreach, hcheck⟩ := Pool.exists_reaches_of_play Directory.serve
    (fun p i e => decide (SetupPool.Careful
      [.register Sample.ada, .setupStatus, .register Sample.bob] p i e))
    Sample.orderly
    (Pool.start Sample.fresh (List.map SetupCall.prog
      [.register Sample.ada, .setupStatus, .register Sample.bob]))
    (fun p => decide (p.shared.users.map AccountRow.email = ["ada@example.org"]) &&
      decide (p.shared.registrationsEnabled = false)) (by decide)
  simp only [Bool.and_eq_true, decide_eq_true_eq] at hcheck
  exact ⟨p, hcheck, closed_of_reaches (hreach.mono fun _ _ _ h => of_decide_eq_true h)⟩

/-- Bob has found the flag open and a user behind it, and has hashed his password. -/
def Sample.late : List (ℕ × DirectoryEnv) := [(0, default), (0, default), (0, default)]

/-- Ada and Bob register in step with each other. -/
def Sample.together : List (ℕ × DirectoryEnv) := [0, 1, 0, 1, 0, 1, 0, 1].map fun i => (i, default)

/-- **Registration stays open without that care.**  With the flag at its default, an
account is about to be added next to the one that an upgraded instance has; and two who
register at once on a new instance both become owners. -/
theorem not_closed_of_reaches :
    (∃ p : SetupPool, Pool.Reaches Directory.Serves (fun _ _ _ => True)
      (Pool.start Sample.upgraded [SetupCall.prog (.register Sample.bob)]) p ∧
        ¬ p.Closed (fun _ _ _ => True) Sample.upgraded) ∧
    ∃ p : SetupPool, Pool.Reaches Directory.Serves (fun _ _ _ => True)
      (Pool.start Sample.fresh
        [SetupCall.prog (.register Sample.ada), SetupCall.prog (.register Sample.bob)]) p ∧
        p.shared.users.map AccountRow.role = ["owner", "owner"] ∧
        ¬ p.Closed (fun _ _ _ => True) Sample.fresh := by
  constructor
  · obtain ⟨p, hreach, hcheck⟩ := Pool.exists_reaches_of_play Directory.serve
      (fun _ _ _ => true) Sample.late
      (Pool.start Sample.upgraded [SetupCall.prog (.register Sample.bob)])
      (fun p => p.shared.users.length = 1 &&
        (Pool.advance Directory.serve (fun _ _ _ => true) 0 default p).any fun p' =>
          p'.shared.users.length = 2) (by decide)
    simp only [Bool.and_eq_true, decide_eq_true_eq, Option.any_eq_true] at hcheck
    obtain ⟨hone, p', hadvance, htwo⟩ := hcheck
    obtain ⟨e, hs, -⟩ := Pool.step_of_advance hadvance
    refine ⟨p, hreach.mono fun _ _ _ _ => trivial, fun hclosed => ?_⟩
    have hempty : p.shared.users = [] := by
      refine hclosed.1 0 e p' hs trivial fun hsame => ?_
      rw [hsame] at htwo
      omega
    rw [hempty] at hone
    cases hone
  · obtain ⟨p, hreach, hcheck⟩ := Pool.exists_reaches_of_play Directory.serve
      (fun _ _ _ => true) Sample.together
      (Pool.start Sample.fresh
        [SetupCall.prog (.register Sample.ada), SetupCall.prog (.register Sample.bob)])
      (fun p => decide (p.shared.users.map AccountRow.role = ["owner", "owner"])) (by decide)
    have hroles := of_decide_eq_true hcheck
    refine ⟨p, hreach.mono fun _ _ _ _ => trivial, hroles, ?_⟩
    rintro ⟨-, created, hcreated, hlen, -⟩
    have htwo := congrArg List.length hroles
    rw [hcreated] at htwo
    simp only [List.length_map, List.length_append, List.length_cons, List.length_nil,
      Sample.fresh] at htwo
    omega

end Sofon
