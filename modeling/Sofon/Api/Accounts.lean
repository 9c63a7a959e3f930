import Sofon.Api.Guarded

/-!
# Whose password it is

Nobody gets into an account but by a password that its holder has set (`rightful_of_reaches`).
An account was there at the beginning, or the `INSERT` of a request has opened it, with a
password of its own: by registering while registration was open, or by accepting an invitation
for an email that had no account.  After that the password changes only at the request of
somebody who was signed in as the user and knew a password that was rightful before.

Of an account the rest never changes, apart from the name: the email, the role and whether it is
active are those it was opened with.  `repository.SetUserActive` is there, but no request gets
to it.

The argument is an induction over the run, and what it carries is `Justified`: every hash in the
table is rightful, and so is every hash that a request has read there.  The second half is what
makes a change of password go through.  The request has compared the current password with a
hash that it read some time ago, which need not be the one in the table by now; but it was
rightful for the same account, and nothing else is asked of it.  That it is the same account
takes two facts.  Ids of accounts are ids (`Directory.Keyed`), and accounts keep what makes them
up (`Server.Amends`).

`Rightful` is a derivation, from the hash that is there now back to how the account began.  Its
steps are steps of the run that have changed the table (`BroughtAbout`), so a statement that was
refused does not count, and one whose answer was lost does.
-/

namespace Sofon

open Interleaving Program

variable {κ : Type}

/-- What no request changes about an account. -/
def AccountRow.identity (row : AccountRow) : UUID × String × String × Bool :=
  (row.id, row.email, row.role, row.isActive)

/-- Ids of accounts are ids, and new ones are given out. -/
structure Directory.Keyed (d : Directory) : Prop where
  ids : (d.users.map AccountRow.id).Nodup
  fresh : ∀ row ∈ d.users, row.id < d.nextID

/-- Accounts with one id are one account. -/
theorem Directory.Keyed.eq {d : Directory} (h : d.Keyed) {row row' : AccountRow}
    (hrow : row ∈ d.users) (hrow' : row' ∈ d.users) (hid : row.id = row'.id) : row = row' :=
  List.inj_on_of_nodup_map h.ids hrow hrow' hid

/-! ## What a statement does to the accounts -/

/-- A statement of the directory adds at most one account, with the next id. -/
theorem Directory.accounts_exec (now : Time) (q : DirectoryQuery) (d : Directory) :
    d.nextID ≤ (d.exec now q).2.nextID ∧ ((d.exec now q).2.users = d.users ∨
      ∃ name email hash role, q = .createUser name email hash role ∧
        (d.exec now q).2.users =
          d.users ++ [⟨d.nextID, name, email, hash, role, true, now.micros⟩] ∧
        d.nextID < (d.exec now q).2.nextID) := by
  cases q with
  | createUser name email hash role =>
    simp only [exec]
    split
    · exact ⟨le_refl _, Or.inl rfl⟩
    · exact ⟨Nat.le_succ _, Or.inr ⟨_, _, _, _, rfl, rfl, Nat.lt_succ_self _⟩⟩
  | addTeamMember | createInvitation =>
    simp only [exec]
    split
    · exact ⟨Nat.le_succ _, Or.inl rfl⟩
    · exact ⟨le_refl _, Or.inl rfl⟩
  | getUserByEmail | getTeamMembership | getInvitationByToken =>
    simp only [exec]
    split <;> exact ⟨le_refl _, Or.inl rfl⟩
  | hasUsers | getRegistrationsEnabled | setRegistrationsEnabled | listTeamMembers
  | setTeamMemberActive | userIsMember | listInvitations | acceptInvitation
  | deleteInvitation => exact ⟨le_refl _, Or.inl rfl⟩

/-- A statement on accounts and teams gives out ids in order, too. -/
theorem Registry.nextID_exec (counts : UUID → Option ℤ) (now : Time) (q : AccountQuery)
    (r : Registry) : r.nextID ≤ (r.exec counts now q).2.nextID := by
  cases q with
  | getUserByID | getUserActiveStatus | getUserPasswordHash | getTeamByID =>
    simp only [exec]
    split <;> exact le_refl _
  | createTeam name => exact Nat.le_succ _
  | setUserActive | updateUserName | updateUserPassword | listTeamsByUserID | updateTeamName =>
    exact le_refl _

namespace Server

variable {x : Platform κ} {s s' : Server κ} {c : ApiCmd κ} {r : c.Resp}

theorem keyed_of_serves (h : s.directory.Keyed) (hserves : Serves x s c r s') :
    s'.directory.Keyed := by
  have hrest (hregistry : s'.registry = s.registry) : s'.directory.Keyed := by
    have hd : s'.directory = s.directory := congrArg Registry.toDirectory hregistry
    exact hd ▸ h
  cases c with
  | account c =>
    cases c with
    | directory c =>
      by_cases hsql : ∃ q, c = .sql q
      · obtain ⟨q, rfl⟩ := hsql
        obtain ⟨-, hd⟩ | ⟨now, -, hd⟩ := Directory.serves_sql (serves_query hserves)
        · exact hd ▸ h
        · rw [hd]
          obtain ⟨hnext, husers | ⟨name, email, hash, role, -, husers, hlt⟩⟩ :=
            s.directory.accounts_exec now q
          · exact ⟨husers ▸ h.ids, fun row hrow => (h.fresh row (husers ▸ hrow)).trans_le hnext⟩
          · refine ⟨?_, fun row hrow => ?_⟩
            · rw [husers, List.map_append, List.nodup_append]
              refine ⟨h.ids, List.nodup_singleton _, ?_⟩
              rintro id hid _ hnew rfl
              obtain ⟨row, hrow, rfl⟩ := List.mem_map.mp hid
              obtain hid' : row.id = s.directory.nextID := List.mem_singleton.mp hnew
              exact (h.fresh row hrow).ne hid'
            · rw [husers] at hrow
              obtain hrow | hrow := List.mem_append.mp hrow
              · exact (h.fresh row hrow).trans hlt
              · rw [List.mem_singleton.mp hrow]
                exact hlt
      · exact directory_of_serves (not_exists.mp hsql) hserves ▸ h
    | sql q =>
      obtain ⟨-, hs⟩ | ⟨now, -, hs⟩ := serves_accountSQL hserves
      · exact hrest hs
      · have hids : s'.directory.users.map AccountRow.id =
            s.directory.users.map AccountRow.id :=
          (congrArg (fun r : Registry => r.users.map AccountRow.id) hs).trans
            (Registry.exec_accounts s.counts now q s.registry)
        have hnext : s.directory.nextID ≤ s'.directory.nextID :=
          (Registry.nextID_exec s.counts now q s.registry).trans_eq
            (congrArg (fun r : Registry => r.nextID) hs).symm
        refine ⟨hids ▸ h.ids, fun row hrow => ?_⟩
        have hid : row.id ∈ s.directory.users.map AccountRow.id :=
          hids ▸ List.mem_map_of_mem hrow
        obtain ⟨old, hold, hsame⟩ := List.mem_map.mp hid
        rw [← hsame]
        exact (h.fresh old hold).trans_le hnext
  | monitor c | listing q | plugin c =>
    exact hrest (registry_of_serves (fun c' hc' => by cases hc') hserves)

/-- What a command that deactivates nobody may do to the accounts. -/
structure Amends (c : ApiCmd κ) (users users' : List AccountRow) : Prop where
  /-- those that are there keep their identity -/
  stays : ∀ row ∈ users, ∃ row' ∈ users', row'.identity = row.identity
  /-- and their hash, unless the command sets it; a new one is that of the command -/
  known : ∀ row' ∈ users',
    (∃ row ∈ users, row'.identity = row.identity ∧ (row'.passwordHash = row.passwordHash ∨
      c = .sql (.updateUserPassword row.id row'.passwordHash))) ∨
    (c = .query (.createUser row'.name row'.email row'.passwordHash row'.role) ∧
      row'.isActive = true)

theorem Amends.refl (c : ApiCmd κ) (users : List AccountRow) : Amends c users users :=
  ⟨fun row hrow => ⟨row, hrow, rfl⟩, fun row hrow => Or.inl ⟨row, hrow, rfl, Or.inl rfl⟩⟩

/-- **What a command does to the accounts.** -/
theorem amends_of_serves (hc : ∀ user active, c ≠ .sql (.setUserActive user active))
    (hserves : Serves x s c r s') : Amends c s.directory.users s'.directory.users := by
  obtain hsame | ⟨q, now, rfl, husers⟩ | ⟨q, now, rfl, husers⟩ := serves_users_cases hserves
  · exact hsame ▸ Amends.refl c _
  · rw [husers]
    obtain ⟨-, hsame | ⟨name, email, hash, role, rfl, hnew, -⟩⟩ := s.directory.accounts_exec now q
    · exact hsame ▸ Amends.refl _ _
    · rw [hnew]
      refine ⟨fun row hrow => ⟨row, List.mem_append_left _ hrow, rfl⟩, fun row' hrow' => ?_⟩
      obtain hold | hrow' := List.mem_append.mp hrow'
      · exact Or.inl ⟨row', hold, rfl, Or.inl rfl⟩
      · rw [List.mem_singleton.mp hrow']
        exact Or.inr ⟨rfl, rfl⟩
  · rw [husers]
    obtain hsame | ⟨user, f, hmap, hquery⟩ := Registry.exec_accountRows s.counts now q s.registry
    · exact hsame ▸ Amends.refl _ _
    · have hf (row : AccountRow) (hid : row.id = user) : (f row).identity = row.identity ∧
          ((f row).passwordHash = row.passwordHash ∨
            q = .updateUserPassword row.id (f row).passwordHash) := by
        subst hid
        obtain ⟨active, rfl⟩ | ⟨name, -, rfl⟩ | ⟨hash, rfl, rfl⟩ := hquery
        · exact absurd rfl (hc _ active)
        · exact ⟨rfl, Or.inl rfl⟩
        · exact ⟨rfl, Or.inr rfl⟩
      rw [hmap]
      refine ⟨fun row hrow => ⟨_, List.mem_map_of_mem hrow, ?_⟩, fun row' hrow' => ?_⟩
      · split
        · rename_i hid
          exact (hf row hid).1
        · rfl
      · obtain ⟨row, hrow, rfl⟩ := List.mem_map.mp hrow'
        refine Or.inl ⟨row, hrow, ?_⟩
        split
        · rename_i hid
          obtain ⟨hidentity, hhash | hhash⟩ := hf row hid
          · exact ⟨hidentity, Or.inl hhash⟩
          · exact ⟨hidentity, Or.inr (congrArg ApiCmd.sql hhash)⟩
        · exact ⟨rfl, Or.inl rfl⟩

/-- A new account is nobody's who has one. -/
theorem mem_users_of_createUser {name email hash role : String} {r : Except DBError UUID}
    {row row' : AccountRow} (hkeyed : s.directory.Keyed)
    (hserves : Serves x s (.query (.createUser name email hash role)) r s')
    (hrow : row ∈ s.directory.users) (hrow' : row' ∈ s'.directory.users) (hid : row'.id = row.id) :
    row' ∈ s.directory.users := by
  obtain ⟨-, hd⟩ | ⟨now, -, hd⟩ := Directory.serves_sql (serves_query hserves)
  · exact hd ▸ hrow'
  · rw [hd] at hrow'
    obtain ⟨-, hsame | ⟨_, _, _, _, -, hnew, -⟩⟩ :=
      s.directory.accounts_exec now (.createUser name email hash role)
    · exact hsame ▸ hrow'
    · rw [hnew] at hrow'
      obtain hold | hlast := List.mem_append.mp hrow'
      · exact hold
      · rw [List.mem_singleton.mp hlast] at hid
        exact absurd hid.symm (hkeyed.fresh row hrow).ne

/-- What is hashed is hashed with some salt. -/
theorem hash_of_serves {password hash : String}
    (hserves : Serves x s (.hash password) (.ok hash) s') :
    ∃ salt, hash = x.argon.createHash salt password := by
  obtain ⟨e, he⟩ := hserves
  have hr : (e.account.salt.elim (.error ()) fun salt =>
      .ok (x.argon.createHash salt password) : Except Unit String) = .ok hash :=
    (Prod.mk.inj he).1
  cases hsalt : e.account.salt with
  | none =>
    rw [hsalt] at hr
    cases hr
  | some salt =>
    rw [hsalt] at hr
    exact ⟨salt, (Except.ok.inj hr).symm⟩

/-- The hash of an account is that of its row. -/
theorem passwordHash_of_serves {user : UUID} {hash : String}
    (hserves : Serves x s (.sql (.getUserPasswordHash user)) (.ok hash) s') :
    ∃ row ∈ s.directory.users, row.id = user ∧ row.passwordHash = hash := by
  obtain ⟨hr, -⟩ | ⟨now, hr | hr, -⟩ := serves_accountSQL hserves
  · cases hr
  · simp only [Registry.exec] at hr
    split at hr
    · rename_i row hrow
      have hid := List.find?_some hrow
      exact ⟨row, List.mem_of_find?_eq_some hrow, of_decide_eq_true hid,
        (Except.ok.inj hr).symm⟩
    · cases hr
  · cases hr

end Server

/-! ## Rightful passwords -/

/-- **A request opens an account** for an email in a role, with a password. -/
inductive Opens (log : List (ApiEvent κ)) : Endpoint → String → String → String → Prop
  | registered {body : RegisterRequest} {has : Bool} (hopen : FoundOpen log)
      (hhas : Answered log (.query .hasUsers) (.ok has)) :
      Opens log (.register (some body)) body.email (if has then "member" else "owner")
        body.password
  | invited {body : AcceptInvitationRequest} {inv : InvitationRow}
      (hinv : FoundValid log body.token inv)
      (hnone : Answered log (.query (.getUserByEmail inv.email)) (.error .noRows)) :
      Opens log (.acceptInvitation (some body)) inv.email inv.role body.password

/-- There is an account of the user. -/
def Server.HasUser (user : UUID) (s : Server κ) : Prop := ∃ row ∈ s.directory.users, row.id = user

/-- There is such an account, with this hash. -/
def Server.HasHash (k : UUID × String × String × Bool) (hash : String) (s : Server κ) : Prop :=
  ∃ row ∈ s.directory.users, row.identity = k ∧ row.passwordHash = hash

/-- **A hash is rightful** for an account if it is made of a password that a holder of the
account has set.  It was there at the beginning; or it is the one with which the account was
inserted; or it was written by the user, who knew the password of one that was rightful. -/
inductive Rightful (x : Platform κ) (s₀ : Server κ) (reqs : List ApiRequest)
    (p : Pool (ApiCmd κ) ApiCmd.Resp ApiResponse (Server κ)) :
    UUID × String × String × Bool → String → Prop
  | initial {row : AccountRow} (hrow : row ∈ s₀.directory.users) :
      Rightful x s₀ reqs p row.identity row.passwordHash
  | opened {i : ℕ} {req : ApiRequest} {tr : List (ApiEvent κ)} {user : UUID}
      {name email role password : String} {salt : ℕ} (hreq : reqs[i]? = some req)
      (hopens : Opens tr req.endpoint email role password)
      (hinserted : BroughtAbout x s₀ reqs p (Server.HasUser user) i tr
        (.query (.createUser name email (x.argon.createHash salt password) role))) :
      Rightful x s₀ reqs p (user, email, role, true) (x.argon.createHash salt password)
  | changed {i : ℕ} {req : ApiRequest} {tr : List (ApiEvent κ)} {body : ChangePasswordRequest}
      {k : UUID × String × String × Bool} {hash : String} {salt : ℕ} (hreq : reqs[i]? = some req)
      (hep : req.endpoint = .changePassword (some body)) (huser : req.SignedIn x tr k.1)
      (hread : Answered tr (.sql (.getUserPasswordHash k.1)) (.ok hash))
      (hbefore : Rightful x s₀ reqs p k hash)
      (hmatch : x.argon.comparePasswordAndHash body.currentPassword hash = .ok true)
      (hset : BroughtAbout x s₀ reqs p
        (Server.HasHash k (x.argon.createHash salt body.newPassword)) i tr
        (.sql (.updateUserPassword k.1 (x.argon.createHash salt body.newPassword)))) :
      Rightful x s₀ reqs p k (x.argon.createHash salt body.newPassword)

section Permission

variable {x : Platform κ} {req : ApiRequest} {log : List (ApiEvent κ)}

/-- An account may be inserted by a request that opens it. -/
theorem Permitted.opens {name email hash role : String}
    (h : Permitted x req log (.query (.createUser name email hash role))) :
    ∃ password, Opens log req.endpoint email role password ∧
      Answered log (.hash password) (.ok hash) := by
  obtain ⟨authorization, endpoint⟩ := req
  cases h with
  | anybody hc =>
    cases hc with
    | createUser hopen hhas hhash => exact ⟨_, .registered hopen hhas, hhash⟩
    | acceptCreate hinv hnone hhash => exact ⟨_, .invited hinv hnone, hhash⟩
  | user _ hc => cases hc
  | member _ _ _ _ _ _ hc => cases hc

/-- A password may be set by the user, after the one before it has been checked. -/
theorem Permitted.changes {user : UUID} {hash : String}
    (h : Permitted x req log (.sql (.updateUserPassword user hash))) :
    ∃ body, req.endpoint = .changePassword (some body) ∧ req.SignedIn x log user ∧
      CheckedPassword x log user body.currentPassword ∧
      Answered log (.hash body.newPassword) (.ok hash) := by
  obtain ⟨authorization, endpoint⟩ := req
  cases h with
  | anybody hc => cases hc
  | user huser hc =>
    cases hc with
    | setPassword hold hhash => exact ⟨_, rfl, huser, hold, hhash⟩
  | member _ _ _ _ _ _ hc => cases hc

/-- Nobody may deactivate an account. -/
theorem Permitted.not_setUserActive {user : UUID} {active : Bool} :
    ¬ Permitted x req log (.sql (.setUserActive user active)) := by
  intro h
  obtain ⟨authorization, endpoint⟩ := req
  cases h with
  | anybody hc => cases hc
  | user _ hc => cases hc
  | member _ _ _ _ _ _ hc => cases hc

end Permission

/-! ## What holds in the course of a run -/

/-- Ids are ids, a hash that was read is that of an account, and a hash is one of a password. -/
structure Secured (x : Platform κ) (s : Server κ) (logs : List (List (ApiEvent κ))) : Prop where
  keyed : s.directory.Keyed
  read : ∀ log ∈ logs, ∀ user hash,
    Answered log (.sql (.getUserPasswordHash user)) (.ok hash) → s.HasUser user
  hashed : ∀ log ∈ logs, ∀ password hash, Answered log (.hash password) (.ok hash) →
    ∃ salt, hash = x.argon.createHash salt password

/-- Every hash is rightful, and so is every one that a request has read. -/
structure Justified (x : Platform κ) (s₀ : Server κ) (reqs : List ApiRequest)
    (p : Pool (ApiCmd κ) ApiCmd.Resp ApiResponse (Server κ)) : Prop where
  rightful : ∀ row ∈ p.shared.directory.users,
    Rightful x s₀ reqs p row.identity row.passwordHash
  read : ∀ log ∈ p.threads.map Thread.log, ∀ user hash,
    Answered log (.sql (.getUserPasswordHash user)) (.ok hash) →
      ∃ row ∈ p.shared.directory.users, row.id = user ∧ Rightful x s₀ reqs p row.identity hash

section Step

variable {x : Platform κ} {s₀ s s' : Server κ} {reqs : List ApiRequest} {req : ApiRequest}
  {logs : List (List (ApiEvent κ))} {i : ℕ} {log : List (ApiEvent κ)} {c : ApiCmd κ}
  {r : c.Resp} {p p' : Pool (ApiCmd κ) ApiCmd.Resp ApiResponse (Server κ)}

/-- Accounts keep what makes them up. -/
theorem Permitted.amends (hc : Permitted x req log c) (hserves : s.Serves x c r s') :
    Server.Amends c s.directory.users s'.directory.users := by
  refine Server.amends_of_serves ?_ hserves
  rintro user active rfl
  exact hc.not_setUserActive

theorem Secured.start (hkeyed : s₀.directory.Keyed) (hlogs : ∀ log ∈ logs, log = []) :
    Secured x s₀ logs := by
  refine ⟨hkeyed, fun log hlog user hash hread => ?_, fun log hlog password hash hhash => ?_⟩
  · rw [hlogs log hlog] at hread
    cases hread
  · rw [hlogs log hlog] at hhash
    cases hhash

/-- **A step keeps the accounts secure.**  A new account gets an id that is not in use, none goes
away, and what is answered to a password is a hash of it. -/
theorem Secured.step (h : Secured x s logs) (hlog : logs[i]? = some log)
    (hc : Permitted x req log c) (hserves : s.Serves x c r s') :
    Secured x s' (logs.set i (log ++ [⟨c, r⟩])) := by
  have hmem := List.mem_of_getElem? hlog
  have hstays {user : UUID} (huser : s.HasUser user) : s'.HasUser user := by
    obtain ⟨row, hrow, hid⟩ := huser
    obtain ⟨row', hrow', hidentity⟩ := (hc.amends hserves).stays row hrow
    exact ⟨row', hrow', (congrArg Prod.fst hidentity).trans hid⟩
  constructor
  · exact Server.keyed_of_serves h.keyed hserves
  · intro tr htr user hash hread
    obtain htr | rfl := List.mem_or_eq_of_mem_set htr
    · exact hstays (h.read tr htr user hash hread)
    · obtain hold | hnew := List.mem_append.mp hread
      · exact hstays (h.read log hmem user hash hold)
      · obtain ⟨rfl, hr⟩ := Event.mk.inj (List.mem_singleton.mp hnew)
        obtain rfl := eq_of_heq hr
        obtain ⟨row, hrow, hid, -⟩ := Server.passwordHash_of_serves hserves
        exact hstays ⟨row, hrow, hid⟩
  · intro tr htr password hash hhash
    obtain htr | rfl := List.mem_or_eq_of_mem_set htr
    · exact h.hashed tr htr password hash hhash
    · obtain hold | hnew := List.mem_append.mp hhash
      · exact h.hashed log hmem password hash hold
      · obtain ⟨rfl, hr⟩ := Event.mk.inj (List.mem_singleton.mp hnew)
        obtain rfl := eq_of_heq hr
        exact Server.hash_of_serves hserves

theorem Rightful.mono {k : UUID × String × String × Bool} {hash : String}
    (h : Rightful x s₀ reqs p k hash)
    (h' : Pool.Reaches (Server.Serves x) (fun _ _ _ => True) p p') :
    Rightful x s₀ reqs p' k hash := by
  induction h with
  | initial hrow => exact .initial hrow
  | opened hreq hopens hinserted => exact .opened hreq hopens (hinserted.trans h')
  | changed hreq hep huser hread _ hmatch hset ih =>
    exact .changed hreq hep huser hread ih hmatch (hset.trans h')

/-- **A step keeps the accounts in the right hands.** -/
theorem Justified.step (h : Justified x s₀ reqs p)
    (hreach : Pool.Reaches (Server.Serves x) (fun _ _ _ => True)
      (Pool.start s₀ (reqs.map (serveHTTP x))) p)
    (hsecured : Secured x p.shared (p.threads.map Thread.log))
    (hs : Pool.Step (Server.Serves x) p i ⟨c, r⟩ p') : Justified x s₀ reqs p' := by
  have hnext : Pool.Reaches (Server.Serves x) (fun _ _ _ => True) p p' :=
    Relation.ReflTransGen.single ⟨i, _, hs, trivial⟩
  obtain ⟨tr, htr, hset⟩ := hs.exists_log
  obtain ⟨req, hreq, hc⟩ := permitted_of_step hreach htr hs
  have hbrings {T : Server κ → Prop} (hbefore : ¬ T p.shared) (hafter : T p'.shared) :
      BroughtAbout x s₀ reqs p' T i tr c :=
    ⟨p, r, p', hreach, htr, hs, Relation.ReflTransGen.refl, hbefore, hafter⟩
  have hmem := List.mem_of_getElem? htr
  have hserves : Server.Serves x p.shared c r p'.shared := hs.serves
  have hamends := hc.amends hserves
  constructor
  · intro row' hrow'
    by_cases hold : p.shared.HasHash row'.identity row'.passwordHash
    · obtain ⟨row, hrow, hidentity, hhash⟩ := hold
      exact hidentity ▸ hhash ▸ (h.rightful row hrow).mono hnext
    have hafter : p'.shared.HasHash row'.identity row'.passwordHash := ⟨row', hrow', rfl, rfl⟩
    obtain ⟨id, name, email, hash, role, active, createdAt⟩ := row'
    obtain ⟨row, hrow, hidentity, hsame | rfl⟩ | ⟨rfl, rfl⟩ := hamends.known _ hrow'
    · exact absurd ⟨row, hrow, hidentity.symm, hsame.symm⟩ hold
    · -- the hash before was read of the same account
      obtain ⟨body, hep, huser, ⟨before, hread, hmatch⟩, hnew⟩ := hc.changes
      obtain ⟨old, hmemOld, hid, hrightful⟩ := h.read tr hmem _ _ hread
      obtain ⟨salt, rfl⟩ := hsecured.hashed tr hmem _ _ hnew
      obtain rfl := hsecured.keyed.eq hmemOld hrow hid
      rw [hidentity] at hold hafter ⊢
      exact .changed hreq hep huser hread (hrightful.mono hnext) hmatch (hbrings hold hafter)
    · -- nobody had the id before
      obtain ⟨password, hopens, hnew⟩ := hc.opens
      obtain ⟨salt, rfl⟩ := hsecured.hashed tr hmem _ _ hnew
      have hfree : ¬ p.shared.HasUser id := by
        rintro ⟨row, hrow, hid⟩
        exact hold ⟨_, Server.mem_users_of_createUser hsecured.keyed hserves hrow hrow' hid.symm,
          rfl, rfl⟩
      exact .opened hreq hopens (hbrings hfree ⟨_, hrow', rfl⟩)
  · intro log hlog user hash hread
    have hbefore : ∃ row ∈ p.shared.directory.users, row.id = user ∧
        Rightful x s₀ reqs p row.identity hash := by
      rw [hset] at hlog
      obtain hlog | rfl := List.mem_or_eq_of_mem_set hlog
      · exact h.read log hlog user hash hread
      · obtain hold | hnew := List.mem_append.mp hread
        · exact h.read tr hmem user hash hold
        · obtain ⟨rfl, hr⟩ := Event.mk.inj (List.mem_singleton.mp hnew)
          obtain rfl := eq_of_heq hr
          obtain ⟨row, hrow, hid, rfl⟩ := Server.passwordHash_of_serves hserves
          exact ⟨row, hrow, hid, h.rightful row hrow⟩
    obtain ⟨row, hrow, hid, hrightful⟩ := hbefore
    obtain ⟨row', hrow', hidentity⟩ := hamends.stays row hrow
    refine ⟨row', hrow', (congrArg Prod.fst hidentity).trans hid, ?_⟩
    rw [hidentity]
    exact hrightful.mono hnext

end Step

/-! ## In every interleaving -/

section Runs

variable {x : Platform κ} {s : Server κ} {reqs : List ApiRequest}
  {guard : Pool (ApiCmd κ) ApiCmd.Resp ApiResponse (Server κ) → ℕ → ApiEvent κ → Prop}
  {p p' : Pool (ApiCmd κ) ApiCmd.Resp ApiResponse (Server κ)}

theorem secured_of_reaches (hkeyed : s.directory.Keyed)
    (h : Pool.Reaches (Server.Serves x) guard (Pool.start s (reqs.map (serveHTTP x))) p) :
    Secured x p.shared (p.threads.map Thread.log) :=
  invariant_requests (J := Secured x) h (fun _ hlogs => Secured.start hkeyed hlogs)
    fun hsecured hlog _ hc hserves => hsecured.step hlog hc hserves

/-- Accounts stay, and keep what makes them up. -/
theorem identities_of_reaches
    (h : Pool.Reaches (Server.Serves x) (fun _ _ _ => True)
      (Pool.start s (reqs.map (serveHTTP x))) p)
    (h' : Pool.Reaches (Server.Serves x) (fun _ _ _ => True) p p') :
    ∀ row ∈ p.shared.directory.users, ∃ row' ∈ p'.shared.directory.users,
      row'.identity = row.identity := by
  refine (h'.induction (I := fun q => Pool.Reaches (Server.Serves x) (fun _ _ _ => True)
    (Pool.start s (reqs.map (serveHTTP x))) q ∧ ∀ row ∈ p.shared.directory.users,
      ∃ row' ∈ q.shared.directory.users, row'.identity = row.identity)
    ⟨h, fun row hrow => ⟨row, hrow, rfl⟩⟩ ?_).2
  rintro q i ⟨c, r⟩ q' hs - ⟨hq, hkept⟩
  refine ⟨hq.tail ⟨i, _, hs, trivial⟩, fun row hrow => ?_⟩
  obtain ⟨tr, htr, -⟩ := hs.exists_log
  obtain ⟨req, -, hc⟩ := permitted_of_step hq htr hs
  obtain ⟨row₁, hrow₁, hsame₁⟩ := hkept row hrow
  obtain ⟨row₂, hrow₂, hsame₂⟩ := (hc.amends hs.serves).stays row₁ hrow₁
  exact ⟨row₂, hrow₂, hsame₂.trans hsame₁⟩

theorem justified_of_reaches (hkeyed : s.directory.Keyed)
    (h : Pool.Reaches (Server.Serves x) (fun _ _ _ => True)
      (Pool.start s (reqs.map (serveHTTP x))) p) : Justified x s reqs p := by
  refine (h.induction (I := fun q => Pool.Reaches (Server.Serves x) (fun _ _ _ => True)
    (Pool.start s (reqs.map (serveHTTP x))) q ∧ Justified x s reqs q)
    ⟨Relation.ReflTransGen.refl, fun row hrow => .initial hrow,
      fun log hlog user hash hread => ?_⟩ ?_).2
  · obtain ⟨t, ht, rfl⟩ := List.mem_map.mp hlog
    obtain ⟨q, -, rfl⟩ := List.mem_map.mp ht
    cases hread
  · rintro q i ⟨c, r⟩ q' hs - ⟨hq, hjustified⟩
    exact ⟨hq.tail ⟨i, _, hs, trivial⟩,
      hjustified.step hq (secured_of_reaches hkeyed hq) hs⟩

/-- **Every password is rightful**, in every interleaving of requests, and whatever else makes an
account up, it never changes: if an account is there at some point of a run, then later there is
one with its id, which has its email, its role and its active flag. -/
theorem rightful_of_reaches (hkeyed : s.directory.Keyed)
    (h : Pool.Reaches (Server.Serves x) guard (Pool.start s (reqs.map (serveHTTP x))) p)
    (h' : Pool.Reaches (Server.Serves x) guard p p') :
    (∀ row ∈ p'.shared.directory.users,
      Rightful x s reqs p' row.identity row.passwordHash) ∧
    ∀ row ∈ p.shared.directory.users, p'.shared.HasUser row.id ∧
      ∀ row' ∈ p'.shared.directory.users, row'.id = row.id → row'.identity = row.identity := by
  have hfree := h.unguarded
  have hfree' := h'.unguarded
  refine ⟨(justified_of_reaches hkeyed (hfree.trans hfree')).rightful, fun row hrow => ?_⟩
  obtain ⟨later, hlater, hidentity⟩ := identities_of_reaches hfree hfree' row hrow
  have hid : later.id = row.id := congrArg Prod.fst hidentity
  refine ⟨⟨later, hlater, hid⟩, fun row' hrow' hid' => ?_⟩
  obtain rfl := (secured_of_reaches hkeyed (h.trans h')).keyed.eq hrow' hlater
    (hid'.trans hid.symm)
  exact hidentity

end Runs

/-- Ada changes her password while Carol accepts her invitation. -/
def Sample.secrets : List ApiRequest :=
  [⟨Sample.bearer 7, .changePassword (some ⟨"correct horse", "correct cow", "correct cow"⟩)⟩,
    ⟨"", .acceptInvitation (some ⟨"c0ffee", "Carol", "hunter22"⟩)⟩]

theorem rightful_of_reaches_sample :
    ∃ p : Pool (ApiCmd (ℕ × ConfigMap)) ApiCmd.Resp ApiResponse (Server (ℕ × ConfigMap)),
      p.shared.directory.users.map (fun row => (row.identity, row.passwordHash)) =
        [((7, "ada@example.org", "owner", true), "$argon2id$correct cow"),
          ((8, "bob@example.org", "member", true), "$argon2id$battery staple"),
          ((10, "carol@example.org", "member", true), "$argon2id$hunter22")] ∧
      (∀ row ∈ p.shared.directory.users,
        Rightful Sample.platform Sample.expecting Sample.secrets p row.identity
          row.passwordHash) ∧
      ∀ row ∈ Sample.expecting.directory.users, p.shared.HasUser row.id ∧
        ∀ row' ∈ p.shared.directory.users, row'.id = row.id → row'.identity = row.identity := by
  obtain ⟨p, hreach, hcheck⟩ := Pool.exists_reaches_of_play (Server.serve Sample.platform)
    (fun _ _ _ => true) ([0, 0, 1, 0, 1, 1, 0, 1, 1, 0, 1, 1].map fun i => (i, default))
    (Pool.start Sample.expecting (Sample.secrets.map (serveHTTP Sample.platform)))
    (fun p => decide (p.shared.directory.users.map (fun row => (row.identity, row.passwordHash)) =
      [((7, "ada@example.org", "owner", true), "$argon2id$correct cow"),
        ((8, "bob@example.org", "member", true), "$argon2id$battery staple"),
        ((10, "carol@example.org", "member", true), "$argon2id$hunter22")])) (by decide)
  exact ⟨p, of_decide_eq_true hcheck,
    rightful_of_reaches ⟨by decide, by decide⟩ Relation.ReflTransGen.refl hreach⟩

end Sofon
