import Sofon.Isolation.Teams
import Sofon.Plugin.Delivery
import Sofon.Team.Teams

/-!
# The server behind the API

All that the handlers work on, in one state: the instance with its monitors, lists, directory
and plugins, and the rows of `teams`.  A command of any of the services is a command of the
server, so the handler of a request is one program over `ApiCmd`, and what another request
does in between is up to the interleaving.

The columns of `users` are kept in two places, the account in the directory and the count of
monitors next to the monitors.  They are columns of the same rows: `accounts` says so, and a
new account starts with no monitors.
-/

namespace Sofon

open Interleaving

/-- The commands of the services. -/
inductive ApiCmd (κ : Type) where
  | account (c : AccountCmd)
  | monitor (c : Cmd)
  | listing (q : ListingQuery)
  | plugin (c : PluginCmd κ)

/-- What a command returns. -/
@[reducible] def ApiCmd.Resp {κ : Type} : ApiCmd κ → Type
  | account c => c.Resp
  | monitor c => c.Resp
  | listing q => q.Resp
  | plugin c => c.Resp

/-- The code of a handler. -/
abbrev ApiProg (κ : Type) := Program (ApiCmd κ) ApiCmd.Resp

/-- A command of a handler, and how it was answered. -/
abbrev ApiEvent (κ : Type) := Event (ApiCmd κ) ApiCmd.Resp

variable {κ : Type}

/-- The commands of the user service and the team service. -/
def ofAccount : Embedding AccountCmd AccountCmd.Resp (ApiCmd κ) ApiCmd.Resp where
  cmd := .account
  resp _ := Equiv.refl _

/-- Those on the directory alone. -/
def ofMember : Embedding DirectoryCmd DirectoryCmd.Resp (ApiCmd κ) ApiCmd.Resp where
  cmd c := .account (.directory c)
  resp _ := Equiv.refl _

/-- The commands of the monitor service. -/
def ofMonitor : Embedding Cmd Cmd.Resp (ApiCmd κ) ApiCmd.Resp where
  cmd := .monitor
  resp _ := Equiv.refl _

/-- The queries of the lists. -/
def ofListing : Embedding ListingQuery ListingQuery.Resp (ApiCmd κ) ApiCmd.Resp where
  cmd := .listing
  resp _ := Equiv.refl _

/-- The commands of the plugin service. -/
def ofPlugin : Embedding (PluginCmd κ) PluginCmd.Resp (ApiCmd κ) ApiCmd.Resp where
  cmd := .plugin
  resp _ := Equiv.refl _

namespace Registry

/-- The accounts that there are stay, each in its place. -/
theorem exec_accounts (counts : UUID → Option ℤ) (now : Time) (q : AccountQuery) (r : Registry) :
    (r.exec counts now q).2.users.map AccountRow.id = r.users.map AccountRow.id := by
  have hupdate (user : UUID) (f : AccountRow → AccountRow) (hf : ∀ row, (f row).id = row.id) :
      (r.updateUser user f).users.map AccountRow.id = r.users.map AccountRow.id := by
    unfold updateUser
    rw [List.map_map]
    refine List.map_congr_left fun row _ => ?_
    rw [Function.comp_apply]
    split
    · exact hf row
    · rfl
  cases q with
  | setUserActive user active => exact hupdate user _ fun _ => rfl
  | updateUserName user name => exact hupdate user _ fun _ => rfl
  | updateUserPassword user hash => exact hupdate user _ fun _ => rfl
  | getUserByID | getUserActiveStatus | getUserPasswordHash | getTeamByID =>
    simp only [exec]
    split <;> rfl
  | _ => rfl

theorem exec_members (counts : UUID → Option ℤ) (now : Time) (q : AccountQuery) (r : Registry) :
    (r.exec counts now q).2.members = r.members ∧
      (r.exec counts now q).2.invitations = r.invitations := by
  cases q with
  | getUserByID | getUserActiveStatus | getUserPasswordHash | getTeamByID =>
    simp only [exec]
    split <;> exact ⟨rfl, rfl⟩
  | _ => exact ⟨rfl, rfl⟩

/-- **What a query does to accounts**: three statements change those with an id. -/
theorem exec_accountRows (counts : UUID → Option ℤ) (now : Time) (q : AccountQuery)
    (r : Registry) : (r.exec counts now q).2.users = r.users ∨
      ∃ (user : UUID) (f : AccountRow → AccountRow),
        (r.exec counts now q).2.users =
          (r.users.map fun row => if row.id = user then f row else row) ∧
        ((∃ active, q = .setUserActive user active) ∨
          (∃ name, q = .updateUserName user name ∧ f = fun row => { row with name := name }) ∨
          ∃ hash, q = .updateUserPassword user hash ∧
            f = fun row => { row with passwordHash := hash }) := by
  cases q with
  | setUserActive user active => exact Or.inr ⟨user, _, rfl, Or.inl ⟨active, rfl⟩⟩
  | updateUserName user name => exact Or.inr ⟨user, _, rfl, Or.inr (Or.inl ⟨name, rfl, rfl⟩)⟩
  | updateUserPassword user hash => exact Or.inr ⟨user, _, rfl, Or.inr (Or.inr ⟨hash, rfl, rfl⟩)⟩
  | getUserByID | getUserActiveStatus | getUserPasswordHash | getTeamByID =>
    simp only [exec]
    split <;> exact Or.inl rfl
  | _ => exact Or.inl rfl

/-- A call adds accounts at the end, if at all. -/
theorem serve_accounts (argon : Argon2id) (counts : UUID → Option ℤ) (e : AccountEnv)
    (r : Registry) (c : AccountCmd) :
    r.users.map AccountRow.id <+: (r.serve argon counts e c).2.users.map AccountRow.id := by
  cases c with
  | sql q =>
    unfold serve
    split
    · exact List.prefix_refl _
    · exact (exec_accounts counts e.call.now q r).symm ▸ List.prefix_refl _
  | directory c =>
    cases c with
    | timeNow | hashPassword password | randRead n => exact List.prefix_refl _
    | sql q =>
      show _ <+: ((r.toDirectory.serve e.call (.sql q)).2.users).map AccountRow.id
      unfold Directory.serve
      split
      · exact List.prefix_refl _
      · obtain hsame | ⟨-, row, hrow⟩ := Directory.exec_users e.call.now q r.toDirectory
        · exact hsame.symm ▸ List.prefix_refl _
        · show _ <+: ((r.toDirectory.exec e.call.now q).2.users).map AccountRow.id
          rw [hrow, List.map_append]
          exact List.prefix_append _ _

end Registry

/-- A command of the monitor service leaves the users that there are. -/
theorem World.exec_accounts (canceled : Bool) (e : Env) (w : World) (c : Cmd) :
    (w.exec canceled e c).2.db.users.map UserRow.id = w.db.users.map UserRow.id := by
  cases c with
  | sql q =>
    simp only [exec]
    split
    · rfl
    · split
      · rfl
      · exact DB.exec_users_map_id e.now q w.db
  | redis c =>
    simp only [exec]
    split
    · rfl
    · split <;> rfl
  | timeNow | ctxDone | send ev | offer job => rfl

/-- A query fails without effect, or does what the database does. -/
theorem World.exec_sql_cases (canceled : Bool) (e : Env) (w : World) (q : Query) :
    (∃ err, w.exec canceled e (.sql q) = (.error err, w.expire e.expired)) ∨
      w.exec canceled e (.sql q) =
        ((w.db.exec e.now q).1, { w.expire e.expired with db := (w.db.exec e.now q).2 }) := by
  simp only [exec]
  split
  · exact Or.inl ⟨.canceled, rfl⟩
  · split
    · exact Or.inl ⟨.unavailable, rfl⟩
    · exact Or.inr rfl

theorem World.exec_redis_cases (canceled : Bool) (e : Env) (w : World) (c : RedisCmd) :
    (∃ err, w.exec canceled e (.redis c) = (.error err, w.expire e.expired)) ∨
      w.exec canceled e (.redis c) = (((w.expire e.expired).redis.exec c).1,
        { w.expire e.expired with redis := ((w.expire e.expired).redis.exec c).2 }) := by
  simp only [exec]
  split
  · exact Or.inl ⟨.canceled, rfl⟩
  · split
    · exact Or.inl ⟨.unavailable, rfl⟩
    · exact Or.inr rfl

/-- What the server keeps. -/
structure Server (κ : Type) extends Instance κ where
  teamRows : List Team
  ids : directory.teams = teamRows.map Team.id
  accounts : world.db.users.map UserRow.id = directory.users.map AccountRow.id

/-- What the environment decides about one command. -/
structure ApiEnv where
  account : AccountEnv
  canceled : Bool
  world : Env
  listing : ListingEnv
  plugin : PluginEnv

instance : Inhabited ApiEnv := ⟨⟨default, false, default, default, default⟩⟩

/-- What the services rely on: packages, and two settings. -/
structure Platform (κ : Type) where
  argon : Argon2id
  jwt : JWT
  uuids : UUIDText
  enc : Encryptor κ
  /-- the addresses that `mail.ParseAddress` accepts -/
  isAddress : String → Bool
  /-- the texts that the validator accepts as `email` and as `url` -/
  isEmail : String → Bool
  isURL : String → Bool
  ilike : String → String → Bool
  /-- the lifetime of a token, in nanoseconds -/
  tokenTTL : ℤ
  appURL : String

namespace Server

/-- The registry. -/
def registry (s : Server κ) : Registry :=
  { toDirectory := s.directory, teamRows := s.teamRows, ids := s.ids }

/-- The column `monitors_count`. -/
def counts (s : Server κ) (user : UUID) : Option ℤ :=
  (s.world.db.users.find? (·.id = user)).map UserRow.monitorsCount

/-- A new account has no monitors. -/
def enroll (users : List UserRow) (accounts : List AccountRow) : List UserRow :=
  users ++ (accounts.drop users.length).map fun row => ⟨row.id, 0⟩

theorem map_id_enroll {users : List UserRow} {accounts : List AccountRow}
    (h : users.map UserRow.id <+: accounts.map AccountRow.id) :
    (enroll users accounts).map UserRow.id = accounts.map AccountRow.id := by
  obtain ⟨ids, hids⟩ := h
  have hdrop : (accounts.drop users.length).map AccountRow.id = ids := by
    rw [List.map_drop, ← hids, List.drop_left' (List.length_map ..)]
  rw [enroll, List.map_append, List.map_map, ← hids, ← hdrop]
  rfl

/-- What the user service and the team service leave. -/
def setRegistry (s : Server κ) (r : Registry)
    (h : s.directory.users.map AccountRow.id <+: r.users.map AccountRow.id) : Server κ :=
  { s with
    directory := r.toDirectory
    world := { s.world with
      db := { s.world.db with users := enroll s.world.db.users r.users } }
    teamRows := r.teamRows
    ids := r.ids
    accounts := map_id_enroll (s.accounts.symm ▸ h) }

/-- One command.  A statement on the directory or the registry may take effect and lose its
answer; one of the monitor service, of the lists or of the plugins is answered or has failed
without effect. -/
def serve (x : Platform κ) (e : ApiEnv) (s : Server κ) : (c : ApiCmd κ) → c.Resp × Server κ
  | .account c =>
    ((s.registry.serve x.argon s.counts e.account c).1,
      s.setRegistry (s.registry.serve x.argon s.counts e.account c).2
        (Registry.serve_accounts x.argon s.counts e.account s.registry c))
  | .monitor c =>
    ((s.world.exec e.canceled e.world c).1,
      { s with
        toInstance := s.setWorld (s.world.exec e.canceled e.world c).2
        accounts := (World.exec_accounts e.canceled e.world s.world c).trans s.accounts })
  | .listing q => ((Listing.serve x.ilike e.listing s.listing q).1, s)
  | .plugin c =>
    ((PluginStore.serve x.enc e.plugin s.plugins c).1,
      { s with plugins := (PluginStore.serve x.enc e.plugin s.plugins c).2 })

/-- The service that the handlers see. -/
def Serves (x : Platform κ) : Server κ → (c : ApiCmd κ) → c.Resp → Server κ → Prop :=
  Program.Interpreter (serve x)

variable {x : Platform κ} {s s' : Server κ}

/-- **A statement on the directory** is one. -/
theorem serves_query {q : DirectoryQuery} {r : Except DBError q.Result}
    (h : Serves x s (.account (.directory (.sql q))) r s') :
    Directory.Serves s.directory (.sql q) r s'.directory := by
  obtain ⟨e, he⟩ := h
  obtain ⟨hr, hs⟩ := Prod.mk.inj he
  exact ⟨e.account.call, Prod.ext hr (congrArg (fun s => s.directory) hs)⟩

/-- Any call on the directory leaves the rows of teams. -/
theorem teamRows_of_serves {c : DirectoryCmd} {r : c.Resp}
    (h : Serves x s (.account (.directory c)) r s') : s'.teamRows = s.teamRows := by
  obtain ⟨e, he⟩ := h
  have hs := congrArg (fun s => s.teamRows) (Prod.mk.inj he).2
  cases c with
  | sql q | timeNow | hashPassword password | randRead n => exact hs.symm

/-- A call that is no statement leaves the directory. -/
theorem directory_of_serves {c : DirectoryCmd} {r : c.Resp} (hc : ∀ q, c ≠ .sql q)
    (h : Serves x s (.account (.directory c)) r s') : s'.directory = s.directory := by
  obtain ⟨e, he⟩ := h
  have hs := congrArg (fun s => s.directory) (Prod.mk.inj he).2
  cases c with
  | sql q => exact absurd rfl (hc q)
  | timeNow | hashPassword password | randRead n => exact hs.symm

/-- **A statement on accounts and teams** gets through or not, and is answered or not. -/
theorem serves_accountSQL {q : AccountQuery} {r : Except DBError q.Result}
    (h : Serves x s (.account (.sql q)) r s') :
    (r = .error .unavailable ∧ s'.registry = s.registry) ∨
      ∃ now, (r = (s.registry.exec s.counts now q).1 ∨ r = .error .unavailable) ∧
        s'.registry = (s.registry.exec s.counts now q).2 := by
  obtain ⟨e, he⟩ := h
  obtain ⟨hr, hs⟩ := Prod.mk.inj he
  replace hs := congrArg registry hs
  change (s.registry.serve x.argon s.counts e.account (.sql q)).1 = r at hr
  change (s.registry.serve x.argon s.counts e.account (.sql q)).2 = s'.registry at hs
  unfold Registry.serve at hr hs
  cases hfails : e.account.call.fails with
  | true =>
    rw [hfails] at hr hs
    exact Or.inl ⟨hr.symm, hs.symm⟩
  | false =>
    rw [hfails] at hr hs
    refine Or.inr ⟨e.account.call.now, ?_, hs.symm⟩
    cases hlost : e.account.call.lost with
    | true =>
      rw [hlost] at hr
      exact Or.inr hr.symm
    | false =>
      rw [hlost] at hr
      exact Or.inl hr.symm

theorem registry_of_serves {c : ApiCmd κ} {r : c.Resp} (hc : ∀ c', c ≠ .account c')
    (h : Serves x s c r s') : s'.registry = s.registry := by
  obtain ⟨e, he⟩ := h
  cases c with
  | account c => exact absurd rfl (hc c)
  | monitor c | listing q | plugin c =>
    exact (congrArg registry (Prod.mk.inj he).2).symm

/-- **Who changes members and invitations**: a statement on the directory. -/
theorem serves_cases {c : ApiCmd κ} {r : c.Resp} (h : Serves x s c r s') :
    (s'.directory.members = s.directory.members ∧
        s'.directory.invitations = s.directory.invitations) ∨
      ∃ q now, c = .account (.directory (.sql q)) ∧
        s'.directory = (s.directory.exec now q).2 := by
  cases c with
  | account c =>
    cases c with
    | directory c =>
      by_cases hsql : ∃ q, c = .sql q
      · obtain ⟨q, rfl⟩ := hsql
        obtain ⟨-, hd⟩ | ⟨now, -, hd⟩ := Directory.serves_sql (serves_query h)
        · exact Or.inl ⟨congrArg Directory.members hd, congrArg Directory.invitations hd⟩
        · exact Or.inr ⟨q, now, rfl, hd⟩
      · have hd := directory_of_serves (not_exists.mp hsql) h
        exact Or.inl ⟨congrArg Directory.members hd, congrArg Directory.invitations hd⟩
    | sql q =>
      obtain ⟨-, hs⟩ | ⟨now, -, hs⟩ := serves_accountSQL h
      · have hd : s'.directory = s.directory := congrArg Registry.toDirectory hs
        exact Or.inl ⟨congrArg Directory.members hd, congrArg Directory.invitations hd⟩
      · have hd := congrArg Registry.toDirectory hs
        have hmembers := congrArg Directory.members hd
        have hinvitations := congrArg Directory.invitations hd
        obtain ⟨hmembers', hinvitations'⟩ := Registry.exec_members s.counts now q s.registry
        exact Or.inl ⟨hmembers.trans hmembers', hinvitations.trans hinvitations'⟩
  | monitor c | listing q | plugin c =>
    have hs := registry_of_serves (fun c' hc' => by cases hc') h
    have hd : s'.directory = s.directory := congrArg Registry.toDirectory hs
    exact Or.inl ⟨congrArg Directory.members hd, congrArg Directory.invitations hd⟩

/-- **Who changes accounts**: a statement of either kind. -/
theorem serves_users_cases {c : ApiCmd κ} {r : c.Resp} (h : Serves x s c r s') :
    s'.directory.users = s.directory.users ∨
      (∃ q now, c = .account (.directory (.sql q)) ∧
        s'.directory.users = (s.directory.exec now q).2.users) ∨
      ∃ q now, c = .account (.sql q) ∧
        s'.directory.users = (s.registry.exec s.counts now q).2.users := by
  cases c with
  | account c =>
    cases c with
    | directory c =>
      by_cases hsql : ∃ q, c = .sql q
      · obtain ⟨q, rfl⟩ := hsql
        obtain ⟨-, hd⟩ | ⟨now, -, hd⟩ := Directory.serves_sql (serves_query h)
        · exact Or.inl (congrArg Directory.users hd)
        · exact Or.inr (Or.inl ⟨q, now, rfl, congrArg Directory.users hd⟩)
      · exact Or.inl (congrArg Directory.users (directory_of_serves (not_exists.mp hsql) h))
    | sql q =>
      obtain ⟨-, hs⟩ | ⟨now, -, hs⟩ := serves_accountSQL h
      · exact Or.inl (congrArg (fun r : Registry => r.users) hs)
      · exact Or.inr (Or.inr ⟨q, now, rfl, congrArg (fun r : Registry => r.users) hs⟩)
  | monitor c | listing q | plugin c =>
    have hs := registry_of_serves (fun c' hc' => by cases hc') h
    exact Or.inl (congrArg (fun r : Registry => r.users) hs)

/-- **A command of the monitor service** works on the world. -/
theorem serves_monitor {c : Cmd} {r : c.Resp} (h : Serves x s (.monitor c) r s') :
    ∃ canceled e, s.world.exec canceled e c = (r, s'.world) := by
  obtain ⟨e, he⟩ := h
  obtain ⟨hr, hs⟩ := Prod.mk.inj he
  exact ⟨e.canceled, e.world, Prod.ext hr (congrArg (fun s => s.world) hs)⟩

/-- **A command of the plugin service** works on the plugins. -/
theorem serves_plugin {c : PluginCmd κ} {r : c.Resp} (h : Serves x s (.plugin c) r s') :
    ∃ e, PluginStore.serve x.enc e s.plugins c = (r, s'.plugins) := by
  obtain ⟨e, he⟩ := h
  obtain ⟨hr, hs⟩ := Prod.mk.inj he
  exact ⟨e.plugin, Prod.ext hr (congrArg (fun s => s.plugins) hs)⟩

/-- Of the world, such a command changes no more than the users. -/
theorem world_of_serves_account {c : AccountCmd} {r : c.Resp} (h : Serves x s (.account c) r s') :
    ∃ users, s'.world = { s.world with db := { s.world.db with users := users } } := by
  obtain ⟨e, he⟩ := h
  exact ⟨_, (congrArg (fun s => s.world) (Prod.mk.inj he).2).symm⟩

/-- Only commands of the plugin service change the plugins. -/
theorem plugins_of_serves {c : ApiCmd κ} {r : c.Resp} (hc : ∀ c', c ≠ .plugin c')
    (h : Serves x s c r s') : s'.plugins = s.plugins := by
  obtain ⟨e, he⟩ := h
  cases c with
  | plugin c => exact absurd rfl (hc c)
  | account c | monitor c | listing q =>
    exact (congrArg (fun s => s.plugins) (Prod.mk.inj he).2).symm

/-- Reading lists and working on plugins leaves the world. -/
theorem world_of_serves {c : ApiCmd κ} {r : c.Resp} (haccount : ∀ c', c ≠ .account c')
    (hmonitor : ∀ c', c ≠ .monitor c') (h : Serves x s c r s') : s'.world = s.world := by
  obtain ⟨e, he⟩ := h
  cases c with
  | account c => exact absurd rfl (haccount c)
  | monitor c => exact absurd rfl (hmonitor c)
  | listing q | plugin c => exact (congrArg (fun s => s.world) (Prod.mk.inj he).2).symm

end Server

/-! ## A server to run things on -/

namespace Sample

/-- There is an at sign in every address, and everything is a URL. -/
def platform : Platform (ℕ × ConfigMap) where
  argon := argon
  jwt := jwt
  uuids := uuids
  enc := encryptor
  isAddress := isAddress
  isEmail := isAddress
  isURL _ := true
  ilike _ _ := true
  tokenTTL := 1800000000000
  appURL := "https://sofon.example.org"

/-- Ada owns the team 9, which has a monitor, and Bob is invited. -/
def server : Server (ℕ × ConfigMap) where
  world := ⟨Redis.empty, ⟨[⟨7, 1⟩, ⟨8, 0⟩], [row], [], 2⟩, []⟩
  insertedAt _ := 0
  alerts := []
  directory :=
    { users := [⟨7, "Ada", "ada@example.org", "$argon2id$correct horse", "owner", true, 0⟩,
        ⟨8, "Bob", "bob@example.org", "$argon2id$battery staple", "member", true, 1⟩]
      registrationsEnabled := false
      members := [⟨1, 9, 7, roleOwner, true, 0⟩]
      invitations := [⟨2, 9, "bob@example.org", "member", "c0ffee", 172800000000, none, 7, 0⟩]
      nextID := 10
      teams := [9] }
  plugins := noPlugins
  teamRows := [⟨9, "Operations", 0, 0⟩]
  ids := rfl
  accounts := rfl

/-- Bob is a member as well. -/
def staffed : Server (ℕ × ConfigMap) :=
  { server with
    directory := { server.directory with
      members := [⟨1, 9, 7, roleOwner, true, 0⟩, ⟨3, 9, 8, "member", true, 0⟩] } }

/-- Carol is invited, who has no account. -/
def expecting : Server (ℕ × ConfigMap) :=
  { server with
    directory := { server.directory with
      invitations :=
        [⟨2, 9, "carol@example.org", "member", "c0ffee", 172800000000, none, 7, 0⟩] } }

/-- Ada's monitor has been read and retried not long ago. -/
def warm : Server (ℕ × ConfigMap) :=
  { server with
    world := { server.world with
      redis := { Redis.empty with
        monitor := Function.update (fun _ => none) 1 (some (MonitorRepository.ofRow row))
        retry := Function.update (fun _ => none) 1 (some ⟨2, true⟩) } } }

/-- The header of a request with a token that is good for half an hour. -/
def bearer (user : UUID) : String := "Bearer " ++ token user 1800

end Sample

end Sofon
