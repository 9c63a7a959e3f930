import Sofon.Api.Routes
import Sofon.Foundations.Provenance
import Sofon.Team.Managers

/-!
# What a request may do

A request issues each of its commands for a reason that lies in its past: in what its earlier
commands were answered.  `Permitted` lists the commands with their reasons, and
`follows_serveHTTP` says that the list is complete, whatever the answers are.  So in every
interleaving every request keeps to it (`requests_guarded`).

* `PublicCmd`: for anybody.
* `PersonalCmd`: for a user who is signed in, on the account of that user.
* `MemberCmd`: for an active member of a team, on what belongs to the team; changing who is in
  the team takes a route that requires a manager.

A command on a monitor comes after the monitor has been found among those of the team, but for
two: the look-ups that find it, and the entry of a new monitor in the schedule, which comes after
its `INSERT`.

## Along the chain

The list is a rule about the past, that is a protocol whose state is the trace, and the proof goes
along the code.  Each handler is followed with the rule of its route
(`permitted_acceptInvitation`, `permitted_createMonitor` and the others); a part that several of
them share is followed once, with the rule as a parameter (`follows_readInvitation`,
`follows_found`, `follows_listing`, `follows_plugin`).  In front of the handlers stand the
middleware: what is behind `AuthMiddleware` runs for a user who is signed in
(`follows_authenticate`), and what is behind the check of the team runs for an active member
(`follows_teamAccess`).  By then the trace has what the rule asks for.

What a row in an answer says is taken from the server: it is one that was asked for
(`Truthful`).

## What a request brings about

`BroughtAbout` says of a run that one command of one request has made something true of the
server.  The command was permitted when it was issued (`BroughtAbout.permitted`), and each answer
that the permission rests on was given by some server of the run (`BroughtAbout.exists_server`).
-/

namespace Sofon

open Interleaving Program

variable {κ : Type}

namespace ApiCmd

/-- A statement on the directory. -/
abbrev query (q : DirectoryQuery) : ApiCmd κ := .account (.directory (.sql q))

/-- A statement on accounts and teams. -/
abbrev sql (q : AccountQuery) : ApiCmd κ := .account (.sql q)

/-- `time.Now()`, for the user service and the team service -/
abbrev now : ApiCmd κ := .account (.directory .timeNow)

/-- `security.HashPassword` -/
abbrev hash (password : String) : ApiCmd κ := .account (.directory (.hashPassword password))

end ApiCmd

/-- What every answer of the server shows: a row is one that was asked for. -/
def Truthful : ApiEvent κ → Prop
  | ⟨.account (.directory (.sql (.getTeamMembership team user))), .ok row⟩ =>
    row.teamID = team ∧ row.userID = user
  | ⟨.account (.directory (.sql (.getInvitationByToken token))), .ok row⟩ => row.token = token
  | ⟨.account (.directory (.sql (.getUserByEmail email))), .ok row⟩ => row.email = email
  | ⟨.monitor (.sql (.getMonitorByTeamID m team)), .ok row⟩ => row.id = m ∧ row.teamID = team
  | _ => True

/-! ## Who is asking -/

namespace ApiRequest

variable (x : Platform κ) (req : ApiRequest) (tr : List (ApiEvent κ))

/-- The token of the request names a user at a time. -/
def Names (now : Time) (user : UUID) : Prop :=
  ∃ token claims, extractBearerToken req.authorization = .ok token ∧
    x.jwt.parseWithClaims now token = some claims ∧ x.uuids.parse claims.userID = some user

/-- The request has looked at the clock, and its token names a user. -/
def Bears (user : UUID) : Prop := ∃ now, Answered tr .now now ∧ req.Names x now user

/-- The user is active. -/
def SignedIn (user : UUID) : Prop :=
  req.Bears x tr user ∧ Answered tr (.sql (.getUserActiveStatus user)) (.ok true)

variable {x req tr} {tr' : List (ApiEvent κ)} {user : UUID}

theorem Bears.mono (h : req.Bears x tr user) (hpre : tr <+: tr') : req.Bears x tr' user := by
  obtain ⟨now, hnow, hnames⟩ := h
  exact ⟨now, hnow.mono hpre, hnames⟩

theorem SignedIn.mono (h : req.SignedIn x tr user) (hpre : tr <+: tr') :
    req.SignedIn x tr' user := ⟨h.1.mono hpre, h.2.mono hpre⟩

end ApiRequest

/-! ## What may be issued -/

/-- Registration has been found open. -/
def FoundOpen (tr : List (ApiEvent κ)) : Prop :=
  Answered tr (.query .getRegistrationsEnabled) (.ok true)

/-- The invitation has been read, and it was neither accepted nor out of date. -/
def FoundValid (tr : List (ApiEvent κ)) (token : String) (inv : InvitationRow) : Prop :=
  Answered tr (.query (.getInvitationByToken token)) (.ok inv) ∧ inv.acceptedAt = none ∧
    ∃ now, Answered tr .now now ∧ now ≤ Time.ofMicros inv.expiresAt

/-- An account with the email has been found, or inserted. -/
def FoundAccount (tr : List (ApiEvent κ)) (email : String) (user : UUID) : Prop :=
  (∃ row, Answered tr (.query (.getUserByEmail email)) (.ok row) ∧ row.id = user) ∨
    ∃ name hash role, Answered tr (.query (.createUser name email hash role)) (.ok user)

section Mono

variable {tr tr' : List (ApiEvent κ)} {token email : String} {inv : InvitationRow} {user : UUID}

theorem FoundValid.mono (h : FoundValid tr token inv) (hpre : tr <+: tr') :
    FoundValid tr' token inv := by
  obtain ⟨hread, hpending, now, hnow, hle⟩ := h
  exact ⟨hread.mono hpre, hpending, now, hnow.mono hpre, hle⟩

theorem FoundAccount.mono (h : FoundAccount tr email user) (hpre : tr <+: tr') :
    FoundAccount tr' email user := by
  rcases h with ⟨row, hrow, hid⟩ | ⟨name, hash, role, hcreated⟩
  · exact Or.inl ⟨row, hrow.mono hpre, hid⟩
  · exact Or.inr ⟨name, hash, role, hcreated.mono hpre⟩

end Mono

/-- Is this a route of the set-up? -/
def Endpoint.setsUp : Endpoint → Bool
  | setupStatus => true
  | register _ => true
  | _ => false

/-- The commands of the routes that need no token. -/
inductive PublicCmd (x : Platform κ) (tr : List (ApiEvent κ)) : Endpoint → ApiCmd κ → Prop
  | getRegistrationsEnabled {ep} (hep : ep.setsUp = true) :
      PublicCmd x tr ep (.query .getRegistrationsEnabled)
  | hasUsers {ep} (hep : ep.setsUp = true) (hopen : FoundOpen tr) :
      PublicCmd x tr ep (.query .hasUsers)
  | closeSetup (hopen : FoundOpen tr) (hhas : Answered tr (.query .hasUsers) (.ok true)) :
      PublicCmd x tr .setupStatus (.query (.setRegistrationsEnabled false))
  | hashNew {req : RegisterRequest} (hopen : FoundOpen tr) :
      PublicCmd x tr (.register (some req)) (.hash req.password)
  | createUser {req : RegisterRequest} {has : Bool} {hash : String} (hopen : FoundOpen tr)
      (hhas : Answered tr (.query .hasUsers) (.ok has))
      (hhash : Answered tr (.hash req.password) (.ok hash)) :
      PublicCmd x tr (.register (some req))
        (.query (.createUser req.name req.email hash (if has then "member" else "owner")))
  | closeFirst {req : RegisterRequest} {hash role : String} {user : UUID}
      (hcreated : Answered tr (.query (.createUser req.name req.email hash role)) (.ok user)) :
      PublicCmd x tr (.register (some req)) (.query (.setRegistrationsEnabled false))
  | logIn {req : LogInRequest} :
      PublicCmd x tr (.logIn (some req)) (.query (.getUserByEmail req.email))
  | issue {req : LogInRequest} {row : AccountRow}
      (hrow : Answered tr (.query (.getUserByEmail req.email)) (.ok row))
      (hactive : row.isActive = true)
      (hmatch : x.argon.comparePasswordAndHash req.password row.passwordHash = .ok true) :
      PublicCmd x tr (.logIn (some req)) .now
  | getInvitation {token : String} :
      PublicCmd x tr (.getInvitationByToken token) (.query (.getInvitationByToken token))
  | getInvitationNow {token : String} : PublicCmd x tr (.getInvitationByToken token) .now
  | getInvitingTeam {token : String} {inv : InvitationRow} (hinv : FoundValid tr token inv) :
      PublicCmd x tr (.getInvitationByToken token) (.sql (.getTeamByID inv.teamID))
  | acceptRead {req : AcceptInvitationRequest} :
      PublicCmd x tr (.acceptInvitation (some req)) (.query (.getInvitationByToken req.token))
  | acceptNow {req : AcceptInvitationRequest} : PublicCmd x tr (.acceptInvitation (some req)) .now
  | acceptFind {req : AcceptInvitationRequest} {inv : InvitationRow}
      (hinv : FoundValid tr req.token inv) :
      PublicCmd x tr (.acceptInvitation (some req)) (.query (.getUserByEmail inv.email))
  | acceptHash {req : AcceptInvitationRequest} {inv : InvitationRow}
      (hinv : FoundValid tr req.token inv)
      (hnone : Answered tr (.query (.getUserByEmail inv.email)) (.error .noRows)) :
      PublicCmd x tr (.acceptInvitation (some req)) (.hash req.password)
  | acceptCreate {req : AcceptInvitationRequest} {inv : InvitationRow} {hash : String}
      (hinv : FoundValid tr req.token inv)
      (hnone : Answered tr (.query (.getUserByEmail inv.email)) (.error .noRows))
      (hhash : Answered tr (.hash req.password) (.ok hash)) :
      PublicCmd x tr (.acceptInvitation (some req))
        (.query (.createUser req.name inv.email hash inv.role))
  | acceptAdd {req : AcceptInvitationRequest} {inv : InvitationRow} {user : UUID}
      (hinv : FoundValid tr req.token inv) (huser : FoundAccount tr inv.email user) :
      PublicCmd x tr (.acceptInvitation (some req))
        (.query (.addTeamMember inv.teamID user inv.role))
  | acceptAsk {req : AcceptInvitationRequest} {inv : InvitationRow} {user : UUID}
      (hinv : FoundValid tr req.token inv) (huser : FoundAccount tr inv.email user) :
      PublicCmd x tr (.acceptInvitation (some req)) (.query (.userIsMember inv.teamID user))
  | acceptMark {req : AcceptInvitationRequest} {inv : InvitationRow} {user : UUID}
      (hinv : FoundValid tr req.token inv) (huser : FoundAccount tr inv.email user)
      (hmember : (∃ row, Answered tr (.query (.addTeamMember inv.teamID user inv.role)) (.ok row)) ∨
        Answered tr (.query (.userIsMember inv.teamID user)) (.ok true)) :
      PublicCmd x tr (.acceptInvitation (some req)) (.query (.acceptInvitation req.token))

/-- The current password has been checked. -/
def CheckedPassword (x : Platform κ) (tr : List (ApiEvent κ)) (user : UUID) (password : String) :
    Prop :=
  ∃ hash, Answered tr (.sql (.getUserPasswordHash user)) (.ok hash) ∧
    x.argon.comparePasswordAndHash password hash = .ok true

/-- The commands of the routes of a signed-in user. -/
inductive PersonalCmd (x : Platform κ) (tr : List (ApiEvent κ)) (user : UUID) :
    Endpoint → ApiCmd κ → Prop
  | getProfile : PersonalCmd x tr user .getProfile (.sql (.getUserByID user))
  | getUserTeams : PersonalCmd x tr user .getProfile (.sql (.listTeamsByUserID user))
  | listMyTeams : PersonalCmd x tr user .listMyTeams (.sql (.listTeamsByUserID user))
  | updateProfile {req : UpdateProfileRequest} :
      PersonalCmd x tr user (.updateProfile (some req)) (.sql (.updateUserName user req.name))
  | readPassword {req : ChangePasswordRequest} :
      PersonalCmd x tr user (.changePassword (some req)) (.sql (.getUserPasswordHash user))
  | hashPassword {req : ChangePasswordRequest}
      (hold : CheckedPassword x tr user req.currentPassword) :
      PersonalCmd x tr user (.changePassword (some req)) (.hash req.newPassword)
  | setPassword {req : ChangePasswordRequest} {hash : String}
      (hold : CheckedPassword x tr user req.currentPassword)
      (hhash : Answered tr (.hash req.newPassword) (.ok hash)) :
      PersonalCmd x tr user (.changePassword (some req)) (.sql (.updateUserPassword user hash))
  | createTeam {req : TeamNameRequest} :
      PersonalCmd x tr user (.createTeam (some req)) (.sql (.createTeam req.name))
  | addOwner {req : TeamNameRequest} {team : Team}
      (hteam : Answered tr (.sql (.createTeam req.name)) (.ok team)) :
      PersonalCmd x tr user (.createTeam (some req))
        (.query (.addTeamMember team.id user roleOwner))

/-- The roles that can be given to a member. -/
def invitedRoles : List String := ["member", "admin", "owner"]

/-- The row that a valid request asks for. -/
def CreateMonitorRequest.row (req : CreateMonitorRequest) (team user : UUID) : CreateMonitor where
  teamID := team
  userID := user
  url := req.url
  intervalSec := req.intervalSec
  timeoutSec := req.timeoutSec
  latencyThresholdMs := req.latencyThresholdMs
  expectedStatus := req.expectedStatus
  notificationChannels := req.notificationChannels

/-- Two routes change the row of a monitor: that of the path, as the body says. -/
def TeamEndpoint.Alters (uuids : UUIDText) (m : UUID) : TeamEndpoint → Cmd → Prop
  | updateMonitorStatus monitorID body, .sql (.updateMonitorStatus _ enabled _) =>
    uuids.parse monitorID = some m ∧ body = some (some enabled)
  | _, .sql (.updateMonitorStatus ..) => False
  | deleteMonitor monitorID, .sql (.deleteMonitor ..) => uuids.parse monitorID = some m
  | _, .sql (.deleteMonitor ..) => False
  | _, _ => True

/-- Two routes change a plugin: that of the path, and what is saved is the configuration of the
body, after it has been checked and encrypted. -/
def TeamEndpoint.Configures (x : Platform κ) (tr : List (ApiEvent κ)) :
    TeamEndpoint → PluginCmd κ → Prop
  | upsertPlugin pluginType body, .upsertPlugin _ saved enabled configEnc =>
    saved = pluginType ∧ isValidType pluginType = true ∧ ∃ config,
      body = some ⟨enabled, some config⟩ ∧
      validateConfig x.isAddress pluginType config = .ok () ∧
      Answered tr (.plugin (.encrypt config)) (.ok configEnc)
  | _, .upsertPlugin .. => False
  | deletePlugin pluginType, .deletePlugin _ removed => removed = pluginType
  | _, .deletePlugin .. => False
  | _, _ => True

/-- The commands of the routes of a team, for an active member. -/
inductive MemberCmd (x : Platform κ) (tr : List (ApiEvent κ)) (user team : UUID) :
    TeamEndpoint → ApiCmd κ → Prop
  | getTeam : MemberCmd x tr user team .getTeam (.sql (.getTeamByID team))
  | updateTeam {req : TeamNameRequest} :
      MemberCmd x tr user team (.updateTeam (some req)) (.sql (.updateTeamName team req.name))
  | listMembers : MemberCmd x tr user team .listMembers (.query (.listTeamMembers team))
  | setMemberActive {memberID : String} {active : Bool} {target : UUID} (hself : target ≠ user) :
      MemberCmd x tr user team (.setMemberActive memberID (some active))
        (.query (.setTeamMemberActive team target active))
  | randRead {body} : MemberCmd x tr user team (.createInvitation body)
      (.account (.directory (.randRead 32)))
  | inviteNow {body} : MemberCmd x tr user team (.createInvitation body) .now
  | createInvitation {req : InviteMemberRequest} {random : List UInt8} {now : Time}
      (hrole : req.role ∈ invitedRoles)
      (hrandom : Answered tr (.account (.directory (.randRead 32))) (.ok random))
      (hnow : Answered tr .now now) :
      MemberCmd x tr user team (.createInvitation (some req))
        (.query (.createInvitation team req.email req.role (TeamService.encodeToString random)
          (Time.addSeconds now (48 * 60 * 60)) user))
  | listInvitations :
      MemberCmd x tr user team .listInvitations (.query (.listInvitations team))
  | revokeInvitation {invitationID : String} {id : UUID} :
      MemberCmd x tr user team (.revokeInvitation invitationID) (.query (.deleteInvitation id team))
  | listing {ep} {q : ListingQuery} (hq : TeamListingQuery team q) :
      MemberCmd x tr user team ep (.listing q)
  | plugin {ep} {c : PluginCmd κ} (hc : TeamPluginCmd team c) (hep : ep.Configures x tr c) :
      MemberCmd x tr user team ep (.plugin c)
  | timeNow {ep} : MemberCmd x tr user team ep (.monitor .timeNow)
  | ctxDone {ep} : MemberCmd x tr user team ep (.monitor .ctxDone)
  | incrementMonitorCount {body} :
      MemberCmd x tr user team (.createMonitor body) (.monitor (.sql (.incrementMonitorCount user)))
  | createMonitor {req : CreateMonitorRequest} {rows : ℕ} (hvalid : req.valid x.isURL = true)
      (hrows : Answered tr (.monitor (.sql (.incrementMonitorCount user))) (.ok rows))
      (hroom : rows ≠ 0) :
      MemberCmd x tr user team (.createMonitor (some req)) (.monitor (.sql
        (.createMonitor (req.row team user)
          (MonitorRepository.channelsToString req.notificationChannels))))
  | schedule {body} {data : CreateMonitor} {channels : String} {m : UUID} {score : ℤ}
      (hcreated : Answered tr (.monitor (.sql (.createMonitor data channels))) (.ok m)) :
      MemberCmd x tr user team (.createMonitor body)
        (.monitor (.redis (.zAdd [⟨score, .id m⟩])))
  | getCached {monitorID : String} {m : UUID} :
      MemberCmd x tr user team (.getMonitor monitorID) (.monitor (.redis (.getMonitor m)))
  | getMonitor {ep} {m : UUID} :
      MemberCmd x tr user team ep (.monitor (.sql (.getMonitorByTeamID m team)))
  | found {ep} {m : UUID} {row : MonitorRow} {c : Cmd}
      (hrow : Answered tr (.monitor (.sql (.getMonitorByTeamID m team))) (.ok row))
      (hc : TeamCmd team m c) (hep : ep.Alters x.uuids m c) :
      MemberCmd x tr user team ep (.monitor c)

/-- **The commands that a request may issue**, after what it has done. -/
inductive Permitted (x : Platform κ) (req : ApiRequest) (tr : List (ApiEvent κ)) :
    ApiCmd κ → Prop
  | anybody {c} (hc : PublicCmd x tr req.endpoint c) : Permitted x req tr c
  | readToken {token : String} (htoken : extractBearerToken req.authorization = .ok token) :
      Permitted x req tr .now
  | isUserActive {user : UUID} (huser : req.Bears x tr user) :
      Permitted x req tr (.sql (.getUserActiveStatus user))
  | user {user : UUID} {c} (huser : req.SignedIn x tr user)
      (hc : PersonalCmd x tr user req.endpoint c) : Permitted x req tr c
  | getMembership {user team : UUID} {teamID : String} {ep : TeamEndpoint}
      (huser : req.SignedIn x tr user) (hep : req.endpoint = .team teamID ep)
      (hteam : x.uuids.parse teamID = some team) :
      Permitted x req tr (.query (.getTeamMembership team user))
  | member {user team : UUID} {teamID : String} {ep : TeamEndpoint} {row : MemberRow} {c}
      (huser : req.SignedIn x tr user) (hep : req.endpoint = .team teamID ep)
      (hteam : x.uuids.parse teamID = some team)
      (hrow : Answered tr (.query (.getTeamMembership team user)) (.ok row))
      (hactive : row.isActive = true) (hrole : ep.managed = true → row.role ∈ managerRoles)
      (hc : MemberCmd x tr user team ep c) : Permitted x req tr c

/-! ## Nothing else is issued -/

section Parts

variable {C : Type} {R : C → Type} {ι : Embedding C R (ApiCmd κ) ApiCmd.Resp} {Q α : Type}
  {P : Protocol (ApiCmd κ) ApiCmd.Resp Q} {q : Q}

theorem follows_respond {status : ℕ} {message : String} {f : α → ApiData}
    {p : Program C R (Except AppError α)} (h : (p.embed ι).Follows P (fun _ _ => True) q) :
    ((respond status message f p).embed ι).Follows P (fun _ _ => True) q := by
  unfold respond
  rw [embed_bind]
  refine h.bind fun a _ _ => ?_
  rcases a with err | a <;> trivial

theorem follows_reply {message : String} {f : α → ApiData} {p : Program C R (Except ErrorBody α)}
    (h : (p.embed ι).Follows P (fun _ _ => True) q) :
    ((reply message f p).embed ι).Follows P (fun _ _ => True) q := by
  unfold reply
  rw [embed_bind]
  refine h.bind fun a _ _ => ?_
  rcases a with err | a <;> trivial

theorem follows_withBody {body : Option α} {valid : α → Bool} {next : α → Program C R ApiResponse}
    (h : ∀ req, body = some req → valid req = true →
      ((next req).embed ι).Follows P (fun _ _ => True) q) :
    ((withBody body valid next).embed ι).Follows P (fun _ _ => True) q := by
  cases body with
  | none => trivial
  | some req =>
    unfold withBody
    dsimp only
    split
    · rename_i hvalid
      exact h req rfl hvalid
    · trivial

theorem follows_withID {uuids : UUIDText} {s message : String}
    {next : UUID → Program C R ApiResponse}
    (h : ∀ id, uuids.parse s = some id → ((next id).embed ι).Follows P (fun _ _ => True) q) :
    ((withID uuids s message next).embed ι).Follows P (fun _ _ => True) q := by
  unfold withID
  cases hid : uuids.parse s with
  | none => trivial
  | some id => exact h id hid

end Parts

variable {x : Platform κ} {q : List (ApiEvent κ)}

/-! ### For anybody -/

theorem permitted_setupStatus : (UserHandler.setupStatus.embed ofMember).Follows
    (Protocol.history Truthful fun tr => PublicCmd x tr .setupStatus) (fun _ _ => True) q := by
  refine ⟨.getRegistrationsEnabled rfl, fun enabled _ => ?_⟩
  rcases enabled with err | _ | _
  · trivial
  · trivial
  refine ⟨.hasUsers rfl Answered.here, fun has _ => ?_⟩
  rcases has with err | _ | _
  · trivial
  · trivial
  refine ⟨.closeSetup Answered.here.later Answered.here, fun done _ => ?_⟩
  rcases done with err | u <;> trivial

theorem permitted_register (body : Option RegisterRequest) :
    ((UserHandler.register x body).embed ofMember).Follows
      (Protocol.history Truthful fun tr => PublicCmd x tr (.register body)) (fun _ _ => True) q := by
  refine follows_withBody fun req hbody _ => ?_
  obtain rfl := hbody
  refine ⟨.getRegistrationsEnabled rfl, fun enabled _ => ?_⟩
  rcases enabled with err | _ | _
  · trivial
  · trivial
  have hopen : FoundOpen (q ++ [⟨ApiCmd.query .getRegistrationsEnabled, .ok true⟩]) := Answered.here
  refine ⟨.hasUsers rfl hopen, fun has _ => ?_⟩
  rcases has with err | has
  · trivial
  refine ⟨.hashNew hopen.later, fun hashed _ => ?_⟩
  rcases hashed with err | hash
  · trivial
  refine ⟨.createUser hopen.later.later Answered.here.later Answered.here, fun created _ => ?_⟩
  rcases created with err | id
  · cases err <;> trivial
  cases has with
  | true => trivial
  | false =>
    refine ⟨.closeFirst Answered.here, fun done _ => ?_⟩
    rcases done with err | u <;> trivial

theorem permitted_logIn (body : Option LogInRequest) :
    ((UserHandler.logIn x body).embed ofAccount).Follows
      (Protocol.history Truthful fun tr => PublicCmd x tr (.logIn body)) (fun _ _ => True) q := by
  refine follows_withBody fun req hbody _ => ?_
  obtain rfl := hbody
  refine follows_respond ⟨.logIn, fun found _ => ?_⟩
  rcases found with err | row
  · cases err <;> trivial
  show Follows _ _ (Program.embed _ (if !row.isActive then _ else _)) _
  split
  · trivial
  · rename_i hactive
    split
    · rename_i hmatch
      have hissue : ((TokenService.generateAccessToken x.jwt x.tokenTTL
          ⟨x.uuids.string row.id, row.email, row.role, 0, 0⟩).embed ofAccount).Follows
            (Protocol.history Truthful fun tr => PublicCmd x tr (.logIn (some req)))
            (fun _ _ => True) (q ++ [⟨.query (.getUserByEmail req.email), .ok row⟩]) :=
        ⟨.issue Answered.here (by simpa using hactive) hmatch, fun _ _ => trivial⟩
      rw [embed_bind]
      refine hissue.bind fun token _ _ => ?_
      rcases token with err | token <;> trivial
    · trivial

/-- An embedding in two steps. -/
theorem embed_ofDirectory {α : Type} (p : DirectoryProg α) :
    (p.embed ofDirectory).embed (ofAccount (κ := κ)) = p.embed ofMember := by
  induction p with
  | ret a => rfl
  | call c k ih =>
    rw [embed_call, embed_call, embed_call]
    congr 1
    funext r
    exact ih _

/-- **Reading an invitation**: what is returned has been found valid. -/
theorem follows_readInvitation {token : String} {G : List (ApiEvent κ) → ApiCmd κ → Prop}
    (hread : G q (.query (.getInvitationByToken token))) (hnow : ∀ tr, G tr .now) :
    ((TeamService.getInvitationByToken token).embed ofMember).Follows (Protocol.history Truthful G)
      (fun found tr => ∀ inv, found = .ok inv →
        ∃ row, inv = TeamRepository.ofRow row ∧ FoundValid tr token row) q := by
  refine ⟨hread, fun found _ => ?_⟩
  rcases found with err | row
  · intro inv hinv
    cases hinv
  show Follows _ _ (Program.embed _ (if row.acceptedAt.isSome then _ else _)) _
  split
  · intro inv hinv
    cases hinv
  · rename_i hpending
    refine ⟨hnow _, fun (now : Time) _ => ?_⟩
    show Follows _ _ (Program.embed _ (if Time.ofMicros row.expiresAt < now then _ else _)) _
    split
    · intro inv hinv
      cases hinv
    · rename_i hvalid
      intro inv hinv
      refine ⟨row, (Except.ok.inj hinv).symm, Answered.here.later, ?_, now, Answered.here,
        not_lt.mp hvalid⟩
      exact Option.not_isSome_iff_eq_none.mp hpending

theorem permitted_getInvitationByToken (token : String) :
    ((TeamHandler.getInvitationByToken token).embed ofAccount).Follows
      (Protocol.history Truthful fun tr => PublicCmd x tr (.getInvitationByToken token))
      (fun _ _ => True) q := by
  unfold TeamHandler.getInvitationByToken
  rw [embed_bind, embed_ofDirectory]
  refine (follows_readInvitation .getInvitation fun _ => .getInvitationNow).bind
    fun found tr hfound => ?_
  rcases found with err | inv
  · trivial
  obtain ⟨row, rfl, hvalid⟩ := hfound inv rfl
  refine ⟨.getInvitingTeam hvalid, fun team _ => ?_⟩
  rcases team with err | team <;> trivial

theorem permitted_joinTeam {req : AcceptInvitationRequest} {inv : InvitationRow} {user : UUID}
    (hinv : FoundValid q req.token inv) (huser : FoundAccount q inv.email user) :
    ((TeamService.joinTeam ⟨req.token, req.name, req.password⟩ (TeamRepository.ofRow inv)
      user).embed ofMember).Follows
        (Protocol.history Truthful fun tr => PublicCmd x tr (.acceptInvitation (some req)))
        (fun _ _ => True) q := by
  refine ⟨.acceptAdd hinv huser, fun added _ => ?_⟩
  have hpre := List.prefix_append q
    [⟨ApiCmd.query (.addTeamMember inv.teamID user inv.role), added⟩]
  rcases added with err | row
  · refine ⟨.acceptAsk (hinv.mono hpre) (huser.mono hpre), fun is _ => ?_⟩
    rcases is with err' | _ | _
    · trivial
    · trivial
    have hpre' := hpre.trans (List.prefix_append _
      [⟨ApiCmd.query (.userIsMember inv.teamID user), .ok true⟩])
    refine ⟨.acceptMark (hinv.mono hpre') (huser.mono hpre') (Or.inr Answered.here),
      fun done _ => ?_⟩
    rcases done with err | u <;> trivial
  · refine ⟨.acceptMark (hinv.mono hpre) (huser.mono hpre) (Or.inl ⟨row, Answered.here⟩),
      fun done _ => ?_⟩
    rcases done with err | u <;> trivial

theorem permitted_acceptInvitation (body : Option AcceptInvitationRequest) :
    ((TeamHandler.acceptInvitation body).embed ofMember).Follows
      (Protocol.history Truthful fun tr => PublicCmd x tr (.acceptInvitation body))
      (fun _ _ => True) q := by
  refine follows_withBody fun req hbody _ => follows_respond ?_
  obtain rfl := hbody
  unfold TeamService.acceptInvitation
  rw [embed_bind]
  refine (follows_readInvitation .acceptRead fun _ => .acceptNow).bind fun found tr hfound => ?_
  rcases found with err | inv
  · trivial
  obtain ⟨row, rfl, hvalid⟩ := hfound inv rfl
  refine ⟨.acceptFind hvalid, fun existing _ => ?_⟩
  have hpre := List.prefix_append tr [⟨ApiCmd.query (.getUserByEmail row.email), existing⟩]
  rcases existing with err | account
  · cases err with
    | noRows =>
      refine ⟨.acceptHash (hvalid.mono hpre) Answered.here, fun hashed _ => ?_⟩
      rcases hashed with err | hash
      · trivial
      have hpre' := hpre.trans (List.prefix_append _ [⟨ApiCmd.hash req.password, .ok hash⟩])
      refine ⟨.acceptCreate (hvalid.mono hpre') Answered.here.later Answered.here,
        fun created _ => ?_⟩
      rcases created with err | user
      · trivial
      · exact permitted_joinTeam (hvalid.mono (hpre'.trans (List.prefix_append _ _)))
          (Or.inr ⟨_, _, _, Answered.here⟩)
    | constraint | unavailable | canceled => trivial
  · exact permitted_joinTeam (hvalid.mono hpre) (Or.inl ⟨account, Answered.here, rfl⟩)

/-! ### For a user -/

section User

variable {user : UUID}

theorem permitted_getProfile : ((UserHandler.getProfile user).embed ofAccount).Follows
    (Protocol.history Truthful fun tr => PersonalCmd x tr user .getProfile) (fun _ _ => True) q := by
  refine follows_respond ⟨.getProfile, fun found _ => ?_⟩
  rcases found with err | row
  · cases err <;> trivial
  refine ⟨.getUserTeams, fun teams _ => ?_⟩
  rcases teams with err | teams <;> trivial

theorem permitted_updateProfile (body : Option UpdateProfileRequest) :
    ((UserHandler.updateProfile user body).embed ofAccount).Follows
      (Protocol.history Truthful fun tr => PersonalCmd x tr user (.updateProfile body))
      (fun _ _ => True) q := by
  refine follows_withBody fun req hbody _ => follows_respond ?_
  obtain rfl := hbody
  refine ⟨.updateProfile, fun done _ => ?_⟩
  rcases done with err | u <;> trivial

theorem permitted_changePassword (body : Option ChangePasswordRequest) :
    ((UserHandler.changePassword x.argon user body).embed ofAccount).Follows
      (Protocol.history Truthful fun tr => PersonalCmd x tr user (.changePassword body))
      (fun _ _ => True) q := by
  refine follows_withBody fun req hbody _ => ?_
  obtain rfl := hbody
  split
  · trivial
  refine follows_respond ?_
  have hread : ((UserRepository.getUserPasswordHash user).embed ofAccount).Follows
      (Protocol.history Truthful fun tr => PersonalCmd x tr user (.changePassword (some req)))
      (fun found tr => ∀ hash, found = .ok hash →
        Answered tr (.sql (.getUserPasswordHash user)) (.ok hash)) q := by
    refine ⟨.readPassword, fun found _ => ?_⟩
    rcases found with err | hash
    · intro hash hhash
      cases hhash
    · intro hash' hhash
      obtain rfl := Except.ok.inj hhash
      exact Answered.here
  unfold UserService.changePassword
  rw [embed_bind]
  refine hread.bind fun found tr hfound => ?_
  rcases found with err | hash
  · trivial
  dsimp only
  split
  · rename_i hmatch
    have hold : Answered tr (.sql (.getUserPasswordHash user)) (.ok hash) := hfound hash rfl
    refine ⟨.hashPassword ⟨hash, hold, hmatch⟩, fun hashed _ => ?_⟩
    rcases hashed with err | newHash
    · trivial
    refine ⟨.setPassword ⟨hash, hold.later, hmatch⟩ Answered.here, fun done _ => ?_⟩
    rcases done with err | u <;> trivial
  · trivial

theorem permitted_listMyTeams : ((TeamHandler.listMyTeams user).embed ofAccount).Follows
    (Protocol.history Truthful fun tr => PersonalCmd x tr user .listMyTeams)
    (fun _ _ => True) q := by
  refine follows_respond ⟨.listMyTeams, fun teams _ => ?_⟩
  rcases teams with err | teams <;> trivial

theorem permitted_createTeam (body : Option TeamNameRequest) :
    ((TeamHandler.createTeam user body).embed ofAccount).Follows
      (Protocol.history Truthful fun tr => PersonalCmd x tr user (.createTeam body))
      (fun _ _ => True) q := by
  refine follows_withBody fun req hbody _ => follows_respond ?_
  obtain rfl := hbody
  refine ⟨.createTeam, fun created _ => ?_⟩
  rcases created with err | team
  · trivial
  refine ⟨.addOwner Answered.here, fun added _ => ?_⟩
  rcases added with err | row <;> trivial

end User

/-! ### For a member -/

section Member

variable {user : UUID} {m : TeamMemberCtx}

theorem permitted_setMemberActive (hm : m.userID = user) (memberID : String) (body : Option Bool) :
    ((TeamHandler.patchMember x.uuids memberID body m).embed ofMember).Follows
      (Protocol.history Truthful fun tr =>
        MemberCmd x tr user m.teamID (.setMemberActive memberID body)) (fun _ _ => True) q := by
  refine follows_withID fun target _ => follows_withBody fun active hbody _ => follows_reply ?_
  obtain rfl := hbody
  unfold TeamHandler.setMemberActive TeamService.setMemberActive
  rw [hm]
  split
  · trivial
  · rename_i hself
    refine ⟨.setMemberActive hself, fun done _ => ?_⟩
    rcases done with err | u <;> trivial

theorem permitted_createInvitation (hm : m.userID = user) (body : Option InviteMemberRequest) :
    ((TeamHandler.createInvitation x body m).embed ofMember).Follows
      (Protocol.history Truthful fun tr => MemberCmd x tr user m.teamID (.createInvitation body))
      (fun _ _ => True) q := by
  refine follows_withBody fun req hbody hvalid => follows_respond ?_
  obtain rfl := hbody
  have hrole : req.role ∈ invitedRoles :=
    List.contains_iff_mem.mp (Bool.and_eq_true_iff.mp hvalid).2
  refine ⟨.randRead, fun random _ => ?_⟩
  rcases random with err | b
  · trivial
  refine ⟨.inviteNow, fun now _ => ?_⟩
  rw [hm]
  refine ⟨.createInvitation hrole Answered.here.later Answered.here, fun created _ => ?_⟩
  rcases created with err | row <;> trivial

theorem permitted_createMonitor (body : Option CreateMonitorRequest) :
    ((MonitorHandler.createMonitor x.isURL user body m).embed ofMonitor).Follows
      (Protocol.history Truthful fun tr => MemberCmd x tr user m.teamID (.createMonitor body))
      (fun _ _ => True) q := by
  rcases body with _ | req
  · trivial
  unfold MonitorHandler.createMonitor
  dsimp only
  split
  · rename_i hvalid
    refine follows_respond ⟨.incrementMonitorCount, fun (counted : Except DBError ℕ) _ => ?_⟩
    rcases counted with err | rows
    · trivial
    show Follows _ _ (Program.embed _ ((if rows = 0 then _ else _ : Prog _) >>= _)) _
    split
    · trivial
    · rename_i hroom
      refine ⟨.createMonitor hvalid Answered.here hroom, fun created _ => ?_⟩
      rcases created with err | id
      · trivial
      -- nothing but the schedule is left
      refine Only.history (Only.embed ?_)
      exact (MonitorService.only_scheduleMonitor _ (fun _ _ => .timeNow) (fun _ _ => .ctxDone)
        (fun _ _ hpre => .schedule (Answered.here.mono hpre)) _).bind fun _ => trivial
  · trivial

/-- What comes after the monitor has been found is about this monitor. -/
theorem follows_found {α : Type} {ep : TeamEndpoint} {id : UUID} {row : MonitorRow} {p : Prog α}
    (hrow : Answered q (.monitor (.sql (.getMonitorByTeamID id m.teamID))) (.ok row))
    (hp : p.Only fun c => TeamCmd m.teamID id c ∧ ep.Alters x.uuids id c) :
    (p.embed ofMonitor).Follows
      (Protocol.history Truthful fun tr => MemberCmd x tr user m.teamID ep) (fun _ _ => True) q :=
  Only.history (Only.embed (hp.mono fun _ hc _ hpre => .found (hrow.mono hpre) hc.1 hc.2))

theorem permitted_getMonitor (monitorID : String) :
    ((MonitorHandler.getMonitor x.uuids monitorID m).embed ofMonitor).Follows
      (Protocol.history Truthful fun tr => MemberCmd x tr user m.teamID (.getMonitor monitorID))
      (fun _ _ => True) q := by
  refine follows_withID fun id _ => follows_respond ?_
  unfold MonitorService.getMonitor
  rw [embed_bind]
  have hcached : ((RedisClient.getMonitor id).embed ofMonitor).Follows
      (Protocol.history Truthful fun tr => MemberCmd x tr user m.teamID (.getMonitor monitorID))
      (fun _ _ => True) q := by
    refine ⟨.getCached, fun found _ => ?_⟩
    rcases found with err | found <;> trivial
  refine hcached.bind fun cached tr _ => ?_
  cases cached.filter (·.teamID = m.teamID) with
  | some mon => trivial
  | none =>
    refine ⟨.getMonitor, fun found hfound => ?_⟩
    rcases found with err | row
    · cases err <;> trivial
    · exact follows_found Answered.here ⟨⟨.setMonitor hfound.1 hfound.2, trivial⟩, fun _ => trivial⟩

theorem permitted_updateMonitorStatus (monitorID : String) (body : Option (Option Bool)) :
    ((MonitorHandler.updateMonitorStatus x.uuids monitorID body m).embed ofMonitor).Follows
      (Protocol.history Truthful fun tr =>
        MemberCmd x tr user m.teamID (.updateMonitorStatus monitorID body)) (fun _ _ => True) q := by
  refine follows_withID fun id hparse => ?_
  rcases body with _ | _ | enable
  · trivial
  · trivial
  refine follows_respond ⟨.getMonitor, fun found hfound => ?_⟩
  rcases found with err | row
  · cases err <;> trivial
  refine follows_found Answered.here ?_
  have hid : row.id = id := hfound.1
  show Program.Only _ (if row.enabled = enable then _ else _)
  split
  · trivial
  refine ⟨⟨.sql (.updateMonitorStatus enable), hparse, rfl⟩,
    fun (updated : Except DBError ℕ) => ?_⟩
  rcases updated with err | rows
  · trivial
  show Program.Only _ ((if rows = 0 then .ret _ else .ret _ : Prog _) >>= _)
  split
  · trivial
  show Program.Only _ (if enable then _ else _)
  split
  · have hschedule : (MonitorService.scheduleMonitor row.id row.intervalSec).Only fun c =>
        TeamCmd m.teamID id c ∧ (TeamEndpoint.updateMonitorStatus monitorID
          (some (some enable))).Alters x.uuids id c := by
      rw [hid]
      exact MonitorService.only_scheduleMonitor _ ⟨.timeNow, trivial⟩ ⟨.ctxDone, trivial⟩
        (fun score => ⟨.zAdd score, trivial⟩) _
    exact hschedule.bind fun _ => trivial
  · refine (MonitorService.only_closeOpenIncident _ ⟨.timeNow, trivial⟩ fun t =>
      ⟨.sql (.closeMonitorIncident t), trivial⟩).bind fun _ => ?_
    exact (MonitorService.only_disableMonitor _ ⟨.ctxDone, trivial⟩ ⟨.delMonitor, trivial⟩
      ⟨.zRem, trivial⟩ ⟨.delIncident, trivial⟩ ⟨.hDelStatus, trivial⟩).bind fun _ => trivial

theorem permitted_deleteMonitor (monitorID : String) :
    ((MonitorHandler.deleteMonitor x.uuids monitorID m).embed ofMonitor).Follows
      (Protocol.history Truthful fun tr => MemberCmd x tr user m.teamID (.deleteMonitor monitorID))
      (fun _ _ => True) q := by
  refine follows_withID fun id hparse => follows_respond ⟨.getMonitor, fun found _ => ?_⟩
  rcases found with err | row
  · cases err <;> trivial
  have hdisable : (MonitorService.disableMonitor id).Only fun c => TeamCmd m.teamID id c ∧
      (TeamEndpoint.deleteMonitor monitorID).Alters x.uuids id c :=
    MonitorService.only_disableMonitor _ ⟨.ctxDone, trivial⟩ ⟨.delMonitor, trivial⟩
      ⟨.zRem, trivial⟩ ⟨.delIncident, trivial⟩ ⟨.hDelStatus, trivial⟩
  refine follows_found Answered.here (hdisable.bind fun _ => ?_)
  refine Program.Only.bind ⟨⟨.sql .deleteMonitor, hparse⟩, fun (deleted : Except DBError ℕ) => ?_⟩
    fun deleted => ?_
  · rcases deleted with err | rows
    · trivial
    show Program.Only _ (if rows = 0 then _ else _)
    split <;> trivial
  · rcases deleted with err | u
    · trivial
    refine Program.Only.bind ⟨⟨.sql (.decrementMonitorCount _), trivial⟩, fun done => ?_⟩
      fun _ => trivial
    rcases done with err | u <;> trivial

/-- What reads the lists reads those of the team. -/
theorem follows_listing {α : Type} {ep : TeamEndpoint} {p : ListingProg α}
    (hp : p.Only (TeamListingQuery m.teamID)) :
    (p.embed ofListing).Follows
      (Protocol.history Truthful fun tr => MemberCmd x tr user m.teamID ep) (fun _ _ => True) q :=
  Only.history (Only.embed (hp.mono fun _ hq _ _ => .listing hq))

/-- What works on plugins works on those of the team. -/
theorem follows_plugin {α : Type} {ep : TeamEndpoint} {p : PluginProg κ α}
    (hp : p.Only fun c => TeamPluginCmd m.teamID c ∧ ∀ tr, ep.Configures x tr c) :
    (p.embed ofPlugin).Follows
      (Protocol.history Truthful fun tr => MemberCmd x tr user m.teamID ep) (fun _ _ => True) q :=
  Only.history (Only.embed (hp.mono fun _ hc tr _ => .plugin hc.1 (hc.2 tr)))

theorem only_getAllMonitors_handler (limit : Option ℤ) (cursor : String) :
    (MonitorHandler.getAllMonitors x.uuids m.teamID limit cursor).Only
      (TeamListingQuery m.teamID) := by
  unfold MonitorHandler.getAllMonitors
  split
  · trivial
  dsimp only
  split
  · refine (only_getAllMonitors x.uuids _).bind fun page => ?_
    rcases page with err | page <;> trivial
  split
  · refine (only_getAllMonitors x.uuids _).bind fun page => ?_
    rcases page with err | page <;> trivial
  · trivial

theorem only_listIncidents_handler (limit : Option ℤ) (filters : ListFilters) (cursor : String) :
    (IncidentHandler.listIncidents x.uuids m.teamID limit filters cursor).Only
      (TeamListingQuery m.teamID) := by
  unfold IncidentHandler.listIncidents
  split
  · trivial
  · trivial
  dsimp only
  split
  · refine (only_listByTeamID x.uuids _).bind fun page => ?_
    rcases page with err | page <;> trivial
  split
  · trivial
  split
  · trivial
  · refine (only_listByTeamID x.uuids _).bind fun page => ?_
    rcases page with err | page <;> trivial

theorem permitted_listPlugins :
    ((PluginHandler.listPlugins m).embed ofPlugin).Follows
      (Protocol.history Truthful fun tr => MemberCmd x tr user m.teamID .listPlugins)
      (fun _ _ => True) q := by
  refine follows_respond (follows_plugin ⟨⟨.listPlugins, fun _ => trivial⟩, fun found => ?_⟩)
  rcases found with err | rows <;> trivial

theorem permitted_getPlugin (pluginType : String) :
    ((reply "plugin retrieved" .plugin
      (PluginHandler.getPlugin x.enc m.teamID pluginType)).embed ofPlugin).Follows
        (Protocol.history Truthful fun tr => MemberCmd x tr user m.teamID (.getPlugin pluginType))
        (fun _ _ => True) q := by
  have hget : (PluginService.getPlugin x.enc m.teamID pluginType).Only fun c =>
      TeamPluginCmd m.teamID c ∧
        ∀ tr, (TeamEndpoint.getPlugin pluginType).Configures x tr c := by
    refine Program.Only.bind ⟨⟨.getPlugin pluginType, fun _ => trivial⟩, fun found => trivial⟩
      fun found => ?_
    rcases found with err | row
    · cases err <;> trivial
    · dsimp only
      split <;> trivial
  refine follows_reply (follows_plugin ?_)
  unfold PluginHandler.getPlugin
  split
  · refine hget.bind fun found => ?_
    rcases found with err | found <;> trivial
  · trivial

theorem permitted_upsertPlugin (pluginType : String) (body : Option UpsertPluginRequest) :
    ((PluginHandler.putPlugin x.isAddress pluginType body m).embed ofPlugin).Follows
      (Protocol.history Truthful fun tr =>
        MemberCmd x tr user m.teamID (.upsertPlugin pluginType body)) (fun _ _ => True) q := by
  unfold PluginHandler.putPlugin
  split
  · rename_i htype
    refine follows_withBody fun req hbody _ => follows_reply ?_
    obtain ⟨enabled, _ | config⟩ := req
    · unfold PluginHandler.upsertPlugin
      rw [if_pos htype]
      trivial
    unfold PluginHandler.upsertPlugin PluginService.upsertPlugin
    rw [if_pos htype]
    dsimp only
    split
    · trivial
    · rename_i hvalid
      refine ⟨.plugin (.encrypt config) trivial, fun (encrypted : Except Unit κ) _ => ?_⟩
      rcases encrypted with err | configEnc
      · trivial
      refine ⟨.plugin (.upsertPlugin pluginType enabled configEnc)
        ⟨rfl, htype, config, hbody, hvalid, Answered.here⟩, fun saved _ => ?_⟩
      rcases saved with err | row <;> trivial
  · trivial

theorem permitted_deletePlugin (pluginType : String) :
    ((PluginHandler.deletePlugin pluginType m).embed ofPlugin).Follows
      (Protocol.history Truthful fun tr => MemberCmd x tr user m.teamID (.deletePlugin pluginType))
      (fun _ _ => True) q := by
  unfold PluginHandler.deletePlugin
  split
  · refine follows_respond
      (follows_plugin ⟨⟨.deletePlugin pluginType, fun _ => rfl⟩, fun done => ?_⟩)
    rcases done with err | u <;> trivial
  · trivial

/-- **What the handler of a route of a team issues.** -/
theorem permitted_handler (hm : m.userID = user) (ep : TeamEndpoint) :
    (ep.handler x user m).Follows
      (Protocol.history Truthful fun tr => MemberCmd x tr user m.teamID ep) (fun _ _ => True) q := by
  cases ep with
  | getTeam =>
    refine follows_respond ⟨.getTeam, fun found _ => ?_⟩
    rcases found with err | row <;> trivial
  | updateTeam body =>
    refine follows_withBody fun req hbody _ => follows_respond ?_
    obtain rfl := hbody
    refine ⟨.updateTeam, fun done _ => ?_⟩
    rcases done with err | u <;> trivial
  | listMembers =>
    refine follows_respond ⟨.listMembers, fun found _ => ?_⟩
    rcases found with err | rows <;> trivial
  | setMemberActive memberID body => exact permitted_setMemberActive hm memberID body
  | createInvitation body => exact permitted_createInvitation hm body
  | listInvitations =>
    refine follows_respond ⟨.listInvitations, fun found _ => ?_⟩
    rcases found with err | rows <;> trivial
  | revokeInvitation invitationID =>
    refine follows_withID fun id _ => follows_respond ⟨.revokeInvitation, fun done _ => ?_⟩
    rcases done with err | u <;> trivial
  | createMonitor body => exact permitted_createMonitor body
  | getMonitor monitorID => exact permitted_getMonitor monitorID
  | updateMonitorStatus monitorID body => exact permitted_updateMonitorStatus monitorID body
  | deleteMonitor monitorID => exact permitted_deleteMonitor monitorID
  | getAllMonitors limit cursor =>
    exact follows_reply (follows_listing (only_getAllMonitors_handler limit cursor))
  | listIncidents limit filters cursor =>
    exact follows_reply (follows_listing (only_listIncidents_handler limit filters cursor))
  | getIncident incidentID =>
    exact follows_withID fun id _ => follows_respond (follows_listing (only_getByIDAndTeamID id))
  | listPlugins => exact permitted_listPlugins
  | getPlugin pluginType => exact permitted_getPlugin pluginType
  | upsertPlugin pluginType body => exact permitted_upsertPlugin pluginType body
  | deletePlugin pluginType => exact permitted_deletePlugin pluginType

end Member

/-! ### On the way there -/

section Chain

variable {req : ApiRequest}

theorem permitted_validateAccessToken {token : String}
    (htoken : extractBearerToken req.authorization = .ok token) :
    ((TokenService.validateAccessToken x.jwt token).embed ofAccount).Follows
      (Protocol.history Truthful (Permitted x req))
      (fun found tr => ∀ claims, found = some claims →
        ∃ now, Answered tr .now now ∧ x.jwt.parseWithClaims now token = some claims) q :=
  ⟨.readToken htoken, fun now _ _ hclaims => ⟨now, Answered.here, hclaims⟩⟩

theorem permitted_isUserActive {user : UUID} (huser : req.Bears x q user) :
    ((UserService.isUserActive user).embed ofAccount).Follows
      (Protocol.history Truthful (Permitted x req))
      (fun active tr => active = .ok true → req.SignedIn x tr user) q := by
  refine ⟨.isUserActive huser, fun active _ => ?_⟩
  rcases active with err | active
  · intro hactive
    cases hactive
  · intro hactive
    obtain rfl := Except.ok.inj hactive
    exact ⟨huser.mono (List.prefix_append _ _), Answered.here⟩

/-- The rest of the chain runs for a user who is signed in; nobody else gets further than an
error. -/
theorem follows_authenticate (req : ApiRequest) {next : UUID → ApiProg κ ApiResponse}
    {G : List (ApiEvent κ) → ApiCmd κ → Prop} {fin : ApiResponse → List (ApiEvent κ) → Prop}
    (hG : ∀ tr c, Permitted x req tr c → G tr c) (hrefuse : ∀ body tr, fin (.error body) tr)
    (h : ∀ user tr, req.SignedIn x tr user →
      (next user).Follows (Protocol.history Truthful G) fin tr) :
    (authenticate x req.authorization next).Follows (Protocol.history Truthful G) fin q := by
  unfold authenticate
  split
  · exact hrefuse _ _
  · rename_i token htoken
    refine ((permitted_validateAccessToken htoken).allow fun tr c _ => hG tr c).bind
      fun found tr hfound => ?_
    rcases found with _ | claims
    · exact hrefuse _ _
    obtain ⟨now, hnow, hclaims⟩ := hfound claims rfl
    dsimp only
    split
    · exact hrefuse _ _
    split
    · exact hrefuse _ _
    · rename_i user huser
      refine ((permitted_isUserActive ⟨now, hnow, token, claims, htoken, hclaims, huser⟩).allow
        fun tr c _ => hG tr c).bind fun active tr hactive => ?_
      rcases active with err | _ | _
      · exact hrefuse _ _
      · exact hrefuse _ _
      · exact h user tr (hactive rfl)

/-- The rest of the chain runs for an active member. -/
theorem follows_teamAccess {user : UUID} {teamID : String} {ep : TeamEndpoint}
    {next : TeamMemberCtx → ApiProg κ ApiResponse} (huser : req.SignedIn x q user)
    (hep : req.endpoint = .team teamID ep)
    (h : ∀ (team : UUID) (row : MemberRow), x.uuids.parse teamID = some team →
      row.isActive = true → row.userID = user → row.teamID = team →
      (next ⟨row.id, row.teamID, row.userID, row.role, row.isActive⟩).Follows
        (Protocol.history Truthful (Permitted x req)) (fun _ _ => True)
          (q ++ [⟨.query (.getTeamMembership team user), .ok row⟩])) :
    (withTeamAccess x.uuids user teamID next).Follows
      (Protocol.history Truthful (Permitted x req)) (fun _ _ => True) q := by
  unfold withTeamAccess
  split
  · trivial
  · rename_i team hteam
    refine ⟨.getMembership huser hep hteam, fun found hfound => ?_⟩
    rcases found with err | row
    · trivial
    obtain ⟨rowTeam, rowUser⟩ := hfound
    show Follows _ _ (if row.isActive then _ else _) _
    split
    · rename_i hactive
      exact h team row hteam hactive rowUser rowTeam
    · trivial

/-- **A request issues what it may**, whatever it is answered. -/
theorem follows_serveHTTP (req : ApiRequest) : (serveHTTP x req).Follows
    (Protocol.history Truthful (Permitted x req)) (fun _ _ => True) [] := by
  obtain ⟨authorization, endpoint⟩ := req
  have hanybody {p : ApiProg κ ApiResponse} (hp : p.Follows
      (Protocol.history Truthful fun tr => PublicCmd x tr endpoint) (fun _ _ => True) []) :
      p.Follows (Protocol.history Truthful (Permitted x ⟨authorization, endpoint⟩))
        (fun _ _ => True) [] :=
    hp.allow fun _ _ _ hc => .anybody hc
  have huser {next : UUID → ApiProg κ ApiResponse} (hnext : ∀ user tr, (next user).Follows
      (Protocol.history Truthful fun tr => PersonalCmd x tr user endpoint) (fun _ _ => True) tr) :
      (authenticate x authorization next).Follows
        (Protocol.history Truthful (Permitted x ⟨authorization, endpoint⟩))
        (fun _ _ => True) [] := by
    refine follows_authenticate ⟨authorization, endpoint⟩ (fun _ _ hc => hc)
      (fun _ _ => trivial) fun user tr hsigned => ?_
    exact (hnext user tr).allow fun tr' _ hpre hc => .user (hsigned.mono hpre) hc
  cases endpoint with
  | setupStatus => exact hanybody permitted_setupStatus
  | register body => exact hanybody (permitted_register body)
  | logIn body => exact hanybody (permitted_logIn body)
  | getInvitationByToken token => exact hanybody (permitted_getInvitationByToken token)
  | acceptInvitation body => exact hanybody (permitted_acceptInvitation body)
  | getProfile => exact huser fun _ _ => permitted_getProfile
  | updateProfile body => exact huser fun _ _ => permitted_updateProfile body
  | changePassword body => exact huser fun _ _ => permitted_changePassword body
  | listMyTeams => exact huser fun _ _ => permitted_listMyTeams
  | createTeam body => exact huser fun _ _ => permitted_createTeam body
  | team teamID ep =>
    refine follows_authenticate ⟨authorization, .team teamID ep⟩ (fun _ _ hc => hc)
      (fun _ _ => trivial) fun user tr hsigned => ?_
    refine follows_teamAccess hsigned rfl fun team row hteam hactive hrowUser hrowTeam => ?_
    obtain rfl := hrowUser
    obtain rfl := hrowTeam
    have hhandler (hrole : ep.managed = true → row.role ∈ managerRoles) :
        (ep.handler x row.userID ⟨row.id, row.teamID, row.userID, row.role, row.isActive⟩).Follows
          (Protocol.history Truthful (Permitted x ⟨authorization, .team teamID ep⟩))
          (fun _ _ => True) (tr ++ [⟨.query (.getTeamMembership row.teamID row.userID), .ok row⟩]) := by
      refine (permitted_handler rfl ep).allow fun tr' _ hpre hc => ?_
      exact .member (hsigned.mono ((List.prefix_append _ _).trans hpre)) rfl hteam
        (Answered.here.mono hpre) hactive hrole hc
    cases hmanaged : ep.managed with
    | false => exact hhandler fun h => absurd (h.symm.trans hmanaged) Bool.noConfusion
    | true =>
      show Follows _ _ (if row.role ∈ managerRoles then _ else _) _
      split
      · rename_i hrole
        exact hhandler fun _ => hrole
      · trivial

end Chain

/-! ## In every interleaving -/

/-- Rows that are answered were asked for. -/
theorem Server.truthful_of_serves {s s' : Server κ} {c : ApiCmd κ} {r : c.Resp}
    (h : s.Serves x c r s') : Truthful ⟨c, r⟩ := by
  unfold Truthful
  split
  · rename_i heq
    obtain ⟨rfl, hr⟩ := Event.mk.inj heq
    obtain rfl := eq_of_heq hr
    exact (Directory.mem_of_getTeamMembership (serves_query h)).2
  · rename_i token row heq
    obtain ⟨rfl, hr⟩ := Event.mk.inj heq
    obtain rfl := eq_of_heq hr
    have hfound : s.directory.invitations.find? (·.token = token) = some row :=
      Directory.found_of_serves
        (fun now => Directory.exec_getInvitationByToken now s.directory token) (serves_query h)
    have htoken := List.find?_some hfound
    exact of_decide_eq_true htoken
  · rename_i email row heq
    obtain ⟨rfl, hr⟩ := Event.mk.inj heq
    obtain rfl := eq_of_heq hr
    have hfound : s.directory.users.find? (·.email = email) = some row :=
      Directory.found_of_serves
        (fun now => Directory.exec_getUserByEmail now s.directory email) (serves_query h)
    have hemail := List.find?_some hfound
    exact of_decide_eq_true hemail
  · rename_i m team row heq
    obtain ⟨rfl, hr⟩ := Event.mk.inj heq
    obtain rfl := eq_of_heq hr
    obtain ⟨canceled, e, he⟩ := serves_monitor h
    obtain ⟨err, herr⟩ | hexec := s.world.exec_sql_cases canceled e (.getMonitorByTeamID m team)
    · rw [herr] at he
      cases he
    · rw [hexec] at he
      obtain ⟨hid, hteam, -⟩ := DB.ofTeam_of_exec (Prod.mk.inj he).1
      exact ⟨hid, hteam⟩
  · trivial

theorem follows_requests {reqs : List ApiRequest} (i : ℕ) (p : ApiProg κ ApiResponse)
    (hp : (reqs.map (serveHTTP x))[i]? = some p) :
    p.Follows (Protocol.history Truthful fun tr c => ∃ req ∈ reqs[i]?, Permitted x req tr c)
      (fun _ _ => True) [] := by
  rw [List.getElem?_map] at hp
  obtain ⟨req, hreq, rfl⟩ := Option.map_eq_some_iff.mp hp
  exact (follows_serveHTTP req).allow fun _ _ _ hc => ⟨req, hreq, hc⟩

/-- **What a request of an interleaving returns** is what it returns by itself. -/
theorem follows_of_reaches {G : List (ApiEvent κ) → ApiCmd κ → Prop}
    {fin : ApiResponse → List (ApiEvent κ) → Prop} {s : Server κ} {reqs : List ApiRequest}
    {p : Pool (ApiCmd κ) ApiCmd.Resp ApiResponse (Server κ)}
    {guard : Pool (ApiCmd κ) ApiCmd.Resp ApiResponse (Server κ) → ℕ → ApiEvent κ → Prop}
    (h : Pool.Reaches (Server.Serves x) guard (Pool.start s (reqs.map (serveHTTP x))) p) {i : ℕ}
    {req : ApiRequest} (hreq : reqs[i]? = some req)
    (hfollows : (serveHTTP x req).Follows (Protocol.history Truthful G) fin [])
    {t : Thread (ApiCmd κ) ApiCmd.Resp ApiResponse} (ht : p.threads[i]? = some t) :
    t.todo.Follows (Protocol.history Truthful G) fin t.log := by
  have hi : (reqs.map (serveHTTP x))[i]? = some (serveHTTP x req) := by
    rw [List.getElem?_map, hreq]
    rfl
  have hreturns := h.follows (fun _ _ _ _ => Server.truthful_of_serves) hi hfollows ht
  rwa [Protocol.state_history] at hreturns

/-- **The invariant rule** for interleavings of requests, of which a service serves each in a
way the server can. -/
theorem invariant_of_serves {service : Server κ → (c : ApiCmd κ) → c.Resp → Server κ → Prop}
    {J : Server κ → List (List (ApiEvent κ)) → Prop} {s : Server κ}
    {reqs : List ApiRequest} {p : Pool (ApiCmd κ) ApiCmd.Resp ApiResponse (Server κ)}
    {guard : Pool (ApiCmd κ) ApiCmd.Resp ApiResponse (Server κ) → ℕ → ApiEvent κ → Prop}
    (hservice : ∀ {s c r s'}, service s c r s' → Server.Serves x s c r s')
    (h : Pool.Reaches service guard (Pool.start s (reqs.map (serveHTTP x))) p)
    (h₀ : ∀ logs : List (List (ApiEvent κ)), (∀ log ∈ logs, log = []) → J s logs)
    (hJ : ∀ {s logs i log c r s'} {req : ApiRequest}, J s logs → logs[i]? = some log →
      reqs[i]? = some req → Permitted x req log c → service s c r s' →
        J s' (logs.set i (log ++ [⟨c, r⟩]))) :
    J p.shared (p.threads.map Thread.log) := by
  refine (h.invariant_history (Pool.obeys_start follows_requests)
    (fun _ _ _ _ hserves => Server.truthful_of_serves (hservice hserves))
    (h₀ _ fun log hlog => ?_) ?_).2
  · obtain ⟨t, ht, rfl⟩ := List.mem_map.mp hlog
    obtain ⟨q, -, rfl⟩ := List.mem_map.mp ht
    rfl
  · rintro s logs i log c r s' hbefore hlog ⟨req, hreq, hpermitted⟩ hserves
    exact hJ hbefore hlog hreq hpermitted hserves

theorem invariant_requests {J : Server κ → List (List (ApiEvent κ)) → Prop} {s : Server κ}
    {reqs : List ApiRequest} {p : Pool (ApiCmd κ) ApiCmd.Resp ApiResponse (Server κ)}
    {guard : Pool (ApiCmd κ) ApiCmd.Resp ApiResponse (Server κ) → ℕ → ApiEvent κ → Prop}
    (h : Pool.Reaches (Server.Serves x) guard (Pool.start s (reqs.map (serveHTTP x))) p)
    (h₀ : ∀ logs : List (List (ApiEvent κ)), (∀ log ∈ logs, log = []) → J s logs)
    (hJ : ∀ {s logs i log c r s'} {req : ApiRequest}, J s logs → logs[i]? = some log →
      reqs[i]? = some req → Permitted x req log c → Server.Serves x s c r s' →
        J s' (logs.set i (log ++ [⟨c, r⟩]))) :
    J p.shared (p.threads.map Thread.log) :=
  invariant_of_serves (fun hserves => hserves) h h₀ hJ

/-- **Every request keeps to what it may do**, in every interleaving with others, on every server:
whatever it issues, it has been answered before what gives it the right to. -/
theorem requests_guarded {s : Server κ} {reqs : List ApiRequest}
    {p : Pool (ApiCmd κ) ApiCmd.Resp ApiResponse (Server κ)}
    {guard : Pool (ApiCmd κ) ApiCmd.Resp ApiResponse (Server κ) → ℕ → ApiEvent κ → Prop}
    (h : Pool.Reaches (Server.Serves x) guard (Pool.start s (reqs.map (serveHTTP x))) p) {i : ℕ}
    {req : ApiRequest} (hreq : reqs[i]? = some req) {t : Thread (ApiCmd κ) ApiCmd.Resp ApiResponse}
    (ht : p.threads[i]? = some t) : Keeps (Permitted x req) t.log := by
  have hkeeps := h.history (fun _ _ _ _ => Server.truthful_of_serves) follows_requests i t ht
  intro tr₁ e tr₂ hlog
  obtain ⟨req', hreq', hc⟩ := hkeeps tr₁ e tr₂ hlog
  obtain rfl := Option.some.inj (hreq.symm.trans hreq')
  exact hc

/-- Ada looks at her team, and Bob tries to. -/
def Sample.visits : List ApiRequest :=
  [⟨Sample.bearer 7, .team (Sample.uuids.string 9) .getTeam⟩,
    ⟨Sample.bearer 8, .team (Sample.uuids.string 9) .getTeam⟩]

theorem requests_guarded_sample :
    ∃ p : Pool (ApiCmd (ℕ × ConfigMap)) ApiCmd.Resp ApiResponse (Server (ℕ × ConfigMap)),
      p.threads.map (fun t => t.log.length) = [4, 3] ∧
        ∃ t, p.threads[0]? = some t ∧
          Keeps (Permitted Sample.platform ⟨Sample.bearer 7,
            .team (Sample.uuids.string 9) .getTeam⟩) t.log := by
  obtain ⟨p, hreach, hcheck⟩ := Pool.exists_reaches_of_play (Server.serve Sample.platform)
    (fun _ _ _ => true) ([0, 1, 0, 1, 0, 1, 0].map fun i => (i, default))
    (Pool.start Sample.server (Sample.visits.map (serveHTTP Sample.platform)))
    (fun p => decide (p.threads.map (fun t => t.log.length) = [4, 3])) (by decide)
  have hlogs := of_decide_eq_true hcheck
  cases hfirst : p.threads[0]? with
  | none =>
    have hempty := congrArg (fun l : List ℕ => l[0]?) hlogs
    rw [List.getElem?_map, hfirst] at hempty
    cases hempty
  | some t => exact ⟨p, hlogs, t, hfirst, requests_guarded hreach (i := 0) rfl hfirst⟩

/-! ## What a request brings about -/

/-- **Request `i` has brought `T` about** on the way from the server `s` to `p`, with the command
`c` that it issued after the trace `tr`. -/
def BroughtAbout (x : Platform κ) (s : Server κ) (reqs : List ApiRequest)
    (p : Pool (ApiCmd κ) ApiCmd.Resp ApiResponse (Server κ)) (T : Server κ → Prop) (i : ℕ)
    (tr : List (ApiEvent κ)) (c : ApiCmd κ) : Prop :=
  Pool.BringsAbout (Server.Serves x) (fun _ _ _ => True) T
    (Pool.start s (reqs.map (serveHTTP x))) p i tr c

section BroughtAbout

variable {s : Server κ} {reqs : List ApiRequest} {T : Server κ → Prop} {i : ℕ}
  {p p' : Pool (ApiCmd κ) ApiCmd.Resp ApiResponse (Server κ)} {tr : List (ApiEvent κ)}
  {c : ApiCmd κ}

/-- **A step of a run is permitted.** -/
theorem permitted_of_step {i : ℕ} {r : c.Resp}
    (h : Pool.Reaches (Server.Serves x) (fun _ _ _ => True)
      (Pool.start s (reqs.map (serveHTTP x))) p)
    (htr : (p.threads.map Thread.log)[i]? = some tr)
    (hs : Pool.Step (Server.Serves x) p i ⟨c, r⟩ p') :
    ∃ req, reqs[i]? = some req ∧ Permitted x req tr c := by
  have hkeeps := Pool.Reaches.history (h.tail ⟨i, _, hs, trivial⟩)
    (fun _ _ _ _ => Server.truthful_of_serves) follows_requests
  obtain @⟨c, k, log, r, s', hi, hc⟩ := hs
  obtain rfl := Option.some.inj (htr.symm.trans (Pool.log_of_thread hi))
  obtain ⟨hlt, -⟩ := List.getElem?_eq_some_iff.mp hi
  obtain ⟨req, hreq, hpermitted⟩ := hkeeps i _ (List.getElem?_set_self hlt) tr ⟨c, r⟩ [] rfl
  exact ⟨req, hreq, hpermitted⟩

/-- **By what right**: the request was permitted to issue the command, and on some server the
command does bring `T` about. -/
theorem BroughtAbout.permitted (h : BroughtAbout x s reqs p T i tr c) :
    (∃ req, reqs[i]? = some req ∧ Permitted x req tr c) ∧
      ∃ s₁ r s₂, Server.Serves x s₁ c r s₂ ∧ ¬ T s₁ ∧ T s₂ := by
  obtain ⟨p₁, r, p₂, hp₁, htr, hs, -, hbefore, hafter⟩ := h
  exact ⟨permitted_of_step hp₁ htr hs, p₁.shared, r, p₂.shared, hs.serves, hbefore, hafter⟩

/-- **On what grounds**: what the request had been answered by then, it was answered by the
server in the course of the run. -/
theorem BroughtAbout.exists_server (h : BroughtAbout x s reqs p T i tr c) {c' : ApiCmd κ}
    {r' : c'.Resp} (he : Answered tr c' r') :
    ∃ p₁ p₂ : Pool (ApiCmd κ) ApiCmd.Resp ApiResponse (Server κ),
      Pool.Reaches (Server.Serves x) (fun _ _ _ => True)
        (Pool.start s (reqs.map (serveHTTP x))) p₁ ∧
      Server.Serves x p₁.shared c' r' p₂.shared ∧
      Pool.Reaches (Server.Serves x) (fun _ _ _ => True) p₁ p := by
  obtain ⟨q₁, r, q₂, hq₁, htr, hs, hq₂, -⟩ := h
  obtain ⟨p₁, p₂, hp₁, hs', hp₂⟩ := hq₁.exists_step_of_answered htr he
  refine ⟨p₁, p₂, hp₁, hs'.serves, ?_⟩
  exact ((Relation.ReflTransGen.head ⟨i, _, hs', trivial⟩ hp₂).tail ⟨i, _, hs, trivial⟩).trans hq₂

end BroughtAbout

end Sofon
