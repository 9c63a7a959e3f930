import Sofon.Api.Server
import Sofon.Plugin.Handler
import Sofon.User.Registration

/-!
# The handlers

What the handlers of the API make of a request once the middleware has let it through: they
decode and check its body, parse the ids in its path, call a service and write a response.

A body arrives decoded, or as nothing where `Decode` fails.  Times are left as they are, and
the log lines are left out.  Where a handler asks again for what the middleware has already
established, that is not repeated.
-/

namespace Sofon

open Interleaving Program

/-! ## Requests -/

/-- `user.RegisterRequest` -/
structure RegisterRequest where
  name : String
  email : String
  password : String

/-- `user.LogInRequest` -/
structure LogInRequest where
  email : String
  password : String

/-- `user.UpdateProfileRequest` -/
structure UpdateProfileRequest where
  name : String

/-- `user.ChangePasswordRequest` -/
structure ChangePasswordRequest where
  currentPassword : String
  newPassword : String
  confirmPassword : String

/-- `team.CreateTeamRequest` and `team.UpdateTeamRequest` -/
structure TeamNameRequest where
  name : String

/-- `team.InviteMemberRequest` -/
structure InviteMemberRequest where
  email : String
  role : String

/-- `team.AcceptInvitationRequest` -/
structure AcceptInvitationRequest where
  token : String
  name : String
  password : String

/-- `monitor.CreateMonitorRequest` -/
structure CreateMonitorRequest where
  url : String
  intervalSec : ℤ
  timeoutSec : ℤ
  latencyThresholdMs : Option ℤ
  expectedStatus : Option ℤ
  notificationChannels : List String

/-- `required,min=…,max=…` of a text: its characters are counted. -/
def sized (least most : ℕ) (s : String) : Bool := s ≠ "" && least ≤ s.length && s.length ≤ most

/-- `required,email` -/
def validEmail (isEmail : String → Bool) (s : String) : Bool := s ≠ "" && isEmail s

def RegisterRequest.valid (isEmail : String → Bool) (req : RegisterRequest) : Bool :=
  sized 2 100 req.name && validEmail isEmail req.email && sized 8 72 req.password

def LogInRequest.valid (isEmail : String → Bool) (req : LogInRequest) : Bool :=
  validEmail isEmail req.email && req.password ≠ ""

def UpdateProfileRequest.valid (req : UpdateProfileRequest) : Bool := sized 2 100 req.name

def ChangePasswordRequest.valid (req : ChangePasswordRequest) : Bool :=
  req.currentPassword ≠ "" && sized 8 72 req.newPassword && req.confirmPassword ≠ ""

def TeamNameRequest.valid (req : TeamNameRequest) : Bool := sized 1 100 req.name

def InviteMemberRequest.valid (isEmail : String → Bool) (req : InviteMemberRequest) : Bool :=
  validEmail isEmail req.email && ["member", "admin", "owner"].contains req.role

def AcceptInvitationRequest.valid (req : AcceptInvitationRequest) : Bool :=
  req.token ≠ "" && sized 2 100 req.name && sized 8 72 req.password

def CreateMonitorRequest.valid (isURL : String → Bool) (req : CreateMonitorRequest) : Bool :=
  req.url ≠ "" && isURL req.url && 60 ≤ req.intervalSec && 120 ≤ req.timeoutSec

/-! ## Responses -/

/-- `user.GetProfileResponse` -/
structure GetProfileResponse where
  id : UUID
  name : String
  email : String
  monitorsCount : ℤ
  isPaidUser : Bool
  teams : List (UUID × String)

/-- `team.TeamResponse`; an update leaves the time out. -/
structure TeamResponse where
  id : UUID
  name : String
  createdAt : Option ℤ

/-- `team.InvitationResponse` -/
structure InvitationResponse where
  id : UUID
  email : String
  role : String
  link : String
  expiresAt : ℤ
  accepted : Bool
  createdAt : ℤ

/-- `monitor.GetMonitorResponse` -/
structure GetMonitorResponse where
  id : UUID
  url : String
  intervalSec : ℤ
  timeoutSec : ℤ
  latencyThresholdMs : Option ℤ
  expectedStatus : Option ℤ
  enabled : Bool
  isDown : Bool
  notificationChannels : List String

/-- The `data` of a response. -/
inductive ApiData where
  | empty
  | text (s : String)
  | registered (userID : UUID)
  | loggedIn (userID : UUID) (accessToken : String)
  | setupStatus (registrationsEnabled : Bool)
  | profile (p : GetProfileResponse)
  | team (t : TeamResponse)
  | teams (ts : List TeamResponse)
  | members (ms : List TeamMember)
  | invitation (inv : InvitationResponse)
  | invitations (invs : List InvitationResponse)
  | invitationInfo (email role teamName : String) (expiresAt : ℤ)
  | monitorCreated (monitorID : UUID)
  | monitor (m : GetMonitorResponse)
  | monitors (limit : ℕ) (hasMore : Bool) (nextCursor : Option String)
      (ms : List GetMonitorResponse)
  | incidents (page : ListIncidentsPage)
  | incident (i : Incident)
  | plugins (ps : List PluginResponse)
  | plugin (p : PluginResponse)

/-- What `utils.WriteJSON` writes. -/
structure ApiReply where
  status : ℕ
  message : String
  data : ApiData

/-- What a request is answered with. -/
abbrev ApiResponse := Except ErrorBody ApiReply

/-- `http.StatusBadRequest` with `apperror.InvalidInput` -/
def badRequest (message : String) : ErrorBody := ⟨400, .invalidInput, message⟩

/-- Decode and check a body. -/
def withBody {C : Type} {R : C → Type} {α : Type} (body : Option α) (valid : α → Bool)
    (next : α → Program C R ApiResponse) : Program C R ApiResponse :=
  match body with
  | none => pure (.error (badRequest "invalid request body"))
  | some req => if valid req then next req else pure (.error (badRequest "invalid request body"))

/-- Parse an id in the path. -/
def withID {C : Type} {R : C → Type} (uuids : UUIDText) (s message : String)
    (next : UUID → Program C R ApiResponse) : Program C R ApiResponse :=
  match uuids.parse s with
  | none => pure (.error (badRequest message))
  | some id => next id

/-- Write what a service has returned. -/
def respond {C : Type} {R : C → Type} {α : Type} (status : ℕ) (message : String)
    (f : α → ApiData) (p : Program C R (Except AppError α)) : Program C R ApiResponse := do
  match ← p with
  | .ok a => pure (.ok ⟨status, message, f a⟩)
  | .error err => pure (.error err.body)

/-- Write what a handler has settled. -/
def reply {C : Type} {R : C → Type} {α : Type} (message : String) (f : α → ApiData)
    (p : Program C R (Except ErrorBody α)) : Program C R ApiResponse := do
  match ← p with
  | .ok a => pure (.ok ⟨200, message, f a⟩)
  | .error body => pure (.error body)

variable {κ : Type}

namespace UserHandler

/-- `Handler.Register` -/
def register (x : Platform κ) (body : Option RegisterRequest) : DirectoryProg ApiResponse :=
  withBody body (·.valid x.isEmail) fun req => do
    match ← UserService.register ⟨req.name, req.email, req.password, ""⟩ with
    | .ok id => pure (.ok ⟨201, "user registered", .registered id⟩)
    | .error (.app err) => pure (.error err.body)
    | .error .foreign => pure (.error ⟨500, .internal, "internal server error"⟩)

/-- `Handler.LogIn` -/
def logIn (x : Platform κ) (body : Option LogInRequest) : AccountProg ApiResponse :=
  withBody body (·.valid x.isEmail) fun req =>
    respond 200 "user registered" (fun res => .loggedIn res.userID res.accessToken)
      (UserService.logIn x.argon x.jwt x.tokenTTL x.uuids.string ⟨req.email, req.password⟩)

/-- `Handler.SetupStatus` -/
def setupStatus : DirectoryProg ApiResponse := do
  match ← UserService.setupStatus with
  | (_, some err) => pure (.error err.body)
  | (enabled, none) => pure (.ok ⟨200, "setup status", .setupStatus enabled⟩)

/-- `Handler.UpdateProfile` -/
def updateProfile (user : UUID) (body : Option UpdateProfileRequest) : AccountProg ApiResponse :=
  withBody body UpdateProfileRequest.valid fun req =>
    respond 200 "profile updated" (fun _ => .empty) (UserService.updateProfile user req.name)

/-- `Handler.ChangePassword` -/
def changePassword (argon : Argon2id) (user : UUID) (body : Option ChangePasswordRequest) :
    AccountProg ApiResponse :=
  withBody body ChangePasswordRequest.valid fun req =>
    if req.newPassword ≠ req.confirmPassword then
      pure (.error (badRequest "new passwords do not match"))
    else respond 200 "password changed" (fun _ => .empty)
      (UserService.changePassword argon user req.currentPassword req.newPassword)

/-- `Handler.GetProfile` -/
def getProfile (user : UUID) : AccountProg ApiResponse :=
  respond 200 "profile retrieved" (fun (u, teams) =>
    .profile ⟨u.id, u.name, u.email, u.monitorsCount, u.isPaidUser, teams⟩)
    (UserService.getProfile user)

end UserHandler

namespace TeamHandler

/-- The response that is made of a team. -/
def ofTeam (t : Team) : TeamResponse := ⟨t.id, t.name, some t.createdAt⟩

/-- The response that is made of an invitation. -/
def ofInvitation (appURL : String) (inv : Invitation) : InvitationResponse :=
  ⟨inv.id, inv.email, inv.role, TeamService.inviteLink appURL inv.token, inv.expiresAt,
    inv.acceptedAt.isSome, inv.createdAt⟩

/-- `Handler.CreateTeam` -/
def createTeam (creator : UUID) (body : Option TeamNameRequest) : AccountProg ApiResponse :=
  withBody body TeamNameRequest.valid fun req =>
    respond 201 "team created" (fun t => .team (ofTeam t)) (TeamService.createTeam ⟨req.name, creator⟩)

/-- `Handler.ListMyTeams` -/
def listMyTeams (user : UUID) : AccountProg ApiResponse :=
  respond 200 "teams retrieved" (fun ts => .teams (ts.map ofTeam)) (TeamService.listUserTeams user)

/-- `Handler.GetTeam` -/
def getTeam (m : TeamMemberCtx) : AccountProg ApiResponse :=
  respond 200 "team retrieved" (fun t => .team (ofTeam t)) (TeamService.getTeam m.teamID)

/-- `Handler.UpdateTeam` -/
def updateTeam (body : Option TeamNameRequest) (m : TeamMemberCtx) : AccountProg ApiResponse :=
  withBody body TeamNameRequest.valid fun req =>
    respond 200 "team updated" (fun _ => .team ⟨m.teamID, req.name, none⟩)
      (TeamService.updateTeamName m.teamID req.name)

/-- `Handler.ListMembers` -/
def listMembers (m : TeamMemberCtx) : DirectoryProg ApiResponse :=
  respond 200 "members retrieved" .members (TeamService.listMembers m.teamID)

/-- `Handler.SetMemberActive`, from the request on -/
def patchMember (uuids : UUIDText) (memberID : String) (body : Option Bool) (m : TeamMemberCtx) :
    DirectoryProg ApiResponse :=
  withID uuids memberID "invalid member id" fun target =>
    withBody body (fun _ => true) fun active =>
      reply "member status updated" (fun _ => .empty) (setMemberActive target active m)

/-- `Handler.CreateInvitation` -/
def createInvitation (x : Platform κ) (body : Option InviteMemberRequest) (m : TeamMemberCtx) :
    DirectoryProg ApiResponse :=
  withBody body (·.valid x.isEmail) fun req =>
    respond 201 "invitation created" (fun inv => .invitation (ofInvitation x.appURL inv))
      (TeamService.createInvitation ⟨m.teamID, req.email, req.role, m.userID⟩)

/-- `Handler.ListInvitations` -/
def listInvitations (appURL : String) (m : TeamMemberCtx) : DirectoryProg ApiResponse :=
  respond 200 "invitations retrieved" (fun invs => .invitations (invs.map (ofInvitation appURL)))
    (TeamService.listInvitations m.teamID)

/-- `Handler.RevokeInvitation` -/
def revokeInvitation (uuids : UUIDText) (invitationID : String) (m : TeamMemberCtx) :
    DirectoryProg ApiResponse :=
  withID uuids invitationID "invalid invitation id" fun inv =>
    respond 200 "invitation revoked" (fun _ => .empty) (TeamService.revokeInvitation m.teamID inv)

/-- A team that cannot be read has no name. -/
def teamName : Except AppError Team → String
  | .ok t => t.name
  | .error _ => ""

/-- `Handler.GetInvitationByToken` -/
def getInvitationByToken (token : String) : AccountProg ApiResponse := do
  match ← (TeamService.getInvitationByToken token).embed ofDirectory with
  | .error err => pure (.error err.body)
  | .ok inv =>
    let teamInfo ← TeamService.getTeam inv.teamID
    pure (.ok ⟨200, "invitation retrieved",
      .invitationInfo inv.email inv.role (teamName teamInfo) inv.expiresAt⟩)

/-- `Handler.AcceptInvitation` -/
def acceptInvitation (body : Option AcceptInvitationRequest) : DirectoryProg ApiResponse :=
  withBody body AcceptInvitationRequest.valid fun req =>
    respond 201 "invitation accepted" (fun _ => .empty)
      (TeamService.acceptInvitation ⟨req.token, req.name, req.password⟩)

end TeamHandler

namespace MonitorHandler

/-- The response that is made of a monitor; `GetMonitor` does not say whether it is down. -/
def ofMonitor (m : Monitor) (isDown : Bool) : GetMonitorResponse :=
  ⟨m.id, m.url, m.intervalSec, m.timeoutSec, m.latencyThresholdMs, m.expectedStatus, m.enabled,
    isDown, m.notificationChannels⟩

/-- `Handler.CreateMonitor` -/
def createMonitor (isURL : String → Bool) (user : UUID) (body : Option CreateMonitorRequest)
    (m : TeamMemberCtx) : Prog ApiResponse :=
  match body with
  | none => pure (.error (badRequest "invalid request"))
  | some req =>
    if req.valid isURL then
      respond 201 "monitor created successfully" .monitorCreated
        (MonitorService.createMonitor
          { teamID := m.teamID
            userID := user
            url := req.url
            intervalSec := req.intervalSec
            timeoutSec := req.timeoutSec
            latencyThresholdMs := req.latencyThresholdMs
            expectedStatus := req.expectedStatus
            notificationChannels := req.notificationChannels })
    else pure (.error (badRequest "invalid request"))

/-- `Handler.GetMonitor` -/
def getMonitor (uuids : UUIDText) (monitorID : String) (m : TeamMemberCtx) : Prog ApiResponse :=
  withID uuids monitorID "invalid input" fun id =>
    respond 200 "monitor retrieved" (fun mon => .monitor (ofMonitor mon false))
      (MonitorService.getMonitor m.teamID id)

/-- `Handler.GetAllMonitors`, with the response -/
def listMonitors (uuids : UUIDText) (limit : Option ℤ) (cursor : String) (m : TeamMemberCtx) :
    ListingProg ApiResponse :=
  reply "monitors retrieved" (fun page => .monitors page.limit page.hasMore page.nextCursor
    (page.monitors.map fun mon => ofMonitor mon mon.isDown))
    (getAllMonitors uuids m.teamID limit cursor)

/-- `Handler.DeleteMonitor` -/
def deleteMonitor (uuids : UUIDText) (monitorID : String) (m : TeamMemberCtx) : Prog ApiResponse :=
  withID uuids monitorID "invalid input" fun id =>
    respond 200 "monitor deleted successfully" (fun _ => .text "")
      (MonitorService.deleteMonitor m.teamID id)

/-- `Handler.UpdateMonitorStatus`; the field may be missing from the body. -/
def updateMonitorStatus (uuids : UUIDText) (monitorID : String) (body : Option (Option Bool))
    (m : TeamMemberCtx) : Prog ApiResponse :=
  withID uuids monitorID "invalid input" fun id =>
    match body with
    | none => pure (.error (badRequest "invalid request"))
    | some none => pure (.error (badRequest "invalid input"))
    | some (some enable) =>
      respond 200 "monitor status updated successfully" (fun _ => .text "ok")
        (MonitorService.updateMonitorStatus m.teamID id enable)

end MonitorHandler

namespace IncidentHandler

/-- `Handler.GetIncident` -/
def getIncident (uuids : UUIDText) (incidentID : String) (m : TeamMemberCtx) :
    ListingProg ApiResponse :=
  withID uuids incidentID "invalid incident id" fun id =>
    respond 200 "incident retrieved" .incident (IncidentService.getByIDAndTeamID id m.teamID)

end IncidentHandler

namespace PluginHandler

/-- `Handler.ListPlugins` -/
def listPlugins (m : TeamMemberCtx) : PluginProg κ ApiResponse :=
  respond 200 "plugins retrieved" (fun ps => .plugins (ps.map fun p => toResponse p []))
    (PluginService.listPlugins m.teamID)

/-- `Handler.UpsertPlugin`, from the request on: the type is looked at before the body is
decoded. -/
def putPlugin (isAddress : String → Bool) (pluginType : String) (body : Option UpsertPluginRequest)
    (m : TeamMemberCtx) : PluginProg κ ApiResponse :=
  if isValidType pluginType then
    withBody body (fun _ => true) fun req =>
      reply "plugin saved" .plugin (upsertPlugin isAddress m.teamID pluginType req)
  else pure (.error (badRequest "unsupported plugin type"))

/-- `Handler.DeletePlugin` -/
def deletePlugin (pluginType : String) (m : TeamMemberCtx) : PluginProg κ ApiResponse :=
  if isValidType pluginType then
    respond 200 "plugin deleted" (fun _ => .empty) (PluginService.deletePlugin m.teamID pluginType)
  else pure (.error (badRequest "unsupported plugin type"))

end PluginHandler

end Sofon
