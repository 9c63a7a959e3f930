import Sofon.AppError
import Sofon.Cursor
import Sofon.Store.Registry

/-!
# Signing in, and one's own account

`security.TokenService`, which signs what is known of a user and reads it back, and the part
of `user.Service` that registration leaves out: `LogIn`, the profile, the change of a
password, and the question whether a user is still active, which every later request asks.

The dates of a token are in whole seconds.  `jwt` and the secret are parameters, as is the
comparison of passwords.
-/

namespace Sofon

open Interleaving Program

/-- `security.RequestClaims`, with the dates that are set. -/
structure RequestClaims where
  userID : String
  email : String
  role : String
  expiresAt : ℤ
  issuedAt : ℤ
  deriving DecidableEq

/-- `jwt` with the secret of the instance and the one method that is allowed: what is signed
of claims, and what is read from a token at a time. -/
structure JWT where
  signedString : RequestClaims → Except Unit String
  parseWithClaims : Time → String → Option RequestClaims

/-- **What the code relies on**: a token that has been signed is read until it expires, and
is in one piece. -/
structure JWT.Lawful (jwt : JWT) : Prop where
  parse_signed : ∀ claims token, jwt.signedString claims = .ok token → ∀ now,
    jwt.parseWithClaims now token = if now < Time.ofUnix claims.expiresAt then some claims else none
  no_space : ∀ claims token, jwt.signedString claims = .ok token → ' ' ∉ token.toList

namespace TokenService

/-- `TokenService.GenerateAccessToken`, with the lifetime in nanoseconds: the dates are
truncated to the second. -/
def generateAccessToken (jwt : JWT) (tokenTTL : ℤ) (payload : RequestClaims) :
    AccountProg (Except Unit String) := do
  let now ← Program.perform (AccountCmd.directory .timeNow)
  pure (jwt.signedString { payload with
    expiresAt := Time.unix (now + tokenTTL)
    issuedAt := Time.unix now })

/-- `TokenService.ValidateAccessToken` -/
def validateAccessToken (jwt : JWT) (accessToken : String) :
    AccountProg (Option RequestClaims) := do
  let now ← Program.perform (AccountCmd.directory .timeNow)
  pure (jwt.parseWithClaims now accessToken)

end TokenService

/-- `user.User`.  That somebody has paid is nowhere stored. -/
structure User where
  id : UUID
  name : String
  email : String
  passwordHash : String
  role : String
  isActive : Bool
  monitorsCount : ℤ
  isPaidUser : Bool

/-- `user.LogInUserCmd` -/
structure LogInUserCmd where
  email : String
  password : String

/-- `user.LogInUserResult` -/
structure LogInUserResult where
  userID : UUID
  accessToken : String

/-- Run one query on accounts. -/
def accountQuery (q : AccountQuery) : AccountProg (Except DBError q.Result) :=
  Program.perform (AccountCmd.sql q)

/-- A query whose errors the repository wraps, and whose answer it converts. -/
def wrapped {α : Type} (op : String) (q : AccountQuery) (f : q.Result → α) :
    AccountProg (Except AppError α) := do
  match ← accountQuery q with
  | .ok r => pure (.ok (f r))
  | .error err => pure (.error (wrapRepoError op err))

namespace UserRepository

/-- `repository.GetUserByID`: the columns that the query does not read are left at zero, and
a user that is missing is called a monitor. -/
def getUserByID (user : UUID) : AccountProg (Except AppError User) := do
  let op := "repo.user.get_user_by_id"
  match ← accountQuery (.getUserByID user) with
  | .ok row =>
    pure (.ok ⟨row.id, row.name, row.email, row.passwordHash, "", false,
      row.monitorsCount.getD 0, false⟩)
  | .error .noRows => pure (.error ⟨.notFound, op, "Monitor not found"⟩)
  | .error err => pure (.error (wrapRepoError op err))

/-- `repository.GetUserByEmail` -/
def getUserByEmail (email : String) : DirectoryProg (Except AppError User) := do
  let op := "repo.user.get_user_by_email"
  match ← query (.getUserByEmail email) with
  | .ok row =>
    pure (.ok ⟨row.id, row.name, row.email, row.passwordHash, row.role, row.isActive, 0, false⟩)
  | .error .noRows => pure (.error ⟨.notFound, op, "User not found"⟩)
  | .error err => pure (.error (wrapRepoError op err))

/-- `repository.IsUserActive` -/
def isUserActive (user : UUID) : AccountProg (Except AppError Bool) :=
  wrapped "repo.user.is_user_active" (.getUserActiveStatus user) fun active => active

/-- `repository.SetUserActive`, which nothing calls -/
def setUserActive (user : UUID) (active : Bool) : AccountProg (Except AppError Unit) :=
  wrapped "repo.user.set_user_active" (.setUserActive user active) fun _ => ()

/-- `repository.UpdateUserName` -/
def updateUserName (user : UUID) (name : String) : AccountProg (Except AppError Unit) :=
  wrapped "repo.user.update_user_name" (.updateUserName user name) fun _ => ()

/-- `repository.GetUserPasswordHash` -/
def getUserPasswordHash (user : UUID) : AccountProg (Except AppError String) :=
  wrapped "repo.user.get_user_password_hash" (.getUserPasswordHash user) fun hash => hash

/-- `repository.UpdateUserPassword` -/
def updateUserPassword (user : UUID) (hash : String) : AccountProg (Except AppError Unit) :=
  wrapped "repo.user.update_user_password" (.updateUserPassword user hash) fun _ => ()

/-- `repository.GetUserTeams` -/
def getUserTeams (user : UUID) : AccountProg (Except AppError (List (UUID × String))) :=
  wrapped "repo.user.get_user_teams" (.listTeamsByUserID user) fun rows =>
    rows.map fun row => (row.id, row.name)

end UserRepository

namespace UserService

/-- `Service.LogIn` -/
def logIn (argon : Argon2id) (jwt : JWT) (tokenTTL : ℤ) (uuids : UUID → String)
    (data : LogInUserCmd) : AccountProg (Except AppError LogInUserResult) := do
  let op := "service.user.login"
  match ← (UserRepository.getUserByEmail data.email).embed ofDirectory with
  | .error err =>
    if err.kind = .notFound then
      pure (.error ⟨.unauthorised, op, "incorrect email or password"⟩)
    else pure (.error err)
  | .ok u =>
    if !u.isActive then
      pure (.error ⟨.unauthorised, op,
        "your account has been deactivated. Please contact the administrator."⟩)
    else
      match argon.comparePasswordAndHash data.password u.passwordHash with
      | .ok true =>
        match ← TokenService.generateAccessToken jwt tokenTTL ⟨uuids u.id, u.email, u.role, 0, 0⟩ with
        | .ok token => pure (.ok ⟨u.id, token⟩)
        | .error _ => pure (.error ⟨.internal, op, "internal server error"⟩)
      | _ => pure (.error ⟨.unauthorised, op, "incorrect email or password"⟩)

/-- `Service.GetProfile` -/
def getProfile (user : UUID) : AccountProg (Except AppError (User × List (UUID × String))) := do
  match ← UserRepository.getUserByID user with
  | .error err => pure (.error err)
  | .ok u =>
    match ← UserRepository.getUserTeams user with
    | .error err => pure (.error err)
    | .ok teams => pure (.ok (u, teams))

/-- `Service.UpdateProfile` -/
def updateProfile (user : UUID) (name : String) : AccountProg (Except AppError Unit) :=
  UserRepository.updateUserName user name

/-- `Service.ChangePassword` -/
def changePassword (argon : Argon2id) (user : UUID) (currentPw newPw : String) :
    AccountProg (Except AppError Unit) := do
  let op := "service.user.change_password"
  match ← UserRepository.getUserPasswordHash user with
  | .error err => pure (.error err)
  | .ok hash =>
    match argon.comparePasswordAndHash currentPw hash with
    | .ok true =>
      match ← (hashPassword newPw).embed ofDirectory with
      | .error _ => pure (.error ⟨.internal, op, "internal error"⟩)
      | .ok newHash => UserRepository.updateUserPassword user newHash
    | _ => pure (.error ⟨.unauthorised, op, "current password is incorrect"⟩)

/-- `Service.IsUserActive` -/
def isUserActive (user : UUID) : AccountProg (Except AppError Bool) :=
  UserRepository.isUserActive user

end UserService

/-! ## Packages to run things with -/

namespace Sample

/-- A hash that keeps the password. -/
def argon : Argon2id where
  createHash _ password := "$argon2id$" ++ password
  comparePasswordAndHash password hash := .ok (hash = "$argon2id$" ++ password)

theorem argon_matches : argon.Matches := by
  intro salt password password'
  refine congrArg Except.ok (decide_eq_decide.mpr ?_)
  have happend (s : String) : (argon.createHash salt s).toList = "$argon2id$".toList ++ s.toList :=
    String.toList_append
  show argon.createHash salt password = argon.createHash salt password' ↔ _
  rw [← String.toList_inj, happend, happend, List.append_cancel_left_eq, String.toList_inj]
  exact eq_comm

/-- What is signed for Ada, who is user 7, or for Bob. -/
def claims (user : UUID) (expiresAt : ℤ) : RequestClaims :=
  ⟨uuids.string user, if user = 7 then "ada@example.org" else "bob@example.org",
    if user = 7 then "owner" else "member", expiresAt, expiresAt - 1800⟩

/-- The user and the date, in digits. -/
def token (user : UUID) (expiresAt : ℤ) : String :=
  String.ofList (Rfc3339.digit user :: Rfc3339.pad 10 expiresAt.toNat)

/-- Tokens that can be read without a secret. -/
def jwt : JWT where
  signedString c :=
    match uuids.parse c.userID with
    | none => .error ()
    | some user =>
      if user < 10 ∧ 0 ≤ c.expiresAt ∧ c.expiresAt < 10 ^ 10 ∧ c = claims user c.expiresAt then
        .ok (token user c.expiresAt)
      else .error ()
  parseWithClaims now s :=
    match s.toList with
    | [] => none
    | d :: ds =>
      let expiresAt : ℤ := Rfc3339.value ds
      if now < Time.ofUnix expiresAt then some (claims (d.toNat - 48) expiresAt) else none

theorem jwt_lawful : jwt.Lawful := by
  have hsigned (c : RequestClaims) (t : String) (h : jwt.signedString c = .ok t) :
      ∃ user < 10, ∃ n < 10 ^ 10, c = claims user (n : ℕ) ∧ t = token user (n : ℕ) := by
    simp only [jwt] at h
    split at h
    · cases h
    · rename_i user _
      split at h
      · rename_i hc
        obtain ⟨huser, hnonneg, hlt, hclaims⟩ := hc
        refine ⟨user, huser, c.expiresAt.toNat, by omega, ?_, ?_⟩
        · rw [Int.toNat_of_nonneg hnonneg]
          exact hclaims
        · rw [Int.toNat_of_nonneg hnonneg]
          exact (Except.ok.inj h).symm
      · cases h
  constructor
  · intro c t h now
    obtain ⟨user, huser, n, hn, rfl, rfl⟩ := hsigned c t h
    have hvalue : Rfc3339.value (Rfc3339.pad 10 n) = n := Rfc3339.value_pad 10 n hn
    have hdigit : (Rfc3339.digit user).toNat - 48 = user := by
      rw [Rfc3339.toNat_digit user huser]
      omega
    simp only [jwt, token, String.toList_ofList, Int.toNat_natCast, hvalue, hdigit]
    rfl
  · intro c t h
    obtain ⟨user, huser, n, hn, rfl, rfl⟩ := hsigned c t h
    rw [token, String.toList_ofList]
    intro hspace
    have hdigits : ∀ d ∈ Rfc3339.digit user :: Rfc3339.pad 10 (n : ℤ).toNat,
        Rfc3339.isDigit d := by
      intro d hd
      obtain rfl | hd := List.mem_cons.mp hd
      · exact Rfc3339.isDigit_digit user huser
      · exact Rfc3339.isDigit_of_mem_pad d hd
    exact absurd (hdigits ' ' hspace) (by decide)

end Sample

end Sofon
