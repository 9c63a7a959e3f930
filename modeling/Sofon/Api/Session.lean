import Sofon.Api.Guarded

/-!
# From signing in to signing out

What a token is good for that `LogIn` has handed out.  For the middleware it is the name of
the user and a date: the chain behind the token runs as `session` does, which asks for nothing but
the time and whether the user is still active.  The date is that of the issue and the lifetime,
truncated to the second, so that a token may be cut short by less than a second and never lasts
too long (`expiry_le`, `lt_expiry`).

There is no signing out: nothing that a user does takes a token back.

Two things are put together in `session_of_reaches`.

* `LogIn` hands out a token only if the password was that of an active account, and the token is
  the signature of the claims of that account (`follows_logIn`).  That is about the request that
  signed the user in, in any interleaving with others.
* Of a token that has been signed the middleware makes the claims again, as the package is lawful
  (`JWT.Lawful`), and the header is taken apart into the scheme and the token, as a token has no
  blank in it (`extractBearerToken_bearer`).  What is left of the chain is `session`
  (`authenticate_signed`).  That is an equation between programs, so it holds whatever the server
  has come to by then.
-/

namespace Sofon

open Interleaving Program

variable {κ : Type}

/-- When a token expires that was issued at a time. -/
def expiry (tokenTTL : ℤ) (issuedAt : Time) : Time := Time.ofUnix (Time.unix (issuedAt + tokenTTL))

/-- A token does not outlive its lifetime. -/
theorem expiry_le (tokenTTL : ℤ) (issuedAt : Time) :
    expiry tokenTTL issuedAt ≤ issuedAt + tokenTTL := by
  unfold expiry Time.ofUnix Time.unix
  exact Int.ediv_mul_le _ (by decide)

/-- It falls short of it by less than a second. -/
theorem lt_expiry (tokenTTL : ℤ) (issuedAt : Time) :
    issuedAt + tokenTTL - 1000000000 < expiry tokenTTL issuedAt := by
  unfold expiry Time.ofUnix Time.unix
  have hlt := Int.lt_ediv_add_one_mul_self (issuedAt + tokenTTL)
    (show (0 : ℤ) < 1000000000 by decide)
  rw [Int.add_mul, one_mul] at hlt
  exact Int.sub_lt_iff.mpr hlt

/-- What is behind the middleware, for the user of a token that expires at a time. -/
def session (expiresAt : Time) (user : UUID) (next : UUID → ApiProg κ ApiResponse) :
    ApiProg κ ApiResponse := do
  let now ← Program.perform ApiCmd.now
  if now < expiresAt then
    match ← (UserService.isUserActive user).embed ofAccount with
    | .ok true => next user
    | _ => pure (.error (unauthorized "your account has been deactivated"))
  else pure (.error (unauthorized "invalid or expired token"))

/-- The header comes apart into the scheme and the token. -/
theorem extractBearerToken_bearer {token : String} (h : ' ' ∉ token.toList) :
    extractBearerToken ("Bearer " ++ token) = .ok token := by
  have hlist : ("Bearer " ++ token).toList = "Bearer".toList ++ ' ' :: token.toList := by
    rw [String.toList_append]
    rfl
  have hsplit : Text.split ' ' ("Bearer " ++ token).toList = ["Bearer".toList, token.toList] := by
    rw [hlist, Text.split, List.splitOn_append_cons_self, ← Text.split, ← Text.split,
      Text.split_eq_singleton h, Text.split_eq_singleton (by decide)]
    rfl
  have hne : "Bearer " ++ token ≠ "" := by
    intro heq
    have hnil := congrArg String.toList heq
    rw [hlist] at hnil
    cases hnil
  unfold extractBearerToken
  rw [if_neg hne, hsplit]
  dsimp only
  rw [String.ofList_toList, String.ofList_toList, if_pos rfl]

/-- **A token that has been signed opens a session**: the middleware asks for the time and for
the user, and for nothing else. -/
theorem authenticate_signed {x : Platform κ} (hjwt : x.jwt.Lawful) {claims : RequestClaims}
    {token : String} {user : UUID} (hsigned : x.jwt.signedString claims = .ok token)
    (huser : claims.userID = x.uuids.string user) (hemail : claims.email ≠ "")
    (next : UUID → ApiProg κ ApiResponse) : authenticate x ("Bearer " ++ token) next =
      session (Time.ofUnix claims.expiresAt) user next := by
  have hid : claims.userID ≠ "" := huser ▸ x.uuids.string_ne_empty user
  unfold authenticate session
  have hfields : (claims.userID = "" || claims.email = "") = false := by simp [hid, hemail]
  have hparse : x.uuids.parse claims.userID = some user := huser ▸ x.uuids.parse_string user
  rw [extractBearerToken_bearer (hjwt.no_space _ _ hsigned)]
  refine congrArg (Program.call _) (funext fun (now : Time) => ?_)
  have hparsed := hjwt.parse_signed claims token hsigned now
  change x.jwt.parseWithClaims now token = _ at hparsed
  by_cases hnow : now < Time.ofUnix claims.expiresAt
  · rw [if_pos hnow] at hparsed
    show Program.bind (Program.ret (x.jwt.parseWithClaims now token)) _ = _
    rw [hparsed]
    simp only [Program.bind, hfields, hparse, Bool.false_eq_true, if_false]
    exact (if_pos hnow).symm
  · rw [if_neg hnow] at hparsed
    show Program.bind (Program.ret (x.jwt.parseWithClaims now token)) _ = _
    rw [hparsed]
    simp only [Program.bind, if_neg hnow]

/-- **The user has signed in**: the password was that of an active account, and the token names
its user and is as old as the clock said. -/
def LoggedIn (x : Platform κ) (tr : List (ApiEvent κ)) (body : LogInRequest) (user : UUID)
    (token : String) (issuedAt : Time) : Prop :=
  ∃ row : AccountRow, Answered tr (.query (.getUserByEmail body.email)) (.ok row) ∧
    row.id = user ∧ row.email = body.email ∧ row.email ≠ "" ∧ row.isActive = true ∧
    x.argon.comparePasswordAndHash body.password row.passwordHash = .ok true ∧
    Answered tr .now issuedAt ∧
    x.jwt.signedString ⟨x.uuids.string user, row.email, row.role,
      Time.unix (issuedAt + x.tokenTTL), Time.unix issuedAt⟩ = .ok token

/-- `LogIn` hands out a token only so. -/
theorem follows_logIn (x : Platform κ) (authorization : String) (body : LogInRequest) :
    (serveHTTP x ⟨authorization, .logIn (some body)⟩).Follows
      (Protocol.history Truthful fun _ _ => True)
      (fun response tr => ∀ status message user token,
        response = .ok ⟨status, message, .loggedIn user token⟩ →
          ∃ issuedAt, LoggedIn x tr body user token issuedAt) [] := by
  unfold serveHTTP UserHandler.logIn withBody respond
  dsimp only
  split
  · rename_i hvalid
    refine ⟨trivial, fun (found : Except DBError AccountRow) hfound => ?_⟩
    rcases found with err | row
    · cases err <;> exact fun _ _ _ _ h => by cases h
    have hemail : row.email = body.email := hfound
    have hnonempty : row.email ≠ "" := by
      rw [hemail]
      unfold LogInRequest.valid validEmail at hvalid
      simp only [Bool.and_eq_true, decide_eq_true_eq] at hvalid
      exact hvalid.1.1
    show Follows _ _ (Program.embed _ ((if !row.isActive then _ else _ : AccountProg _) >>= _)) _
    split
    · exact fun _ _ _ _ h => by cases h
    · rename_i hactive
      split
      · rename_i hmatch
        refine ⟨trivial, fun (now : Time) _ => ?_⟩
        show Follows _ _ (Program.embed _ (Program.bind (Program.bind (Program.ret
          (x.jwt.signedString ⟨x.uuids.string row.id, row.email, row.role,
            Time.unix (now + x.tokenTTL), Time.unix now⟩)) _) _)) _
        cases hsigned : x.jwt.signedString ⟨x.uuids.string row.id, row.email, row.role,
          Time.unix (now + x.tokenTTL), Time.unix now⟩ with
        | error err => exact fun _ _ _ _ h => by cases h
        | ok token =>
          intro status message user token' h
          cases h
          refine ⟨now, row, Answered.here.later, rfl, hemail, hnonempty, by simpa using hactive,
            hmatch, Answered.here, hsigned⟩
      · exact fun _ _ _ _ h => by cases h
  · exact fun _ _ _ _ h => by cases h

/-- **A token of `LogIn` opens a session** for the user who has signed in, until it expires,
whatever other requests have done in between. -/
theorem session_of_reaches {x : Platform κ} (hjwt : x.jwt.Lawful) {s : Server κ}
    {reqs : List ApiRequest}
    {guard : Pool (ApiCmd κ) ApiCmd.Resp ApiResponse (Server κ) → ℕ → ApiEvent κ → Prop}
    {p : Pool (ApiCmd κ) ApiCmd.Resp ApiResponse (Server κ)}
    (h : Pool.Reaches (Server.Serves x) guard (Pool.start s (reqs.map (serveHTTP x))) p)
    {i : ℕ} {authorization message token : String} {body : LogInRequest} {status : ℕ} {user : UUID}
    {log : List (ApiEvent κ)} (hreq : reqs[i]? = some ⟨authorization, .logIn (some body)⟩)
    (hdone : p.threads[i]? = some ⟨.ret (.ok ⟨status, message, .loggedIn user token⟩), log⟩) :
    ∃ issuedAt, LoggedIn x log body user token issuedAt ∧
      ∀ next : UUID → ApiProg κ ApiResponse, authenticate x ("Bearer " ++ token) next =
        session (expiry x.tokenTTL issuedAt) user next := by
  have hlogin := follows_of_reaches h hreq (follows_logIn x authorization body) hdone
  obtain ⟨issuedAt, row, hrow, hid, hemail, hnonempty, hactive, hmatch, hnow, hsigned⟩ :=
    hlogin status message user token rfl
  exact ⟨issuedAt, ⟨row, hrow, hid, hemail, hnonempty, hactive, hmatch, hnow, hsigned⟩,
    authenticate_signed hjwt hsigned rfl hnonempty⟩

/-- Ada signs in. -/
def Sample.arrival : List ApiRequest :=
  [⟨"", .logIn (some ⟨"ada@example.org", "correct horse"⟩)⟩]

theorem session_of_reaches_sample :
    ∃ issuedAt, ∀ next : UUID → ApiProg (ℕ × ConfigMap) ApiResponse,
      authenticate Sample.platform ("Bearer " ++ Sample.token 7 1800) next =
        session (expiry 1800000000000 issuedAt) 7 next := by
  obtain ⟨shared, log, hplay⟩ : ∃ shared log,
      Pool.play (Server.serve Sample.platform) (fun _ _ _ => true)
        ([0, 0].map fun i => (i, default))
        (Pool.start Sample.server (Sample.arrival.map (serveHTTP Sample.platform))) =
      some ⟨shared, [⟨.ret (.ok ⟨200, "user registered",
        .loggedIn 7 (Sample.token 7 1800)⟩), log⟩]⟩ := ⟨_, _, rfl⟩
  obtain ⟨issuedAt, -, hnext⟩ := session_of_reaches (i := 0) Sample.jwt_lawful
    (Pool.reaches_of_play hplay) rfl rfl
  exact ⟨issuedAt, hnext⟩

end Sofon
