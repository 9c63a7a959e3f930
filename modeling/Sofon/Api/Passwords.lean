import Sofon.Api.Accounts
import Sofon.Api.Outsiders
import Sofon.Api.Session
import Sofon.Foundations.Visible

/-!
# A new password counts at once

When `ChangePassword` has answered that all went well, every later `LogIn` that lets the user in
has been sent the new password, whatever other requests did before, after and in between
(`new_password_of_reaches`).  Later is later in the run: a request that read the account before
the change may still be let in with the password of then.

* A request that says so has set a hash (`follows_changePassword`), and whatever such a request
  sets is a hash of the password in its body (`Secured.hash_of_update`).  So once its `UPDATE` has
  been answered, the account of the user has a hash of the new password
  (`Server.PasswordSet`).
* That stays so unless a command sets another (`PasswordSet.serves`).  Commands that set a hash
  come from requests of that user to change the password, and no other of the requests is one
  (`Alone`).
* So it is what every request reads that begins later (`hash_of_reaches`), and `LogIn` lets in
  only whoever has sent a password that matches the hash it has read.

A hash matches the password it was made of and no other (`Argon2id.Matches`), which is what the
package is for.  The ids of the accounts are distinct at the beginning, and so they stay.
-/

namespace Sofon

open Interleaving Program

variable {κ : Type} {x : Platform κ} {s₀ s s' : Server κ} {user : UUID} {password : String}

/-- There is an account of the user, and its hash is made of the password. -/
structure Server.PasswordSet (x : Platform κ) (s : Server κ) (user : UUID) (password : String) :
    Prop where
  exists_row : ∃ row ∈ s.directory.users, row.id = user
  hash : ∀ row ∈ s.directory.users, row.id = user →
    ∃ salt, row.passwordHash = x.argon.createHash salt password

namespace Server

/-- An update that has been answered has set the hash. -/
theorem passwordHash_of_update {hash : String}
    (hserves : Serves x s (.sql (.updateUserPassword user hash)) (.ok ()) s') :
    ∀ row ∈ s'.directory.users, row.id = user → row.passwordHash = hash := by
  obtain ⟨hr, -⟩ | ⟨now, -, hs⟩ := serves_accountSQL hserves
  · cases hr
  · have husers : s'.directory.users = s.directory.users.map fun row =>
        if row.id = user then { row with passwordHash := hash } else row :=
      congrArg (fun r : Registry => r.users) hs
    intro row hrow hid
    rw [husers] at hrow
    obtain ⟨old, -, rfl⟩ := List.mem_map.mp hrow
    split at hid
    · rename_i hold
      rw [if_pos hold]
    · rename_i hold
      exact absurd hid hold

/-- **A password stays set**, unless a command sets another. -/
theorem PasswordSet.serves {c : ApiCmd κ} {r : c.Resp} (h : s.PasswordSet x user password)
    (hkeyed : s.directory.Keyed) (hactive : ∀ user active, c ≠ .sql (.setUserActive user active))
    (hupdate : ∀ hash, c = .sql (.updateUserPassword user hash) →
      ∃ salt, hash = x.argon.createHash salt password)
    (hserves : Serves x s c r s') : s'.PasswordSet x user password := by
  have hamends := amends_of_serves hactive hserves
  obtain ⟨account, haccount, hid⟩ := h.exists_row
  refine ⟨?_, fun row' hrow' hid' => ?_⟩
  · obtain ⟨row', hrow', hidentity⟩ := hamends.stays account haccount
    exact ⟨row', hrow', (congrArg Prod.fst hidentity).trans hid⟩
  · obtain ⟨row, hrow, hidentity, hsame | rfl⟩ | ⟨rfl, -⟩ := hamends.known row' hrow'
    · rw [hsame]
      exact h.hash row hrow ((congrArg Prod.fst hidentity).symm.trans hid')
    · have hrowid : row.id = user := (congrArg Prod.fst hidentity).symm.trans hid'
      exact hupdate _ (by rw [hrowid])
    · exact h.hash row' (mem_users_of_createUser hkeyed hserves haccount hrow'
        (hid'.trans hid.symm)) hid'

end Server

/-! ## The request -/

/-- The service has set the password when it says so. -/
theorem follows_replace (argon : Argon2id) (user : UUID) (currentPw newPw : String)
    (tr : List (ApiEvent κ)) :
    ((UserService.changePassword argon user currentPw newPw).embed ofAccount).Follows
      (Protocol.history Truthful fun _ _ => True)
      (fun done tr' => ∀ u, done = .ok u → tr <+: tr' ∧
        ∃ hash, Answered tr' (.sql (.updateUserPassword user hash)) (.ok ())) tr := by
  unfold UserService.changePassword
  rw [embed_bind]
  refine (follows_grows _ tr).bind fun found tr₁ hpre => ?_
  rcases found with err | hash
  · exact fun _ h => by cases h
  dsimp only
  split
  · refine ⟨trivial, fun hashed _ => ?_⟩
    rcases hashed with err | newHash
    · exact fun _ h => by cases h
    refine ⟨trivial, fun done _ => ?_⟩
    rcases done with err | _
    · exact fun _ h => by cases h
    · exact fun _ _ => ⟨(hpre.trans (List.prefix_append _ _)).trans (List.prefix_append _ _),
        newHash, Answered.here⟩
  · exact fun _ h => by cases h

/-- **A request that changes the password has set it** when it says so. -/
theorem follows_changePassword (x : Platform κ) (authorization : String)
    (body : ChangePasswordRequest) :
    (serveHTTP x ⟨authorization, .changePassword (some body)⟩).Follows
      (Protocol.history Truthful fun _ _ => True)
      (fun response tr => ∀ reply, response = .ok reply → ∃ user hash,
        ApiRequest.SignedIn x ⟨authorization, .changePassword (some body)⟩ tr user ∧
          Answered tr (.sql (.updateUserPassword user hash)) (.ok ())) [] := by
  refine follows_authenticate ⟨authorization, .changePassword (some body)⟩
    (fun _ _ _ => trivial) (fun _ _ _ h => by cases h) fun user tr hsigned => ?_
  unfold UserHandler.changePassword withBody
  dsimp only
  split
  · split
    · exact fun _ h => by cases h
    · unfold respond
      rw [embed_bind]
      refine (follows_replace x.argon user body.currentPassword body.newPassword tr).bind
        fun done tr' hdone => ?_
      rcases done with err | u
      · exact fun _ h => by cases h
      · obtain ⟨hpre, hash, hset⟩ := hdone u rfl
        exact fun _ _ => ⟨user, hash, hsigned.mono hpre, hset⟩
  · exact fun _ h => by cases h

/-! ## The others -/

/-- No other of the requests changes the password of the user. -/
def Alone (x : Platform κ) (reqs : List ApiRequest) (i : ℕ) (user : UUID) : Prop :=
  ∀ (j : ℕ) (req : ApiRequest) (body : ChangePasswordRequest) (now : Time), j ≠ i →
    reqs[j]? = some req → req.endpoint = .changePassword (some body) → ¬ req.Names x now user

section Runs

variable {reqs : List ApiRequest} {logs : List (List (ApiEvent κ))} {i j k : ℕ}
  {req : ApiRequest} {log : List (ApiEvent κ)} {c : ApiCmd κ} {r : c.Resp}
  {authorization : String} {body : ChangePasswordRequest}

/-- Whatever is set is a hash of the new password. -/
theorem Secured.hash_of_update (h : Secured x s logs) (halone : Alone x reqs i user)
    (hi : reqs[i]? = some ⟨authorization, .changePassword (some body)⟩)
    (hk : logs[k]? = some log) (hreq : reqs[k]? = some req) (hc : Permitted x req log c) :
    ∀ hash, c = .sql (.updateUserPassword user hash) →
      ∃ salt, hash = x.argon.createHash salt body.newPassword := by
  rintro hash rfl
  obtain ⟨body', hep, ⟨⟨now, -, hnames⟩, -⟩, -, hhash⟩ := hc.changes
  by_cases hki : k = i
  · subst hki
    obtain rfl := Option.some.inj (hreq.symm.trans hi)
    obtain rfl := Option.some.inj (Endpoint.changePassword.inj hep)
    exact h.hashed log (List.mem_of_getElem? hk) _ _ hhash
  · exact absurd hnames (halone k req body' now hki hreq hep)

/-- A request that has set the password has set the new one. -/
theorem Secured.passwordSet_of_update {hash : String} (h : Secured x s logs)
    (halone : Alone x reqs i user)
    (hi : reqs[i]? = some ⟨authorization, .changePassword (some body)⟩)
    (hk : logs[k]? = some log) (hreq : reqs[k]? = some req)
    (hc : Permitted x req log (.sql (.updateUserPassword user hash)))
    (hserves : s.Serves x (.sql (.updateUserPassword user hash)) (.ok ()) s') :
    s'.PasswordSet x user body.newPassword := by
  obtain ⟨-, -, -, ⟨before, hread, -⟩, -⟩ := hc.changes
  obtain ⟨row, hrow, hid⟩ := h.read log (List.mem_of_getElem? hk) _ _ hread
  obtain ⟨row', hrow', hidentity⟩ :=
    (Server.amends_of_serves (fun _ _ hactive => by cases hactive) hserves).stays row hrow
  refine ⟨⟨row', hrow', (congrArg Prod.fst hidentity).trans hid⟩, fun row hrow hid => ?_⟩
  rw [Server.passwordHash_of_update hserves row hrow hid]
  exact h.hash_of_update halone hi hk hreq hc hash rfl

/-- An account is found with a hash of the password. -/
theorem Server.PasswordSet.found {email : String} {row : AccountRow}
    (h : s.PasswordSet x user password)
    (hserves : Server.Serves x s (.query (.getUserByEmail email)) (.ok row) s')
    (hid : row.id = user) : ∃ salt, row.passwordHash = x.argon.createHash salt password := by
  have hfound : s.directory.users.find? (·.email = email) = some row :=
    Directory.found_of_serves
      (fun now => Directory.exec_getUserByEmail now s.directory email)
      (Server.serves_query hserves)
  exact h.hash row (List.mem_of_find?_eq_some hfound) hid

variable {s : Server κ} {p p' : Pool (ApiCmd κ) ApiCmd.Resp ApiResponse (Server κ)}
  {guard : Pool (ApiCmd κ) ApiCmd.Resp ApiResponse (Server κ) → ℕ → ApiEvent κ → Prop}

/-- **Whoever begins later reads the new hash.**  The `UPDATE` has put it into the row, and nobody
but another request to change this password would take it out again. -/
theorem hash_of_reaches {hash email : String} {row : AccountRow} (hkeyed : s.directory.Keyed)
    (halone : Alone x reqs i user)
    (h : Pool.Reaches (Server.Serves x) guard (Pool.start s (reqs.map (serveHTTP x))) p)
    (h' : Pool.Reaches (Server.Serves x) guard p p')
    (hi : reqs[i]? = some ⟨authorization, .changePassword (some body)⟩)
    (hlog : (p.threads.map Thread.log)[i]? = some log)
    (hset : Answered log (.sql (.updateUserPassword user hash)) (.ok ()))
    (hlater : (p.threads.map Thread.log)[j]? = some []) {log' : List (ApiEvent κ)}
    (hlog' : (p'.threads.map Thread.log)[j]? = some log')
    (hread : Answered log' (.query (.getUserByEmail email)) (.ok row)) (hid : row.id = user) :
    ∃ salt, row.passwordHash = x.argon.createHash salt body.newPassword := by
  by_contra hother
  refine h.visible (J := Secured x)
    (Φ := fun s => s.PasswordSet x user body.newPassword)
    (W := fun e => ∃ hash, e = ⟨.sql (.updateUserPassword user hash), .ok ()⟩)
    (B := fun e => ∃ email row, e = ⟨.query (.getUserByEmail email), .ok row⟩ ∧
      row.id = user ∧ ¬ ∃ salt, row.passwordHash = x.argon.createHash salt body.newPassword)
    h' (fun _ _ _ _ => Server.truthful_of_serves) follows_requests
    (fun _ hlogs => Secured.start hkeyed hlogs) ?_ ?_ ?_ ?_ hlog hset ⟨hash, rfl⟩ hlater hlog'
    _ hread ⟨email, row, rfl, hid, hother⟩
  · rintro t logs k log c r t' hsecured hk ⟨req, hreq, hc⟩ hserves
    exact hsecured.step hk hc hserves
  · -- the password stays set
    rintro t logs k log c r t' hsecured hk ⟨req, hreq, hc⟩ hserves hset
    refine hset.serves hsecured.keyed ?_ (hsecured.hash_of_update halone hi hk hreq hc) hserves
    rintro user active rfl
    exact hc.not_setUserActive
  · -- the request sets it
    rintro t logs log c r t' hsecured hk ⟨req, hreq, hc⟩ hserves ⟨hash, heq⟩
    obtain ⟨rfl, hr⟩ := Event.mk.inj heq
    obtain rfl := eq_of_heq hr
    exact hsecured.passwordSet_of_update halone hi hk hreq hc hserves
  · -- another hash is not found
    rintro t c r t' hserves hset ⟨email, row, heq, hid, hother⟩
    obtain ⟨rfl, hr⟩ := Event.mk.inj heq
    obtain rfl := eq_of_heq hr
    exact hother (hset.found hserves hid)

/-- **A new password counts at once.**  When a request to change the password has answered that
all went well, every request to sign in that comes later and gets a token for the user has been
sent the new password. -/
theorem new_password_of_reaches (hmatches : x.argon.Matches) (hkeyed : s.directory.Keyed)
    (halone : Alone x reqs i user)
    (h : Pool.Reaches (Server.Serves x) guard (Pool.start s (reqs.map (serveHTTP x))) p)
    (hi : reqs[i]? = some ⟨authorization, .changePassword (some body)⟩)
    (huser : ∀ now user', ApiRequest.Names x ⟨authorization, .changePassword (some body)⟩ now
      user' → user' = user)
    {reply : ApiReply} (hdone : p.threads[i]? = some ⟨.ret (.ok reply), log⟩)
    (h' : Pool.Reaches (Server.Serves x) guard p p') {authorization' : String}
    {login : LogInRequest} (hj : reqs[j]? = some ⟨authorization', .logIn (some login)⟩)
    (hlater : (p.threads.map Thread.log)[j]? = some []) {status : ℕ} {message token : String}
    {log' : List (ApiEvent κ)} (hanswer : p'.threads[j]? =
      some ⟨.ret (.ok ⟨status, message, .loggedIn user token⟩), log'⟩) :
    login.password = body.newPassword := by
  -- the request has set the password of its user
  have hchanged := follows_of_reaches h hi (follows_changePassword x authorization body) hdone
  obtain ⟨user', hash, ⟨⟨now, -, hnames⟩, -⟩, hset⟩ := hchanged reply rfl
  obtain rfl := huser now user' hnames
  -- what the later request has read is the new hash
  have hlogin := follows_of_reaches (h.trans h') hj (follows_logIn x authorization' login) hanswer
  obtain ⟨issuedAt, row, hrow, hid, -, -, -, hmatch, -⟩ := hlogin status message user' token rfl
  obtain ⟨salt, hhash⟩ := hash_of_reaches hkeyed halone h h' hi (Pool.log_of_thread hdone) hset
    hlater (Pool.log_of_thread hanswer) hrow hid
  rw [hhash, hmatches] at hmatch
  exact of_decide_eq_true (Except.ok.inj hmatch)

end Runs

/-- Bob's new password. -/
def Sample.renewal : ChangePasswordRequest := ⟨"battery staple", "paper clip", "paper clip"⟩

/-- Bob signs in. -/
def Sample.bobLogIn : LogInRequest := ⟨"bob@example.org", "paper clip"⟩

/-- Bob changes his password and signs in. -/
def Sample.renewals : List ApiRequest :=
  [⟨Sample.bearer 8, .changePassword (some Sample.renewal)⟩, ⟨"", .logIn (some Sample.bobLogIn)⟩]

theorem new_password_of_reaches_sample :
    ∃ p p' : Pool (ApiCmd (ℕ × ConfigMap)) ApiCmd.Resp ApiResponse (Server (ℕ × ConfigMap)),
      (∃ log, p.threads[0]? = some ⟨.ret (.ok ⟨200, "password changed", .empty⟩), log⟩) ∧
      (∃ log, p'.threads[1]? = some ⟨.ret (.ok ⟨200, "user registered",
        .loggedIn 8 (Sample.token 8 1800)⟩), log⟩) ∧
      Sample.bobLogIn.password = Sample.renewal.newPassword := by
  obtain ⟨p, p', log, log', hplay, hchange, hlater, hplay', hlogin⟩ : ∃ p p' log log',
      Pool.play (Server.serve Sample.platform) (fun _ _ _ => true)
        ([0, 0, 0, 0, 0].map fun i => (i, default))
        (Pool.start Sample.server (Sample.renewals.map (serveHTTP Sample.platform))) = some p ∧
      p.threads[0]? = some ⟨.ret (.ok ⟨200, "password changed", .empty⟩), log⟩ ∧
      (p.threads.map Thread.log)[1]? = some [] ∧
      Pool.play (Server.serve Sample.platform) (fun _ _ _ => true)
        ([1, 1].map fun i => (i, default)) p = some p' ∧
      p'.threads[1]? = some ⟨.ret (.ok ⟨200, "user registered",
        .loggedIn 8 (Sample.token 8 1800)⟩), log'⟩ :=
    ⟨_, _, _, _, rfl, rfl, rfl, rfl, rfl⟩
  refine ⟨p, p', ⟨log, hchange⟩, ⟨log', hlogin⟩,
    new_password_of_reaches (i := 0) (j := 1) Sample.argon_matches ⟨by decide, by decide⟩
      (fun j req body now hj hreq hep => ?_) (Pool.reaches_of_play hplay) rfl
      (fun now user' hnames => Sample.names_bearer rfl hnames) hchange
      (Pool.reaches_of_play hplay') rfl hlater hlogin⟩
  obtain _ | _ | j := j
  · exact absurd rfl hj
  · obtain rfl := Option.some.inj hreq
    cases hep
  · cases hreq

end Sofon
