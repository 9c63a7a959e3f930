import Sofon.Api.Session
import Sofon.Web.Redirects

/-!
# Who sees the pages

From the form to a page with somebody's name on it, in a browser and through the server.  The
token in the browser is one that `LogIn` has handed out to one of its tabs, and the profile on a
page is the answer to a request that carried it.  So whoever is shown has given the password
here (`shown_of_runs`): not the cookie, which only the proxy looks at, decides what is seen.

* `Entered`: the form was answered with a token for a user, who has not signed out since.
* `Shown`: with such a token, a profile was asked for, in time and of an active user.

What the server answers is taken from what requests do.  A token is an answer of `LogIn`, to a
password that matches (`Requested.loggedIn`), and a profile is the answer to a request with a token,
which is the session of the user it was signed for (`Requested.profiled`).

What a tab does with it is the invariant: what is kept in a tab, and what it shows, has its reason
in the events so far (`Grounded`).  A page that is mounted takes from the request it makes, and
keeps nothing that it has no reason for (`Grounded.mount`); a page that is left takes nothing along;
signing out removes the token (`Grounded.step`).

The tabs of a browser share the token, and each has its own page.  A request of a tab is answered
before anything happens in another one.  So an event in one tab is a step of that tab, and leaves
the others their reasons (`Grounded.others`).
-/

namespace Sofon

open Interleaving Program Transition

variable {κ : Type} {x : Platform κ} {s s' : Server κ} {user : UUID} {token : String}
  {issuedAt : Time} {l l' : List (TabEvent κ)} {e : TabEvent κ} {profile : GetProfileResponse}

/-- **The user has signed in**, got the token, and has not signed out since. -/
def Entered (x : Platform κ) (l : List (TabEvent κ)) (user : UUID) (token : String)
    (issuedAt : Time) : Prop :=
  ∃ l₁ body tr answer l₂, l = l₁ ++ .submit body tr answer :: l₂ ∧
    LoggedIn x tr body user token issuedAt ∧ TabEvent.signOut ∉ l₂

/-- **The profile is that of a user who has signed in**: it was asked for with the token, before
this one expired, and the user was still active. -/
def Shown (x : Platform κ) (l : List (TabEvent κ)) (profile : GetProfileResponse) : Prop :=
  ∃ l₁ token issuedAt tr answer l₂,
    l = l₁ ++ .load (some ⟨"Bearer " ++ token, .getProfile⟩) tr answer :: l₂ ∧
      Entered x l₁ profile.id token issuedAt ∧
      (∃ now, Answered tr .now now ∧ now < expiry x.tokenTTL issuedAt) ∧
      Answered tr (.sql (.getUserActiveStatus profile.id)) (.ok true)

theorem Entered.later (h : Entered x l user token issuedAt) (he : e ≠ .signOut) :
    Entered x (l ++ [e]) user token issuedAt := by
  obtain ⟨l₁, body, tr, answer, l₂, rfl, hlogin, hstay⟩ := h
  refine ⟨l₁, body, tr, answer, l₂ ++ [e], by simp, hlogin, fun hmem => ?_⟩
  obtain hmem | hmem := List.mem_append.mp hmem
  · exact hstay hmem
  · exact he (List.mem_singleton.mp hmem).symm

theorem Shown.later (h : Shown x l profile) (e : TabEvent κ) : Shown x (l ++ [e]) profile := by
  obtain ⟨l₁, token, issuedAt, tr, answer, l₂, rfl, hrest⟩ := h
  exact ⟨l₁, token, issuedAt, tr, answer, l₂ ++ [e], by simp, hrest⟩

/-! ## What the server answers -/

/-- A row of `GetUserByID` is that of the user. -/
def Named : ApiEvent κ → Prop
  | ⟨.account (.sql (.getUserByID user)), .ok row⟩ => row.id = user
  | _ => True

theorem named_of_busy {c : ApiCmd κ} {r : c.Resp} (h : Server.Busy x s c r s') :
    Named ⟨c, r⟩ := by
  obtain ⟨t, -, hserves⟩ := h
  unfold Named
  split
  · rename_i user row heq
    obtain ⟨rfl, hr⟩ := Event.mk.inj heq
    obtain rfl := eq_of_heq hr
    obtain ⟨hr, -⟩ | ⟨now, hr | hr, -⟩ := Server.serves_accountSQL hserves
    · cases hr
    · simp only [Registry.exec] at hr
      split at hr
      · rename_i account haccount
        rw [Except.ok.inj hr]
        have hid := List.find?_some haccount
        exact of_decide_eq_true hid
      · cases hr
    · cases hr
  · trivial

/-- The form: a token is an answer of `LogIn`. -/
theorem loggedIn_of_accessTokenOf {answer : Option ApiResponse}
    (h : accessTokenOf answer = some token) :
    ∃ status message user, answer = some (.ok ⟨status, message, .loggedIn user token⟩) := by
  unfold accessTokenOf at h
  split at h
  · rename_i user accessToken hdata
    obtain rfl := Option.some.inj h
    unfold succeeded at hdata
    split at hdata
    · rename_i reply
      split at hdata
      · obtain ⟨status, message, data⟩ := reply
        obtain rfl := Option.some.inj hdata
        exact ⟨status, message, user, rfl⟩
      · cases hdata
    · cases hdata
  · cases h

/-- **The form is answered with a token** for a user whose password it has been sent. -/
theorem Requested.loggedIn {authorization : String} {body : LogInRequest}
    {tr : List (ApiEvent κ)} {answer : Option ApiResponse}
    (h : Requested x s (some ⟨authorization, .logIn (some body)⟩) tr answer s')
    (htoken : accessTokenOf answer = some token) :
    ∃ user issuedAt, LoggedIn x tr body user token issuedAt := by
  obtain ⟨status, message, user, rfl⟩ := loggedIn_of_accessTokenOf htoken
  cases h with
  | answered h =>
    have hlogin := (h.follows (I := fun _ _ => True) (follows_logIn x authorization body)
      (fun _ _ _ _ _ _ _ hbusy => ⟨Server.truthful_of_serves hbusy.choose_spec.2, trivial⟩)
      trivial).1
    have hstate := Protocol.state_history (C := ApiCmd κ) Truthful (fun _ _ => True) tr
    unfold Protocol.state at hstate
    exact ⟨user, (hstate ▸ hlogin) status message user token rfl⟩

/-- A session answers with the profile of its user, in time. -/
theorem follows_session (expiresAt : Time) (user : UUID) :
    (session expiresAt user fun user =>
        (UserHandler.getProfile user).embed (ofAccount (κ := κ))).Follows
      (Protocol.history Named fun _ _ => True)
      (fun response tr => ∀ profile, profileOf (some response) = some profile →
        profile.id = user ∧ (∃ now, Answered tr .now now ∧ now < expiresAt) ∧
          Answered tr (.sql (.getUserActiveStatus user)) (.ok true)) [] := by
  unfold session
  refine ⟨trivial, fun (now : Time) _ => ?_⟩
  show Follows _ _ (if now < expiresAt then _ else _) _
  split
  · rename_i hnow
    refine ⟨trivial, fun (active : Except DBError Bool) _ => ?_⟩
    rcases active with err | _ | _
    · exact fun _ h => by cases h
    · exact fun _ h => by cases h
    refine ⟨trivial, fun (found : Except DBError ProfileRow) hfound => ?_⟩
    rcases found with err | row
    · cases err <;> exact fun _ h => by cases h
    refine ⟨trivial, fun (teams : Except DBError (List Team)) _ => ?_⟩
    rcases teams with err | teams
    · exact fun _ h => by cases h
    intro profile hprofile
    obtain rfl := Option.some.inj hprofile
    exact ⟨hfound, ⟨now, Answered.here.later.later.later, hnow⟩, Answered.here.later.later⟩
  · exact fun _ h => by cases h

/-- **A profile is an answer to a token**, if the tab has got this one from `LogIn`. -/
theorem Requested.profiled (hjwt : x.jwt.Lawful) {tab : Tab} {tr : List (ApiEvent κ)}
    {answer : Option ApiResponse}
    (hstored : ∀ token, tab.localStorage = some token →
      ∃ user issuedAt, Entered x l user token issuedAt)
    (h : Requested x s (some ⟨tab.authorization, .getProfile⟩) tr answer s')
    (hprofile : profileOf answer = some profile) :
    ∃ token issuedAt, tab.authorization = "Bearer " ++ token ∧
      Entered x l profile.id token issuedAt ∧
      (∃ now, Answered tr .now now ∧ now < expiry x.tokenTTL issuedAt) ∧
      Answered tr (.sql (.getUserActiveStatus profile.id)) (.ok true) := by
  cases h with
  | lost => cases hprofile
  | @answered _ _ response _ h =>
    by_cases hnone : tab.authorization = ""
    · -- without a token the middleware says no
      rw [hnone] at h
      obtain ⟨-, rfl, -⟩ := exec_ret_iff.mp h
      cases hprofile
    · obtain ⟨token, htoken, hheader⟩ : ∃ token, tab.localStorage = some token ∧
          tab.authorization = "Bearer " ++ token := by
        unfold Tab.authorization at hnone ⊢
        cases hstorage : tab.localStorage with
        | none =>
          rw [hstorage] at hnone
          exact absurd rfl hnone
        | some token =>
          rw [hstorage] at hnone
          dsimp only at hnone ⊢
          split at hnone
          · exact absurd rfl hnone
          · rename_i htoken
            exact ⟨token, rfl, if_neg htoken⟩
      obtain ⟨user, issuedAt, hentered⟩ := hstored token htoken
      obtain ⟨-, body, log, -, -, -, hlogin, -⟩ := id hentered
      obtain ⟨row, -, -, -, hnonempty, -, -, -, hsigned⟩ := hlogin
      rw [hheader] at h
      have hserve : serveHTTP x ⟨"Bearer " ++ token, .getProfile⟩ =
          session (expiry x.tokenTTL issuedAt) user fun user =>
            (UserHandler.getProfile user).embed ofAccount :=
        authenticate_signed hjwt hsigned rfl hnonempty _
      rw [hserve] at h
      have hanswer := (h.follows (I := fun _ _ => True) (follows_session _ user)
        (fun _ _ _ _ _ _ _ hbusy => ⟨named_of_busy hbusy, trivial⟩) trivial).1
      have hstate := Protocol.state_history (C := ApiCmd κ) Named (fun _ _ => True) tr
      unfold Protocol.state at hstate
      obtain ⟨rfl, hnow, hactive⟩ := (hstate ▸ hanswer) profile hprofile
      exact ⟨token, issuedAt, hheader, hentered, hnow, hactive⟩

/-! ## What the tab does with it -/

/-- What is kept in a tab, and what is shown, has its reason in the events so far. -/
structure Grounded (x : Platform κ) (l : List (TabEvent κ)) (tab : Tab) : Prop where
  stored : ∀ token, tab.localStorage = some token →
    ∃ user issuedAt, Entered x l user token issuedAt
  guard : ∀ profile, tab.guard = some profile → Shown x l profile
  screen : ∀ profile, tab.screen = some (.main profile) → Shown x l profile

/-- An event that leaves of the tab what it had, or less. -/
theorem Grounded.later {tab tab' : Tab} (h : Grounded x l tab) (he : e ≠ .signOut)
    (hstored : tab'.localStorage = none ∨ tab'.localStorage = tab.localStorage)
    (hguard : tab'.guard = none ∨ tab'.guard = tab.guard)
    (hscreen : tab'.screen = none ∨ tab'.screen = tab.screen) : Grounded x (l ++ [e]) tab' := by
  refine ⟨fun token htoken => ?_, fun profile hprofile => ?_, fun profile hprofile => ?_⟩
  · obtain hnone | hsame := hstored
    · cases hnone.symm.trans htoken
    · obtain ⟨user, issuedAt, hentered⟩ := h.stored token (hsame ▸ htoken)
      exact ⟨user, issuedAt, hentered.later he⟩
  · obtain hnone | hsame := hguard
    · cases hnone.symm.trans hprofile
    · exact (h.guard profile (hsame ▸ hprofile)).later e
  · obtain hnone | hsame := hscreen
    · cases hnone.symm.trans hprofile
    · exact (h.screen profile (hsame ▸ hprofile)).later e

variable {router : AppRouter} {v v' : Visitor κ}

/-- **A page is mounted**: what is new in the tab is the profile that it has been answered. -/
theorem Grounded.mount (hjwt : x.jwt.Lawful) {tab tab' : Tab} {request : Option ApiRequest}
    {tr : List (ApiEvent κ)} {answer : Option ApiResponse} (h : Grounded x l tab)
    (hrequested : Requested x s request tr answer s')
    (hloaded : Loaded router tab answer request tab') :
    Grounded x (l ++ [.load request tr answer]) tab' := by
  have hstays : TabEvent.load request tr answer ≠ .signOut := fun he => by cases he
  cases hloaded with
  | sent hsent =>
    cases hsent with
    | proxied | setup | uninvited => exact h.later hstays (Or.inr rfl) (Or.inr rfl) (Or.inl rfl)
    | unknown => exact h.later hstays (Or.inl rfl) (Or.inr rfl) (Or.inl rfl)
  | displayed screen hscreen =>
    refine ⟨(h.later hstays (Or.inr rfl) (Or.inr rfl) (Or.inr rfl)).stored,
      fun profile hprofile => ?_, fun profile hprofile => ?_⟩
    · cases hprofile
    · exact absurd (Option.some.inj hprofile) (hscreen profile)
  | @guarded profile hguard =>
    have hsame : Grounded x (l ++ [.load none tr answer]) tab :=
      h.later hstays (Or.inr rfl) (Or.inr rfl) (Or.inr rfl)
    refine ⟨hsame.stored, hsame.guard, fun shown hshown => ?_⟩
    obtain ⟨⟩ := hshown
    exact hsame.guard profile hguard
  | @profiled profile hprofile =>
    obtain ⟨token, issuedAt, hheader, hentered, hnow, hactive⟩ :=
      hrequested.profiled hjwt h.stored hprofile
    have hshown : Shown x (l ++ [.load (some ⟨tab.authorization, .getProfile⟩) tr answer])
        profile :=
      ⟨l, token, issuedAt, tr, answer, [], by rw [hheader], hentered, hnow, hactive⟩
    refine ⟨(h.later hstays (Or.inr rfl) (Or.inr rfl) (Or.inr rfl)).stored,
      fun other hother => ?_, fun other hother => ?_⟩
    · obtain ⟨⟩ := hother
      exact hshown
    · obtain ⟨⟩ := hother
      exact hshown

/-- A page that is left takes nothing along. -/
theorem Grounded.requireTeam {tab : Tab} (h : Grounded x l tab) (router : AppRouter) :
    Grounded x l (tab.requireTeam router) := by
  obtain hsame | ⟨-, hleft⟩ := tab.requireTeam_cases router
  · rw [hsame]
    exact h
  · rw [hleft]
    exact ⟨h.stored, h.guard, fun profile hnone => by cases hnone⟩

/-- **One step.**  A token is set by an answer to the form only, a profile by an answer to a request
with the token at hand, and a step that does neither leaves what grounds they have. -/
theorem Grounded.step (hjwt : x.jwt.Lawful) (h : Grounded x l v.tab)
    (hstep : TabStep x router v e v') : Grounded x (l ++ [e]) v'.tab := by
  cases hstep with
  | visit tab s pathname link =>
    cases link with
    | true =>
      exact h.later (fun he => by cases he) (Or.inr rfl) (Or.inr rfl) (Or.inl rfl)
    | false => exact h.later (fun he => by cases he) (Or.inr rfl) (Or.inl rfl) (Or.inl rfl)
  | @load tab s s' tr answer cached hloading hrequested =>
    exact (h.mount hjwt hrequested Tab.loaded_mount).requireTeam router
  | @submit tab s s' body tr answer hscreen hrequested =>
    unfold Tab.submit
    cases htoken : accessTokenOf answer with
    | none => exact h.later (fun he => by cases he) (Or.inr rfl) (Or.inr rfl) (Or.inr rfl)
    | some accessToken =>
      refine ⟨fun token hstored => ?_, fun profile hprofile => (h.guard profile hprofile).later _,
        fun profile hprofile => by cases hprofile⟩
      obtain rfl := Option.some.inj hstored
      obtain ⟨user, issuedAt, hlogin⟩ := hrequested.loggedIn htoken
      exact ⟨user, issuedAt, l, body, tr, answer, [], rfl, hlogin, List.not_mem_nil⟩
  | signOut s hscreen =>
    refine ⟨fun token hnone => ?_, fun profile hprofile => (h.guard profile hprofile).later _,
      fun profile hnone => ?_⟩
    · cases hnone
    · cases hnone
  | @ask tab s s' own endpoint tr answer hscreen hown hrequested =>
    obtain ⟨hasTeam, hform | ⟨-, hleft⟩ | hstays⟩ := tab.receive_cases router endpoint answer
    · rw [hform]
      exact h.later (fun he => by cases he) (Or.inl rfl) (Or.inl rfl) (Or.inl rfl)
    · rw [hleft]
      exact h.later (fun he => by cases he) (Or.inr rfl) (Or.inr rfl) (Or.inl rfl)
    · rw [hstays]
      exact h.later (fun he => by cases he) (Or.inr rfl) (Or.inr rfl) (Or.inr rfl)
  | forget tab s cookie localStorage =>
    refine h.later (fun he => by cases he) ?_ (Or.inr rfl) (Or.inr rfl)
    cases localStorage with
    | true => exact Or.inl rfl
    | false => exact Or.inr rfl
  | others => exact h.later (fun he => by cases he) (Or.inr rfl) (Or.inr rfl) (Or.inr rfl)

/-! ## All tabs of a browser -/

/-- What a tab has to itself. -/
structure TabView where
  pathname : String
  guard : Option GetProfileResponse
  hasTeam : Bool
  screen : Option Screen

/-- A browser: its tabs share the token. -/
structure Browser where
  cookie : Option String
  localStorage : Option String
  views : ℕ → TabView

namespace Browser

/-- A tab. -/
def tab (b : Browser) (i : ℕ) : Tab :=
  ⟨(b.views i).pathname, b.cookie, b.localStorage, (b.views i).guard, (b.views i).hasTeam,
    (b.views i).screen⟩

/-- The browser after something has happened in a tab. -/
def setTab (b : Browser) (i : ℕ) (tab : Tab) : Browser :=
  ⟨tab.cookie, tab.localStorage,
    Function.update b.views i ⟨tab.pathname, tab.guard, tab.hasTeam, tab.screen⟩⟩

theorem tab_setTab_self (b : Browser) (i : ℕ) (tab : Tab) : (b.setTab i tab).tab i = tab := by
  have hview : (b.setTab i tab).views i = ⟨tab.pathname, tab.guard, tab.hasTeam, tab.screen⟩ :=
    Function.update_self ..
  unfold Browser.tab
  rw [hview]
  rfl

theorem views_setTab_of_ne (b : Browser) {i j : ℕ} (tab : Tab) (h : j ≠ i) :
    (b.setTab i tab).views j = b.views j := Function.update_of_ne h _ _

end Browser

/-- Something happens in one of the tabs, with its request answered before anything happens in
another. -/
inductive BrowserStep (x : Platform κ) (router : AppRouter) :
    Browser × Server κ → ℕ × TabEvent κ → Browser × Server κ → Prop
  | mk {b : Browser} {s s' : Server κ} {i : ℕ} {e : TabEvent κ} {tab' : Tab}
      (h : TabStep x router ⟨b.tab i, s⟩ e ⟨tab', s'⟩) :
      BrowserStep x router (b, s) (i, e) (b.setTab i tab', s')

/-- What happens in one tab leaves the others their reasons. -/
theorem Grounded.others {b : Browser} {i j : ℕ} {tab' : Tab} (hj : j ≠ i)
    (h : Grounded x l (b.tab j)) (h' : Grounded x (l ++ [e]) tab') :
    Grounded x (l ++ [e]) ((b.setTab i tab').tab j) := by
  have hview := b.views_setTab_of_ne tab' hj
  refine ⟨h'.stored, fun profile hprofile => ?_, fun profile hprofile => ?_⟩
  · change ((b.setTab i tab').views j).guard = some profile at hprofile
    rw [hview] at hprofile
    exact (h.guard profile hprofile).later e
  · change ((b.setTab i tab').views j).screen = some (.main profile) at hprofile
    rw [hview] at hprofile
    exact (h.screen profile hprofile).later e

/-- **Whoever is shown has signed in here.**  In a browser that starts without a token, the
pages of the main layout are seen only with the profile of a user who has given the password in
one of its tabs, got a token for it, and for whom the profile was asked for with that token
without a sign-out in between, before it expired and while the user was still active. -/
theorem shown_of_runs (hjwt : x.jwt.Lawful) {b b' : Browser}
    {events : List (ℕ × TabEvent κ)} (h : Runs (BrowserStep x router) (b, s) events (b', s'))
    (hstored : b.localStorage = none) (hguard : ∀ i, (b.views i).guard = none)
    (hscreen : ∀ i, (b.views i).screen = none) {i : ℕ}
    (hmain : (b'.views i).screen = some (.main profile)) :
    Shown x (events.map Prod.snd) profile := by
  have hgrounded : ∀ i, Grounded x (events.map Prod.snd) (b'.tab i) := by
    refine h.induction (I := fun events v => ∀ i, Grounded x (events.map Prod.snd) (v.1.tab i))
      (fun i => ⟨?_, ?_, ?_⟩) ?_
    · exact fun token htoken => by cases hstored.symm.trans htoken
    · exact fun profile hprofile => by cases (hguard i).symm.trans hprofile
    · exact fun profile hprofile => by cases (hscreen i).symm.trans hprofile
    · intro events v₁ e v₂ _ hgrounded hstep j
      obtain @⟨b₁, s₁, s₂, i, e, tab', htab⟩ := hstep
      rw [List.map_append]
      have hhere := (hgrounded i).step hjwt htab
      by_cases hj : j = i
      · subst hj
        rw [Browser.tab_setTab_self]
        exact hhere
      · exact (hgrounded j).others hj hhere
  exact (hgrounded i).screen profile hmain

/-- A request that nobody gets in the way of. -/
theorem Requested.of_run {req : ApiRequest} {tr : List (ApiEvent κ)} {response : ApiResponse}
    (h : Program.run (Server.serve x) [] (serveHTTP x req) s = (tr, response, s')) :
    Requested x s (some req) tr (some response) s' := by
  have hexec := exec_run (Server.serve x) [] (serveHTTP x req) s
  rw [h] at hexec
  exact .answered (hexec.restrict (J := fun _ => True)
    (fun s _ _ _ _ hserves => ⟨⟨s, Relation.ReflTransGen.refl, hserves⟩, trivial⟩) trivial)

/-- Ada has a browser with the form in every tab. -/
def Sample.browser : Browser := ⟨none, none, fun _ => ⟨"/signin", none, false, none⟩⟩

/-- She fills the form in. -/
theorem shown_of_runs_sample : ∃ events b' s' teams,
    Runs (BrowserStep Sample.platform Sample.appRouter) (Sample.browser, Sample.server) events
      (b', s') ∧
    (b'.views 1).screen = some (.main (Sample.herself teams)) ∧
      Shown Sample.platform (events.map Prod.snd) (Sample.herself teams) := by
  obtain ⟨tr, s₁, tr', s₂, teams, hlogin, hprofile⟩ : ∃ tr s₁ tr' s₂ teams,
      Program.run (Server.serve Sample.platform) [] (serveHTTP Sample.platform
        ⟨"", .logIn (some ⟨"ada@example.org", "correct horse"⟩)⟩) Sample.server =
        (tr, .ok ⟨200, "user registered", .loggedIn 7 (Sample.token 7 1800)⟩, s₁) ∧
      Program.run (Server.serve Sample.platform) [] (serveHTTP Sample.platform
        ⟨"Bearer " ++ Sample.token 7 1800, .getProfile⟩) s₁ =
        (tr', .ok ⟨200, "profile retrieved", .profile (Sample.herself teams)⟩, s₂) :=
    ⟨_, _, _, _, _, rfl, rfl⟩
  have hform : TabStep Sample.platform Sample.appRouter
      ⟨Sample.browser.tab 1, Sample.server⟩ (.load (some ⟨"", .setupStatus⟩) [] none)
      ⟨⟨"/signin", none, none, none, false, some .signInForm⟩, Sample.server⟩ :=
    .load false rfl (.lost Relation.ReflTransGen.refl)
  have hsubmit : TabStep Sample.platform Sample.appRouter
      ⟨⟨"/signin", none, none, none, false, some .signInForm⟩, Sample.server⟩ _ ⟨_, s₁⟩ :=
    .submit rfl (Requested.of_run hlogin)
  have hmonitors : TabStep Sample.platform Sample.appRouter
      ⟨⟨"/monitors", some (Sample.token 7 1800), some (Sample.token 7 1800), none, false, none⟩, s₁⟩
      (.load (some ⟨"Bearer " ++ Sample.token 7 1800, .getProfile⟩) tr'
        (some (.ok ⟨200, "profile retrieved", .profile (Sample.herself teams)⟩)))
      ⟨⟨"/monitors", some (Sample.token 7 1800), some (Sample.token 7 1800),
        some (Sample.herself teams), !teams.isEmpty, some (.main (Sample.herself teams))⟩, s₂⟩ :=
    .load false rfl (Requested.of_run hprofile)
  have hruns := ((Runs.nil.snoc (BrowserStep.mk hform)).snoc (BrowserStep.mk (i := 1)
    (b := Sample.browser.setTab 1 ⟨"/signin", none, none, none, false, some .signInForm⟩)
    hsubmit)).snoc (BrowserStep.mk (i := 1) hmonitors)
  exact ⟨_, _, _, teams, hruns, rfl,
    shown_of_runs Sample.jwt_lawful hruns rfl (fun _ => rfl) (fun _ => rfl) (i := 1) rfl⟩

end Sofon
