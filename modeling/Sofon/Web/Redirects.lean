import Sofon.Web.Tab

/-!
# A tab comes to rest

A tab that nobody touches is sent from page to page: by the proxy, by pages of the web server,
by `AuthGuard`, by the page for a new monitor, and by the interceptor, when a page is refused
what it asks for of its own accord.  That comes to an end (`redirects_settle`): the tab is sent
on at most three times, and once more for each change of the answer on registration.  Once there
is an account the answer does not change any more (`Requested.registration_closed`), so three is
the bound then.

The answer before the first counts as "closed", so a first answer "open" is a change.  It has to
be: from the home page, with registration open and a cookie that is of no use, a tab goes to the
form for a new account, to the monitors, to the form to sign in and back to that for a new
account, which makes four.

The argument is about what a tab can have behind it at a place.  Only three paths are ever sent
to, so apart from where it began, a tab is at one of them, and `Position` bounds for each how
often it has been sent on.

1. At `/monitors` it has been sent on twice at most.  Only the proxy sends there from a form, for
   a tab with a cookie, and in this state a form is the first page it has been sent to; or it has
   left the page for a new monitor, where it must have begun.
2. From `/monitors` a tab is sent to `/signin` and has no cookie then.  Without a cookie the proxy
   sends nobody away from a form, and nobody sets a cookie while nothing is done.
3. So it goes to and fro between `/signin` and `/register`, each of which sends it on by one of
   the answers on registration and keeps it by the other.  Each redirect from there on takes
   another answer than the one before (`Position.told`, `Position.setup`).

`Loaded` and `Passed` list what may come of loading a page, `Tab.receive_cases` what may come of
an answer, and `Sent` the ways in which the tab is sent on.  A step of the run is a case of these,
and keeps `Position` (`Redirected.load`, `Redirected.receive`).
-/

namespace Sofon

open Interleaving Program Transition

/-! ## Changes in a list -/

/-- How often a list changes, after it has been `b`. -/
def changes (b : Bool) : List Bool → ℕ
  | [] => 0
  | a :: l => (if a = b then 0 else 1) + changes a l

theorem changes_concat (a b : Bool) (l : List Bool) :
    changes b (l ++ [a]) = changes b l + if a = l.getLastD b then 0 else 1 := by
  induction l generalizing b with
  | nil => rw [List.nil_append, changes, changes, changes, List.getLastD_nil, Nat.add_comm]
  | cons c l ih => rw [List.cons_append, changes, ih, changes, List.getLastD_cons, Nat.add_assoc]

/-- A list that ends otherwise has changed. -/
theorem changes_pos {b : Bool} {l : List Bool} (h : l.getLastD b ≠ b) : 0 < changes b l := by
  induction l generalizing b with
  | nil => exact absurd List.getLastD_nil h
  | cons c l ih =>
    rw [List.getLastD_cons] at h
    rw [changes]
    split
    · rename_i hc
      subst hc
      exact Nat.add_pos_right _ (ih h)
    · exact Nat.add_pos_left Nat.one_pos _

/-- The proxy sends nobody but visitors without a token to the form, and visitors with one to
the monitors. -/
theorem proxy_cases {pathname path : String} {cookie : Option String}
    (h : proxy pathname cookie = some path) :
    (path = "/signin" ∧ isAuthed cookie = false) ∨
      (path = "/monitors" ∧ isAuthed cookie = true) := by
  unfold proxy at h
  split at h
  · cases h
  · split at h
    · rename_i hprivate
      simp only [Bool.and_eq_true, Bool.not_eq_true'] at hprivate
      exact Or.inl ⟨(Option.some.inj h).symm, hprivate.1⟩
    · split at h
      · rename_i hauth
        exact Or.inr ⟨(Option.some.inj h).symm, ((Bool.and_eq_true _ _).mp hauth).1⟩
      · cases h

/-- A form is for visitors without a token. -/
theorem proxy_form {pathname : String} {cookie : Option String}
    (hpath : pathname = "/signin" ∨ pathname = "/register") :
    proxy pathname cookie = if isAuthed cookie then some "/monitors" else none := by
  have hmatches : proxyMatches pathname = true := by rcases hpath with rfl | rfl <;> decide
  have hprivate : privatePrefixes.any (startsWith pathname) = false := by
    rcases hpath with rfl | rfl <;> decide
  have hauth : authPrefixes.any (startsWith pathname) = true := by
    rcases hpath with rfl | rfl <;> decide
  unfold proxy
  rw [hmatches, hprivate, hauth]
  cases isAuthed cookie <;> rfl

theorem proxy_monitors {cookie : Option String} :
    proxy "/monitors" cookie = if isAuthed cookie then none else some "/signin" := by
  have hmatches : proxyMatches "/monitors" = true := by decide
  have hprivate : privatePrefixes.any (startsWith "/monitors") = true := by decide
  have hauth : authPrefixes.any (startsWith "/monitors") = false := by decide
  unfold proxy
  rw [hmatches, hprivate, hauth]
  cases isAuthed cookie <;> rfl

/-- The page where the answer on registration leads to. -/
def setupPath (answer : Option ApiResponse) : String :=
  if registrationsEnabled answer then "/register" else "/signin"

/-- **The ways in which a tab is sent on**, with what it has asked for. -/
inductive Sent (router : AppRouter) (tab : Tab) (answer : Option ApiResponse) :
    Option ApiRequest → Tab → Prop
  | proxied {path : String} (h : proxy tab.pathname tab.cookie = some path) :
      Sent router tab answer none (tab.goTo path)
  | setup (hproxy : proxy tab.pathname tab.cookie = none)
      (hmain : (router.page tab.pathname).guarded = false)
      (hsignin : router.page tab.pathname = .signIn → registrationsEnabled answer = true)
      (hregister : router.page tab.pathname = .register → registrationsEnabled answer = false) :
      Sent router tab answer (some ⟨"", .setupStatus⟩) (tab.goTo (setupPath answer))
  | uninvited {token : String} (h : router.page tab.pathname = .invite token) :
      Sent router tab answer (some ⟨"", .getInvitationByToken token⟩) (tab.goTo "/signin")
  | unknown (h : (router.page tab.pathname).guarded = true) :
      Sent router tab answer (some ⟨tab.authorization, .getProfile⟩)
        (tab.clearToken.goTo "/signin")

/-- **What comes of mounting a page.** -/
inductive Loaded (router : AppRouter) (tab : Tab) (answer : Option ApiResponse) :
    Option ApiRequest → Tab → Prop
  | sent {request : Option ApiRequest} {tab' : Tab} (h : Sent router tab answer request tab') :
      Loaded router tab answer request tab'
  | displayed {request : Option ApiRequest} (screen : Screen) (h : ∀ p, screen ≠ .main p) :
      Loaded router tab answer request (tab.display screen)
  | guarded {profile : GetProfileResponse} (h : tab.guard = some profile) :
      Loaded router tab answer none { tab with screen := some (.main profile) }
  | profiled {profile : GetProfileResponse} (h : profileOf answer = some profile) :
      Loaded router tab answer (some ⟨tab.authorization, .getProfile⟩) (tab.seed profile)

namespace Tab

variable {router : AppRouter} {cached : Bool} {answer : Option ApiResponse} {tab : Tab}

/-- A page at hand is shown for the profile there is. -/
theorem guard_of_atHand {profile : GetProfileResponse}
    (h : tab.atHand router cached = some profile) : tab.guard = some profile := by
  unfold atHand at h
  split at h
  · exact h
  · cases h

/-- A page of the main layout that is not at hand. -/
theorem loaded_guarded (hguarded : (router.page tab.pathname).guarded = true) :
    Loaded router tab answer
      (if tab.guard.isSome then none else some ⟨tab.authorization, .getProfile⟩)
      (match tab.guard with
        | some profile => { tab with screen := some (.main profile) }
        | none =>
          match profileOf answer with
          | some profile => tab.seed profile
          | none => tab.clearToken.goTo "/signin") := by
  cases hguard : tab.guard with
  | some profile =>
    have hloaded : Loaded router tab answer none { tab with screen := some (.main profile) } :=
      .guarded hguard
    rw [hguard] at hloaded
    exact hloaded
  | none =>
    dsimp only
    cases hprofile : profileOf answer with
    | some profile => exact .profiled hprofile
    | none => exact .sent (.unknown hguarded)

/-- A page that the proxy lets through and that is not at hand. -/
theorem loaded_page (hhand : tab.atHand router cached = none)
    (hproxy : proxy tab.pathname tab.cookie = none) :
    Loaded router tab answer (tab.asks router cached) (tab.mount router cached answer) := by
  unfold mount asks
  rw [hhand, hproxy, if_neg (by simp)]
  dsimp only
  cases hpage : router.page tab.pathname with
  | home =>
    exact .sent (.setup hproxy (by rw [hpage]; rfl) (by simp [hpage]) (by simp [hpage]))
  | signIn =>
    dsimp only
    split
    · rename_i henabled
      have hpath : setupPath answer = "/register" := if_pos henabled
      rw [← hpath]
      exact .sent (.setup hproxy (by rw [hpage]; rfl) (fun _ => henabled) (by simp [hpage]))
    · exact .displayed _ fun p hp => by cases hp
  | register =>
    dsimp only
    split
    · exact .displayed _ fun p hp => by cases hp
    · rename_i henabled
      have hpath : setupPath answer = "/signin" := if_neg henabled
      rw [← hpath]
      exact .sent (.setup hproxy (by rw [hpage]; rfl) (by simp [hpage])
        fun _ => Bool.eq_false_iff.mpr henabled)
  | invite token =>
    dsimp only
    split
    · exact .displayed _ fun p hp => by cases hp
    · exact .sent (.uninvited hpage)
  | main | newMonitor => exact loaded_guarded (by rw [hpage]; rfl)
  | other => exact .displayed _ fun p hp => by cases hp

/-- **Mounting a page**: the router has it, or the proxy has its say, or the page itself. -/
theorem loaded_mount :
    Loaded router tab answer (tab.asks router cached) (tab.mount router cached answer) := by
  cases hhand : tab.atHand router cached with
  | some profile =>
    unfold mount asks
    rw [hhand]
    exact .guarded (guard_of_atHand hhand)
  | none =>
    cases hproxy : proxy tab.pathname tab.cookie with
    | some path =>
      unfold mount asks
      rw [hhand, hproxy]
      exact .sent (.proxied hproxy)
    | none => exact loaded_page hhand hproxy

/-- The page for a new monitor is left, or nothing happens. -/
theorem requireTeam_cases (router : AppRouter) (tab : Tab) : tab.requireTeam router = tab ∨
    router.page tab.pathname = .newMonitor ∧ tab.requireTeam router = tab.goTo "/monitors" := by
  unfold requireTeam
  split
  · rename_i hleave
    exact Or.inr ⟨of_decide_eq_true (Bool.and_eq_true_iff.mp hleave).1, rfl⟩
  · exact Or.inl rfl

/-- No page is left that the tab is not on. -/
theorem requireTeam_of_ne (h : router.page tab.pathname ≠ .newMonitor) :
    tab.requireTeam router = tab := by
  obtain hsame | ⟨hpage, -⟩ := tab.requireTeam_cases router
  · exact hsame
  · exact absurd hpage h

end Tab

/-- A tab that is sent on has nothing to show, and the page for a new monitor is not where it is
sent. -/
theorem Sent.elsewhere {router : AppRouter} {tab tab' : Tab} {answer : Option ApiResponse}
    {request : Option ApiRequest} (h : Sent router tab answer request tab') :
    router.page tab'.pathname ≠ .newMonitor ∧ tab'.screen = none := by
  have hsignin : router.page "/signin" ≠ .newMonitor := by simp [router.signin]
  have hregister : router.page "/register" ≠ .newMonitor := by simp [router.register]
  have hmonitors : router.page "/monitors" ≠ .newMonitor := by simp [router.monitors]
  cases h with
  | @proxied path hproxy =>
    obtain ⟨rfl, -⟩ | ⟨rfl, -⟩ := proxy_cases hproxy
    · exact ⟨hsignin, rfl⟩
    · exact ⟨hmonitors, rfl⟩
  | setup =>
    refine ⟨?_, rfl⟩
    show router.page (setupPath answer) ≠ .newMonitor
    unfold setupPath
    split
    · exact hregister
    · exact hsignin
  | uninvited | unknown => exact ⟨hsignin, rfl⟩

/-- **What comes of loading a page**, when its effects have run: the tab is sent on on the way to
the page, or it leaves the page, or it stays there. -/
inductive Passed (router : AppRouter) (tab : Tab) (answer : Option ApiResponse)
    (request : Option ApiRequest) (tab' : Tab) : Prop
  | sent (h : Sent router tab answer request tab')
  | left (hpage : router.page tab.pathname = .newMonitor)
      (hrequest : request.map ApiRequest.endpoint ≠ some .setupStatus)
      (hpath : tab'.pathname = "/monitors") (hscreen : tab'.screen = none)
  | stays (hpath : tab'.pathname = tab.pathname) (hcookie : tab'.cookie = tab.cookie)
      (hscreen : tab'.screen.isSome = true)

namespace Tab

variable {router : AppRouter} {cached : Bool} {answer : Option ApiResponse} {tab : Tab}

/-- The interceptor opens the form, or it lets the answer through. -/
theorem intercept_cases (endpoint : Endpoint) (answer : Option ApiResponse) (tab : Tab) :
    tab.intercept endpoint answer = tab ∨
      tab.intercept endpoint answer = tab.clearToken.reload "/signin" := by
  unfold intercept
  split
  · exact Or.inl rfl
  · exact Or.inl rfl
  · split
    · exact Or.inr rfl
    · exact Or.inl rfl

/-- An answer changes no more of the tab than whether there is a team. -/
theorem exists_learn (endpoint : Endpoint) (answer : Option ApiResponse) (tab : Tab) :
    ∃ hasTeam, tab.learn endpoint answer = { tab with hasTeam := hasTeam } := by
  unfold learn
  split
  · exact ⟨_, rfl⟩
  · exact ⟨_, rfl⟩
  · exact ⟨tab.hasTeam, rfl⟩

/-- **An answer to a page that is shown**: the form is opened, or the page for a new monitor is
left, or the tab stays where it is. -/
theorem receive_cases (router : AppRouter) (endpoint : Endpoint) (answer : Option ApiResponse)
    (tab : Tab) : ∃ hasTeam,
    tab.receive router endpoint answer =
        { tab.clearToken.reload "/signin" with hasTeam := hasTeam } ∨
      router.page tab.pathname = .newMonitor ∧
        tab.receive router endpoint answer = { tab with hasTeam := hasTeam }.goTo "/monitors" ∨
      tab.receive router endpoint answer = { tab with hasTeam := hasTeam } := by
  obtain ⟨hasTeam, hteam⟩ := (tab.intercept endpoint answer).exists_learn endpoint answer
  refine ⟨hasTeam, ?_⟩
  unfold receive
  rw [hteam]
  obtain hsame | hform := tab.intercept_cases endpoint answer
  · rw [hsame]
    obtain hstays | ⟨hpage, hleft⟩ :=
      requireTeam_cases router { tab with hasTeam := hasTeam }
    · exact Or.inr (Or.inr hstays)
    · exact Or.inr (Or.inl ⟨hpage, hleft⟩)
  · rw [hform]
    have hsignin : router.page "/signin" ≠ .newMonitor := by simp [router.signin]
    exact Or.inl (requireTeam_of_ne hsignin)

end Tab

/-! ## How often -/

namespace TabEvent

variable {κ : Type}

/-- What the page has been told about registration. -/
def registration : TabEvent κ → Option Bool
  | load (some ⟨_, .setupStatus⟩) _ answer => some (registrationsEnabled answer)
  | _ => none

/-- The user does nothing. -/
def idle : TabEvent κ → Bool
  | load .. | ask true .. | forget .. | others => true
  | _ => false

/-- A page is loaded, or one that is shown has been answered. -/
def decides : TabEvent κ → Bool
  | load .. | ask .. => true
  | _ => false

end TabEvent

/-- **The tab has been sent on.** -/
def sentOn {κ : Type} (y : TabEvent κ × Tab) : Bool := y.1.decides && y.2.screen.isNone

/-- **Where a tab is after `n` redirects**, when the answer on registration was last `last` and
has changed `k` times. -/
inductive Position (n k : ℕ) (last : Bool) (tab : Tab) : Prop
  | start (hn : n = 0)
  | signIn (hpath : tab.pathname = "/signin") (hcookie : isAuthed tab.cookie = true → n ≤ 1)
      (hclosed : last = false → n ≤ 3 + k) (hopen : last = true → n ≤ 2 + k)
  | register (hpath : tab.pathname = "/register") (hcookie : isAuthed tab.cookie = true → n ≤ 1)
      (hclosed : last = false → n ≤ 2 + k) (hopen : last = true → n ≤ 3 + k)
  | monitors (hpath : tab.pathname = "/monitors") (hn : n ≤ 2)

namespace Position

variable {n k : ℕ} {last : Bool} {tab tab' : Tab}

theorem le (h : Position n k last tab) : n ≤ 3 + k := by
  cases h with
  | start hn => omega
  | signIn _ _ hclosed hopen | register _ _ hclosed hopen =>
    cases last with
    | false => exact (hclosed rfl).trans (by omega)
    | true => exact (hopen rfl).trans (by omega)
  | monitors _ hn => omega

/-- Only the path counts, and whether there is a token. -/
theorem of_path (h : Position n k last tab) (hpath' : tab'.pathname = tab.pathname)
    (hcookie' : isAuthed tab'.cookie = true → isAuthed tab.cookie = true) :
    Position n k last tab' := by
  cases h with
  | start hn => exact .start hn
  | signIn hpath hfirst hclosed hopen =>
    exact .signIn (hpath'.trans hpath) (hfirst ∘ hcookie') hclosed hopen
  | register hpath hfirst hclosed hopen =>
    exact .register (hpath'.trans hpath) (hfirst ∘ hcookie') hclosed hopen
  | monitors hpath hn => exact .monitors (hpath'.trans hpath) hn

/-- An answer on registration leaves room for one more redirect, if it is another. -/
theorem told (h : Position n k last tab) (enabled : Bool) :
    Position n (k + if enabled = last then 0 else 1) enabled tab := by
  by_cases hsame : enabled = last
  · rw [hsame, if_pos rfl]
    exact h
  have hle := h.le
  rw [if_neg hsame]
  cases h with
  | start hn => exact .start hn
  | signIn hpath hfirst =>
    exact .signIn hpath hfirst (fun _ => by omega) (fun _ => by omega)
  | register hpath hfirst =>
    exact .register hpath hfirst (fun _ => by omega) (fun _ => by omega)
  | monitors hpath hn => exact .monitors hpath hn

/-- At the form without a cookie, for the third time at most or with a change behind it. -/
theorem at_signIn (hk : last = true → 0 < k) (hpath : tab.pathname = "/signin")
    (hcookie : isAuthed tab.cookie = true → n ≤ 1) (hn : n ≤ 3) : Position n k last tab := by
  refine .signIn hpath hcookie (fun _ => by omega) fun hlast => ?_
  have hpos := hk hlast
  omega

variable {router : AppRouter} {answer : Option ApiResponse} {request : Option ApiRequest}

/-- A page of the main layout is one of the list, or the tab has not been sent on at all. -/
theorem le_of_guarded (h : Position n k last tab)
    (hpage : (router.page tab.pathname).guarded = true) : n ≤ 2 := by
  cases h with
  | start hn => omega
  | signIn hpath =>
    rw [hpath, router.signin] at hpage
    cases hpage
  | register hpath =>
    rw [hpath, router.register] at hpage
    cases hpage
  | monitors _ hn => exact hn

/-- The page for a new monitor is left. -/
theorem left (h : Position n k last tab) (hpage : router.page tab.pathname = .newMonitor)
    (hpath' : tab'.pathname = "/monitors") : Position (n + 1) k last tab' := by
  cases h with
  | start hn => exact .monitors hpath' (by omega)
  | signIn hpath =>
    rw [hpath, router.signin] at hpage
    cases hpage
  | register hpath =>
    rw [hpath, router.register] at hpage
    cases hpage
  | monitors hpath =>
    rw [hpath, router.monitors] at hpage
    cases hpage

/-- A redirect for which nothing about registration has been asked. -/
theorem sent (h : Position n k last tab) (hk : last = true → 0 < k)
    (hsent : Sent router tab answer request tab')
    (hrequest : request.map ApiRequest.endpoint ≠ some .setupStatus) :
    Position (n + 1) k last tab' := by
  cases hsent with
  | @proxied path hproxy =>
    obtain ⟨rfl, hcookie⟩ | ⟨rfl, hcookie⟩ := proxy_cases hproxy
    · have hform (hpath : tab.pathname = "/signin" ∨ tab.pathname = "/register") : False := by
        rw [proxy_form hpath, hcookie] at hproxy
        cases hproxy
      have hnone (hauthed : isAuthed tab.cookie = true) : n + 1 ≤ 1 :=
        absurd (hcookie.symm.trans hauthed) Bool.false_ne_true
      cases h with
      | start hn => exact at_signIn hk rfl hnone (by omega)
      | signIn hpath => exact (hform (Or.inl hpath)).elim
      | register hpath => exact (hform (Or.inr hpath)).elim
      | monitors _ hn => exact at_signIn hk rfl hnone (by omega)
    · cases h with
      | start hn => exact .monitors rfl (by omega)
      | signIn _ hfirst => exact .monitors rfl (Nat.succ_le_succ (hfirst hcookie))
      | register _ hfirst => exact .monitors rfl (Nat.succ_le_succ (hfirst hcookie))
      | monitors hpath =>
        rw [hpath, proxy_monitors, hcookie] at hproxy
        cases hproxy
  | setup => exact absurd rfl hrequest
  | uninvited hpage =>
    cases h with
    | start hn => exact at_signIn hk rfl (fun _ => by omega) (by omega)
    | signIn hpath =>
      rw [hpath, router.signin] at hpage
      cases hpage
    | register hpath =>
      rw [hpath, router.register] at hpage
      cases hpage
    | monitors hpath =>
      rw [hpath, router.monitors] at hpage
      cases hpage
  | unknown hpage =>
    have hn := h.le_of_guarded hpage
    exact at_signIn hk rfl (fun hnone => absurd hnone Bool.false_ne_true) (by omega)

/-- A redirect by the answer on registration, when it is counted already. -/
theorem setup (h : Position n k (registrationsEnabled answer) tab)
    (hsent : Sent router tab answer request tab')
    (hrequest : request.map ApiRequest.endpoint = some .setupStatus) :
    Position (n + 1) k (registrationsEnabled answer) tab' := by
  cases hsent with
  | proxied | uninvited | unknown => cases hrequest
  | setup hproxy hmain hsignin hregister =>
    have hvisitor (hpath : tab.pathname = "/signin" ∨ tab.pathname = "/register")
        (hauthed : isAuthed tab.cookie = true) : n + 1 ≤ 1 := by
      rw [proxy_form hpath, hauthed] at hproxy
      cases hproxy
    -- from one form to the other, which wants the other answer
    cases h with
    | start hn =>
      subst hn
      cases henabled : registrationsEnabled answer with
      | false =>
        have hpath : setupPath answer = "/signin" := if_neg (henabled ▸ Bool.false_ne_true)
        exact .signIn hpath (fun _ => le_refl 1) (fun _ => by omega) (fun _ => by omega)
      | true =>
        have hpath : setupPath answer = "/register" := if_pos henabled
        exact .register hpath (fun _ => le_refl 1) (fun _ => by omega) (fun _ => by omega)
    | signIn hpath _ _ hopen =>
      have henabled := hsignin (hpath ▸ router.signin)
      have hpath' : setupPath answer = "/register" := if_pos henabled
      refine .register hpath' (hvisitor (Or.inl hpath)) (fun hclosed => ?_) fun _ => ?_
      · cases henabled.symm.trans hclosed
      · exact (Nat.succ_le_succ (hopen henabled)).trans_eq (by omega)
    | register hpath _ hclosed _ =>
      have henabled := hregister (hpath ▸ router.register)
      have hpath' : setupPath answer = "/signin" := if_neg (henabled ▸ Bool.false_ne_true)
      refine .signIn hpath' (hvisitor (Or.inr hpath)) (fun _ => ?_) fun hopen => ?_
      · exact (Nat.succ_le_succ (hclosed henabled)).trans_eq (by omega)
      · cases henabled.symm.trans hopen
    | monitors hpath =>
      rw [hpath, router.monitors] at hmain
      cases hmain

end Position

section Runs

variable {κ : Type} {x : Platform κ} {router : AppRouter} {v v' : Visitor κ}
  {l : List (TabEvent κ × Tab)}

/-- What the tab has been told about registration so far. -/
def registrations (l : List (TabEvent κ × Tab)) : List Bool :=
  l.filterMap fun y => y.1.registration

/-- The position that the steps so far have led to. -/
def Redirected (l : List (TabEvent κ × Tab)) (tab : Tab) : Prop :=
  Position (l.countP sentOn) (changes false (registrations l)) ((registrations l).getLastD false)
    tab

/-- A step that says nothing about registration. -/
theorem redirected_concat {y : TabEvent κ × Tab} (hnone : y.1.registration = none) :
    Redirected (l ++ [y]) y.2 ↔ Position (l.countP sentOn + if sentOn y then 1 else 0)
      (changes false (registrations l)) ((registrations l).getLastD false) y.2 := by
  have hsame : registrations (l ++ [y]) = registrations l := by
    unfold registrations
    rw [List.filterMap_append, List.filterMap_cons_none (by exact hnone), List.filterMap_nil,
      List.append_nil]
  unfold Redirected
  rw [hsame, List.countP_append, List.countP_singleton]

theorem redirected_told {y : TabEvent κ × Tab} {enabled : Bool}
    (htold : y.1.registration = some enabled) :
    Redirected (l ++ [y]) y.2 ↔ Position (l.countP sentOn + if sentOn y then 1 else 0)
      (changes false (registrations l) +
        if enabled = (registrations l).getLastD false then 0 else 1) enabled y.2 := by
  have hmore : registrations (l ++ [y]) = registrations l ++ [enabled] := by
    unfold registrations
    rw [List.filterMap_append, List.filterMap_cons_some (by exact htold), List.filterMap_nil]
  unfold Redirected
  rw [hmore, changes_concat, List.getLastD_concat, List.countP_append, List.countP_singleton]

/-- After an answer that registration is open there has been a change. -/
theorem changes_registrations (hlast : (registrations l).getLastD false = true) :
    0 < changes false (registrations l) := changes_pos (hlast ▸ Bool.true_eq_false_eq_False)

/-- **A page is loaded.**  An answer on registration counts before what the page makes of it, so
that a redirect by an answer that is another than before has a change to go with it. -/
theorem Redirected.load {tab tab' : Tab} {request : Option ApiRequest}
    {answer : Option ApiResponse} (h : Redirected l tab)
    (hpassed : Passed router tab answer request tab') (tr : List (ApiEvent κ)) :
    Redirected (l ++ [(.load request tr answer, tab')]) tab' := by
  have hsent (hscreen : tab'.screen = none) :
      sentOn ((.load request tr answer, tab') : TabEvent κ × Tab) = true := by
    show tab'.screen.isNone = true
    rw [hscreen]
    rfl
  by_cases hrequest : request.map ApiRequest.endpoint = some .setupStatus
  · have htold : (TabEvent.load request tr answer).registration =
        some (registrationsEnabled answer) := by
      obtain ⟨⟨authorization, endpoint⟩, rfl, rfl⟩ := Option.map_eq_some_iff.mp hrequest
      rfl
    refine (redirected_told htold).mpr ?_
    have hnext := h.told (registrationsEnabled answer)
    cases hpassed with
    | sent hon =>
      rw [hsent hon.elsewhere.2]
      exact hnext.setup hon hrequest
    | left _ hother => exact absurd hrequest hother
    | stays hpath hcookie hscreen =>
      have hstays : sentOn ((.load request tr answer, tab') : TabEvent κ × Tab) = false := by
        show tab'.screen.isNone = false
        rw [← Option.not_isSome, hscreen]
        rfl
      rw [hstays]
      exact hnext.of_path hpath (hcookie ▸ id)
  · have hnone : (TabEvent.load request tr answer).registration = none := by
      unfold TabEvent.registration
      split
      · rename_i heq
        obtain ⟨rfl, -, -⟩ := TabEvent.load.inj heq
        exact absurd rfl hrequest
      · rfl
    refine (redirected_concat hnone).mpr ?_
    cases hpassed with
    | sent hon =>
      rw [hsent hon.elsewhere.2]
      exact Position.sent h changes_registrations hon hrequest
    | left hpage _ hpath hscreen =>
      rw [hsent hscreen]
      exact Position.left h hpage hpath
    | stays hpath hcookie hscreen =>
      have hstays : sentOn ((.load request tr answer, tab') : TabEvent κ × Tab) = false := by
        show tab'.screen.isNone = false
        rw [← Option.not_isSome, hscreen]
        rfl
      rw [hstays]
      exact Position.of_path h hpath (hcookie ▸ id)

/-- **A page gets an answer** to what it has asked of its own accord. -/
theorem Redirected.receive {tab : Tab} {answer : Option ApiResponse} (h : Redirected l tab)
    (hscreen : tab.screen.isSome) (hpage : (router.page tab.pathname).guarded = true)
    (endpoint : Endpoint) (tr : List (ApiEvent κ)) :
    Redirected (l ++ [(.ask true endpoint tr answer, tab.receive router endpoint answer)])
      (tab.receive router endpoint answer) := by
  refine (redirected_concat rfl).mpr ?_
  obtain ⟨hasTeam, hform | ⟨hnew, hleft⟩ | hstays⟩ := tab.receive_cases router endpoint answer
  · have hn := Position.le_of_guarded h hpage
    rw [hform]
    exact Position.at_signIn changes_registrations rfl
      (fun hnone => absurd hnone Bool.false_ne_true) (Nat.succ_le_succ hn)
  · rw [hleft]
    exact Position.left h hnew rfl
  · rw [hstays]
    have hquiet : sentOn ((.ask true endpoint tr answer, { tab with hasTeam := hasTeam }) :
        TabEvent κ × Tab) = false := by
      show tab.screen.isNone = false
      rw [← Option.not_isSome, hscreen]
      rfl
    rw [hquiet]
    exact Position.of_path h rfl id

end Runs

/-! ## Registration is closed -/

section Closed

variable {κ : Type} {x : Platform κ} {s s' : Server κ}

/-- There is an account. -/
def Server.Populated (s : Server κ) : Prop := s.directory.users ≠ []

/-- Accounts stay. -/
theorem Server.populated_of_serves {c : ApiCmd κ} {r : c.Resp} (hs : s.Populated)
    (h : Server.Serves x s c r s') : s'.Populated := by
  cases c with
  | account c =>
    obtain ⟨e, he⟩ := h
    have husers : (s.registry.serve x.argon s.counts e.account c).2.users = s'.directory.users :=
      congrArg (fun s => s.directory.users) (Prod.mk.inj he).2
    have hprefix := Registry.serve_accounts x.argon s.counts e.account s.registry c
    rw [husers] at hprefix
    intro hnil
    rw [hnil, List.map_nil, List.prefix_nil, List.map_eq_nil_iff] at hprefix
    exact hs hprefix
  | monitor c | listing q | plugin c =>
    have hregistry := registry_of_serves (fun c' hc' => by cases hc') h
    have husers : s'.directory.users = s.directory.users :=
      congrArg (fun r : Registry => r.users) hregistry
    exact husers.trans_ne hs

theorem Server.populated_of_others (hs : s.Populated) (h : Server.Others x s s') :
    s'.Populated := by
  induction h with
  | refl => exact hs
  | tail _ hserves ih =>
    obtain ⟨c, r, hserves⟩ := hserves
    exact populated_of_serves ih hserves

theorem Server.populated_of_busy {c : ApiCmd κ} {r : c.Resp} (hs : s.Populated)
    (h : Server.Busy x s c r s') : s'.Populated := by
  obtain ⟨t, hothers, hserves⟩ := h
  exact populated_of_serves (populated_of_others hs hothers) hserves

theorem Requested.populated {req : Option ApiRequest} {tr : List (ApiEvent κ)}
    {answer : Option ApiResponse} (h : Requested x s req tr answer s') (hs : s.Populated) :
    s'.Populated := by
  cases h with
  | none => exact hs
  | lost h => exact Server.populated_of_others hs h
  | answered h =>
    exact h.invariant (fun _ _ _ _ hbusy ht => Server.populated_of_busy ht hbusy) hs

/-- Whoever counts the users finds one. -/
def Counted : ApiEvent κ → Prop
  | ⟨.account (.directory (.sql .hasUsers)), .ok has⟩ => has = true
  | _ => True

theorem counted_of_busy {c : ApiCmd κ} {r : c.Resp} (hs : s.Populated)
    (h : Server.Busy x s c r s') : Counted ⟨c, r⟩ := by
  obtain ⟨t, hothers, hserves⟩ := h
  have ht := Server.populated_of_others hs hothers
  unfold Counted
  split
  · rename_i has heq
    obtain ⟨rfl, hr⟩ := Event.mk.inj heq
    obtain rfl := eq_of_heq hr
    obtain ⟨hr, -⟩ | ⟨now, hr | hr, -⟩ := Directory.serves_sql (Server.serves_query hserves)
    · cases hr
    · rw [Except.ok.inj hr]
      cases husers : t.directory.users with
      | nil => exact absurd husers ht
      | cons => rfl
    · cases hr
  · trivial

/-- The answer of a server that has an account. -/
theorem follows_setup : (UserHandler.setupStatus.embed (ofMember (κ := κ))).Follows
    (Protocol.stateless (fun _ => True) Counted)
    (fun response _ => registrationsEnabled (some response) = false) () := by
  refine ⟨trivial, fun enabled _ => ?_⟩
  rcases enabled with err | _ | _
  · rfl
  · rfl
  refine ⟨trivial, fun has hhas => ?_⟩
  rcases has with err | _ | _
  · rfl
  · cases hhas
  refine ⟨trivial, fun done _ => ?_⟩
  rcases done with err | u <;> rfl

/-- **Once there is an account, registration is closed**, whatever is lost. -/
theorem Requested.registration_closed {authorization : String} {tr : List (ApiEvent κ)}
    {answer : Option ApiResponse}
    (h : Requested x s (some ⟨authorization, .setupStatus⟩) tr answer s') (hs : s.Populated) :
    registrationsEnabled answer = false := by
  cases h with
  | lost h => rfl
  | answered h =>
    exact (h.follows (I := fun s _ => s.Populated) follows_setup
      (fun _ _ _ _ _ ht _ hbusy => ⟨counted_of_busy ht hbusy, Server.populated_of_busy ht hbusy⟩)
      hs).1

variable {router : AppRouter} {v v' : Visitor κ} {l : List (TabEvent κ × Tab)}

/-- A step leaves an account, and then it does not tell that registration is open. -/
theorem TabStep.closed {e : TabEvent κ} (h : TabStep x router v e v') (hs : v.server.Populated) :
    v'.server.Populated ∧ ∀ enabled, e.registration = some enabled → enabled = false := by
  have hquiet (hnone : e.registration = none) (enabled : Bool)
      (htold : e.registration = some enabled) : enabled = false := by
    cases hnone.symm.trans htold
  cases h with
  | visit | signOut | forget => exact ⟨hs, hquiet rfl⟩
  | others tab hothers => exact ⟨Server.populated_of_others hs hothers, hquiet rfl⟩
  | submit _ hrequested => exact ⟨hrequested.populated hs, hquiet rfl⟩
  | ask _ _ hrequested => exact ⟨hrequested.populated hs, hquiet rfl⟩
  | @load tab s s' tr answer cached _ hrequested =>
    refine ⟨hrequested.populated hs, fun enabled htold => ?_⟩
    generalize tab.asks router cached = request at hrequested htold
    unfold TabEvent.registration at htold
    split at htold
    · rename_i heq
      obtain ⟨rfl, -, rfl⟩ := TabEvent.load.inj heq
      rw [← Option.some.inj htold]
      exact hrequested.registration_closed hs
    · cases htold

end Closed

namespace Sample

/-- The pages that the witnesses need. -/
def appRouter : AppRouter where
  page pathname :=
    if pathname = "/" then .home
    else if pathname = "/signin" then .signIn
    else if pathname = "/register" then .register
    else if pathname = "/monitors/new" then .newMonitor
    else .main
  signin := by decide
  register := by decide
  monitors := by decide
  newMonitor := by decide

/-- What Ada sees of herself. -/
def herself (teams : List (UUID × String)) : GetProfileResponse :=
  ⟨7, "Ada", "ada@example.org", 1, false, teams⟩

end Sample

end Sofon
