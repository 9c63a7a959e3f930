import Sofon.Api.Guarded
import Sofon.Foundations.Run

/-!
# A tab of the browser

Which page a tab shows is settled in several places.  The proxy of the web server looks at the
cookie; a page of the web server asks the API whether registration is open or an invitation is
good; `AuthGuard` asks for the profile before it lets anything of the main layout be seen; the
page for a new monitor does not stay without a team; and any answer with the status 401, to
whatever a page has asked for, opens the form as a new document.  Each of them may send the tab
on to another page, where the next one decides again.

`Tab.load` is what comes of loading a page and `Tab.receive` what comes of an answer to a page
that is shown.  `TabStep` is a tab beside a server that serves others at the same time: a request
of the tab runs among commands of anybody.  The token is kept twice, in a cookie for the proxy
and in `localStorage` for the requests, and the browser may drop either.  What a form or a button
does once it has been used counts as done by the user, also where it takes a while, as the form
of an invitation does, which opens the form to sign in after two seconds.

Of the team store only one thing matters here, whether it has a current team.  It is seeded with
the profile, and it lasts as long as the document.
-/

namespace Sofon

open Interleaving Program Transition

variable {κ : Type}

/-- What the router of the web server finds at a path: the pages of the folder `app`.  All
pages in `(main)` are inside the same `AuthGuard`. -/
inductive WebPage where
  | home
  | signIn
  | register
  | invite (token : String)
  | main
  /-- the form for a new monitor, in the main layout as well -/
  | newMonitor
  | other
  deriving DecidableEq

/-- Is the page in `(main)`? -/
def WebPage.guarded : WebPage → Bool
  | main | newMonitor => true
  | _ => false

/-- The router of the web server, which goes by the names of folders. -/
structure AppRouter where
  page : String → WebPage
  signin : page "/signin" = .signIn
  register : page "/register" = .register
  monitors : page "/monitors" = .main
  newMonitor : page "/monitors/new" = .newMonitor

/-! ## The proxy -/

def startsWith (s pre : String) : Bool := pre.toList.isPrefixOf s.toList

def privatePrefixes : List String := ["/monitors", "/incidents", "/team", "/profile"]

def authPrefixes : List String := ["/signin", "/register", "/invite"]

/-- `config.matcher`, where a dot is for any character. -/
def proxyMatches (pathname : String) : Bool :=
  match pathname.toList with
  | '/' :: rest =>
    List.all ["_next/static", "_next/image", "favicon.ico", "api/"] fun pattern =>
      rest.length < pattern.length ||
        (pattern.toList.zip rest).any fun c => c.1 ≠ '.' && c.1 ≠ c.2
  | _ => false

/-- Is there a cookie with a token?  An empty one is none. -/
def isAuthed (cookie : Option String) : Bool := cookie.any fun token => token ≠ ""

/-- `proxy`: where to redirect to, if anywhere. -/
def proxy (pathname : String) (cookie : Option String) : Option String :=
  if !proxyMatches pathname then none
  else if !isAuthed cookie && privatePrefixes.any (startsWith pathname) then some "/signin"
  else if isAuthed cookie && authPrefixes.any (startsWith pathname) then some "/monitors"
  else none

/-! ## Answers -/

/-- The data of a response that `axios` takes for a success.  `none` is for no answer of the
API, whatever came in its place. -/
def succeeded : Option ApiResponse → Option ApiData
  | some (.ok reply) => if 200 ≤ reply.status ∧ reply.status < 300 then some reply.data else none
  | _ => none

/-- Is the status 401? -/
def refused : Option ApiResponse → Bool
  | some (.error body) => body.status = 401
  | _ => false

/-- `json?.data?.registrations_enabled ?? false`, and `false` without an answer -/
def registrationsEnabled : Option ApiResponse → Bool
  | some (.ok ⟨_, _, .setupStatus enabled⟩) => enabled
  | _ => false

/-- `getInvite`: is there an invitation? -/
def hasInvite (answer : Option ApiResponse) : Bool :=
  match succeeded answer with
  | none | some .empty => false
  | some _ => true

/-- The profile in the answer to `AuthGuard`. -/
def profileOf (answer : Option ApiResponse) : Option GetProfileResponse :=
  match succeeded answer with
  | some (.profile p) => some p
  | _ => none

/-- The token in the answer to the form. -/
def accessTokenOf (answer : Option ApiResponse) : Option String :=
  match succeeded answer with
  | some (.loggedIn _ accessToken) => some accessToken
  | _ => none

/-! ## The tab -/

/-- What a tab shows. -/
inductive Screen where
  | signInForm
  | registerForm
  | inviteForm (token : String)
  /-- a page in the main layout, for the user with a profile -/
  | main (profile : GetProfileResponse)
  | other

/-- A tab, with the two places where the token is kept.  `guard` is the `AuthGuard` that has
its profile, as long as it is mounted, `hasTeam` says whether there is a `currentTeam`, and there
is no `screen` while a page is on the way. -/
structure Tab where
  pathname : String
  cookie : Option String
  localStorage : Option String
  guard : Option GetProfileResponse
  hasTeam : Bool
  screen : Option Screen

namespace Tab

/-- `tokenStore.set` -/
def setToken (token : String) (tab : Tab) : Tab :=
  { tab with cookie := some token, localStorage := some token }

/-- `tokenStore.clear` -/
def clearToken (tab : Tab) : Tab := { tab with cookie := none, localStorage := none }

/-- `redirect`, `router.push` and `router.replace`: what is mounted stays until the page is
there. -/
def goTo (pathname : String) (tab : Tab) : Tab := { tab with pathname := pathname, screen := none }

/-- A new document: everything is mounted anew, and the stores are empty. -/
def reload (pathname : String) (tab : Tab) : Tab :=
  { tab.goTo pathname with guard := none, hasTeam := false }

/-- A page outside the main layout is there. -/
def display (screen : Screen) (tab : Tab) : Tab :=
  { tab with guard := none, screen := some screen }

/-- The header that `api.ts` adds. -/
def authorization (tab : Tab) : String :=
  match tab.localStorage with
  | some token => if token = "" then "" else "Bearer " ++ token
  | none => ""

/-- A page of the main layout that the router has at hand already, and that it need not ask
the web server for. -/
def atHand (router : AppRouter) (cached : Bool) (tab : Tab) : Option GetProfileResponse :=
  if cached && (router.page tab.pathname).guarded then tab.guard else none

/-- What is asked of the API when a page is loaded. -/
def asks (router : AppRouter) (cached : Bool) (tab : Tab) : Option ApiRequest :=
  if (tab.atHand router cached).isSome || (proxy tab.pathname tab.cookie).isSome then none
  else
    match router.page tab.pathname with
    | .home | .signIn | .register => some ⟨"", .setupStatus⟩
    | .invite token => some ⟨"", .getInvitationByToken token⟩
    | .main | .newMonitor =>
      if tab.guard.isSome then none else some ⟨tab.authorization, .getProfile⟩
    | .other => none

/-- `AuthGuard` has got the profile: it seeds the store with the teams, and the page is there. -/
def seed (profile : GetProfileResponse) (tab : Tab) : Tab :=
  { tab with
    guard := some profile
    hasTeam := !profile.teams.isEmpty
    screen := some (.main profile) }

/-- A page is mounted. -/
def mount (router : AppRouter) (cached : Bool) (answer : Option ApiResponse) (tab : Tab) : Tab :=
  match tab.atHand router cached with
  | some profile => { tab with screen := some (.main profile) }
  | none =>
    match proxy tab.pathname tab.cookie with
    | some pathname => tab.goTo pathname
    | none =>
      match router.page tab.pathname with
      | .home => tab.goTo (if registrationsEnabled answer then "/register" else "/signin")
      | .signIn => if registrationsEnabled answer then tab.goTo "/register"
        else tab.display .signInForm
      | .register => if registrationsEnabled answer then tab.display .registerForm
        else tab.goTo "/signin"
      | .invite token => if hasInvite answer then tab.display (.inviteForm token)
        else tab.goTo "/signin"
      | .main | .newMonitor =>
        match tab.guard with
        | some profile => { tab with screen := some (.main profile) }
        | none =>
          match profileOf answer with
          | some profile => tab.seed profile
          | none => tab.clearToken.goTo "/signin"
      | .other => tab.display .other

/-- The effect of the page for a new monitor: without a team it is left for the list. -/
def requireTeam (router : AppRouter) (tab : Tab) : Tab :=
  if router.page tab.pathname = .newMonitor && !tab.hasTeam then tab.goTo "/monitors" else tab

/-- A page is loaded, and its effects run. -/
def load (router : AppRouter) (cached : Bool) (answer : Option ApiResponse) (tab : Tab) : Tab :=
  (tab.mount router cached answer).requireTeam router

/-- The form has been sent. -/
def submit (answer : Option ApiResponse) (tab : Tab) : Tab :=
  match accessTokenOf answer with
  | some accessToken => (tab.setToken accessToken).goTo "/monitors"
  | none => tab

/-- `handleSignOut` -/
def signOut (tab : Tab) : Tab := tab.clearToken.goTo "/signin"

/-- The interceptor of responses. -/
def intercept (endpoint : Endpoint) (answer : Option ApiResponse) (tab : Tab) : Tab :=
  match endpoint with
  | .logIn _ | .register _ => tab
  | _ => if refused answer then tab.clearToken.reload "/signin" else tab

/-- The team store after an answer: `fetchTeams` picks one of the teams, if there are any, and
`createTeam` sees to it that there is one. -/
def learn (endpoint : Endpoint) (answer : Option ApiResponse) (tab : Tab) : Tab :=
  match endpoint, succeeded answer with
  | .listMyTeams, some (.teams teams) => { tab with hasTeam := !teams.isEmpty }
  | .createTeam _, some (.team _) => { tab with hasTeam := true }
  | _, _ => tab

/-- A page that is shown gets an answer. -/
def receive (router : AppRouter) (endpoint : Endpoint) (answer : Option ApiResponse) (tab : Tab) :
    Tab := ((tab.intercept endpoint answer).learn endpoint answer).requireTeam router

/-- The browser drops the token from where it is kept, as it does with a cookie that is half
an hour old. -/
def forget (cookie localStorage : Bool) (tab : Tab) : Tab :=
  { tab with
    cookie := if cookie then none else tab.cookie
    localStorage := if localStorage then none else tab.localStorage }

end Tab

/-! ## A tab and a server -/

/-- Commands of anybody. -/
def Server.Others (x : Platform κ) : Server κ → Server κ → Prop :=
  Relation.ReflTransGen fun s s' => ∃ (c : ApiCmd κ) (r : c.Resp), Server.Serves x s c r s'

/-- A command of a request, after any number of commands of others. -/
def Server.Busy (x : Platform κ) (s : Server κ) (c : ApiCmd κ) (r : c.Resp) (s' : Server κ) :
    Prop := ∃ t, Server.Others x s t ∧ Server.Serves x t c r s'

/-- A request is sent, if there is one.  The answer is that of the handler, which runs among
commands of others, or it is lost. -/
inductive Requested (x : Platform κ) (s : Server κ) :
    Option ApiRequest → List (ApiEvent κ) → Option ApiResponse → Server κ → Prop
  | none : Requested x s none [] none s
  | lost {req : ApiRequest} {s' : Server κ} (h : Server.Others x s s') :
      Requested x s (some req) [] none s'
  | answered {req : ApiRequest} {tr : List (ApiEvent κ)} {response : ApiResponse} {s' : Server κ}
      (h : Exec (Server.Busy x) (serveHTTP x req) s tr response s') :
      Requested x s (some req) tr (some response) s'

/-- What happens. -/
inductive TabEvent (κ : Type) where
  /-- a path is opened, by a link or by its address -/
  | visit (pathname : String) (link : Bool)
  | load (request : Option ApiRequest) (tr : List (ApiEvent κ)) (answer : Option ApiResponse)
  | submit (body : LogInRequest) (tr : List (ApiEvent κ)) (answer : Option ApiResponse)
  | signOut
  /-- the page that is shown asks for something, of its own accord or for the user -/
  | ask (own : Bool) (endpoint : Endpoint) (tr : List (ApiEvent κ)) (answer : Option ApiResponse)
  | forget (cookie localStorage : Bool)
  | others

/-- A tab, and the server. -/
structure Visitor (κ : Type) where
  tab : Tab
  server : Server κ

/-- **One step.** -/
inductive TabStep (x : Platform κ) (router : AppRouter) :
    Visitor κ → TabEvent κ → Visitor κ → Prop
  | visit (tab : Tab) (s : Server κ) (pathname : String) (link : Bool) :
      TabStep x router ⟨tab, s⟩ (.visit pathname link)
        ⟨if link then tab.goTo pathname else tab.reload pathname, s⟩
  | load {tab : Tab} {s s' : Server κ} {tr : List (ApiEvent κ)} {answer : Option ApiResponse}
      (cached : Bool) (hscreen : tab.screen = none)
      (h : Requested x s (tab.asks router cached) tr answer s') :
      TabStep x router ⟨tab, s⟩ (.load (tab.asks router cached) tr answer)
        ⟨tab.load router cached answer, s'⟩
  | submit {tab : Tab} {s s' : Server κ} {body : LogInRequest} {tr : List (ApiEvent κ)}
      {answer : Option ApiResponse} (hscreen : tab.screen = some .signInForm)
      (h : Requested x s (some ⟨tab.authorization, .logIn (some body)⟩) tr answer s') :
      TabStep x router ⟨tab, s⟩ (.submit body tr answer) ⟨tab.submit answer, s'⟩
  | signOut {tab : Tab} {profile : GetProfileResponse} (s : Server κ)
      (hscreen : tab.screen = some (.main profile)) :
      TabStep x router ⟨tab, s⟩ .signOut ⟨tab.signOut, s⟩
  /-- only the pages of the main layout ask of their own accord -/
  | ask {tab : Tab} {s s' : Server κ} {own : Bool} {endpoint : Endpoint} {tr : List (ApiEvent κ)}
      {answer : Option ApiResponse} (hscreen : tab.screen.isSome)
      (hown : own = true → (router.page tab.pathname).guarded = true)
      (h : Requested x s (some ⟨tab.authorization, endpoint⟩) tr answer s') :
      TabStep x router ⟨tab, s⟩ (.ask own endpoint tr answer)
        ⟨tab.receive router endpoint answer, s'⟩
  | forget (tab : Tab) (s : Server κ) (cookie localStorage : Bool) :
      TabStep x router ⟨tab, s⟩ (.forget cookie localStorage) ⟨tab.forget cookie localStorage, s⟩
  | others {s s' : Server κ} (tab : Tab) (h : Server.Others x s s') :
      TabStep x router ⟨tab, s⟩ .others ⟨tab, s'⟩

end Sofon
