import Sofon.Foundations.Run
import Sofon.Pages

/-!
# The page of monitors in the browser

`monitor-store.ts` keeps what the monitors page shows: the rows, the cursor for the next page,
and a stack with the cursor of every page since the first.  Next pushes the cursor and asks for
its page, Previous drops one and asks for the page of the one that is then on top, and
Refresh asks for a page without looking at the stack.  A request is answered before anything
else is done; it may also fail.

## The stack is the number of the page

`Shows` says so: the stack holds the tokens of the pages before the one that is shown.  The server
is any list that is served in numbered pages of ten, each with a token for the next
(`MonitorServer`); the backend is one (`MonitorServer.backend`), as long as nobody else changes the
list.

* The token of a page asks for the next one (`ask_token`), so a request that is answered shows the
  page it asks for (`shows_fetchMonitors`), and one that is lost leaves what was shown.
* Next and Previous move the stack and the page alike (`shows_goNext`, `shows_goPrev`), and do
  nothing at the two ends of the list.  If the request of one of them is lost, the stack has moved
  and the page has not.
* Refresh gets the first page, so it keeps `Shows` on the first page only; anywhere else the rows
  are those of the first page and the stack is that of another (`not_displays_refresh`).

`displays_of_keepsPage` is the induction over a run of actions that do not disturb the page.
-/

namespace Sofon

open Transition Paging

/-- The server, seen from a page that nobody else changes: the list of a team in numbered
pages of ten. -/
structure MonitorServer where
  ask : ℕ → Option String → Except String (Reply Monitor String)
  list : List Monitor
  token : ℕ → String
  paged : Paged (ask 10) list 10 token
  token_ne_empty : ∀ n, (n + 1) * 10 < list.length → token n ≠ ""

namespace MonitorServer

/-- The rows of page number `n`. -/
def page (server : MonitorServer) (n : ℕ) : List Monitor :=
  (numbered server.list 10 server.token n).items

/-- **The list of monitors that the backend serves** is such a server, for a team and tables
that do not change: the monitors of the team, newest first. -/
def backend (ilike : String → String → Bool) (uuids : UUIDText) (team : UUID) (t : Moment)
    (hkeyed : t.listing.Keyed) (hdated : t.listing.Dated) : MonitorServer where
  ask limit cursor := (MonitorPages.ask ilike uuids team limit cursor t).mapError fun body =>
    "Request failed with status code " ++ toString body.status
  list := remaining MonitorPages.key none (MonitorPages.matching team t)
  token := lastToken MonitorPages.key (MonitorPages.token uuids) 10
    (remaining MonitorPages.key none (MonitorPages.matching team t))
  paged :=
    have hserves : Paging.Serves (MonitorPages.ask ilike uuids team 10) MonitorPages.key
        (MonitorPages.matching team) (MonitorPages.token uuids) RowKey.Sound 10 :=
      Paging.Serves.of_cursor fun _ _ hc => MonitorPages.ask_eq_page (by decide) (by decide) hc
    (hserves.paged (MonitorPages.servable hkeyed hdated) (by decide)).mapError _
  token_ne_empty n hn := by
    have hin : (n + 1) * 10 - 1 < (remaining MonitorPages.key none
      (MonitorPages.matching team t)).length := by omega
    rw [lastToken, List.getElem?_eq_getElem hin]
    exact encodeCursor_ne_empty _ _ _

end MonitorServer

/-- `MonitorState`, without what creating and changing monitors keeps in it. -/
structure MonitorState where
  monitors : List Monitor
  limit : ℕ
  hasMore : Bool
  hasPrev : Bool
  nextCursor : Option String
  pageStack : List String
  loading : Bool
  error : Option String

namespace MonitorState

/-- The state in which the store is created. -/
def initial : MonitorState := ⟨[], 10, false, false, none, [], false, none⟩

variable (server : MonitorServer) (lost : Option String)

/-- `fetchMonitors`, with its request answered by the server or lost with a message.  A cursor
that is empty goes for none. -/
def fetchMonitors (cursor : Option String) (s : MonitorState) : MonitorState :=
  let s := { s with loading := true, error := none }
  let answer : Except String (Reply Monitor String) := match lost with
    | some message => .error message
    | none => server.ask s.limit (cursor.filter (· ≠ ""))
  match answer with
  | .ok res =>
    { s with monitors := res.items, hasMore := res.hasMore, nextCursor := res.next,
             loading := false }
  | .error message => { s with loading := false, error := some message }

def goNext (s : MonitorState) : MonitorState :=
  match s.nextCursor.filter (· ≠ "") with
  | none => s
  | some nextCursor =>
    fetchMonitors server lost (some nextCursor)
      { s with pageStack := s.pageStack ++ [nextCursor], hasPrev := true }

def goPrev (s : MonitorState) : MonitorState :=
  if s.pageStack = [] then s
  else
    let newStack := s.pageStack.dropLast
    fetchMonitors server lost newStack.getLast?
      { s with pageStack := newStack, hasPrev := 0 < newStack.length }

/-- Refresh -/
def refresh (s : MonitorState) : MonitorState := fetchMonitors server lost none s

/-- The page has been opened: the first request has been answered. -/
def opened (server : MonitorServer) : MonitorState := refresh server none initial

end MonitorState

open MonitorState

/-- What a user does. -/
inductive PagingAction where
  | next
  | previous
  | refresh
  deriving DecidableEq

/-- One action, with its request lost or not. -/
def PagingAction.act (server : MonitorServer) (a : PagingAction) (lost : Option String)
    (s : MonitorState) : MonitorState :=
  match a with
  | next => goNext server lost s
  | previous => goPrev server lost s
  | refresh => MonitorState.refresh server lost s

/-- One action after the other, each with its request answered before the next. -/
def PagingStep (server : MonitorServer) (s : MonitorState) (x : PagingAction × Option String)
    (t : MonitorState) : Prop := t = x.1.act server x.2 s

variable {server : MonitorServer} {s t : MonitorState} {lost : Option String}

/-! ## What is shown -/

/-- **The page that is shown is the one the stack says.** -/
structure Displays (server : MonitorServer) (s : MonitorState) : Prop where
  monitors : s.monitors = server.page s.pageStack.length
  hasPrev : s.hasPrev = true ↔ s.pageStack.length ≠ 0
  distinct : s.pageStack.Nodup
  /-- Previous takes an effective Next back. -/
  back : (goNext server none s).pageStack ≠ s.pageStack →
    (goPrev server none (goNext server none s)).monitors = s.monitors

/-- Page number `n` is shown, and the stack holds the tokens of the pages before it. -/
structure Shows (server : MonitorServer) (n : ℕ) (s : MonitorState) : Prop where
  exists_page : n = 0 ∨ n * 10 < server.list.length
  limit : s.limit = 10
  stack : s.pageStack = (List.range n).map server.token
  hasPrev : s.hasPrev = decide (0 < n)
  monitors : s.monitors = server.page n
  nextCursor : s.nextCursor = (numbered server.list 10 server.token n).next

variable {n : ℕ}

theorem Shows.length_pageStack (h : Shows server n s) : s.pageStack.length = n := by
  rw [h.stack, List.length_map, List.length_range]

/-! ## Requests -/

/-- The token of a page asks for the next one. -/
theorem ask_token (hn : (n + 1) * 10 < server.list.length) :
    server.ask 10 ((some (server.token n)).filter (· ≠ "")) =
      .ok (numbered server.list 10 server.token (n + 1)) := by
  rw [Option.filter_some, if_pos (decide_eq_true (server.token_ne_empty n hn))]
  exact server.paged.after n hn

/-- A request that is answered with page number `n` shows it. -/
theorem shows_fetchMonitors {cursor : Option String} (hpage : n = 0 ∨ n * 10 < server.list.length)
    (hlimit : s.limit = 10) (hstack : s.pageStack = (List.range n).map server.token)
    (hprev : s.hasPrev = decide (0 < n))
    (hanswer : server.ask 10 (cursor.filter (· ≠ "")) =
      .ok (numbered server.list 10 server.token n)) :
    Shows server n (fetchMonitors server none cursor s) := by
  unfold fetchMonitors
  dsimp only
  rw [hlimit, hanswer]
  exact ⟨hpage, rfl, hstack, hprev, rfl, rfl⟩

/-- A request that is lost changes nothing of it. -/
theorem Shows.fetchMonitors_lost (h : Shows server n s) (message : String)
    (cursor : Option String) : Shows server n (fetchMonitors server (some message) cursor s) :=
  ⟨h.exists_page, h.limit, h.stack, h.hasPrev, h.monitors, h.nextCursor⟩

/-- The first page is shown when the page is opened. -/
theorem shows_opened (server : MonitorServer) : Shows server 0 (opened server) :=
  shows_fetchMonitors (Or.inl rfl) rfl rfl rfl server.paged.first

/-! ## Actions -/

/-- **Next** shows the next page if there is one. -/
theorem shows_goNext (h : Shows server n s) (hn : (n + 1) * 10 < server.list.length) :
    Shows server (n + 1) (goNext server none s) := by
  have hnext : s.nextCursor.filter (· ≠ "") = some (server.token n) := by
    rw [h.nextCursor, numbered, if_pos hn, Option.filter_some,
      if_pos (decide_eq_true (server.token_ne_empty n hn))]
  unfold goNext
  rw [hnext]
  refine shows_fetchMonitors (Or.inr hn) h.limit ?_ (decide_eq_true n.succ_pos).symm (ask_token hn)
  rw [h.stack, List.range_succ, List.map_append, List.map_singleton]

/-- On the last page it does nothing. -/
theorem goNext_of_last (h : Shows server n s) (hn : ¬(n + 1) * 10 < server.list.length) :
    goNext server lost s = s := by
  have hnext : s.nextCursor.filter (· ≠ "") = none := by
    rw [h.nextCursor, numbered, if_neg hn, Option.filter_none]
  unfold goNext
  rw [hnext]

/-- **Previous** shows the page before. -/
theorem shows_goPrev (h : Shows server (n + 1) s) : Shows server n (goPrev server none s) := by
  have hne : s.pageStack ≠ [] := by
    rw [h.stack, Ne, List.map_eq_nil_iff]
    exact List.range_succ ▸ List.append_ne_nil_of_right_ne_nil _ (List.cons_ne_nil _ _)
  have hstack : s.pageStack.dropLast = (List.range n).map server.token := by
    rw [h.stack, List.range_succ, List.map_append, List.map_singleton, List.dropLast_concat]
  have hpage : (n + 1) * 10 < server.list.length := h.exists_page.resolve_left n.succ_ne_zero
  unfold goPrev
  rw [if_neg hne]
  refine shows_fetchMonitors (Or.inr (by omega)) h.limit hstack ?_ ?_
  · rw [hstack, List.length_map, List.length_range]
  · rw [hstack]
    cases n with
    | zero => exact server.paged.first
    | succ n =>
      rw [List.range_succ, List.map_append, List.map_singleton, List.getLast?_concat]
      exact ask_token (by omega)

/-- On the first page it does nothing. -/
theorem goPrev_of_first (h : Shows server 0 s) : goPrev server lost s = s := if_pos h.stack

/-- Refresh keeps the first page. -/
theorem shows_refresh (h : Shows server 0 s) : Shows server 0 (refresh server none s) :=
  shows_fetchMonitors (Or.inl rfl) h.limit h.stack h.hasPrev server.paged.first

/-- **What is shown is what the stack says.** -/
theorem displays_of_shows (h : Shows server n s) : Displays server s where
  monitors := by rw [h.length_pageStack, h.monitors]
  hasPrev := by rw [h.length_pageStack, h.hasPrev, decide_eq_true_iff, Nat.pos_iff_ne_zero]
  distinct := by
    rw [h.stack]
    refine List.Nodup.map_on (fun i hi j hj heq => ?_) List.nodup_range
    have hpage {i : ℕ} (hi : i ∈ List.range n) : (i + 1) * 10 < server.list.length := by
      rw [List.mem_range] at hi
      rcases h.exists_page with rfl | hn
      · omega
      · omega
    exact server.paged.token_injective (hpage hi) (hpage hj) heq
  back := by
    intro heffective
    by_cases hn : (n + 1) * 10 < server.list.length
    · rw [(shows_goPrev (shows_goNext h hn)).monitors, h.monitors]
    · exact absurd (congrArg _ (goNext_of_last h hn)) heffective

/-! ## Runs -/

/-- **An action that does not disturb the page**: Refresh gets through on the first page only,
and the request of Next or Previous, if there is one, gets through. -/
def KeepsPage (s : MonitorState) (x : PagingAction × Option String) : Prop :=
  match x.1 with
  | .next => s.nextCursor ≠ none → x.2 = none
  | .previous => s.pageStack ≠ [] → x.2 = none
  | .refresh => s.pageStack ≠ [] → x.2 ≠ none

/-- Such an action leaves some page shown. -/
theorem Shows.act {x : PagingAction × Option String} (h : Shows server n s)
    (hx : KeepsPage s x) : ∃ n', Shows server n' (x.1.act server x.2 s) := by
  obtain ⟨a, lost⟩ := x
  cases a with
  | next =>
    by_cases hn : (n + 1) * 10 < server.list.length
    · have hnext : s.nextCursor ≠ none := by
        rw [h.nextCursor, numbered, if_pos hn]
        exact Option.some_ne_none _
      obtain rfl : lost = none := hx hnext
      exact ⟨n + 1, shows_goNext h hn⟩
    · refine ⟨n, ?_⟩
      show Shows server n (goNext server lost s)
      rwa [goNext_of_last h hn]
  | previous =>
    cases n with
    | zero =>
      refine ⟨0, ?_⟩
      show Shows server 0 (goPrev server lost s)
      rwa [goPrev_of_first h]
    | succ n =>
      have hstack : s.pageStack ≠ [] := by
        rw [← List.length_pos_iff, h.length_pageStack]
        exact n.succ_pos
      obtain rfl : lost = none := hx hstack
      exact ⟨n, shows_goPrev h⟩
  | refresh =>
    cases lost with
    | some message => exact ⟨n, h.fetchMonitors_lost message none⟩
    | none =>
      have hfirst : s.pageStack = [] := by
        by_contra hstack
        exact hx hstack rfl
      obtain rfl : n = 0 := by rw [← h.length_pageStack, hfirst, List.length_nil]
      exact ⟨0, shows_refresh h⟩

/-- **The page that is shown is the one the stack says**, in every state of a run whose actions do
not disturb it: each entry of the stack is the cursor that ended the page before. -/
theorem displays_of_keepsPage (server : MonitorServer)
    (l : List (PagingAction × Option String)) (s : MonitorState)
    (h : Runs (fun s x t => PagingStep server s x t ∧ KeepsPage s x) (opened server) l s) :
    Displays server s := by
  have hshows : ∃ n, Shows server n s := by
    refine h.invariant (I := fun s => ∃ n, Shows server n s) ⟨0, shows_opened server⟩ ?_
    rintro x - t u ⟨rfl, hx⟩ ⟨n, ht⟩
    exact ht.act hx
  obtain ⟨n, hn⟩ := hshows
  exact displays_of_shows hn

/-- **Refresh disturbs any other page**: the first page is shown, and the stack still says
which page it was. -/
theorem not_displays_refresh (h : Shows server (n + 1) s) :
    ¬Displays server (refresh server none s) := by
  intro hdisplays
  have hpage := h.exists_page.resolve_left n.succ_ne_zero
  have hfirst : (refresh server none s).monitors = server.page 0 := by
    unfold refresh fetchMonitors
    dsimp only
    rw [h.limit, Option.filter_none, server.paged.first]
    rfl
  have hstack : (refresh server none s).pageStack = s.pageStack := by
    unfold refresh fetchMonitors
    dsimp only
    split <;> rfl
  have hsame := hdisplays.monitors
  rw [hfirst, hstack, h.length_pageStack] at hsame
  exact absurd (server.paged.eq_of_items_eq (by omega) hpage hsame) (by omega)

namespace Sample

/-- Eleven monitors of one team, created one after the other. -/
def eleven : Moment where
  listing :=
    { monitors := (List.range 11).map fun (i : ℕ) =>
        ⟨i + 1, 7, 9, "https://example.com", 60, 120, none, none, true, "", i⟩
      incidents := []
      alerts := [] }
  now := 0

theorem dated_eleven : eleven.listing.Dated where
  monitors := by
    have hyear : ∀ i < 11, Rfc3339.year (Time.ofMicros (i : ℕ)) = 1970 := by decide +kernel
    intro row hrow
    obtain ⟨i, hi, rfl⟩ := List.mem_map.mp hrow
    rw [Time.Dated, hyear i (List.mem_range.mp hi)]
    decide
  incidents := nofun

/-- The server that has them. -/
def elevenServer : MonitorServer :=
  .backend (fun _ _ => true) uuids 9 eleven ⟨by decide, by decide⟩ dated_eleven

theorem length_elevenServer : elevenServer.list.length = 11 := by
  refine length_remaining.trans ?_
  decide

end Sample

/-- Next, and Previous back. -/
theorem displays_of_keepsPage_sample : Displays Sample.elevenServer
    (goPrev Sample.elevenServer none (goNext Sample.elevenServer none
      (opened Sample.elevenServer))) :=
  displays_of_keepsPage Sample.elevenServer [(.next, none), (.previous, none)] _
    ((Runs.nil.snoc ⟨rfl, fun _ => rfl⟩).snoc ⟨rfl, fun _ => rfl⟩)

/-- Next, and then Refresh: the second of two pages is the one the stack says, and the first is
shown. -/
theorem refresh_shows_first_page : ¬∀ (server : MonitorServer)
    (l : List (PagingAction × Option String)) (s : MonitorState), (∀ x ∈ l, x.2 = none) →
    Runs (PagingStep server) (opened server) l s → Displays server s := by
  intro hall
  have hpage : (0 + 1) * 10 < Sample.elevenServer.list.length := by
    rw [Sample.length_elevenServer]
    decide
  refine not_displays_refresh (shows_goNext (shows_opened Sample.elevenServer) hpage) ?_
  exact hall Sample.elevenServer [(.next, none), (.refresh, none)] _ (by simp)
    ((Runs.nil.snoc rfl).snoc rfl)

end Sofon
