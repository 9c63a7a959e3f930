import Sofon.Foundations.Paging
import Sofon.Incident.Service
import Mathlib.Data.Int.Order.Basic

/-!
# Paging through the two lists

A client asks for the first page of the monitors or of the incidents of a team and then
follows the cursors.  Both lists are in descending order of a time and, where the times are
the same, of the id; the cursor is the two of them as a text.

## One request

The key of a row is its time and its id (`RowKey`), in the order of the pairs.  That is the order
of the database (`place_le_place_iff`), and a row is before the cursor exactly if its key is below
the key that the cursor stands for (`beforeCursor_eq`).  For this the text of the cursor has to be
decoded to the key it was made of, which is so if the time has a year of four digits
(`decodeCursor_cursor`).

So the query finds the rows below the key, as many as were asked for and one more; the service
keeps what was asked for and makes a cursor of the last if there was one more; and what the
client gets is a page of what lies below.  Each list has the three steps under the same names,
`found_eq_take`, `exists_page` and `ask_eq_page`.

## All of them

The rest knows nothing of SQL.  A list that is served in pages of what lies below a key shows every
element exactly once that is there from the first request to the last, and every other at most
once, whatever comes and goes in between.  Its keys have to be distinct, and they are, as they
contain the primary key (`servable`).

`pages_visitOnce` says it of both lists.  `not_pages_visitOnce` is the year 10000, for which the
text of a cursor has no room.
-/

namespace Sofon

open Interleaving Paging

/-- What a request is served from. -/
structure Moment where
  listing : Listing
  now : Time

variable (ilike : String → String → Bool) (uuids : UUIDText) (team : UUID)

/-- What a request comes to, if the database does not fail. -/
def Moment.answer {α : Type} (t : Moment) (p : ListingProg α) : α :=
  (p.run (Listing.serve ilike) [⟨false, t.now⟩] t.listing).2.1

/-- A handler that only makes something of what the service returns. -/
theorem Moment.answer_bind {ilike : String → String → Bool} {α β : Type} {t : Moment}
    {p : ListingProg α} {f : α → ListingProg β} {a : α} {b : β} (hp : t.answer ilike p = a)
    (hf : f a = pure b) : t.answer ilike (p >>= f) = b := by
  subst hp
  exact Program.run_bind_ret hf

/-- The primary keys. -/
structure Listing.Keyed (l : Listing) : Prop where
  monitors : (l.monitors.map (·.id)).Nodup
  incidents : (l.incidents.map (·.id)).Nodup

/-- An instant in a year of four digits. -/
def Time.Dated (t : Time) : Prop := 0 ≤ Rfc3339.year t ∧ Rfc3339.year t ≤ 9999

/-- Tables whose lists are ordered by such instants. -/
structure Listing.Dated (l : Listing) : Prop where
  monitors : ∀ row ∈ l.monitors, (Time.ofMicros row.createdAt).Dated
  incidents : ∀ row ∈ l.incidents, (Time.ofMicros row.startTime).Dated

/-! ## What both lists have in common -/

/-- The key of a row: a time, then an id. -/
abbrev RowKey := Time ×ₗ UUID

namespace RowKey

/-- The cursor that stands for a key. -/
def cursor (k : RowKey) : Cursor := ⟨(ofLex k).1, uuids.string (ofLex k).2⟩

/-- A key that comes back from the text of its cursor. -/
structure Sound (k : RowKey) : Prop where
  micros : ∃ us, (ofLex k).1 = Time.ofMicros us
  dated : (ofLex k).1.Dated

variable {uuids}

theorem parse_cursor (k : RowKey) : uuids.parse (k.cursor uuids).id = some (ofLex k).2 :=
  uuids.parse_string _

/-- The text of a cursor is decoded to the cursor. -/
theorem decodeCursor_cursor {timeName idName : List Char} {k : RowKey} (hk : k.Sound)
    (hnames : isField timeName idName = false) :
    decodeCursor timeName idName (encodeCursor timeName idName (k.cursor uuids)) =
      some (k.cursor uuids) :=
  decodeCursor_encodeCursor hnames (uuids.string_ne_empty _) hk.dated.1 hk.dated.2

end RowKey

namespace Time

theorem ofMicros_lt_ofMicros {us us' : ℤ} : ofMicros us < ofMicros us' ↔ us < us' := by
  unfold ofMicros
  exact Int.mul_lt_mul_right (by decide)

theorem ofMicros_inj {us us' : ℤ} : ofMicros us = ofMicros us' ↔ us = us' := by
  unfold ofMicros
  exact Int.mul_eq_mul_right_iff (by decide)

@[simp] theorem micros_ofMicros (us : ℤ) : (ofMicros us).micros = us :=
  Int.mul_ediv_cancel us (by decide)

end Time

/-- Rows in the order of the database are in the order of their keys. -/
theorem place_le_place_iff (ts ts' : ℤ) (id id' : UUID) :
    place ts id ≤ place ts' id' ↔
      (toLex (Time.ofMicros ts, id) : RowKey) ≤ toLex (Time.ofMicros ts', id') := by
  unfold place
  rw [Prod.Lex.toLex_le_toLex, Prod.Lex.toLex_le_toLex, Time.ofMicros_lt_ofMicros,
    Time.ofMicros_inj]

/-- **A row is before the cursor exactly if its key is below the key of the cursor.** -/
theorem beforeCursor_eq (c : Option RowKey) (hc : ∀ k ∈ c, k.Sound) (ts : ℤ) (id : UUID) :
    beforeCursor (c.map fun k => (ofLex k).1.micros) (c.map fun k => (ofLex k).2) ts id =
      c.all fun k => (toLex (Time.ofMicros ts, id) : RowKey) < k := by
  cases c with
  | none => rfl
  | some k =>
    obtain ⟨us, hus⟩ := (hc k rfl).micros
    have hkey : k = toLex (Time.ofMicros us, (ofLex k).2) := by
      rw [← hus]
      rfl
    rw [hkey, Bool.eq_iff_iff]
    simp only [Option.map_some, beforeCursor, Option.all_some, Option.any_some, ofLex_toLex,
      Prod.Lex.toLex_lt_toLex, Time.ofMicros_lt_ofMicros, Time.ofMicros_inj,
      Time.micros_ofMicros, Bool.or_eq_true, Bool.and_eq_true, decide_eq_true_eq]

/-- The number in a request is the number of rows on a page. -/
theorem pageLimit_some {default limit : ℕ} (hlimit : 1 ≤ limit) (hmax : limit ≤ 100) :
    pageLimit default (some (limit : ℤ)) = some limit := by
  have hin : ¬((limit : ℤ) ≤ 0 ∨ 100 < (limit : ℤ)) := by omega
  show (if _ then _ else _) = _
  rw [if_neg hin, Int.toNat_natCast]

/-! ## The list of monitors -/

namespace MonitorPages

/-- What a client sees of a page. -/
def reply (p : ListMonitorsPage) : Reply Monitor String := ⟨p.monitors, p.hasMore, p.nextCursor⟩

/-- One request, without a cursor or with one. -/
def ask (limit : ℕ) (cursor : Option String) (t : Moment) :
    Except ErrorBody (Reply Monitor String) :=
  (t.answer ilike (MonitorHandler.getAllMonitors uuids team (some limit) (cursor.getD ""))).map
    reply

/-- The place of a monitor in the list. -/
def key (m : Monitor) : RowKey := toLex (m.createdAt, m.id)

/-- The monitors that there are to see. -/
def matching (t : Moment) : List Monitor :=
  (t.listing.monitors.filter (·.teamID = team)).map fun row =>
    MonitorRepository.ofListRow (t.listing.monitorRow row)

/-- The text that stands for a key. -/
def token (k : RowKey) : String := MonitorCursor.encode (k.cursor uuids)

variable {ilike uuids team} {t : Moment}

/-- The monitors that the query finds. -/
def found (team : UUID) (l : Listing) (cursorTS : Option ℤ) (cursorID : Option UUID) (limit : ℕ) :
    List Monitor :=
  ((((l.monitors.filter fun row =>
    row.teamID = team && beforeCursor cursorTS cursorID row.createdAt row.id).mergeSort
      fun x y => place y.createdAt y.id ≤ place x.createdAt x.id).take limit).map
        l.monitorRow).map MonitorRepository.ofListRow

/-- They are the monitors below the cursor, as many as were asked for. -/
theorem found_eq_take {c : Option RowKey} (hc : ∀ k ∈ c, k.Sound) (l : Listing) (limit : ℕ) :
    found team l (c.map fun k => (ofLex k).1.micros) (c.map fun k => (ofLex k).2) limit =
      (remaining key c ((l.monitors.filter (·.teamID = team)).map fun row =>
        MonitorRepository.ofListRow (l.monitorRow row))).take limit := by
  have hp (row : MonitorRow) :
      beforeCursor (c.map fun k => (ofLex k).1.micros) (c.map fun k => (ofLex k).2) row.createdAt
        row.id = c.all fun k => key (MonitorRepository.ofListRow (l.monitorRow row)) < k :=
    beforeCursor_eq c hc _ _
  have hle (x y : MonitorRow) : decide (place y.createdAt y.id ≤ place x.createdAt x.id) =
      decide (key (MonitorRepository.ofListRow (l.monitorRow y)) ≤
        key (MonitorRepository.ofListRow (l.monitorRow x))) :=
    decide_eq_decide.mpr (place_le_place_iff _ _ _ _)
  unfold found
  rw [List.map_map, List.map_take, ← remaining_map hp hle, List.filter_filter]
  simp only [Bool.and_comm]
  rfl

/-- What the service makes of what the query finds. -/
theorem answer_getAllMonitors (opts : ListMonitorsOptions) :
    let monitors := found team t.listing (opts.cursor.map fun c => c.time.micros)
      (opts.cursor.bind fun c => uuids.parse c.id) (opts.limit + 1)
    let hasMore : Bool := opts.limit < monitors.length
    let shown := if hasMore then monitors.take opts.limit else monitors
    t.answer ilike (MonitorService.getAllMonitors uuids team opts) =
      .ok ⟨shown, hasMore, if hasMore then shown.getLast?.map fun last =>
        MonitorCursor.encode ⟨last.createdAt, uuids.string last.id⟩ else none, opts.limit⟩ := rfl

/-- The page that the service returns for a cursor is what lies below its key. -/
theorem exists_page (ilike : String → String → Bool) (uuids : UUIDText) (team : UUID) (t : Moment)
    {c : Option RowKey} (hc : ∀ k ∈ c, k.Sound) (limit : ℕ) :
    ∃ p, t.answer ilike (MonitorService.getAllMonitors uuids team
        ⟨limit, c.map (RowKey.cursor uuids)⟩) = .ok p ∧
      reply p = page key (token uuids) limit c (matching team t) := by
  have hts : (c.map (RowKey.cursor uuids)).map (fun c => c.time.micros) =
      c.map fun k => (ofLex k).1.micros := Option.map_map _ _ _
  have hid : (c.map (RowKey.cursor uuids)).bind (fun c => uuids.parse c.id) =
      c.map fun k => (ofLex k).2 := by
    rw [Option.bind_map]
    cases c with
    | none => rfl
    | some k => exact RowKey.parse_cursor k
  rw [answer_getAllMonitors, hts, hid,
    page_eq_fetch key (token uuids) limit c (matching team t) (found_eq_take hc _ _)]
  refine ⟨_, rfl, ?_⟩
  simp only [decide_eq_true_eq, reply]
  split
  · rfl
  · rfl

/-- **A request** is answered with a page of what lies below the cursor. -/
theorem ask_eq_page {limit : ℕ} (hlimit : 1 ≤ limit) (hmax : limit ≤ 100) {c : Option RowKey}
    (hc : ∀ k ∈ c, k.Sound) :
    ask ilike uuids team limit (c.map (token uuids)) t =
      .ok (page key (token uuids) limit c (matching team t)) := by
  obtain ⟨p, hp, hpage⟩ := exists_page ilike uuids team t hc limit
  rw [ask, ← hpage, MonitorHandler.getAllMonitors, pageLimit_some hlimit hmax]
  cases c with
  | none =>
    refine congrArg (Except.map reply) (?_ : _ = Except.ok p)
    exact Moment.answer_bind hp rfl
  | some k =>
    have hk := hc k rfl
    dsimp only [Option.map_some, Option.getD_some]
    have htext : token uuids k ≠ "" := encodeCursor_ne_empty _ _ _
    have hdecode : MonitorCursor.decode (token uuids k) = some (k.cursor uuids) :=
      RowKey.decodeCursor_cursor hk rfl
    rw [if_neg htext, hdecode]
    refine congrArg (Except.map reply) (?_ : _ = Except.ok p)
    exact Moment.answer_bind hp rfl

/-- The keys of the monitors are as different as the ids of the rows. -/
theorem servable (hkeyed : t.listing.Keyed) (hdated : t.listing.Dated) :
    Servable key (matching team) RowKey.Sound t where
  nodup := by
    refine List.Nodup.of_map (fun k : RowKey => (ofLex k).2) ?_
    have hids : ((matching team t).map key).map (fun k : RowKey => (ofLex k).2) =
        (t.listing.monitors.filter (·.teamID = team)).map (·.id) := by
      rw [matching, List.map_map, List.map_map]
      rfl
    rw [hids]
    exact hkeyed.monitors.sublist (List.filter_sublist.map _)
  sound := by
    intro m hm
    obtain ⟨row, hrow, rfl⟩ := List.mem_map.mp hm
    exact ⟨⟨row.createdAt, rfl⟩, hdated.monitors row (List.mem_of_mem_filter hrow)⟩

/-- **Paging through the monitors of a team.** -/
theorem visitsOnce {limit : ℕ} (hlimit : 1 ≤ limit) (hmax : limit ≤ 100) :
    VisitsOnce (ask ilike uuids team limit) key (matching team)
      (fun t => t.listing.Keyed ∧ t.listing.Dated) limit :=
  have hserves : Serves (ask ilike uuids team limit) key (matching team) (token uuids)
      RowKey.Sound limit := Serves.of_cursor fun _ _ hc => ask_eq_page hlimit hmax hc
  (visitsOnce_of_serves hserves hlimit).mono fun _ h => servable h.1 h.2

end MonitorPages

/-! ## The list of incidents -/

namespace IncidentPages

variable (filters : ListFilters)

/-- What a client sees of a page. -/
def reply (p : ListIncidentsPage) : Reply Incident String := ⟨p.incidents, p.hasMore, p.nextCursor⟩

/-- One request, without a cursor or with one. -/
def ask (limit : ℕ) (cursor : Option String) (t : Moment) :
    Except ErrorBody (Reply Incident String) :=
  (t.answer ilike (IncidentHandler.listIncidents uuids team (some limit) filters
    (cursor.getD ""))).map reply

/-- The place of an incident in the list. -/
def key (i : Incident) : RowKey := toLex (i.startTime, i.id)

/-- The incidents that there are to see. -/
def matching (t : Moment) : List Incident :=
  (t.listing.teamIncidents t.now team
    (Listing.matchesFilters ilike (IncidentRepository.sent filters))).map IncidentRepository.ofRow

/-- The text that stands for a key. -/
def token (k : RowKey) : String := IncidentCursor.encode (k.cursor uuids)

variable {ilike uuids team filters} {t : Moment}

/-- The incidents that the query finds. -/
def found (ilike : String → String → Bool) (team : UUID) (filters : ListFilters) (t : Moment)
    (cursorStart : Option ℤ) (cursorID : Option UUID) (limit : ℕ) : List Incident :=
  (((t.listing.teamIncidents t.now team fun mi m =>
    Listing.matchesFilters ilike (IncidentRepository.sent filters) mi m &&
      beforeCursor cursorStart cursorID mi.startTime mi.id).mergeSort
        fun x y => place y.startTime y.id ≤ place x.startTime x.id).take limit).map
          IncidentRepository.ofRow

/-- What is asked of an incident can be asked of the columns that are selected of it. -/
theorem teamIncidents_and (l : Listing) (now : Time) (p : IncidentRecord → MonitorRow → Bool)
    (q : ℤ → UUID → Bool) :
    l.teamIncidents now team (fun mi m => p mi m && q mi.startTime mi.id) =
      (l.teamIncidents now team p).filter fun row => q row.startTime row.id := by
  unfold Listing.teamIncidents
  rw [List.filter_flatMap]
  refine congrArg (List.flatMap · l.incidents) (funext fun mi => ?_)
  rw [List.filter_map, List.filter_filter]
  refine congrArg (List.map _) (List.filter_congr fun m _ => ?_)
  show _ = (q mi.startTime mi.id && _)
  simp only [Bool.and_comm, Bool.and_left_comm, Bool.and_assoc]

/-- They are the incidents below the cursor, as many as were asked for. -/
theorem found_eq_take {c : Option RowKey} (hc : ∀ k ∈ c, k.Sound) (limit : ℕ) :
    found ilike team filters t (c.map fun k => (ofLex k).1.micros) (c.map fun k => (ofLex k).2)
      limit = (remaining key c (matching ilike team filters t)).take limit := by
  have hp (row : IncidentListRow) :
      beforeCursor (c.map fun k => (ofLex k).1.micros) (c.map fun k => (ofLex k).2) row.startTime
        row.id = c.all fun k => key (IncidentRepository.ofRow row) < k :=
    beforeCursor_eq c hc _ _
  have hle (x y : IncidentListRow) : decide (place y.startTime y.id ≤ place x.startTime x.id) =
      decide (key (IncidentRepository.ofRow y) ≤ key (IncidentRepository.ofRow x)) :=
    decide_eq_decide.mpr (place_le_place_iff _ _ _ _)
  unfold found matching
  rw [List.map_take, teamIncidents_and]
  congr 1
  exact remaining_map hp hle _

/-- What the service makes of what the query finds. -/
theorem answer_listByTeamID {limit : ℕ} (hlimit : 1 ≤ limit) (c : Option RowKey) :
    let incidents := found ilike team filters t (c.map fun k => (ofLex k).1.micros)
      (c.map fun k => (ofLex k).2) (limit + 1)
    let hasMore : Bool := limit < incidents.length
    let shown := if hasMore then incidents.take limit else incidents
    t.answer ilike (IncidentService.listByTeamID uuids team
      ⟨limit, c.map (RowKey.cursor uuids), filters⟩) =
      .ok ⟨shown, hasMore, if hasMore then shown.getLast?.map fun last =>
        IncidentCursor.encode ⟨last.startTime, uuids.string last.id⟩ else none, filters,
        limit⟩ := by
  have hzero : limit ≠ 0 := by omega
  unfold IncidentService.listByTeamID IncidentRepository.listByTeamID
  dsimp only
  rw [if_neg hzero]
  cases c with
  | none => rfl
  | some k =>
    dsimp only [Option.map_some]
    rw [RowKey.parse_cursor]
    rfl

/-- The page that the service returns for a cursor is what lies below its key. -/
theorem exists_page (ilike : String → String → Bool) (uuids : UUIDText) (team : UUID)
    (filters : ListFilters) (t : Moment) {c : Option RowKey} (hc : ∀ k ∈ c, k.Sound) {limit : ℕ}
    (hlimit : 1 ≤ limit) :
    ∃ p, t.answer ilike (IncidentService.listByTeamID uuids team
        ⟨limit, c.map (RowKey.cursor uuids), filters⟩) = .ok p ∧
      reply p = page key (token uuids) limit c (matching ilike team filters t) := by
  rw [answer_listByTeamID hlimit c, page_eq_fetch key (token uuids) limit c
    (matching ilike team filters t) (found_eq_take hc _)]
  refine ⟨_, rfl, ?_⟩
  simp only [decide_eq_true_eq, reply]
  split
  · rfl
  · rfl

/-- No digit of base 64 is white space. -/
theorem goSpace_char : ∀ d < 64, goSpace (Base64.char d) = false := by decide

theorem trimSpace_token (k : RowKey) : trimSpace (token uuids k) = token uuids k := by
  have hspace : ∀ x ∈ (token uuids k).toList, goSpace x = false := by
    intro x hx
    obtain ⟨d, hd, rfl⟩ := exists_char_of_mem_encodeCursor hx
    exact goSpace_char d hd
  rw [trimSpace, Text.trim_eq_self hspace, String.ofList_toList]

/-- **A request** is answered with a page of what lies below the cursor. -/
theorem ask_eq_page {limit : ℕ} (hlimit : 1 ≤ limit) (hmax : limit ≤ 100)
    (hfilters : IncidentHandler.checkFilters filters = .ok ()) {c : Option RowKey}
    (hc : ∀ k ∈ c, k.Sound) :
    ask ilike uuids team filters limit (c.map (token uuids)) t =
      .ok (page key (token uuids) limit c (matching ilike team filters t)) := by
  obtain ⟨p, hp, hpage⟩ := exists_page ilike uuids team filters t hc hlimit
  rw [ask, ← hpage, IncidentHandler.listIncidents, pageLimit_some hlimit hmax, hfilters]
  cases c with
  | none =>
    refine congrArg (Except.map reply) (?_ : _ = Except.ok p)
    exact Moment.answer_bind hp rfl
  | some k =>
    have hk := hc k rfl
    dsimp only [Option.map_some, Option.getD_some]
    have htext : token uuids k ≠ "" := encodeCursor_ne_empty _ _ _
    have hdecode : IncidentCursor.decode (token uuids k) = some (k.cursor uuids) :=
      RowKey.decodeCursor_cursor hk rfl
    rw [trimSpace_token, if_neg htext, hdecode]
    dsimp only
    rw [RowKey.parse_cursor]
    refine congrArg (Except.map reply) (?_ : _ = Except.ok p)
    exact Moment.answer_bind hp rfl

/-- An incident has one monitor, so it is found once. -/
theorem ids_teamIncidents_sublist {l : Listing} (hkeyed : l.Keyed) (now : Time)
    (p : IncidentRecord → MonitorRow → Bool) :
    ((l.teamIncidents now team p).map (·.id)).Sublist (l.incidents.map (·.id)) := by
  unfold Listing.teamIncidents
  induction l.incidents with
  | nil => exact List.Sublist.slnil
  | cons mi mis ih =>
    rw [List.flatMap_cons, List.map_append, List.map_cons, ← List.singleton_append]
    refine List.Sublist.append ?_ ih
    have hone : (l.monitors.filter fun m =>
        m.id = mi.monitorID && m.teamID = team && p mi m).length ≤ 1 := by
      have hcount : (l.monitors.map (·.id)).count mi.monitorID ≤ 1 :=
        List.nodup_iff_count_le_one.mp hkeyed.monitors _
      rw [List.count, List.countP_map] at hcount
      refine Nat.le_trans ?_ hcount
      rw [← List.countP_eq_length_filter]
      refine List.countP_mono_left fun m _ hm => ?_
      simp only [Bool.and_eq_true, decide_eq_true_eq] at hm
      exact beq_iff_eq.mpr hm.1.1
    rw [List.map_map]
    cases hms : l.monitors.filter fun m =>
        m.id = mi.monitorID && m.teamID = team && p mi m with
    | nil => exact List.nil_sublist _
    | cons m ms =>
      rw [hms, List.length_cons] at hone
      obtain rfl : ms = [] := List.eq_nil_of_length_eq_zero (by omega)
      exact List.Sublist.refl _

/-- The keys of the incidents are as different as the ids of the rows. -/
theorem servable (hkeyed : t.listing.Keyed) (hdated : t.listing.Dated) :
    Servable key (matching ilike team filters) RowKey.Sound t where
  nodup := by
    refine List.Nodup.of_map (fun k : RowKey => (ofLex k).2) ?_
    have hids : ((matching ilike team filters t).map key).map (fun k : RowKey => (ofLex k).2) =
        (t.listing.teamIncidents t.now team
          (Listing.matchesFilters ilike (IncidentRepository.sent filters))).map (·.id) := by
      rw [matching, List.map_map, List.map_map]
      rfl
    rw [hids]
    exact hkeyed.incidents.sublist (ids_teamIncidents_sublist hkeyed _ _)
  sound := by
    intro i hi
    obtain ⟨row, hrow, rfl⟩ := List.mem_map.mp hi
    obtain ⟨mi, hmi, hrow⟩ := List.mem_flatMap.mp hrow
    obtain ⟨m, -, rfl⟩ := List.mem_map.mp hrow
    exact ⟨⟨mi.startTime, rfl⟩, hdated.incidents mi hmi⟩

/-- **Paging through the incidents of a team.** -/
theorem visitsOnce {limit : ℕ} (hlimit : 1 ≤ limit) (hmax : limit ≤ 100)
    (hfilters : IncidentHandler.checkFilters filters = .ok ()) :
    VisitsOnce (ask ilike uuids team filters limit) key (matching ilike team filters)
      (fun t => t.listing.Keyed ∧ t.listing.Dated) limit :=
  have hserves : Serves (ask ilike uuids team filters limit) key (matching ilike team filters)
      (token uuids) RowKey.Sound limit :=
    Serves.of_cursor fun _ _ hc => ask_eq_page hlimit hmax hfilters hc
  (visitsOnce_of_serves hserves hlimit).mono fun _ h => servable h.1 h.2

end IncidentPages

/-! ## Both lists -/

/-- **Paging visits every row exactly once**, if the times have years of four digits: in
strictly descending order, with an indication of further rows that is right when the page is
read, and on a table that does not change in as many pages as it takes. -/
theorem pages_visitOnce (ilike : String → String → Bool) (uuids : UUIDText) (team : UUID)
    (filters : ListFilters) (hfilters : IncidentHandler.checkFilters filters = .ok ()) (limit : ℕ)
    (hlimit : 1 ≤ limit) (hmax : limit ≤ 100) :
    VisitsOnce (MonitorPages.ask ilike uuids team limit) MonitorPages.key
      (MonitorPages.matching team) (fun t => t.listing.Keyed ∧ t.listing.Dated) limit ∧
    VisitsOnce (IncidentPages.ask ilike uuids team filters limit) IncidentPages.key
      (IncidentPages.matching ilike team filters)
      (fun t => t.listing.Keyed ∧ t.listing.Dated) limit :=
  ⟨MonitorPages.visitsOnce hlimit hmax, IncidentPages.visitsOnce hlimit hmax hfilters⟩

/-- Two monitors of one team that were created at the same instant. -/
def Sample.twins (createdAt : ℤ) : Moment where
  listing :=
    { monitors := [1, 2].map fun id =>
        ⟨id, 7, 9, "https://example.com", 60, 10, none, none, true, "", createdAt⟩
      incidents := []
      alerts := [] }
  now := 0

/-- Two pages of one monitor each. -/
theorem pages_visitOnce_twins :
    ∃ ps, Walk (MonitorPages.ask (fun _ _ => true) Sample.uuids 9 1)
      (List.replicate ps.length (Sample.twins 1700000000000000)) ps none ∧ ps.length = 2 := by
  have hvisits := (pages_visitOnce (fun _ _ => true) Sample.uuids 9
    ⟨"all", "", none, none, none⟩ rfl 1 (by decide) (by decide)).1
  have hyear : Rfc3339.year (Time.ofMicros 1700000000000000) = 2023 := by decide +kernel
  have hdated : (Time.ofMicros 1700000000000000).Dated := by
    rw [Time.Dated, hyear]
    decide
  have hok : (Sample.twins 1700000000000000).listing.Keyed ∧
      (Sample.twins 1700000000000000).listing.Dated := by
    refine ⟨⟨by decide, by decide⟩, ⟨fun row hrow => ?_, nofun⟩⟩
    obtain ⟨id, -, rfl⟩ := List.mem_map.mp hrow
    exact hdated
  obtain ⟨⟨ps, hps⟩, hlength⟩ := hvisits.ends _ hok
  exact ⟨ps, hps, (hlength ps none hps).mp rfl⟩

/-- **In the year 10000** there is no second page: the text of the cursor for it has a year of
five digits, and cannot be read. -/
theorem not_pages_visitOnce :
    ¬VisitsOnce (MonitorPages.ask (fun _ _ => true) Sample.uuids 9 1) MonitorPages.key
      (MonitorPages.matching 9) (fun t => t.listing.Keyed) 1 := by
  intro h
  set t := Sample.twins 253402300800000000 with ht
  have hkeyed : t.listing.Keyed := ⟨by decide, by decide⟩
  have hfirst : MonitorPages.ask (fun _ _ => true) Sample.uuids 9 1 none t =
      .ok (page MonitorPages.key (MonitorPages.token Sample.uuids) 1 none
        (MonitorPages.matching 9 t)) :=
    MonitorPages.ask_eq_page (by decide) (by decide) (c := none) nofun
  have hmore : (page MonitorPages.key (MonitorPages.token Sample.uuids) 1 none
      (MonitorPages.matching 9 t)).hasMore := by
    rw [hasMore_page, length_remaining]
    decide
  have hnodup : ((MonitorPages.matching 9 t).map MonitorPages.key).Nodup := by decide
  obtain ⟨m, hm, hnext, -⟩ := next_page hnodup (by decide) hmore
  have hwalk := Walk.start.next hfirst
  rw [if_pos hmore, hnext] at hwalk
  obtain ⟨p, hp, -⟩ := h.answered hwalk (fun u hu => List.mem_singleton.mp hu ▸ hkeyed) t hkeyed
  -- the cursor for the second page
  have hcreated : m.createdAt = Time.ofMicros 253402300800000000 := by
    have hcreated : ∀ m ∈ MonitorPages.matching 9 t,
        m.createdAt = Time.ofMicros 253402300800000000 := by decide
    exact hcreated m (mem_of_mem_page hm).1
  have hyear : Rfc3339.year (Time.ofMicros 253402300800000000) = 10000 := by decide +kernel
  have hdecode : MonitorCursor.decode (MonitorPages.token Sample.uuids (MonitorPages.key m)) =
      none := by
    refine decodeCursor_encodeCursor_eq_none rfl (Sample.uuids.string_ne_empty _) ?_
    show ¬(0 ≤ Rfc3339.year m.createdAt ∧ Rfc3339.year m.createdAt ≤ 9999)
    rw [hcreated, hyear]
    decide
  have htext : MonitorPages.token Sample.uuids (MonitorPages.key m) ≠ "" :=
    encodeCursor_ne_empty _ _ _
  rw [MonitorPages.ask, MonitorHandler.getAllMonitors,
    pageLimit_some (by decide : 1 ≤ 1) (by decide), Option.getD_some] at hp
  dsimp only at hp
  rw [if_neg htext, hdecode] at hp
  exact nomatch hp

end Sofon
