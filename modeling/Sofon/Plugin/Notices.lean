import Mathlib.Data.List.Perm.Subperm
import Sofon.Foundations.Embedding
import Sofon.Foundations.Tables
import Sofon.Plugin.Delivery
import Sofon.Result.OnceEachWay

/-!
# What becomes of an alert

The workers of the alert service take alerts at the same time, teams save and remove
configurations in between, and any call may fail.  Whatever happens, a delivery sends at most
one email, at most one event to Zenduty and writes at most one row of `alerts`, all of them
about the one alert it was given and only if the alert is meant for the plugin; and the row
says what became of the email (`Notice.Tells`).

## One delivery

A `Notice` is what a delivery has done so far: the email and whether it went out, the event for
Zenduty, the row and whether it is in the table.  `noticeProtocol` says which of these may come
next and what they have to say, and the code follows it (`follows_processAlert`).  Saves and
removals send and write nothing (`only_saves`).

## Many of them

`Told` reads the notice off the trace of a call, and the rule for pools carries it to every call
of an interleaving (`told_of_delivering`).  A row gets into `alerts` by an `INSERT` of a delivery
and in no other way, so the new rows are those that the notices say
(`exists_rows_of_delivering`), and `alerts` is a true record (`alerts_tell`).

Every email is for an alert of its own (`mails_of_delivering`): the emails are, one for one,
alerts that were to be delivered, each about its alert.  As an incident alerts at
most once each way, it mails at most once each way, and so it pages (`mails_once_each_way`).
-/

namespace Sofon

open Interleaving Program

variable {κ : Type}

/-! ## The notice of an alert -/

/-- What a delivery has done. -/
structure Notice where
  /-- the message handed to Resend, and whether Resend took it -/
  email : Option (SendEmailRequest × Bool)
  /-- the event handed to Zenduty -/
  page : Option EventRequest
  /-- the row for `alerts`, and whether its `INSERT` got through -/
  row : Option (AlertRow × Bool)

namespace Notice

/-- Nothing yet. -/
def blank : Notice := ⟨none, none, none⟩

/-- One more call. -/
def note (q : Notice) : Event (PluginCmd κ) PluginCmd.Resp → Notice
  | ⟨.sendEmail _ req, r⟩ => { q with email := some (req, r.isOk) }
  | ⟨.sendEvent _ req, _⟩ => { q with page := some req }
  | ⟨.insertAlert row, r⟩ => { q with row := some (row, r.isOk) }
  | _ => q

/-- What the calls of a trace come to. -/
def ofTrace (tr : List (Event (PluginCmd κ) PluginCmd.Resp)) : Notice := tr.foldl note blank

/-- The row that is in the table. -/
def stored (q : Notice) : Option AlertRow := q.row.bind fun x => if x.2 then some x.1 else none

/-- **The row tells what became of the email**: sent to these recipients at some time, not
taken by Resend, or not written at all. -/
def Tells (event : AlertEvent) (q : Notice) (row : AlertRow) : Prop :=
  row.incidentID = event.incidentID ∧
    match q.email with
    | some (req, true) =>
      row.status = "sent" ∧ row.alertEmail = ",".intercalate req.recipients ∧ row.sentAt ≠ none
    | some (req, false) =>
      row.status = "failed" ∧ row.alertEmail = ",".intercalate req.recipients ∧ row.sentAt = none
    | none =>
      (row.status = "failed" ∨ row.status = "skipped_no_plugin") ∧ row.alertEmail = "" ∧
        row.sentAt = none

end Notice

/-- The message that a call hands to Resend. -/
def mail? : Event (PluginCmd κ) PluginCmd.Resp → Option SendEmailRequest
  | ⟨.sendEmail _ req, _⟩ => some req
  | _ => none

/-- The event that a call hands to Zenduty. -/
def page? : Event (PluginCmd κ) PluginCmd.Resp → Option EventRequest
  | ⟨.sendEvent _ req, _⟩ => some req
  | _ => none

/-- The row that a call adds to `alerts`. -/
def written? : Event (PluginCmd κ) PluginCmd.Resp → Option AlertRow
  | ⟨.insertAlert row, r⟩ => if r.isOk then some row else none
  | _ => none

/-- The alert that a call delivers, if it is meant for the plugin. -/
def PluginCall.alert? (plugin : String) : PluginCall → Option AlertEvent
  | processAlert event =>
    if AlertService.channelEnabled event.notificationChannels plugin then some event else none
  | _ => none

/-- The alert that a call delivers. -/
def PluginCall.event? : PluginCall → Option AlertEvent
  | processAlert event => some event
  | _ => none

/-- The alerts among the calls that are meant for the plugin. -/
def alertsFor (plugin : String) (calls : List PluginCall) : List AlertEvent :=
  calls.filterMap (PluginCall.alert? plugin)

/-- Calls at the same time. -/
abbrev NoticePool (κ : Type) := Pool (PluginCmd κ) PluginCmd.Resp Unit (PluginStore κ)

/-- All messages that were handed to Resend. -/
def NoticePool.mails (p : NoticePool κ) : List SendEmailRequest :=
  p.threads.flatMap fun t => t.log.filterMap mail?

/-- All events that were handed to Zenduty. -/
def NoticePool.pages (p : NoticePool κ) : List EventRequest :=
  p.threads.flatMap fun t => t.log.filterMap page?

/-- The calls are made, in some order, and any command may fail. -/
abbrev Delivering (enc : Encryptor κ) (isAddress : String → Bool) (s : PluginStore κ)
    (calls : List PluginCall) (p : NoticePool κ) : Prop :=
  Pool.Reaches (Interpreter (PluginStore.serve enc)) (fun _ _ _ => True)
    (Pool.start s (calls.map (PluginCall.prog enc isAddress))) p

/-! ## What a delivery may do -/

/-- The calls of the alert service and of the plugin service, as far as they write: a delivery
sends and writes what it has not sent or written yet. -/
def noticeProtocol (call : Option PluginCall) : Protocol (PluginCmd κ) PluginCmd.Resp Notice where
  start := .blank
  next := Notice.note
  allows q c := match c with
    | .sendEmail _ req => call.bind (PluginCall.alert? "resend") = some req.event ∧
        q.email = none ∧ q.row = none
    | .sendEvent _ req => call.bind (PluginCall.alert? "zenduty") = some req.event ∧ q.page = none
    | .insertAlert row => q.row = none ∧
        ∃ event, call.bind (PluginCall.alert? "resend") = some event ∧ q.Tells event row
    | _ => True
  answers _ := True

/-- The calls that neither send nor write a row of `alerts`. -/
def PluginCmd.unnoticed : PluginCmd κ → Bool
  | sendEmail .. => false
  | sendEvent .. => false
  | insertAlert _ => false
  | _ => true

section Programs

variable {event : AlertEvent} {enc : Encryptor κ} {q : Notice} {call : Option PluginCall}

theorem note_of_unnoticed {c : PluginCmd κ} (hc : c.unnoticed) (r : c.Resp) :
    q.note ⟨c, r⟩ = q := by
  cases c with
  | sendEmail | sendEvent | insertAlert => cases hc
  | _ => rfl

/-- A row is written. -/
theorem follows_persistAlert {alertEmail status : String} {sentAt : Option Time}
    (hcall : call.bind (PluginCall.alert? "resend") = some event) (hrow : q.row = none)
    (htells : q.Tells event ⟨event.incidentID, alertEmail, status, sentAt⟩) :
    (AlertService.persistAlert event.incidentID alertEmail status sentAt).Follows
      (noticeProtocol (κ := κ) call) (fun _ q' => q'.page = q.page ∧ q'.row ≠ none) q :=
  ⟨⟨hrow, event, hcall, htells⟩, fun _ _ => ⟨rfl, Option.some_ne_none _⟩⟩

theorem follows_sendResend (cfg : ResendEmailConfig)
    (hcall : call.bind (PluginCall.alert? "resend") = some event) (hemail : q.email = none)
    (hrow : q.row = none) :
    (AlertService.sendResend cfg event).Follows (noticeProtocol (κ := κ) call)
      (fun _ q' => q'.page = q.page ∧ q'.row ≠ none) q := by
  unfold AlertService.sendResend
  split
  · refine follows_persistAlert hcall hrow ⟨rfl, ?_⟩
    rw [hemail]
    exact ⟨Or.inl rfl, rfl, rfl⟩
  · refine ⟨trivial, fun sentAt _ => ⟨⟨hcall, hemail, hrow⟩, fun sent _ => ?_⟩⟩
    rcases sent with err | name
    · exact follows_persistAlert hcall hrow ⟨rfl, rfl, rfl, rfl⟩
    · exact follows_persistAlert hcall hrow ⟨rfl, rfl, rfl, Option.some_ne_none _⟩

theorem follows_getConfig {P : Protocol (PluginCmd κ) PluginCmd.Resp Notice} {α : Type}
    {op pluginType : String} {ofMap : ConfigMap → α} {team : UUID}
    (hallows : P.allows q (.getPlugin team pluginType))
    (hnext : ∀ r, P.next q ⟨.getPlugin team pluginType, r⟩ = q) :
    (PluginRepository.getConfig enc op pluginType ofMap team).Follows P (fun _ q' => q' = q) q := by
  refine ⟨hallows, fun found _ => ?_⟩
  rw [hnext]
  rcases found with err | row
  · cases err <;> rfl
  · show (if row.enabled then _ else _ : PluginProg κ _).Follows P _ q
    split
    · split <;> rfl
    · rfl

theorem follows_handleResend (hcall : call.bind (PluginCall.alert? "resend") = some event)
    (hemail : q.email = none) (hrow : q.row = none) :
    (AlertService.handleResend enc event).Follows (noticeProtocol call)
      (fun _ q' => q'.page = q.page ∧ q'.row ≠ none) q := by
  have htells (status : String) (hstatus : status = "failed" ∨ status = "skipped_no_plugin") :
      q.Tells event ⟨event.incidentID, "", status, none⟩ := by
    refine ⟨rfl, ?_⟩
    rw [hemail]
    exact ⟨hstatus, rfl, rfl⟩
  refine ⟨trivial, fun copy _ => ?_⟩
  rcases copy with - | cfg
  · refine (follows_bind_iff (p := PluginRepository.getResendConfig enc event.teamID)).mpr
      ((follows_getConfig trivial fun _ => rfl).mono ?_)
    rintro (err | - | cfg) q' rfl
    · exact follows_persistAlert hcall hrow (htells _ (Or.inl rfl))
    · exact follows_persistAlert hcall hrow (htells _ (Or.inr rfl))
    · exact ⟨trivial, fun _ _ => follows_sendResend cfg hcall hemail hrow⟩
  · exact follows_sendResend cfg hcall hemail hrow

/-- Zenduty has no row. -/
theorem follows_handleZenduty (hcall : call.bind (PluginCall.alert? "zenduty") = some event)
    (hpage : q.page = none) :
    (AlertService.handleZenduty enc event).Follows (noticeProtocol call)
      (fun _ q' => q'.row = q.row) q := by
  refine ⟨trivial, fun copy _ => ?_⟩
  rcases copy with - | cfg
  · refine (follows_bind_iff (p := PluginRepository.getZendutyConfig enc event.teamID)).mpr
      ((follows_getConfig trivial fun _ => rfl).mono ?_)
    rintro (err | - | cfg) q' rfl
    · rfl
    · rfl
    · exact ⟨trivial, fun _ _ => ⟨⟨hcall, hpage⟩, fun _ _ => rfl⟩⟩
  · exact ⟨⟨hcall, hpage⟩, fun _ _ => rfl⟩

/-- **A delivery sends and writes once**, and writes a row if it is to send an email. -/
theorem follows_processAlert : (AlertService.processAlert enc event).Follows
    (noticeProtocol (some (.processAlert event)))
    (fun _ q => PluginCall.alert? "resend" (.processAlert event) ≠ none → q.row ≠ none)
    .blank := by
  have halert {plugin : String}
      (hon : AlertService.channelEnabled event.notificationChannels plugin = true) :
      (some (PluginCall.processAlert event)).bind (PluginCall.alert? plugin) = some event :=
    if_pos hon
  have hzenduty {q : Notice} (hpage : q.page = none) {R : Prop} (hrow : R → q.row ≠ none) :
      (if AlertService.channelEnabled event.notificationChannels "zenduty" then
        AlertService.handleZenduty enc event else pure ()).Follows
        (noticeProtocol (some (.processAlert event))) (fun _ q' => R → q'.row ≠ none) q := by
    split
    · rename_i hon
      refine (follows_handleZenduty (halert hon) hpage).mono fun _ q' hsame hR => ?_
      rw [hsame]
      exact hrow hR
    · exact hrow
  unfold AlertService.processAlert
  extract_lets
  split
  · rename_i hon
    refine Follows.bind (follows_handleResend (halert hon) rfl rfl) fun _ q' hq' => ?_
    exact hzenduty hq'.1 fun _ => hq'.2
  · rename_i hoff
    exact hzenduty rfl fun hon => absurd (if_neg hoff) hon

/-- Saves and removals send nothing. -/
theorem only_saves {isAddress : String → Bool} {call : PluginCall}
    (h : ∀ event, call ≠ .processAlert event) :
    (call.prog enc isAddress).Only fun c => c.unnoticed = true := by
  cases call with
  | processAlert event => exact absurd rfl (h event)
  | upsertPlugin team pluginType enabled config =>
    refine Only.bind ?_ fun _ => trivial
    unfold PluginService.upsertPlugin
    split
    · trivial
    · refine ⟨rfl, fun sealed => ?_⟩
      rcases sealed with err | configEnc
      · trivial
      · refine ⟨rfl, fun row => ?_⟩
        rcases row with err | row <;> trivial
  | deletePlugin team pluginType =>
    refine ⟨rfl, fun gone => ?_⟩
    rcases gone with err | u <;> trivial

theorem follows_call (isAddress : String → Bool) (call : PluginCall) :
    (call.prog enc isAddress).Follows (noticeProtocol (some call))
      (fun _ q => call.alert? "resend" ≠ none → q.row ≠ none) .blank := by
  have hsaves (h : ∀ event, call ≠ .processAlert event) :
      (call.prog enc isAddress).Follows (noticeProtocol (some call))
        (fun _ q => q = .blank) .blank := by
    refine (only_saves h).follows (fun c hc => ?_) fun c r hc => note_of_unnoticed hc r
    cases c with
    | sendEmail | sendEvent | insertAlert => cases hc
    | _ => trivial
  cases call with
  | processAlert event => exact follows_processAlert
  | upsertPlugin | deletePlugin =>
    exact (hsaves fun _ => PluginCall.noConfusion).mono fun _ _ _ hnone => absurd rfl hnone

end Programs

/-! ## Interleavings -/

namespace Notice

/-- What the trace of a call shows of its notice, and whom it is about. -/
structure Told (call : Option PluginCall) (q : Notice)
    (tr : List (Event (PluginCmd κ) PluginCmd.Resp)) : Prop where
  trace : ofTrace tr = q
  mails : tr.filterMap mail? = (q.email.map Prod.fst).toList
  pages : tr.filterMap page? = q.page.toList
  mailed : ∀ x ∈ q.email, call.bind (PluginCall.alert? "resend") = some x.1.event
  paged : ∀ req ∈ q.page, call.bind (PluginCall.alert? "zenduty") = some req.event
  row : ∀ x ∈ q.row, ∃ event, call.bind (PluginCall.alert? "resend") = some event ∧
    q.Tells event x.1

theorem told_blank (call : Option PluginCall) : blank.Told (κ := κ) call [] :=
  ⟨rfl, rfl, rfl, nofun, nofun, nofun⟩

/-- **One more call that the protocol allows.** -/
theorem Told.step {call : Option PluginCall} {q : Notice}
    {tr : List (Event (PluginCmd κ) PluginCmd.Resp)} {e : Event (PluginCmd κ) PluginCmd.Resp}
    (hallows : (noticeProtocol call).allows q e.cmd) (h : q.Told call tr) :
    (q.note e).Told call (tr ++ [e]) := by
  have htrace : ofTrace (tr ++ [e]) = q.note e := by
    rw [ofTrace, List.foldl_append, ← ofTrace, h.trace]
    rfl
  obtain ⟨c, r⟩ := e
  have hmails := h.mails
  have hpages := h.pages
  cases c with
  | sendEmail apiKey req =>
    obtain ⟨hcall, hemail, hrow⟩ := hallows
    rw [hemail] at hmails
    refine ⟨htrace, ?_, ?_, ?_, h.paged, ?_⟩
    · rw [List.filterMap_append, hmails]
      rfl
    · rw [List.filterMap_append, hpages]
      exact List.append_nil _
    · intro x hx
      obtain rfl := Option.some.inj hx
      exact hcall
    · intro x hx
      cases hrow.symm.trans hx
  | sendEvent integrationURL req =>
    obtain ⟨hcall, hpage⟩ := hallows
    rw [hpage] at hpages
    refine ⟨htrace, ?_, ?_, h.mailed, ?_, h.row⟩
    · rw [List.filterMap_append, hmails]
      exact List.append_nil _
    · rw [List.filterMap_append, hpages]
      rfl
    · intro req' hreq
      obtain rfl := Option.some.inj hreq
      exact hcall
  | insertAlert row =>
    obtain ⟨-, event, hcall, htells⟩ := hallows
    refine ⟨htrace, ?_, ?_, h.mailed, h.paged, ?_⟩
    · rw [List.filterMap_append, hmails]
      exact List.append_nil _
    · rw [List.filterMap_append, hpages]
      exact List.append_nil _
    · intro x hx
      obtain rfl := Option.some.inj hx
      exact ⟨event, hcall, htells⟩
  | _ =>
    refine ⟨htrace, ?_, ?_, h.mailed, h.paged, h.row⟩
    · rw [List.filterMap_append, hmails]
      exact List.append_nil _
    · rw [List.filterMap_append, hpages]
      exact List.append_nil _

/-- The row that a call adds is the row of its notice, which had none before. -/
theorem stored_note {call : Option PluginCall} {q : Notice}
    {e : Event (PluginCmd κ) PluginCmd.Resp} (hallows : (noticeProtocol call).allows q e.cmd) :
    (q.note e).stored = (written? e).or q.stored ∧ (written? e ≠ none → q.stored = none) := by
  obtain ⟨c, r⟩ := e
  cases c with
  | insertAlert row =>
    have hnone : q.stored = none := by
      rw [stored, hallows.1]
      rfl
    refine ⟨?_, fun _ => hnone⟩
    rw [hnone, Option.or_none]
    rfl
  | _ => exact ⟨rfl, fun h => absurd rfl h⟩

end Notice

section Interleavings

variable {enc : Encryptor κ} {isAddress : String → Bool} {s s' : PluginStore κ}
  {calls : List PluginCall} {p : NoticePool κ}

/-- **What a call does to `alerts`.**  It adds the row that its `INSERT` says, if it is one that
gets through, and nothing else ever changes the table. -/
theorem PluginStore.alerts_of_serves {c : PluginCmd κ} {r : c.Resp}
    (h : Interpreter (PluginStore.serve enc) s c r s') :
    s'.alerts = s.alerts ++ (written? ⟨c, r⟩).toList := by
  obtain ⟨e, he⟩ := h
  unfold PluginStore.serve at he
  split at he
  · cases he
    cases c <;> exact (List.append_nil _).symm
  · cases he
    cases c with
    | insertAlert row => rfl
    | getPlugin team pluginType =>
      show (s.exec enc e (.getPlugin team pluginType)).2.alerts = s.alerts ++ []
      rw [exec_getPlugin, List.append_nil]
    | upsertPlugin team pluginType enabled configEnc =>
      show (s.upsert team pluginType enabled configEnc).2.alerts = s.alerts ++ []
      rw [List.append_nil]
      unfold upsert
      split <;> rfl
    | _ => exact (List.append_nil _).symm

/-- **The rows that are in the table are those that the notices say.** -/
theorem exists_rows_of_delivering (h : Delivering enc isAddress s calls p) :
    ∃ rows, p.shared.alerts = s.alerts ++ rows ∧
      rows.Perm (p.threads.filterMap fun t => (Notice.ofTrace t.log).stored) := by
  have hstages (p : NoticePool κ) : (p.stages fun i => noticeProtocol calls[i]?).filterMap
      Notice.stored = p.threads.filterMap fun t => (Notice.ofTrace t.log).stored := by
    have hsame : (p.stages fun i => noticeProtocol calls[i]?) =
        p.threads.map fun t => Notice.ofTrace t.log := 
      List.mapIdx_eq_iff.mpr fun i => List.getElem?_map
    rw [hsame, List.filterMap_map]
    rfl
  have hobeys : Pool.Obeys (fun i => noticeProtocol calls[i]?)
      (Pool.start s (calls.map (PluginCall.prog enc isAddress))) := by
    refine Pool.obeys_start fun i q hq => ?_
    rw [List.getElem?_map] at hq
    obtain ⟨call, hcall, rfl⟩ := Option.map_eq_some_iff.mp hq
    rw [hcall]
    exact (follows_call isAddress call).mono fun _ _ _ => trivial
  have hstart : ((Pool.start s (calls.map (PluginCall.prog enc isAddress))).stages
      fun i => noticeProtocol calls[i]?).filterMap Notice.stored = [] := by
    refine List.filterMap_eq_nil_iff.mpr fun q hq => ?_
    obtain ⟨i, rfl⟩ := Pool.mem_stages_start hq
    rfl
  have hinv := h.invariant_obeys (I := fun t qs => ∃ rows, t.alerts = s.alerts ++ rows ∧
    rows.Perm (qs.filterMap Notice.stored)) hobeys
    ⟨[], (List.append_nil _).symm, .of_eq hstart.symm⟩ (fun _ _ _ _ _ _ => trivial) ?_
  · obtain ⟨-, rows, halerts, hperm⟩ := hinv
    exact ⟨rows, halerts, hperm.trans (.of_eq (hstages p))⟩
  rintro p i ⟨c, r⟩ s' q - hserves hq hallows ⟨rows, halerts, hperm⟩
  have hgrows := PluginStore.alerts_of_serves hserves
  refine ⟨rows ++ (written? ⟨c, r⟩).toList, ?_, ?_⟩
  · rw [hgrows, halerts, List.append_assoc]
  · obtain ⟨hnote, hnone⟩ := Notice.stored_note hallows
    cases hrow : written? ⟨c, r⟩ with
    | none =>
      rw [hrow, Option.none_or] at hnote
      show (rows ++ []).Perm ((_ : List Notice).filterMap Notice.stored)
      rw [List.append_nil]
      exact hperm.trans (.of_eq (List.filterMap_set_eq hq hnote).symm)
    | some row =>
      rw [hrow, Option.some_or] at hnote
      have hbefore : q.stored = none := hnone (hrow ▸ Option.some_ne_none row)
      exact (hperm.append_right [row]).trans (List.filterMap_set_perm hq hbefore hnote)

theorem told_of_delivering (h : Delivering enc isAddress s calls p) {i : ℕ} {call : PluginCall}
    (hcall : calls[i]? = some call) {t : Thread (PluginCmd κ) PluginCmd.Resp Unit}
    (ht : p.threads[i]? = some t) :
    (Notice.ofTrace t.log).Told (some call) t.log ∧ (t.todo.returned →
      call.alert? "resend" ≠ none → (Notice.ofTrace t.log).row ≠ none) := by
  have hprog : (calls.map (PluginCall.prog enc isAddress))[i]? =
      some (call.prog enc isAddress) := by
    rw [List.getElem?_map, hcall]
    rfl
  obtain ⟨hfollows, htold⟩ := h.thread (K := fun q tr => q.Told (some call) tr)
    (fun _ _ _ _ _ => trivial) hprog (follows_call isAddress call) (Notice.told_blank _)
    (fun q tr e hallows hq => hq.step hallows) ht
  refine ⟨htold, fun hreturned => ?_⟩
  obtain ⟨u, hret⟩ := returned_iff.mp hreturned
  rw [hret] at hfollows
  exact hfollows

theorem length_threads_of_delivering (h : Delivering enc isAddress s calls p) :
    p.threads.length = calls.length := by
  rw [h.length_threads]
  simp [Pool.start]

/-- **Every email is for an alert of its own**, which is meant for Resend. -/
theorem mails_of_delivering (h : Delivering enc isAddress s calls p) :
    (p.mails.map SendEmailRequest.event).Sublist (alertsFor "resend" calls) := by
  rw [NoticePool.mails, List.map_flatMap]
  refine List.flatMap_sublist_filterMap (length_threads_of_delivering h) fun i t call ht hcall => ?_
  have htold := (told_of_delivering h hcall ht).1
  rw [htold.mails]
  cases hemail : (Notice.ofTrace t.log).email with
  | none => exact List.nil_sublist _
  | some x =>
    have hevent : call.alert? "resend" = some x.1.event := htold.mailed x hemail
    rw [hevent]
    exact List.Sublist.refl _

/-- Every event for Zenduty is for an alert of its own, which is meant for Zenduty. -/
theorem pages_of_delivering (h : Delivering enc isAddress s calls p) :
    (p.pages.map EventRequest.event).Sublist (alertsFor "zenduty" calls) := by
  rw [NoticePool.pages, List.map_flatMap]
  refine List.flatMap_sublist_filterMap (length_threads_of_delivering h) fun i t call ht hcall => ?_
  have htold := (told_of_delivering h hcall ht).1
  rw [htold.pages]
  cases hpage : (Notice.ofTrace t.log).page with
  | none => exact List.nil_sublist _
  | some req =>
    have hevent : call.alert? "zenduty" = some req.event := htold.paged req hpage
    rw [hevent]
    exact List.Sublist.refl _

/-- **A row is about the alert of its delivery.** -/
theorem tells_of_stored (h : Delivering enc isAddress s calls p) {i : ℕ} {call : PluginCall}
    (hcall : calls[i]? = some call) {t : Thread (PluginCmd κ) PluginCmd.Resp Unit}
    (ht : p.threads[i]? = some t) {row : AlertRow}
    (hrow : (Notice.ofTrace t.log).stored = some row) :
    ∃ event, call.alert? "resend" = some event ∧ (Notice.ofTrace t.log).Tells event row := by
  obtain ⟨x, hx, hstored⟩ := Option.bind_eq_some_iff.mp hrow
  split at hstored
  · obtain rfl := Option.some.inj hstored
    exact (told_of_delivering h hcall ht).1.row x hx
  · cases hstored

/-- The ids of the new rows are those of alerts, each of its own. -/
theorem rows_of_delivering (h : Delivering enc isAddress s calls p) :
    ((p.shared.alerts.drop s.alerts.length).map AlertRow.incidentID).Subperm
      ((alertsFor "resend" calls).map AlertEvent.incidentID) := by
  obtain ⟨rows, halerts, hperm⟩ := exists_rows_of_delivering h
  rw [halerts, List.drop_left]
  refine (hperm.map _).subperm.trans (List.Sublist.subperm ?_)
  rw [alertsFor, List.map_filterMap, List.map_filterMap, List.filterMap_eq_flatMap_toList]
  refine List.flatMap_sublist_filterMap (length_threads_of_delivering h) fun i t call ht hcall => ?_
  cases hrow : (Notice.ofTrace t.log).stored with
  | none => exact List.nil_sublist _
  | some row =>
    obtain ⟨event, hevent, hid, -⟩ := tells_of_stored h hcall ht hrow
    rw [hevent, Option.map_some, Option.map_some, hid]

/-- The alerts for one plugin are among all alerts. -/
theorem alertsFor_sublist (plugin : String) (calls : List PluginCall) :
    (alertsFor plugin calls).Sublist (calls.filterMap PluginCall.event?) := by
  rw [alertsFor, List.filterMap_eq_flatMap_toList]
  refine List.flatMap_sublist_filterMap rfl fun i call call' hcall hcall' => ?_
  obtain rfl := Option.some.inj (hcall.symm.trans hcall')
  cases call with
  | processAlert event =>
    show (if _ then some event else none).toList.Sublist [event]
    split
    · exact List.Sublist.refl _
    · exact List.nil_sublist _
  | upsertPlugin | deletePlugin => exact List.nil_sublist _

/-- An alert is a `DOWN` or a `RECOVERED`. -/
theorem countP_incident (id : UUID) (evs : List AlertEvent) :
    evs.countP (·.incidentID = id) =
      evs.countP (fun ev => ev.type = .down ∧ ev.incidentID = id) +
        evs.countP (fun ev => ev.type = .recovered ∧ ev.incidentID = id) := by
  induction evs with
  | nil => rfl
  | cons ev evs ih =>
    rw [List.countP_cons, List.countP_cons, List.countP_cons, ih]
    by_cases hid : ev.incidentID = id
    · cases htype : ev.type <;> simp [hid] <;> omega
    · simp [hid]

/-- **An incident mails at most once each way**, and so it pages: whatever the handlers of
results do at the same time and whichever of their calls fail, if each alert that they have sent
is taken by at most one worker, then whatever the workers do at the same time, among saves and
removals of configurations, and whichever of their calls fail, at most one email and one event
for Zenduty go out for the incident and the type of alert, and `alerts` has two new rows of the
incident at most. -/
theorem mails_once_each_way {cfg : ResultProcessorConfig} {w : World} {jobs : List (UUID × Job)}
    {handlers : Pool Cmd Cmd.Resp Unit World} (hw : w.db.IncidentKeyed)
    (hhandlers : Leads (startJobs cfg w jobs) handlers)
    (htaken : (calls.filterMap PluginCall.event?).Subperm (w.sentSince handlers.shared))
    (h : Delivering enc isAddress s calls p) (type : AlertType) (id : UUID) :
    p.mails.countP (fun req => req.event.type = type ∧ req.event.incidentID = id) ≤ 1 ∧
      p.pages.countP (fun req => req.event.type = type ∧ req.event.incidentID = id) ≤ 1 ∧
      (p.shared.alerts.drop s.alerts.length).countP (·.incidentID = id) ≤ 2 := by
  have hcalls (plugin : String) : (alertsFor plugin calls).Subperm (w.sentSince handlers.shared) :=
    (alertsFor_sublist plugin calls).subperm.trans htaken
  have honce := alerts_at_most_once hw hhandlers
  refine ⟨?_, ?_, ?_⟩
  · have hle := ((mails_of_delivering h).subperm.trans (hcalls "resend")).countP_le
      fun ev => ev.type = type ∧ ev.incidentID = id
    rw [List.countP_map] at hle
    exact hle.trans (honce type id)
  · have hle := ((pages_of_delivering h).subperm.trans (hcalls "zenduty")).countP_le
      fun ev => ev.type = type ∧ ev.incidentID = id
    rw [List.countP_map] at hle
    exact hle.trans (honce type id)
  · have hrows := (rows_of_delivering h).countP_le (· = id)
    rw [List.countP_map, List.countP_map] at hrows
    have hsent := (hcalls "resend").countP_le (·.incidentID = id)
    have htypes := countP_incident id (w.sentSince handlers.shared)
    have hdown := honce .down id
    have hrecovered := honce .recovered id
    refine hrows.trans (hsent.trans ?_)
    omega

/-- Once all calls have returned and no `INSERT` was lost, every alert has its row. -/
theorem rows_of_finished (h : Delivering enc isAddress s calls p) (hfinished : p.Finished)
    (hkept : ∀ t ∈ p.threads, ∀ x ∈ (Notice.ofTrace t.log).row, x.2 = true) :
    ((alertsFor "resend" calls).map AlertEvent.incidentID).Subperm
      ((p.shared.alerts.drop s.alerts.length).map AlertRow.incidentID) := by
  obtain ⟨rows, halerts, hperm⟩ := exists_rows_of_delivering h
  rw [halerts, List.drop_left]
  refine (List.Sublist.subperm ?_).trans (hperm.map _).symm.subperm
  rw [alertsFor, List.map_filterMap, List.map_filterMap, List.filterMap_eq_flatMap_toList]
  refine List.flatMap_sublist_filterMap (length_threads_of_delivering h).symm
    fun i call t hcall ht => ?_
  cases hevent : call.alert? "resend" with
  | none => exact List.nil_sublist _
  | some event =>
    have hmem := List.mem_of_getElem? ht
    obtain ⟨-, hrow⟩ := told_of_delivering h hcall ht
    obtain ⟨x, hx⟩ := Option.ne_none_iff_exists'.mp
      (hrow (returned_iff.mpr (hfinished t hmem)) (hevent ▸ Option.some_ne_none event))
    have hstored : (Notice.ofTrace t.log).stored = some x.1 := by
      rw [Notice.stored, hx, Option.bind_some, if_pos (hkept t hmem x hx)]
    obtain ⟨event', hevent', hid, -⟩ := tells_of_stored h hcall ht hstored
    obtain rfl := Option.some.inj (hevent.symm.trans hevent')
    rw [hstored, Option.map_some, Option.map_some, hid]

/-- **`alerts` is a true record.**  The new rows are those that the deliveries have written; each
is about the alert of its delivery, which is meant for Resend, and says what became of the
email; and once all have returned and no `INSERT` was lost, each such alert has one row. -/
theorem alerts_tell (h : Delivering enc isAddress s calls p) :
    ∃ rows, p.shared.alerts = s.alerts ++ rows ∧
      rows.Perm (p.threads.filterMap fun t => (Notice.ofTrace t.log).stored) ∧
      (∀ (i : ℕ) call t row, calls[i]? = some call → p.threads[i]? = some t →
        (Notice.ofTrace t.log).stored = some row →
          ∃ event, call.alert? "resend" = some event ∧ (Notice.ofTrace t.log).Tells event row) ∧
      (p.Finished → (∀ t ∈ p.threads, ∀ x ∈ (Notice.ofTrace t.log).row, x.2 = true) →
        (rows.map AlertRow.incidentID).Perm
          ((alertsFor "resend" calls).map AlertEvent.incidentID)) := by
  obtain ⟨rows, halerts, hperm⟩ := exists_rows_of_delivering h
  have hnew : p.shared.alerts.drop s.alerts.length = rows := by rw [halerts, List.drop_left]
  refine ⟨rows, halerts, hperm, fun i call t row hcall ht => tells_of_stored h hcall ht,
    fun hfinished hkept => ?_⟩
  rw [← hnew]
  exact (rows_of_delivering h).antisymm (rows_of_finished h hfinished hkept)

end Interleavings

/-! ## An outage and its end -/

namespace Sample

/-- A check fails, and the next one passes. -/
def outageJobs : List Job :=
  [.failure { failing with notificationChannels := ["resend"] },
    .success { passing with notificationChannels := ["resend"] }]

/-- The two handlers run one after the other. -/
def outageMoves : List (ℕ × Env) :=
  (List.replicate 10 0 ++ List.replicate 10 1).map fun i => (i, default)

/-- What they send. -/
def outageAlerts : List AlertEvent :=
  [ResultProcessor.downEvent 2 { failing with notificationChannels := ["resend"] },
    ResultProcessor.recoveredEvent 2 { passing with notificationChannels := ["resend"] }]

/-- A configuration for Resend has been saved. -/
def withResend : PluginStore (ℕ × ConfigMap) := follow (save "re_1") noPlugins

/-- The two alerts are delivered at the same time. -/
theorem delivering_outageAlerts : ∃ p : NoticePool (ℕ × ConfigMap),
    Delivering encryptor isAddress withResend (outageAlerts.map .processAlert) p ∧
      p.mails.length = 2 ∧ p.shared.alerts.map AlertRow.status = ["sent", "sent"] := by
  obtain ⟨p, hreach, hcheck⟩ := Pool.exists_reaches_of_play (PluginStore.serve encryptor)
    (fun _ _ _ => true) ((List.replicate 6 [0, 1]).flatten.map fun i => (i, default))
    (Pool.start withResend ((outageAlerts.map .processAlert).map
      (PluginCall.prog encryptor isAddress)))
    (fun p => (NoticePool.mails p).length = 2 &&
      p.shared.alerts.map AlertRow.status = ["sent", "sent"])
    (by decide)
  obtain ⟨hmails, hstatus⟩ := Bool.and_eq_true_iff.mp hcheck
  exact ⟨p, hreach.mono fun _ _ _ _ => trivial, of_decide_eq_true hmails,
    of_decide_eq_true hstatus⟩

end Sample

/-- The incident of the outage mails twice, once each way. -/
theorem mails_once_each_way_sample : ∃ p : NoticePool (ℕ × ConfigMap), p.mails.length = 2 ∧
    ∀ type id,
      p.mails.countP (fun req => req.event.type = type ∧ req.event.incidentID = id) ≤ 1 ∧
      p.pages.countP (fun req => req.event.type = type ∧ req.event.incidentID = id) ≤ 1 ∧
      (p.shared.alerts.drop Sample.withResend.alerts.length).countP (·.incidentID = id) ≤ 2 := by
  obtain ⟨p, hdelivering, hmails, -⟩ := Sample.delivering_outageAlerts
  have hplay : (Pool.play (World.exec false) (fun _ _ _ => true) Sample.outageMoves
      (startJobs Sample.impatient Sample.world (Sample.outageJobs.map (1, ·)))).map
        (fun handlers => Sample.world.sentSince handlers.shared) = some Sample.outageAlerts := rfl
  obtain ⟨handlers, hhandlers, hsent⟩ := Option.map_eq_some_iff.mp hplay
  have htaken : ((Sample.outageAlerts.map PluginCall.processAlert).filterMap
      PluginCall.event?).Subperm (Sample.world.sentSince handlers.shared) := by
    rw [hsent]
    exact List.Subperm.refl _
  exact ⟨p, hmails, mails_once_each_way ⟨by decide, by decide⟩
    ((Pool.reaches_of_play hhandlers).mono fun _ _ _ _ => trivial) htaken hdelivering⟩

/-- Both rows of the outage say that the email was sent. -/
theorem alerts_tell_sample : ∃ p : NoticePool (ℕ × ConfigMap),
    p.shared.alerts.map AlertRow.status = ["sent", "sent"] ∧
      ∃ rows, p.shared.alerts = Sample.withResend.alerts ++ rows ∧
        ∀ (i : ℕ) call t row, (Sample.outageAlerts.map PluginCall.processAlert)[i]? = some call →
          p.threads[i]? = some t → (Notice.ofTrace t.log).stored = some row →
            ∃ event, call.alert? "resend" = some event ∧
              (Notice.ofTrace t.log).Tells event row := by
  obtain ⟨p, hdelivering, -, hstatus⟩ := Sample.delivering_outageAlerts
  obtain ⟨rows, halerts, -, htells, -⟩ := alerts_tell hdelivering
  exact ⟨p, hstatus, rows, halerts, htells⟩

end Sofon
