import Sofon.Team.Service
import Mathlib.Data.List.Nodup
import Mathlib.Data.Int.Order.Basic

/-!
# Accepting an invitation

`AcceptInvitation` reads the invitation, finds or inserts the account, inserts the
membership and marks the invitation, in up to six statements without a transaction.  Any of
them may fail, before or after it takes effect, and other calls run in between.

It is safe because of its order.  What a call has learnt, that the invitation is there, that
an account has its email, that the account is a member of its team, stays true whatever
others do: rows of accounts and memberships are only added, and an invitation changes in
nothing but `accepted_at` (`Directory.Grows`).  So the invitation is marked when the account
is known to be a member, and the uniqueness of accounts and memberships is left to the
tables.

* `Acceptance` says what a call has learnt, and the code does nothing before it has learnt what
  it needs for it (`follows_acceptInvitation`).
* `Directory.Backs` says that it is true.  A statement that works teaches something true
  (`backs_next`), one that fails teaches nothing (`next_of_error`), and what is true stays true
  as the tables grow (`Grows.backs`).
* Every statement keeps the tables sound (`evolves_exec`): no email, membership or token twice,
  and whoever an accepted invitation was for is a member.  The one case with an argument in it is
  the marking, which needs what the call has learnt (`evolves_acceptInvitation`).

`backed_step` is one step of a run and `backed_of_reaches` the run.  Where a membership came from
is asked of the run itself: some step has added it, and what its call had learnt by then shows in
its trace (`shown_of_reaches`, `addedOnInvitation_of_reaches`).  `invitations_safe` has all three
parts.
-/

namespace Sofon

open Interleaving Program

/-! ## The calls -/

/-- The calls that run side by side. -/
inductive InvitationCall where
  | accept (cmd : AcceptInvitationCmd)
  | create (cmd : CreateInvitationCmd)
  | setMemberActive (team target caller : UUID) (active : Bool)

/-- What a call runs. -/
def InvitationCall.prog : InvitationCall → DirectoryProg Unit
  | accept cmd => do
    let _ ← TeamService.acceptInvitation cmd
    pure ()
  | create cmd => do
    let _ ← TeamService.createInvitation cmd
    pure ()
  | setMemberActive team target caller active => do
    let _ ← TeamService.setMemberActive team target caller active
    pure ()

/-- What a call has learnt about the invitation it accepts. -/
inductive Acceptance where
  | fresh
  /-- it has read the invitation -/
  | read (inv : InvitationRow)
  /-- and at this time, which is before the invitation expires -/
  | valid (inv : InvitationRow) (now : Time)
  /-- and an account with the email -/
  | account (inv : InvitationRow) (now : Time) (user : UUID)
  /-- and the account is a member of the team -/
  | member (inv : InvitationRow) (user : UUID)

/-- The statements of a call. -/
def invitationProtocol (call : Option InvitationCall) :
    Protocol DirectoryCmd DirectoryCmd.Resp Acceptance where
  start := .fresh
  next q e := match q, e with
    | .fresh, ⟨.sql (.getInvitationByToken _), .ok row⟩ => .read row
    | .read inv, ⟨.timeNow, now⟩ =>
      if inv.acceptedAt = none ∧ now ≤ Time.ofMicros inv.expiresAt then .valid inv now
      else .read inv
    | .valid inv now, ⟨.sql (.getUserByEmail _), .ok row⟩ => .account inv now row.id
    | .valid inv now, ⟨.sql (.createUser ..), .ok user⟩ => .account inv now user
    | .account inv _ user, ⟨.sql (.addTeamMember ..), .ok _⟩ => .member inv user
    | .account inv _ user, ⟨.sql (.userIsMember ..), .ok true⟩ => .member inv user
    | q, _ => q
  allows q c := match c with
    | .sql (.getInvitationByToken token) => q = .fresh ∧
        ∃ cmd, call = some (.accept cmd) ∧ cmd.token = token
    | .sql (.getUserByEmail email) => ∃ inv now, q = .valid inv now ∧ email = inv.email
    | .sql (.createUser _ email _ _) => ∃ inv now, q = .valid inv now ∧ email = inv.email
    | .sql (.addTeamMember team user _) => ∃ inv now, q = .account inv now user ∧
        team = inv.teamID ∧ ∃ cmd, call = some (.accept cmd) ∧ cmd.token = inv.token
    | .sql (.userIsMember team user) => ∃ inv now, q = .account inv now user ∧ team = inv.teamID
    | .sql (.acceptInvitation token) => ∃ inv user, q = .member inv user ∧ token = inv.token
    | .sql (.deleteInvitation ..) => False
    | .sql (.setRegistrationsEnabled _) => False
    | _ => True
  answers e := match e with
    | ⟨.sql (.getInvitationByToken token), .ok row⟩ => row.token = token
    | _ => True

/-- The protocol of each call. -/
def invitationProtocols (calls : List InvitationCall) (i : ℕ) :
    Protocol DirectoryCmd DirectoryCmd.Resp Acceptance := invitationProtocol calls[i]?

/-- A pool of such calls. -/
abbrev InvitationPool := Pool DirectoryCmd DirectoryCmd.Resp Unit Directory

variable {call : Option InvitationCall} {cmd : AcceptInvitationCmd} {inv : InvitationRow}

/-- A call that has a member marks the invitation, and one that has an account makes it a
member. -/
theorem follows_joinTeam (hcall : call = some (.accept cmd)) (htoken : inv.token = cmd.token)
    (now : Time) (user : UUID) :
    (TeamService.joinTeam cmd (TeamRepository.ofRow inv) user).Follows (invitationProtocol call)
      (fun _ _ => True) (.account inv now user) := by
  have hmark : (TeamRepository.acceptInvitation cmd.token).Follows (invitationProtocol call)
      (fun _ _ => True) (.member inv user) := by
    refine ⟨⟨inv, user, rfl, htoken.symm⟩, fun done _ => ?_⟩
    rcases done with err | u <;> trivial
  refine ⟨⟨inv, now, rfl, rfl, cmd, hcall, htoken.symm⟩, fun added _ => ?_⟩
  rcases added with err | row
  · refine ⟨⟨inv, now, rfl, rfl⟩, fun is _ => ?_⟩
    rcases is with err' | _ | _
    · trivial
    · trivial
    · exact hmark
  · exact hmark

theorem follows_acceptInvitation (hcall : call = some (.accept cmd)) :
    (TeamService.acceptInvitation cmd).Follows (invitationProtocol call) (fun _ _ => True)
      .fresh := by
  refine ⟨⟨rfl, cmd, hcall, rfl⟩, fun found hfound => ?_⟩
  rcases found with err | inv
  · trivial
  have htoken : inv.token = cmd.token := hfound
  show Follows _ _ ((if inv.acceptedAt.isSome then _ else _ : DirectoryProg _) >>= _) _
  cases haccepted : inv.acceptedAt with
  | some t => trivial
  | none =>
    refine ⟨trivial, fun now _ => ?_⟩
    show Follows _ _ ((if Time.ofMicros inv.expiresAt < now then _ else _ : DirectoryProg _) >>= _)
      (if inv.acceptedAt = none ∧ now ≤ Time.ofMicros inv.expiresAt then
        Acceptance.valid inv now else Acceptance.read inv)
    by_cases hexpired : Time.ofMicros inv.expiresAt < now
    · rw [if_pos hexpired]
      trivial
    · rw [if_neg hexpired, if_pos ⟨haccepted, not_lt.mp hexpired⟩]
      refine ⟨⟨inv, now, rfl, rfl⟩, fun existing _ => ?_⟩
      have hjoin := fun user => follows_joinTeam hcall htoken now user
      rcases existing with err | row
      · cases err with
        | noRows =>
          refine ⟨trivial, fun hashed _ => ?_⟩
          rcases hashed with err | hashed
          · trivial
          refine ⟨⟨inv, now, rfl, rfl⟩, fun created _ => ?_⟩
          rcases created with err | user
          · trivial
          · exact hjoin user
        | constraint | unavailable | canceled => trivial
      · exact hjoin row.id

theorem follows_createInvitation (cmd : CreateInvitationCmd) :
    (TeamService.createInvitation cmd).Follows (invitationProtocol call) (fun _ _ => True)
      .fresh := by
  refine ⟨trivial, fun random _ => ?_⟩
  rcases random with err | b
  · trivial
  refine ⟨trivial, fun now _ => ⟨trivial, fun created _ => ?_⟩⟩
  rcases created with err | row <;> trivial

theorem follows_invitationCall (x : InvitationCall) :
    x.prog.Follows (invitationProtocol (some x)) (fun _ _ => True) .fresh := by
  cases x with
  | accept cmd => exact (follows_acceptInvitation rfl).bind fun _ _ _ => trivial
  | create cmd => exact (follows_createInvitation cmd).bind fun _ _ _ => trivial
  | setMemberActive team target caller active =>
    have hset : (TeamService.setMemberActive team target caller active).Follows
        (invitationProtocol (some (.setMemberActive team target caller active)))
        (fun _ _ => True) .fresh := by
      unfold TeamService.setMemberActive
      split
      · trivial
      · refine ⟨trivial, fun done _ => ?_⟩
        rcases done with err | u <;> trivial
    exact hset.bind fun _ _ _ => trivial

theorem obeys_invitationCalls (d : Directory) (calls : List InvitationCall) :
    Pool.Obeys (invitationProtocols calls)
      (Pool.start d (calls.map InvitationCall.prog) : InvitationPool) := by
  refine Pool.obeys_start fun i q hq => ?_
  rw [List.getElem?_map] at hq
  obtain ⟨x, hx, rfl⟩ := Option.map_eq_some_iff.mp hq
  rw [invitationProtocols, hx]
  exact follows_invitationCall x

/-! ## The tables -/

/-- What is unique about a membership. -/
def MemberRow.key (row : MemberRow) : UUID × UUID := (row.teamID, row.userID)

/-- All of an invitation but when it was accepted. -/
def InvitationRow.offer (inv : InvitationRow) : InvitationRow := { inv with acceptedAt := none }

theorem InvitationRow.of_offer {inv inv' : InvitationRow} (h : inv'.offer = inv.offer) :
    inv'.token = inv.token ∧ inv'.teamID = inv.teamID ∧ inv'.email = inv.email := by
  obtain ⟨-, hteam, hemail, -, htoken, -⟩ := InvitationRow.mk.inj h
  exact ⟨htoken, hteam, hemail⟩

namespace Directory

/-- An account with the email is a member of the team. -/
def HasMember (d : Directory) (team : UUID) (email : String) : Prop :=
  ∃ u ∈ d.users, u.email = email ∧ (team, u.id) ∈ d.members.map MemberRow.key

/-- The tables keep what they have: an account as it is, of a membership its key, of an
invitation all but when it was accepted. -/
structure Grows (d d' : Directory) : Prop where
  users : ∀ u ∈ d.users, u ∈ d'.users
  members : ∀ k ∈ d.members.map MemberRow.key, k ∈ d'.members.map MemberRow.key
  invitations : ∀ x ∈ d.invitations.map InvitationRow.offer,
    x ∈ d'.invitations.map InvitationRow.offer

/-- **The tables are sound**: no email, no membership and no token twice, and whoever an
accepted invitation is for is a member. -/
structure SoundlyAccepted (d : Directory) : Prop where
  emails : (d.users.map AccountRow.email).Nodup
  keys : (d.members.map MemberRow.key).Nodup
  tokens : (d.invitations.map InvitationRow.token).Nodup
  accepted : ∀ inv ∈ d.invitations, inv.acceptedAt ≠ none → d.HasMember inv.teamID inv.email

/-- **What a call has learnt is true.** -/
def Backs (d : Directory) : Acceptance → Prop
  | .fresh => True
  | .read inv => inv.offer ∈ d.invitations.map InvitationRow.offer
  | .valid inv _ => inv.offer ∈ d.invitations.map InvitationRow.offer
  | .account inv _ user => inv.offer ∈ d.invitations.map InvitationRow.offer ∧
      ∃ u ∈ d.users, u.id = user ∧ u.email = inv.email
  | .member inv _ => inv.offer ∈ d.invitations.map InvitationRow.offer ∧
      d.HasMember inv.teamID inv.email

variable {d d' : Directory}

theorem Grows.refl (d : Directory) : d.Grows d := ⟨fun _ h => h, fun _ h => h, fun _ h => h⟩

theorem Grows.hasMember (h : d.Grows d') {team : UUID} {email : String}
    (hm : d.HasMember team email) : d'.HasMember team email := by
  obtain ⟨u, hu, hemail, hkey⟩ := hm
  exact ⟨u, h.users u hu, hemail, h.members _ hkey⟩

/-- **What a call has learnt stays true.** -/
theorem Grows.backs (h : d.Grows d') {q : Acceptance} (hq : d.Backs q) : d'.Backs q := by
  cases q with
  | fresh => trivial
  | read inv => exact h.invitations _ hq
  | valid inv now => exact h.invitations _ hq
  | account inv now user =>
    obtain ⟨hinv, u, hu, hid⟩ := hq
    exact ⟨h.invitations _ hinv, u, h.users u hu, hid⟩
  | member inv user => exact ⟨h.invitations _ hq.1, h.hasMember hq.2⟩

theorem evolves_createUser (hd : d.SoundlyAccepted) (now : Time)
    (name email hash role : String) :
    d.Grows (d.exec now (.createUser name email hash role)).2 ∧
      (d.exec now (.createUser name email hash role)).2.SoundlyAccepted := by
  simp only [exec]
  split
  · exact ⟨Grows.refl d, hd⟩
  · rename_i hnew
    have hgrows : d.Grows { d with
        users := d.users ++ [⟨d.nextID, name, email, hash, role, true, now.micros⟩]
        nextID := d.nextID + 1 } :=
      ⟨fun u hu => List.mem_append_left _ hu, fun _ h => h, fun _ h => h⟩
    refine ⟨hgrows, ?_, hd.keys, hd.tokens, fun inv hinv hacc => ?_⟩
    · rw [List.map_append, List.map_singleton, ← List.concat_eq_append, List.nodup_concat]
      refine ⟨fun hmem => hnew ?_, hd.emails⟩
      obtain ⟨u, hu, hemail⟩ := List.mem_map.mp hmem
      exact List.any_eq_true.mpr ⟨u, hu, decide_eq_true hemail⟩
    · exact hgrows.hasMember (hd.accepted inv hinv hacc)

theorem evolves_addTeamMember (hd : d.SoundlyAccepted) (now : Time) (team user : UUID)
    (role : String) :
    d.Grows (d.exec now (.addTeamMember team user role)).2 ∧
      (d.exec now (.addTeamMember team user role)).2.SoundlyAccepted := by
  simp only [exec]
  split
  · rename_i hnew
    have hgrows : d.Grows { d with
        members := d.members ++ [⟨d.nextID, team, user, role, true, now.micros⟩]
        nextID := d.nextID + 1 } := by
      refine ⟨fun _ h => h, fun k hk => ?_, fun _ h => h⟩
      rw [List.map_append]
      exact List.mem_append_left _ hk
    refine ⟨hgrows, hd.emails, ?_, hd.tokens, fun inv hinv hacc => ?_⟩
    · rw [List.map_append, List.map_singleton, ← List.concat_eq_append, List.nodup_concat]
      refine ⟨fun hmem => ?_, hd.keys⟩
      obtain ⟨x, hx, hkey⟩ := List.mem_map.mp hmem
      exact hnew.2.2 x hx (Prod.mk.inj hkey)
    · exact hgrows.hasMember (hd.accepted inv hinv hacc)
  · exact ⟨Grows.refl d, hd⟩

theorem keys_setTeamMemberActive (now : Time) (team user : UUID) (active : Bool)
    (d : Directory) :
    (d.exec now (.setTeamMemberActive team user active)).2.members.map MemberRow.key =
      d.members.map MemberRow.key := by
  simp only [exec, List.map_map]
  refine List.map_congr_left fun row _ => ?_
  rw [Function.comp_apply]
  split <;> rfl

theorem evolves_setTeamMemberActive (hd : d.SoundlyAccepted) (now : Time) (team user : UUID)
    (active : Bool) :
    d.Grows (d.exec now (.setTeamMemberActive team user active)).2 ∧
      (d.exec now (.setTeamMemberActive team user active)).2.SoundlyAccepted := by
  have hkeys := keys_setTeamMemberActive now team user active d
  have hgrows : d.Grows (d.exec now (.setTeamMemberActive team user active)).2 := by
    refine ⟨fun _ h => h, fun k hk => ?_, fun _ h => h⟩
    rw [hkeys]
    exact hk
  refine ⟨hgrows, hd.emails, ?_, hd.tokens, fun inv hinv hacc => ?_⟩
  · rw [hkeys]
    exact hd.keys
  · exact hgrows.hasMember (hd.accepted inv hinv hacc)

theorem evolves_createInvitation (hd : d.SoundlyAccepted) (now : Time) (team : UUID)
    (email role token : String) (expiresAt : Time) (invitedBy : UUID) :
    d.Grows (d.exec now (.createInvitation team email role token expiresAt invitedBy)).2 ∧
      (d.exec now
        (.createInvitation team email role token expiresAt invitedBy)).2.SoundlyAccepted := by
  simp only [exec]
  split
  · rename_i hnew
    refine ⟨⟨fun _ h => h, fun _ h => h, fun x hx => ?_⟩, hd.emails, hd.keys, ?_,
      fun inv hinv hacc => ?_⟩
    · rw [List.map_append]
      exact List.mem_append_left _ hx
    · rw [List.map_append, List.map_singleton, ← List.concat_eq_append, List.nodup_concat]
      refine ⟨fun hmem => ?_, hd.tokens⟩
      obtain ⟨x, hx, htoken⟩ := List.mem_map.mp hmem
      exact hnew.2.2 x hx htoken
    · rcases List.mem_append.mp hinv with hinv | hinv
      · exact hd.accepted inv hinv hacc
      · rw [List.mem_singleton.mp hinv] at hacc
        exact absurd rfl hacc
  · exact ⟨Grows.refl d, hd⟩

/-- **Marking an invitation** whose invitee is a member. -/
theorem evolves_acceptInvitation (hd : d.SoundlyAccepted) (now : Time) {inv : InvitationRow}
    (hinv : inv.offer ∈ d.invitations.map InvitationRow.offer)
    (hmember : d.HasMember inv.teamID inv.email) :
    d.Grows (d.exec now (.acceptInvitation inv.token)).2 ∧
      (d.exec now (.acceptInvitation inv.token)).2.SoundlyAccepted := by
  have hoffers : (d.exec now (.acceptInvitation inv.token)).2.invitations.map
      InvitationRow.offer = d.invitations.map InvitationRow.offer := by
    simp only [exec, List.map_map]
    refine List.map_congr_left fun row _ => ?_
    rw [Function.comp_apply]
    split <;> rfl
  have htokens : (d.exec now (.acceptInvitation inv.token)).2.invitations.map
      InvitationRow.token = d.invitations.map InvitationRow.token := by
    simp only [exec, List.map_map]
    refine List.map_congr_left fun row _ => ?_
    rw [Function.comp_apply]
    split <;> rfl
  refine ⟨⟨fun _ h => h, fun _ h => h, fun x hx => ?_⟩, hd.emails, hd.keys, ?_, ?_⟩
  · rw [hoffers]
    exact hx
  · rw [htokens]
    exact hd.tokens
  · intro x hx hacc
    obtain ⟨row, hrow, rfl⟩ := List.mem_map.mp hx
    by_cases htoken : row.token = inv.token
    · -- tokens are unique, so this is the invitation that was read
      obtain ⟨row', hrow', hoffer⟩ := List.mem_map.mp hinv
      obtain ⟨htoken', hteam, hemail⟩ := InvitationRow.of_offer hoffer
      obtain rfl := List.inj_on_of_nodup_map hd.tokens hrow hrow' (htoken.trans htoken'.symm)
      rw [if_pos htoken, hteam, hemail]
      exact hmember
    · rw [if_neg htoken] at hacc ⊢
      exact hd.accepted row hrow hacc

/-- **Every statement of a call keeps the tables sound.** -/
theorem evolves_exec {query : DirectoryQuery} {q : Acceptance} (hd : d.SoundlyAccepted)
    (hq : d.Backs q) (hallows : (invitationProtocol call).allows q (.sql query)) (now : Time) :
    d.Grows (d.exec now query).2 ∧ (d.exec now query).2.SoundlyAccepted := by
  cases query with
  | createUser name email hash role => exact evolves_createUser hd now name email hash role
  | addTeamMember team user role => exact evolves_addTeamMember hd now team user role
  | setTeamMemberActive team user active =>
    exact evolves_setTeamMemberActive hd now team user active
  | createInvitation team email role token expiresAt invitedBy =>
    exact evolves_createInvitation hd now team email role token expiresAt invitedBy
  | acceptInvitation token =>
    obtain ⟨inv, user, rfl, rfl⟩ := hallows
    exact evolves_acceptInvitation hd now hq.1 hq.2
  | deleteInvitation | setRegistrationsEnabled => exact hallows.elim
  | getUserByEmail | getTeamMembership | getInvitationByToken =>
    simp only [exec]
    split <;> exact ⟨Grows.refl d, hd⟩
  | _ => exact ⟨Grows.refl d, hd⟩

theorem next_of_error (q : Acceptance) (query : DirectoryQuery) (err : DBError) :
    (invitationProtocol call).next q ⟨.sql query, .error err⟩ = q := by
  cases q <;> cases query <;> rfl

/-- **What a statement that works teaches is true.** -/
theorem backs_next {query : DirectoryQuery} {q : Acceptance} (hq : d.Backs q)
    (hallows : (invitationProtocol call).allows q (.sql query)) (now : Time)
    (hgrows : d.Grows (d.exec now query).2) :
    (d.exec now query).2.Backs
      ((invitationProtocol call).next q ⟨.sql query, (d.exec now query).1⟩) := by
  cases query with
  | getInvitationByToken token =>
    obtain ⟨rfl, -⟩ := hallows
    simp only [exec]
    split
    · rename_i row hfound
      exact List.mem_map_of_mem (List.mem_of_find?_eq_some hfound)
    · exact hq
  | getUserByEmail email =>
    obtain ⟨inv, now', rfl, rfl⟩ := hallows
    simp only [exec]
    split
    · rename_i row hfound
      have hemail := List.find?_some hfound
      exact ⟨hq, row, List.mem_of_find?_eq_some hfound, rfl, of_decide_eq_true hemail⟩
    · exact hq
  | createUser name email hash role =>
    obtain ⟨inv, now', rfl, rfl⟩ := hallows
    simp only [exec]
    split
    · exact hq
    · exact ⟨hq, _, List.mem_append_right _ (List.mem_singleton_self _), rfl, rfl⟩
  | addTeamMember team user role =>
    obtain ⟨inv, now', rfl, rfl, -⟩ := hallows
    obtain ⟨hinv, u, hu, rfl, hemail⟩ := hq
    simp only [exec]
    split
    · refine ⟨hinv, u, hu, hemail, ?_⟩
      rw [List.map_append]
      exact List.mem_append_right _ (List.mem_singleton_self _)
    · exact ⟨hinv, u, hu, rfl, hemail⟩
  | userIsMember team user =>
    obtain ⟨inv, now', rfl, rfl⟩ := hallows
    obtain ⟨hinv, u, hu, rfl, hemail⟩ := hq
    simp only [exec]
    cases his : d.members.any fun row => row.teamID = inv.teamID && row.userID = u.id with
    | false => exact ⟨hinv, u, hu, rfl, hemail⟩
    | true =>
      obtain ⟨row, hrow, hkey⟩ := List.any_eq_true.mp his
      rw [Bool.and_eq_true, decide_eq_true_eq, decide_eq_true_eq] at hkey
      refine ⟨hinv, u, hu, hemail, List.mem_map.mpr ⟨row, hrow, ?_⟩⟩
      exact Prod.ext hkey.1 hkey.2
  | _ => cases q <;> exact hgrows.backs hq

end Directory

/-! ## The steps -/

section Steps

variable {d d' : Directory} {q : Acceptance} {e : Event DirectoryCmd DirectoryCmd.Resp}
  {calls : List InvitationCall} {p p' : InvitationPool}

theorem answers_of_serves_invitation (h : Directory.Serves d e.cmd e.resp d') :
    (invitationProtocol call).answers e := by
  obtain ⟨c, r⟩ := e
  cases c with
  | timeNow | hashPassword | randRead => trivial
  | sql query =>
    cases query with
    | getInvitationByToken token =>
      rcases r with err | row
      · trivial
      have hfound := Directory.found_of_serves
        (fun now => Directory.exec_getInvitationByToken now d token) h
      have htoken := List.find?_some hfound
      show row.token = token
      exact of_decide_eq_true htoken
    | _ => trivial

/-- **One step**: the tables grow and stay sound, and what the call has learnt is true. -/
theorem backed_step (hd : d.SoundlyAccepted) (hq : d.Backs q)
    (hallows : (invitationProtocol call).allows q e.cmd)
    (h : Directory.Serves d e.cmd e.resp d') :
    d.Grows d' ∧ d'.SoundlyAccepted ∧ d'.Backs ((invitationProtocol call).next q e) := by
  obtain ⟨c, r⟩ := e
  cases c with
  | sql query =>
    obtain ⟨rfl, rfl⟩ | ⟨now, hr, rfl⟩ := Directory.serves_sql h
    · rw [Directory.next_of_error]
      exact ⟨Directory.Grows.refl _, hd, hq⟩
    obtain ⟨hgrows, hd'⟩ := Directory.evolves_exec hd hq hallows now
    obtain rfl | rfl := hr
    · exact ⟨hgrows, hd', Directory.backs_next hq hallows now hgrows⟩
    · rw [Directory.next_of_error]
      exact ⟨hgrows, hd', hgrows.backs hq⟩
  | timeNow =>
    rw [Directory.serves_aside (fun _ hq => by cases hq) h]
    refine ⟨Directory.Grows.refl d, hd, ?_⟩
    cases q with
    | read inv =>
      show d.Backs (if inv.acceptedAt = none ∧ _ then _ else _)
      split <;> exact hq
    | _ => exact hq
  | hashPassword | randRead =>
    rw [Directory.serves_aside (fun _ hq => by cases hq) h]
    refine ⟨Directory.Grows.refl d, hd, ?_⟩
    cases q <;> exact hq

/-- **In every run** the tables are sound, and what the calls have learnt is true. -/
theorem backed_of_reaches (hd : d.SoundlyAccepted)
    (h : Pool.Reaches Directory.Serves (fun _ _ _ => True)
      (Pool.start d (calls.map InvitationCall.prog)) p) :
    Pool.Obeys (invitationProtocols calls) p ∧ p.shared.SoundlyAccepted ∧
      ∀ q ∈ p.stages (invitationProtocols calls), p.shared.Backs q := by
  refine h.invariant_obeys
    (I := fun d qs => d.SoundlyAccepted ∧ ∀ q ∈ qs, d.Backs q) (obeys_invitationCalls d calls)
    ⟨hd, fun q hq => ?_⟩ (fun _ _ _ _ _ hs => answers_of_serves_invitation hs) ?_
  · obtain ⟨i, rfl⟩ := Pool.mem_stages_start hq
    trivial
  · rintro p i e d' q - hs hq hallows ⟨hd, hbacks⟩
    obtain ⟨hgrows, hd', hnext⟩ :=
      backed_step hd (hbacks q (List.mem_of_getElem? hq)) hallows hs
    refine ⟨hd', fun x hx => ?_⟩
    rcases List.mem_or_eq_of_mem_set hx with hx | rfl
    · exact hgrows.backs (hbacks x hx)
    · exact hnext

/-! ## What a run shows -/

/-- What the trace of a call shows of what it has learnt: it has read the invitation, and
then the clock. -/
def Acceptance.Shown : Acceptance → List (Event DirectoryCmd DirectoryCmd.Resp) → Prop
  | .fresh, _ => True
  | .read inv, log => [⟨.sql (.getInvitationByToken inv.token), .ok inv⟩].Sublist log
  | .valid inv now, log => ReadInTime inv now log
  | .account inv now _, log => ReadInTime inv now log
  | .member _ _, _ => True
where
  /-- The invitation was read, it was not accepted, and then it had not expired. -/
  ReadInTime (inv : InvitationRow) (now : Time)
      (log : List (Event DirectoryCmd DirectoryCmd.Resp)) : Prop :=
    [⟨.sql (.getInvitationByToken inv.token), .ok inv⟩, ⟨.timeNow, now⟩].Sublist log ∧
      inv.acceptedAt = none ∧ now ≤ Time.ofMicros inv.expiresAt

theorem shown_next {log : List (Event DirectoryCmd DirectoryCmd.Resp)}
    (hallows : (invitationProtocol call).allows q e.cmd)
    (hanswers : (invitationProtocol call).answers e) (hq : q.Shown log) :
    ((invitationProtocol call).next q e).Shown (log ++ [e]) := by
  have hkeep : q.Shown (log ++ [e]) := by
    cases q with
    | fresh | member => trivial
    | read inv => exact hq.trans (List.sublist_append_left _ _)
    | valid inv now | account inv now user =>
      exact ⟨hq.1.trans (List.sublist_append_left _ _), hq.2⟩
  obtain ⟨c, r⟩ := e
  cases c with
  | hashPassword | randRead => cases q <;> exact hkeep
  | timeNow =>
    cases q with
    | read inv =>
      show Acceptance.Shown (if inv.acceptedAt = none ∧ _ then _ else _) _
      split
      · rename_i hvalid
        exact ⟨hq.append (List.Sublist.refl [_]), hvalid⟩
      · exact hkeep
    | _ => exact hkeep
  | sql query =>
    rcases r with err | x
    · rw [Directory.next_of_error]
      exact hkeep
    cases query with
    | getInvitationByToken token =>
      obtain ⟨rfl, -⟩ := hallows
      have htoken : x.token = token := hanswers
      show List.Sublist [(⟨.sql (.getInvitationByToken x.token), .ok x⟩ :
        Event DirectoryCmd DirectoryCmd.Resp)] _
      rw [htoken]
      exact List.sublist_append_right _ _
    | getUserByEmail email =>
      obtain ⟨inv, now, rfl, -⟩ := hallows
      exact hkeep
    | createUser name email hash role =>
      obtain ⟨inv, now, rfl, -⟩ := hallows
      exact hkeep
    | addTeamMember team user role =>
      obtain ⟨inv, now, rfl, -⟩ := hallows
      trivial
    | userIsMember team user =>
      obtain ⟨inv, now, rfl, -⟩ := hallows
      cases x with
      | false => exact hkeep
      | true => trivial
    | _ => cases q <;> exact hkeep

/-- **In every run** the traces show what the calls have learnt. -/
theorem shown_of_reaches
    (h : Pool.Reaches Directory.Serves (fun _ _ _ => True)
      (Pool.start d (calls.map InvitationCall.prog)) p) :
    ∀ (i : ℕ) (t : Thread DirectoryCmd DirectoryCmd.Resp Unit), p.threads[i]? = some t →
      ((invitationProtocols calls i).state t.log).Shown t.log := by
  refine h.logs (K := Acceptance.Shown) (obeys_invitationCalls d calls) (fun i t ht => ?_)
    (fun _ _ _ _ _ hs => answers_of_serves_invitation hs)
    fun i q log e hallows hanswers hq => shown_next hallows hanswers hq
  rw [Pool.start, List.getElem?_map] at ht
  obtain ⟨x, -, rfl⟩ := Option.map_eq_some_iff.mp ht
  trivial

theorem added_of_serves {k : UUID × UUID} (h : Directory.Serves d e.cmd e.resp d')
    (hnot : k ∉ d.members.map MemberRow.key) (hmem : k ∈ d'.members.map MemberRow.key) :
    ∃ role, e.cmd = .sql (.addTeamMember k.1 k.2 role) := by
  obtain ⟨c, r⟩ := e
  cases c with
  | timeNow | hashPassword | randRead =>
    rw [Directory.serves_aside (fun _ hq => by cases hq) h] at hmem
    exact absurd hmem hnot
  | sql query =>
    obtain ⟨-, rfl⟩ | ⟨now, -, rfl⟩ := Directory.serves_sql h
    · exact absurd hmem hnot
    obtain hsame | ⟨team, user, active, rfl⟩ | ⟨team, user, role, rfl⟩ :=
      Directory.exec_members now query d
    · rw [hsame] at hmem
      exact absurd hmem hnot
    · rw [Directory.keys_setTeamMemberActive] at hmem
      exact absurd hmem hnot
    · simp only [Directory.exec] at hmem
      split at hmem
      · rw [List.map_append] at hmem
        rcases List.mem_append.mp hmem with hmem | hmem
        · exact absurd hmem hnot
        · obtain rfl := List.mem_singleton.mp hmem
          exact ⟨role, rfl⟩
      · exact absurd hmem hnot

/-- On the way from `p₀` to `p`, an `AcceptInvitation` has added the membership.  Before, it
read its invitation, which was not accepted, and then the clock, and the invitation had not
expired; the membership is for the team and the email of the invitation. -/
def AddedOnInvitation (calls : List InvitationCall) (p₀ p : InvitationPool) (m : MemberRow) :
    Prop :=
  ∃ i cmd inv now t p₁ role r p₂, calls[i]? = some (.accept cmd) ∧
    Pool.Reaches Directory.Serves (fun _ _ _ => True) p₀ p₁ ∧ p₁.threads[i]? = some t ∧
    Pool.Step Directory.Serves p₁ i ⟨.sql (.addTeamMember m.teamID m.userID role), r⟩ p₂ ∧
    Pool.Reaches Directory.Serves (fun _ _ _ => True) p₂ p ∧
    [⟨.sql (.getInvitationByToken cmd.token), .ok inv⟩, ⟨.timeNow, now⟩].Sublist t.log ∧
    inv.acceptedAt = none ∧ now ≤ Time.ofMicros inv.expiresAt ∧
    inv.offer ∈ p₁.shared.invitations.map InvitationRow.offer ∧
    m.teamID = inv.teamID ∧ ∃ u ∈ p₁.shared.users, u.id = m.userID ∧ u.email = inv.email

/-- **Memberships are added on invitation.** -/
theorem addedOnInvitation_of_reaches (hd : d.SoundlyAccepted)
    (h : Pool.Reaches Directory.Serves (fun _ _ _ => True)
      (Pool.start d (calls.map InvitationCall.prog)) p) {m : MemberRow}
    (hm : m ∈ p.shared.members) (hnew : m.key ∉ d.members.map MemberRow.key) :
    AddedOnInvitation calls (Pool.start d (calls.map InvitationCall.prog)) p m := by
  obtain ⟨p₁, i, e, p₂, hp₁, hs, -, hp₂, hbefore, hafter⟩ := h.exists_step
    (T := fun p => m.key ∈ p.shared.members.map MemberRow.key) hnew (List.mem_map_of_mem hm)
  obtain ⟨role, hcmd⟩ := added_of_serves hs.serves hbefore hafter
  obtain ⟨c, r⟩ := e
  obtain rfl : c = .sql (.addTeamMember m.teamID m.userID role) := hcmd
  obtain ⟨hobeys, -, hbacks⟩ := backed_of_reaches hd hp₁
  obtain ⟨-, t, -, ht, -, ⟨inv, now, hq, hteam, cmd, hcall, htoken⟩, -⟩ :=
    Pool.obeys_step hs hobeys (answers_of_serves_invitation hs.serves)
  have hstage : (p₁.stages (invitationProtocols calls))[i]? =
      some (.account inv now m.userID) := by
    rw [Pool.stages_getElem?, ht, ← hq]
    rfl
  obtain ⟨hinv, haccount⟩ := hbacks _ (List.mem_of_getElem? hstage)
  have hshown := shown_of_reaches hp₁ i t ht
  rw [hq] at hshown
  obtain ⟨hread, haccepted, hintime⟩ := hshown
  rw [← htoken] at hread
  exact ⟨i, cmd, inv, now, t, p₁, role, r, p₂, hcall, hp₁, ht, hs, hp₂, hread, haccepted,
    hintime, hinv, hteam, haccount⟩

/-- **Accepting invitations is safe**, whatever calls run side by side and whichever of their
statements fail, before or after taking effect: an accepted invitation has its member, memberships
and emails stay unique, and a new member goes back to an invitation. -/
theorem invitations_safe (hd : d.SoundlyAccepted)
    (h : Pool.Reaches Directory.Serves (fun _ _ _ => True)
      (Pool.start d (calls.map InvitationCall.prog)) p) :
    (∀ inv ∈ p.shared.invitations, inv.acceptedAt ≠ none →
      p.shared.HasMember inv.teamID inv.email) ∧
    (p.shared.members.map MemberRow.key).Nodup ∧ (p.shared.users.map AccountRow.email).Nodup ∧
    ∀ m ∈ p.shared.members, m.key ∉ d.members.map MemberRow.key →
      AddedOnInvitation calls (Pool.start d (calls.map InvitationCall.prog)) p m := by
  obtain ⟨-, hsound, -⟩ := backed_of_reaches hd h
  exact ⟨hsound.accepted, hsound.keys, hsound.emails,
    fun _ hm hnew => addedOnInvitation_of_reaches hd h hm hnew⟩

end Steps

namespace Sample

/-- A team with an owner. -/
def office : Directory :=
  ⟨[⟨7, "Ada", "ada@example.org", "$argon2id$", "owner", true, 0⟩], false,
    [⟨1, 9, 7, roleOwner, true, 0⟩], [], 8, [9]⟩

/-- Ada invites Bob, who accepts twice. -/
def guests : List InvitationCall :=
  [.create ⟨9, "bob@example.org", "member", 7⟩,
    .accept ⟨"c0ffee", "Bob", "battery staple"⟩, .accept ⟨"c0ffee", "Bob", "battery staple"⟩]

/-- The second time, the invitation is read before the account is there, and the account
before it is a member. -/
def arrivals : List (ℕ × DirectoryEnv) :=
  [0, 0, 0, 1, 2, 1, 2, 1, 1, 1, 2, 1, 2, 2, 1, 2].map fun i => (i, default)

theorem office_sound : office.SoundlyAccepted where
  emails := by decide
  keys := by decide
  tokens := by decide
  accepted := by
    intro inv hinv
    cases hinv

end Sample

theorem invitations_safe_sample : ∃ p : InvitationPool, p.Finished ∧
    p.shared.members.map MemberRow.key = [(9, 7), (9, 9)] ∧
    (∀ inv ∈ p.shared.invitations, inv.acceptedAt ≠ none ∧
      p.shared.HasMember inv.teamID inv.email) ∧
    ∀ m ∈ p.shared.members, m.key ∉ Sample.office.members.map MemberRow.key →
      AddedOnInvitation Sample.guests
        (Pool.start Sample.office (Sample.guests.map InvitationCall.prog)) p m := by
  obtain ⟨p, hreach, hcheck⟩ := Pool.exists_reaches_of_play Directory.serve (fun _ _ _ => true)
    Sample.arrivals (Pool.start Sample.office (Sample.guests.map InvitationCall.prog))
    (fun p => (p.threads.all fun t => t.todo.returned) &&
      decide (p.shared.members.map MemberRow.key = [(9, 7), (9, 9)]) &&
      p.shared.invitations.all fun inv => inv.acceptedAt ≠ none) (by decide)
  rw [Bool.and_eq_true, Bool.and_eq_true, decide_eq_true_eq] at hcheck
  obtain ⟨⟨hfinished, hkeys⟩, haccepted⟩ := hcheck
  obtain ⟨hmember, -, -, hadded⟩ := invitations_safe Sample.office_sound
    (hreach.mono fun _ _ _ _ => trivial)
  refine ⟨p, Pool.finished_of_all hfinished, hkeys, fun inv hinv => ?_, hadded⟩
  have hacc := of_decide_eq_true (List.all_eq_true.mp haccepted inv hinv)
  exact ⟨hacc, hmember inv hinv hacc⟩

end Sofon
