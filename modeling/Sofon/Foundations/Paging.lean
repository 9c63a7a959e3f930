import Mathlib.Data.List.Sort
import Mathlib.Order.Defs.LinearOrder

/-!
# Paging by key

A list that is too long for one answer is served page by page, largest key first.  With a
page comes a token that stands for the last key on it, and the next page is what lies below
that key.  The server keeps nothing between two requests, and the table may change.

* `Reply`, `Walk`: what a client does that follows the tokens.
* `remaining`: the entries below a cursor, largest key first.
* `Serves`: the requests are answered with pages of `remaining`.
* `VisitsOnce`: what a client can rely on, which `visitsOnce_of_serves` proves.
* `Paged`: as long as the table does not change, the pages have numbers (`Serves.paged`).

The proof rests on one invariant of a walk (`Walk.cursor`): the cursor stands for all that
has been returned, since being below it is being below every entry returned so far.
-/

namespace Paging

/-- What a request is answered with. -/
structure Reply (α τ : Type*) where
  items : List α
  hasMore : Bool
  next : Option τ

variable {α κ σ τ ε : Type*}

/-- **Following the tokens**: one request after the other, each against what the table is by
then.  The last argument is what the next request says, unless there is to be none. -/
inductive Walk (ask : Option τ → σ → Except ε (Reply α τ)) :
    List σ → List (Reply α τ) → Option (Option τ) → Prop
  | start : Walk ask [] [] (some none)
  | next {ts : List σ} {ps : List (Reply α τ)} {c : Option τ} {t : σ} {p : Reply α τ}
      (h : Walk ask ts ps (some c)) (hp : ask c t = .ok p) :
      Walk ask (ts ++ [t]) (ps ++ [p]) (if p.hasMore then some p.next else none)

/-- All that has been returned. -/
def returned (ps : List (Reply α τ)) : List α := ps.flatMap Reply.items

@[simp] theorem returned_nil : returned ([] : List (Reply α τ)) = [] := rfl

@[simp] theorem returned_snoc (ps : List (Reply α τ)) (p : Reply α τ) :
    returned (ps ++ [p]) = returned ps ++ p.items := by
  simp [returned]

variable [LinearOrder κ]

/-! ## The entries below a cursor -/

/-- The entries below the cursor, largest key first. -/
def remaining (key : α → κ) (c : Option κ) (xs : List α) : List α :=
  (xs.filter fun x => c.all fun k => key x < k).mergeSort fun x y => key y ≤ key x

/-- A page of them. -/
def page (key : α → κ) (token : κ → τ) (limit : ℕ) (c : Option κ) (xs : List α) : Reply α τ where
  items := (remaining key c xs).take limit
  hasMore := limit < (remaining key c xs).length
  next := if limit < (remaining key c xs).length then
    ((remaining key c xs).take limit).getLast?.map fun x => token (key x) else none

/-- **Paging by key**: a request without a token is for the first page, and one with the token
of a key is for what is below the key, if the key is one that comes back from its token. -/
structure Serves (ask : Option τ → σ → Except ε (Reply α τ)) (key : α → κ)
    (matching : σ → List α) (token : κ → τ) (sound : κ → Prop) (limit : ℕ) : Prop where
  first : ∀ t, ask none t = .ok (page key token limit none (matching t))
  after : ∀ k t, sound k → ask (some (token k)) t = .ok (page key token limit (some k) (matching t))

/-- A table that can be served: no key occurs twice, and every key comes back. -/
structure Servable (key : α → κ) (matching : σ → List α) (sound : κ → Prop) (t : σ) : Prop where
  nodup : ((matching t).map key).Nodup
  sound : ∀ x ∈ matching t, sound (key x)

/-- The number of pages of `n` entries. -/
def pages (limit n : ℕ) : ℕ := max 1 ((n + (limit - 1)) / limit)

/-- **What a client can rely on**, whatever happens to the table between two requests. -/
structure VisitsOnce (ask : Option τ → σ → Except ε (Reply α τ)) (key : α → κ)
    (matching : σ → List α) (ok : σ → Prop) (limit : ℕ) : Prop where
  /-- The keys descend, within a page and from page to page. -/
  descending : ∀ {ts ps next}, Walk ask ts ps next → (∀ t ∈ ts, ok t) →
    (returned ps).Pairwise fun x y => key y < key x
  /-- The next request is answered: with entries of the table, and it says that there is more
  exactly if there is an entry further down. -/
  answered : ∀ {ts ps c}, Walk ask ts ps (some c) → (∀ t ∈ ts, ok t) → ∀ t, ok t →
    ∃ p, ask c t = .ok p ∧ (∀ x ∈ p.items, x ∈ matching t) ∧
      (p.hasMore ↔ ∃ x ∈ matching t, ∀ y ∈ returned ps ++ p.items, key x < key y)
  /-- In the end, an entry that was there all the time has been returned once. -/
  complete : ∀ {ts ps}, Walk ask ts ps none → (∀ t ∈ ts, ok t) →
    ∀ k, (∀ t ∈ ts, ∃ x ∈ matching t, key x = k) → (returned ps).countP (key · = k) = 1
  /-- If the table does not change, there is an end. -/
  ends : ∀ t, ok t → (∃ ps, Walk ask (List.replicate ps.length t) ps none) ∧
    ∀ ps next, Walk ask (List.replicate ps.length t) ps next →
      (next = none ↔ ps.length = pages limit (matching t).length)

/-- Both cases in one. -/
theorem Serves.of_cursor {ask : Option τ → σ → Except ε (Reply α τ)} {key : α → κ}
    {matching : σ → List α} {token : κ → τ} {sound : κ → Prop} {limit : ℕ}
    (h : ∀ c t, (∀ k ∈ c, sound k) →
      ask (c.map token) t = .ok (page key token limit c (matching t))) :
    Serves ask key matching token sound limit where
  first t := h none t nofun
  after k t hk := h (some k) t fun _ hm => Option.mem_some.mp hm ▸ hk

/-- Fewer tables, fewer promises to keep. -/
theorem VisitsOnce.mono {ask : Option τ → σ → Except ε (Reply α τ)} {key : α → κ}
    {matching : σ → List α} {ok ok' : σ → Prop} {limit : ℕ}
    (h : VisitsOnce ask key matching ok limit) (hok : ∀ t, ok' t → ok t) :
    VisitsOnce ask key matching ok' limit where
  descending hw hts := h.descending hw fun t ht => hok t (hts t ht)
  answered hw hts t ht := h.answered hw (fun t ht => hok t (hts t ht)) t (hok t ht)
  complete hw hts := h.complete hw fun t ht => hok t (hts t ht)
  ends t ht := h.ends t (hok t ht)

variable {key : α → κ} {c : Option κ} {xs : List α} {x y : α}

theorem mem_remaining : x ∈ remaining key c xs ↔ x ∈ xs ∧ ∀ k ∈ c, key x < k := by
  unfold remaining
  rw [List.mem_mergeSort, List.mem_filter]
  cases c with
  | none => simp
  | some k => simp

theorem length_remaining :
    (remaining key c xs).length = xs.countP fun x => c.all fun k => key x < k := by
  unfold remaining
  rw [List.length_mergeSort, ← List.countP_eq_length_filter]

theorem pairwise_remaining (h : (xs.map key).Nodup) :
    (remaining key c xs).Pairwise fun x y => key y < key x := by
  have hsorted : (remaining key c xs).Pairwise fun x y => key y ≤ key x := by
    have hle : (remaining key c xs).Pairwise fun x y => decide (key y ≤ key x) :=
      List.pairwise_mergeSort
        (fun x y z hxy hyz => by
          simp only [decide_eq_true_eq] at hxy hyz ⊢
          exact le_trans hyz hxy)
        (fun x y => by
          simp only [Bool.or_eq_true, decide_eq_true_eq]
          exact le_total _ _)
        (xs.filter fun x => c.all fun k => key x < k)
    exact hle.imp fun h => of_decide_eq_true h
  have hdistinct : (remaining key c xs).Pairwise fun x y => key x ≠ key y := by
    have hnodup : ((remaining key c xs).map key).Nodup :=
      (((List.mergeSort_perm _ _).map key).nodup_iff).mpr (h.sublist (List.filter_sublist.map key))
    exact List.pairwise_map.mp hnodup
  exact (hsorted.and hdistinct).imp fun h => lt_of_le_of_ne h.1 h.2.symm

/-- Rows can be selected and put in order before entries are made of them. -/
theorem remaining_map {ρ : Type*} {f : ρ → α} {p : ρ → Bool} {le : ρ → ρ → Bool}
    (hp : ∀ r, p r = c.all fun k => key (f r) < k)
    (hle : ∀ r r', le r r' = decide (key (f r') ≤ key (f r))) (rows : List ρ) :
    ((rows.filter p).mergeSort le).map f = remaining key c (rows.map f) := by
  have hfilter : (rows.map f).filter (fun x => c.all fun k => key x < k) =
      (rows.filter p).map f := by
    rw [List.filter_map]
    congr 1
    exact List.filter_congr fun r _ => (hp r).symm
  unfold remaining
  rw [hfilter]
  exact List.map_mergeSort fun r _ r' _ => hle r r'

/-! ## One page -/

section Page

variable {token : κ → τ} {limit : ℕ}

/-- **One entry more than the page holds** is all that has to be fetched. -/
theorem page_eq_fetch (key : α → κ) (token : κ → τ) (limit : ℕ) (c : Option κ) (xs : List α)
    {fetched : List α} (h : fetched = (remaining key c xs).take (limit + 1)) :
    page key token limit c xs =
      { items := if limit < fetched.length then fetched.take limit else fetched
        hasMore := limit < fetched.length
        next := if limit < fetched.length then
          (fetched.take limit).getLast?.map fun x => token (key x) else none } := by
  have htake : fetched.take limit = (remaining key c xs).take limit := by
    rw [h, List.take_take, Nat.min_eq_left (Nat.le_succ limit)]
  have hlen : limit < fetched.length ↔ limit < (remaining key c xs).length := by
    rw [h, List.length_take]
    omega
  unfold page
  by_cases hmore : limit < (remaining key c xs).length
  · rw [if_pos hmore, if_pos (hlen.mpr hmore), if_pos (hlen.mpr hmore), htake,
      decide_eq_true hmore, decide_eq_true (hlen.mpr hmore)]
  · have hall : fetched = (remaining key c xs).take limit := by
      rw [h, List.take_of_length_le (by omega), List.take_of_length_le (by omega)]
    rw [if_neg hmore, if_neg (mt hlen.mp hmore), if_neg (mt hlen.mp hmore), ← hall,
      decide_eq_false hmore, decide_eq_false (mt hlen.mp hmore)]

/-- What is on the page and what is not. -/
theorem remaining_eq_append (key : α → κ) (token : κ → τ) (limit : ℕ) (c : Option κ) (xs : List α) :
    remaining key c xs = (page key token limit c xs).items ++ (remaining key c xs).drop limit :=
  (List.take_append_drop limit _).symm

/-- What is not on the page is further down. -/
theorem lt_of_mem_drop (h : (xs.map key).Nodup) (hx : x ∈ (remaining key c xs).drop limit)
    (hy : y ∈ (page key token limit c xs).items) : key x < key y := by
  have hpair := pairwise_remaining (c := c) h
  rw [remaining_eq_append key token limit c xs, List.pairwise_append] at hpair
  exact hpair.2.2 y hy x hx

theorem mem_of_mem_page (hx : x ∈ (page key token limit c xs).items) :
    x ∈ xs ∧ ∀ k ∈ c, key x < k := mem_remaining.mp (List.mem_of_mem_take hx)

theorem pairwise_page (h : (xs.map key).Nodup) :
    (page key token limit c xs).items.Pairwise fun x y => key y < key x :=
  (pairwise_remaining h).sublist (List.take_sublist _ _)

theorem hasMore_page : (page key token limit c xs).hasMore ↔ limit < (remaining key c xs).length :=
  decide_eq_true_iff

/-- An entry below the cursor is on the page, or there is more and it is further down. -/
theorem mem_page_or (h : (xs.map key).Nodup) (hx : x ∈ xs) (hc : ∀ k ∈ c, key x < k) :
    x ∈ (page key token limit c xs).items ∨ (page key token limit c xs).hasMore ∧
      ∀ y ∈ (page key token limit c xs).items, key x < key y := by
  have hmem : x ∈ remaining key c xs := mem_remaining.mpr ⟨hx, hc⟩
  rw [remaining_eq_append key token limit c xs] at hmem
  rcases List.mem_append.mp hmem with hmem | hmem
  · exact Or.inl hmem
  · refine Or.inr ⟨hasMore_page.mpr ?_, fun y hy => lt_of_mem_drop h hmem hy⟩
    have hpos := List.length_pos_of_mem hmem
    rw [List.length_drop] at hpos
    omega

/-- **There is more exactly if there is an entry further down.** -/
theorem hasMore_page_iff (h : (xs.map key).Nodup) :
    (page key token limit c xs).hasMore ↔ ∃ x ∈ xs, (∀ k ∈ c, key x < k) ∧
      ∀ y ∈ (page key token limit c xs).items, key x < key y := by
  constructor
  · intro hmore
    have hlt := hasMore_page.mp hmore
    have hmem : (remaining key c xs)[limit] ∈ (remaining key c xs).drop limit := by
      rw [List.mem_drop_iff_getElem]
      exact ⟨0, by omega, by simp⟩
    obtain ⟨hx, hc⟩ := mem_remaining.mp (List.getElem_mem hlt)
    exact ⟨_, hx, hc, fun y hy => lt_of_mem_drop h hmem hy⟩
  · rintro ⟨x, hx, hc, hlow⟩
    have hcases : x ∈ (page key token limit c xs).items ∨ (page key token limit c xs).hasMore ∧
        ∀ y ∈ (page key token limit c xs).items, key x < key y := mem_page_or h hx hc
    rcases hcases with hmem | ⟨hmore, -⟩
    · exact absurd (hlow x hmem) (lt_irrefl _)
    · exact hmore

/-- **The token stands for the page**: it is that of a key on the page, and to be below this
key is to be below the cursor and below the whole page. -/
theorem next_page (h : (xs.map key).Nodup) (hlimit : 0 < limit)
    (hmore : (page key token limit c xs).hasMore) :
    ∃ x ∈ (page key token limit c xs).items,
      (page key token limit c xs).next = some (token (key x)) ∧
      ∀ k, k < key x ↔ (∀ m ∈ c, k < m) ∧
        ∀ y ∈ (page key token limit c xs).items, k < key y := by
  have hlt := hasMore_page.mp hmore
  have hne : (page key token limit c xs).items ≠ [] := by
    intro hnil
    have hlen := congrArg List.length hnil
    have htake : (page key token limit c xs).items.length = min limit (remaining key c xs).length :=
      List.length_take
    rw [htake, List.length_nil] at hlen
    omega
  refine ⟨(page key token limit c xs).items.getLast hne, List.getLast_mem hne, ?_, fun k => ?_⟩
  · have hnext : (page key token limit c xs).next =
        (page key token limit c xs).items.getLast?.map fun x => token (key x) := if_pos hlt
    rw [hnext, List.getLast?_eq_some_getLast hne, Option.map_some]
  · constructor
    · intro hk
      refine ⟨fun m hm => hk.trans ((mem_of_mem_page (List.getLast_mem hne)).2 m hm),
        fun y hy => ?_⟩
      -- the last entry of the page has the least key
      have hpair : (page key token limit c xs).items.Pairwise fun x y => key y < key x :=
        pairwise_page h
      rw [← List.dropLast_append_getLast hne] at hpair hy
      rcases List.mem_append.mp hy with hy | hy
      · exact hk.trans ((List.pairwise_append.mp hpair).2.2 y hy _ (List.mem_singleton_self _))
      · rw [List.mem_singleton.mp hy]
        exact hk
    · intro hk
      exact hk.2 _ (List.getLast_mem hne)

/-- The next request is for `limit` entries fewer. -/
theorem length_remaining_next (h : (xs.map key).Nodup)
    (hmore : (page key token limit c xs).hasMore) (hx : x ∈ (page key token limit c xs).items)
    (hlow : ∀ k, k < key x ↔ (∀ m ∈ c, k < m) ∧
      ∀ y ∈ (page key token limit c xs).items, k < key y) :
    (remaining key (some (key x)) xs).length + limit = (remaining key c xs).length := by
  have hlt := hasMore_page.mp hmore
  have hcount : (remaining key (some (key x)) xs).length =
      (remaining key c xs).countP fun y => key y < key x := by
    have hperm : (remaining key c xs).Perm (xs.filter fun x => c.all fun k => key x < k) :=
      List.mergeSort_perm _ _
    rw [length_remaining, hperm.countP_eq, List.countP_filter]
    refine List.countP_congr fun y _ => ?_
    have himp : key y < key x → ∀ m ∈ c, key y < m := fun hy => ((hlow (key y)).mp hy).1
    cases c with
    | none => simp
    | some m => simpa using himp
  have hpage : (page key token limit c xs).items.countP (fun y => key y < key x) = 0 := by
    rw [List.countP_eq_zero]
    intro y hy hyx
    exact lt_irrefl _ (((hlow (key y)).mp (of_decide_eq_true hyx)).2 y hy)
  have hrest : ((remaining key c xs).drop limit).countP (fun y => key y < key x) =
      ((remaining key c xs).drop limit).length := by
    rw [List.countP_eq_length]
    exact fun y hy => decide_eq_true (lt_of_mem_drop h hy hx)
  rw [hcount, remaining_eq_append key token limit c xs, List.countP_append, hpage, hrest,
    List.length_append]
  have htake : (page key token limit c xs).items.length = min limit (remaining key c xs).length :=
    List.length_take
  omega

end Page

/-! ## A walk -/

section Walk

variable {ask : Option τ → σ → Except ε (Reply α τ)} {matching : σ → List α} {token : κ → τ}
  {sound : κ → Prop} {limit : ℕ} {ts : List σ} {ps : List (Reply α τ)}
  {next : Option (Option τ)} {cur : Option τ} {t : σ}

/-- The request that a client makes is for what is below the cursor. -/
theorem Serves.request (h : Serves ask key matching token sound limit) (hsound : ∀ k ∈ c, sound k)
    (t : σ) : ask (c.map token) t = .ok (page key token limit c (matching t)) := by
  cases c with
  | none => exact h.first t
  | some k => exact h.after k t (hsound k rfl)

/-- **The cursor stands for all that has been returned.** -/
theorem Walk.cursor (hserves : Serves ask key matching token sound limit) (hlimit : 0 < limit)
    (h : Walk ask ts ps next) (hts : ∀ t ∈ ts, Servable key matching sound t) :
    ∀ cur, next = some cur → ∃ c : Option κ, cur = c.map token ∧ (∀ k ∈ c, sound k) ∧
      ∀ k, (∀ m ∈ c, k < m) ↔ ∀ y ∈ returned ps, k < key y := by
  induction h with
  | start =>
    rintro cur ⟨⟩
    exact ⟨none, rfl, by simp, by simp⟩
  | @next ts ps c t p h hp ih =>
    intro cur hcur
    split at hcur
    · rename_i hmore
      obtain rfl := Option.some.inj hcur
      obtain ⟨c, rfl, hsound, hbelow⟩ := ih (fun t ht => hts t (List.mem_append_left _ ht)) _ rfl
      obtain ⟨hnodup, hkeys⟩ := hts t (List.mem_append_right _ (List.mem_singleton_self t))
      obtain rfl := Except.ok.inj ((hserves.request hsound t).symm.trans hp)
      obtain ⟨x, hx, hnext, hlow⟩ := next_page hnodup hlimit hmore
      refine ⟨some (key x), hnext, ?_, fun k => ?_⟩
      · rintro k ⟨⟩
        exact hkeys x (mem_of_mem_page hx).1
      · rw [returned_snoc]
        simp only [Option.mem_some_iff, forall_eq', List.mem_append, or_imp, forall_and]
        rw [hlow k, hbelow k]
    · cases hcur

theorem Walk.answered (hserves : Serves ask key matching token sound limit) (hlimit : 0 < limit)
    (h : Walk ask ts ps (some cur)) (hts : ∀ t ∈ ts, Servable key matching sound t) :
    ∃ c : Option κ, (∀ t, ask cur t = .ok (page key token limit c (matching t))) ∧
      ∀ k, (∀ m ∈ c, k < m) ↔ ∀ y ∈ returned ps, k < key y := by
  obtain ⟨c, rfl, hsound, hbelow⟩ := h.cursor hserves hlimit hts cur rfl
  exact ⟨c, fun t => hserves.request hsound t, hbelow⟩

theorem Walk.descending (hserves : Serves ask key matching token sound limit) (hlimit : 0 < limit)
    (h : Walk ask ts ps next) (hts : ∀ t ∈ ts, Servable key matching sound t) :
    (returned ps).Pairwise fun x y => key y < key x := by
  induction h with
  | start => exact List.Pairwise.nil
  | @next ts ps c t p h hp ih =>
    have hts' : ∀ t ∈ ts, Servable key matching sound t :=
      fun t ht => hts t (List.mem_append_left _ ht)
    obtain ⟨c, hask, hbelow⟩ := h.answered hserves hlimit hts'
    obtain rfl := Except.ok.inj ((hask t).symm.trans hp)
    have hnodup := (hts t (List.mem_append_right _ (List.mem_singleton_self t))).nodup
    rw [returned_snoc, List.pairwise_append]
    exact ⟨ih hts', pairwise_page hnodup,
      fun y hy x hx => (hbelow (key x)).mp (mem_of_mem_page hx).2 y hy⟩

/-- An entry that was there all the time has been returned, or is further down and there is
a next request. -/
theorem Walk.mem_or (hserves : Serves ask key matching token sound limit) (hlimit : 0 < limit)
    (h : Walk ask ts ps next) (hts : ∀ t ∈ ts, Servable key matching sound t) {k : κ}
    (hk : ∀ t ∈ ts, ∃ x ∈ matching t, key x = k) :
    (∃ y ∈ returned ps, key y = k) ∨ next ≠ none ∧ ∀ y ∈ returned ps, k < key y := by
  induction h with
  | start => exact Or.inr ⟨nofun, by simp⟩
  | @next ts ps c t p h hp ih =>
    have hts' : ∀ t ∈ ts, Servable key matching sound t :=
      fun t ht => hts t (List.mem_append_left _ ht)
    obtain ⟨c, hask, hbelow⟩ := h.answered hserves hlimit hts'
    obtain rfl := Except.ok.inj ((hask t).symm.trans hp)
    have hmem : t ∈ ts ++ [t] := List.mem_append_right _ (List.mem_singleton_self t)
    rw [returned_snoc]
    rcases ih hts' fun t ht => hk t (List.mem_append_left _ ht) with ⟨y, hy, hyk⟩ | ⟨-, hlow⟩
    · exact Or.inl ⟨y, List.mem_append_left _ hy, hyk⟩
    · obtain ⟨x, hx, rfl⟩ := hk t hmem
      have hcases : x ∈ (page key token limit c (matching t)).items ∨
          (page key token limit c (matching t)).hasMore ∧
            ∀ y ∈ (page key token limit c (matching t)).items, key x < key y :=
        mem_page_or (hts t hmem).nodup hx ((hbelow (key x)).mpr hlow)
      rcases hcases with hpage | ⟨hmore, hpage⟩
      · exact Or.inl ⟨x, List.mem_append_right _ hpage, rfl⟩
      · refine Or.inr ⟨?_, fun y hy => ?_⟩
        · rw [if_pos hmore]
          nofun
        · rcases List.mem_append.mp hy with hy | hy
          · exact hlow y hy
          · exact hpage y hy

/-- **In the end it has been returned once.** -/
theorem Walk.complete (hserves : Serves ask key matching token sound limit) (hlimit : 0 < limit)
    (h : Walk ask ts ps none) (hts : ∀ t ∈ ts, Servable key matching sound t) {k : κ}
    (hk : ∀ t ∈ ts, ∃ x ∈ matching t, key x = k) : (returned ps).countP (key · = k) = 1 := by
  have hnodup : ((returned ps).map key).Nodup :=
    List.pairwise_map.mpr ((h.descending hserves hlimit hts).imp fun hlt => hlt.ne')
  obtain ⟨y, hy, hyk⟩ | ⟨hnext, -⟩ := h.mem_or hserves hlimit hts hk
  · have hcount : ((returned ps).map key).count k = (returned ps).countP (key · = k) := by
      rw [List.count, List.countP_map]
      rfl
    rw [← hcount, List.count_eq_one_of_mem hnodup]
    exact hyk ▸ List.mem_map_of_mem hy
  · exact absurd rfl hnext

/-! ## How many pages there are -/

theorem Walk.position (hserves : Serves ask key matching token sound limit) (hlimit : 0 < limit)
    (ht : Servable key matching sound t) (h : Walk ask ts ps next) (hts : ∀ u ∈ ts, u = t) :
    (∀ cur, next = some cur → ∃ c : Option κ, cur = c.map token ∧ (∀ k ∈ c, sound k) ∧
      (remaining key c (matching t)).length + ps.length * limit = (matching t).length ∧
      (ps.length = 0 ∨ ps.length * limit < (matching t).length)) ∧
    (next = none → (matching t).length ≤ ps.length * limit ∧
      (ps.length = 1 ∨ (ps.length - 1) * limit < (matching t).length) ∧ 0 < ps.length) := by
  induction h with
  | start =>
    refine ⟨?_, nofun⟩
    rintro cur ⟨⟩
    have hall : (remaining key none (matching t)).length = (matching t).length := by
      rw [length_remaining]
      simp
    exact ⟨none, rfl, by simp, by simpa using hall, Or.inl rfl⟩
  | @next ts ps cur u p h hp ih =>
    obtain rfl := hts u (List.mem_append_right _ (List.mem_singleton_self u))
    obtain ⟨c, rfl, hsound, hlen, hpos⟩ :=
      (ih fun v hv => hts v (List.mem_append_left _ hv)).1 _ rfl
    obtain rfl := Except.ok.inj ((hserves.request hsound u).symm.trans hp)
    rw [List.length_append, List.length_singleton, Nat.add_mul, Nat.one_mul]
    by_cases hmore : (page key token limit c (matching u)).hasMore
    · rw [if_pos hmore]
      refine ⟨?_, nofun⟩
      rintro cur ⟨⟩
      obtain ⟨x, hx, hnext, hlow⟩ := next_page ht.nodup hlimit hmore
      have hfewer := length_remaining_next ht.nodup hmore hx hlow
      have hlt := hasMore_page.mp hmore
      refine ⟨some (key x), hnext, ?_, by omega, Or.inr (by omega)⟩
      rintro k ⟨⟩
      exact ht.sound x (mem_of_mem_page hx).1
    · rw [if_neg hmore]
      refine ⟨nofun, fun _ => ?_⟩
      have hle : ¬ limit < (remaining key c (matching u)).length := fun hlt =>
        hmore (hasMore_page.mpr hlt)
      rw [Nat.add_sub_cancel]
      exact ⟨by omega, by omega, by omega⟩

/-- A walk that is over has had all pages. -/
theorem Walk.length_eq (hserves : Serves ask key matching token sound limit)
    (hlimit : 0 < limit) (ht : Servable key matching sound t) (h : Walk ask ts ps none)
    (hts : ∀ u ∈ ts, u = t) : ps.length = pages limit (matching t).length := by
  obtain ⟨hle, hlast, hpos⟩ := (h.position hserves hlimit ht hts).2 rfl
  generalize (matching t).length = n at hle hlast ⊢
  unfold pages
  have hupper : (n + (limit - 1)) / limit < ps.length + 1 := by
    rw [Nat.div_lt_iff_lt_mul hlimit, Nat.add_mul]
    omega
  rcases hlast with hone | hlast
  · omega
  · have hlower : ps.length ≤ (n + (limit - 1)) / limit := by
      rw [Nat.le_div_iff_mul_le hlimit]
      have hsplit : ps.length * limit = (ps.length - 1) * limit + limit := by
        rw [← Nat.succ_mul, Nat.succ_eq_add_one, Nat.sub_add_cancel hpos]
      omega
    omega

/-- A walk that is not over has not. -/
theorem Walk.length_lt (hserves : Serves ask key matching token sound limit)
    (hlimit : 0 < limit) (ht : Servable key matching sound t) (h : Walk ask ts ps (some cur))
    (hts : ∀ u ∈ ts, u = t) : ps.length < pages limit (matching t).length := by
  obtain ⟨c, -, -, -, hbefore⟩ := (h.position hserves hlimit ht hts).1 cur rfl
  unfold pages
  rcases hbefore with hzero | hbefore
  · omega
  · have hlower : ps.length + 1 ≤ ((matching t).length + (limit - 1)) / limit := by
      rw [Nat.le_div_iff_mul_le hlimit, Nat.add_mul]
      omega
    omega

theorem exists_finished (hserves : Serves ask key matching token sound limit)
    (hlimit : 0 < limit) (ht : Servable key matching sound t) :
    ∃ ps, Walk ask (List.replicate ps.length t) ps none := by
  -- one more request as long as there is to be one; the number of pages bounds how often
  have hgo : ∀ fuel ps cur, Walk ask (List.replicate ps.length t) ps (some cur) →
      pages limit (matching t).length ≤ ps.length + fuel →
      ∃ ps, Walk ask (List.replicate ps.length t) ps none := by
    intro fuel
    induction fuel with
    | zero =>
      intro ps cur h hfuel
      have hlt := h.length_lt hserves hlimit ht fun u hu => List.eq_of_mem_replicate hu
      omega
    | succ fuel ih =>
      intro ps cur h hfuel
      obtain ⟨c, hask, -⟩ := h.answered hserves hlimit fun u hu =>
        List.eq_of_mem_replicate hu ▸ ht
      have hnext := h.next (hask t)
      have hreplicate : List.replicate ps.length t ++ [t] =
          List.replicate (ps ++ [page key token limit c (matching t)]).length t := by
        rw [List.length_append, List.length_singleton, List.replicate_succ']
      rw [hreplicate] at hnext
      by_cases hmore : (page key token limit c (matching t)).hasMore
      · rw [if_pos hmore] at hnext
        refine ih _ _ hnext ?_
        rw [List.length_append, List.length_singleton]
        omega
      · rw [if_neg hmore] at hnext
        exact ⟨_, hnext⟩
  exact hgo _ [] none Walk.start (Nat.le_add_left _ _)

/-- **Paging by key visits every entry once.**  Each page goes on where the one before has ended, in
the order of the keys, so no entry comes twice and none is left out; and as a page is not empty
unless it is the last, there is a last one. -/
theorem visitsOnce_of_serves (hserves : Serves ask key matching token sound limit)
    (hlimit : 0 < limit) :
    VisitsOnce ask key matching (Servable key matching sound) limit where
  descending h hts := h.descending hserves hlimit hts
  answered := by
    intro ts ps cur h hts t ht
    obtain ⟨c, hask, hbelow⟩ := h.answered hserves hlimit hts
    refine ⟨_, hask t, fun x hx => (mem_of_mem_page hx).1, ?_⟩
    rw [hasMore_page_iff ht.nodup]
    refine exists_congr fun x => and_congr_right fun _ => ?_
    rw [hbelow (key x)]
    simp only [List.mem_append, or_imp, forall_and]
  complete h hts k hk := h.complete hserves hlimit hts hk
  ends := by
    intro t ht
    refine ⟨exists_finished hserves hlimit ht, fun ps next h => ?_⟩
    have hts : ∀ u ∈ List.replicate ps.length t, u = t := fun u hu => List.eq_of_mem_replicate hu
    cases next with
    | none => exact iff_of_true rfl (h.length_eq hserves hlimit ht hts)
    | some cur => exact iff_of_false nofun (h.length_lt hserves hlimit ht hts).ne

end Walk

/-! ## Numbered pages -/

/-- Page number `n` of a list, counted from 0, with the token of the page if it is not the
last. -/
def numbered (xs : List α) (limit : ℕ) (token : ℕ → τ) (n : ℕ) : Reply α τ where
  items := (xs.drop (n * limit)).take limit
  hasMore := (n + 1) * limit < xs.length
  next := if (n + 1) * limit < xs.length then some (token n) else none

/-- **A list without repetitions in numbered pages**: the token of a page gets the next one. -/
structure Paged (ask : Option τ → Except ε (Reply α τ)) (xs : List α) (limit : ℕ)
    (token : ℕ → τ) : Prop where
  pos : 0 < limit
  nodup : xs.Nodup
  first : ask none = .ok (numbered xs limit token 0)
  after : ∀ n, (n + 1) * limit < xs.length →
    ask (some (token n)) = .ok (numbered xs limit token (n + 1))

/-- Errors may be called something else. -/
theorem Paged.mapError {ε' : Type*} {ask : Option τ → Except ε (Reply α τ)} {xs : List α}
    {limit : ℕ} {token : ℕ → τ} (h : Paged ask xs limit token) (f : ε → ε') :
    Paged (fun c => (ask c).mapError f) xs limit token where
  pos := h.pos
  nodup := h.nodup
  first := by rw [h.first]; rfl
  after n hn := by rw [h.after n hn]; rfl

theorem head?_numbered {xs : List α} {limit : ℕ} {token : ℕ → τ} {n : ℕ} (hpos : 0 < limit)
    (hn : n * limit < xs.length) :
    (numbered xs limit token n).items.head? = some (xs[n * limit]) := by
  rw [numbered, List.head?_take, if_neg hpos.ne', List.head?_drop]
  exact List.getElem?_eq_getElem hn

/-- **Pages that look the same have the same number.** -/
theorem Paged.eq_of_items_eq {ask : Option τ → Except ε (Reply α τ)} {xs : List α} {limit : ℕ}
    {token : ℕ → τ} (h : Paged ask xs limit token) {m n : ℕ} (hm : m * limit < xs.length)
    (hn : n * limit < xs.length)
    (heq : (numbered xs limit token m).items = (numbered xs limit token n).items) : m = n := by
  have hheads := congrArg List.head? heq
  rw [head?_numbered h.pos hm, head?_numbered h.pos hn, Option.some_inj] at hheads
  have hindex := (h.nodup.getElem_inj_iff).mp hheads
  exact Nat.eq_of_mul_eq_mul_right h.pos hindex

/-- Pages that have a next one have different tokens. -/
theorem Paged.token_injective {ask : Option τ → Except ε (Reply α τ)} {xs : List α} {limit : ℕ}
    {token : ℕ → τ} (h : Paged ask xs limit token) {m n : ℕ} (hm : (m + 1) * limit < xs.length)
    (hn : (n + 1) * limit < xs.length) (heq : token m = token n) : m = n := by
  have hpages : (Except.ok (numbered xs limit token (m + 1)) : Except ε (Reply α τ)) =
      .ok (numbered xs limit token (n + 1)) := by
    rw [← h.after m hm, ← h.after n hn, heq]
  have hsame := h.eq_of_items_eq hm hn (congrArg Reply.items (Except.ok.inj hpages))
  omega

/-- What is below an entry is what comes after it. -/
theorem remaining_some_eq_drop (h : (xs.map key).Nodup) {i : ℕ}
    (hi : i < (remaining key none xs).length) :
    remaining key (some (key (remaining key none xs)[i])) xs =
      (remaining key none xs).drop (i + 1) := by
  have hall : (remaining key none xs).Pairwise fun x y => key y < key x := pairwise_remaining h
  have hbelow : (remaining key (some (key (remaining key none xs)[i])) xs).Pairwise
      fun x y => key y < key x := pairwise_remaining h
  have hdrop := hall.sublist (List.drop_sublist (i + 1) _)
  have hmem : ∀ x, x ∈ remaining key (some (key (remaining key none xs)[i])) xs ↔
      x ∈ (remaining key none xs).drop (i + 1) := by
    intro x
    rw [mem_remaining]
    constructor
    · rintro ⟨hx, hlt⟩
      have hlt := hlt _ rfl
      have hmem : x ∈ remaining key none xs := mem_remaining.mpr ⟨hx, nofun⟩
      obtain ⟨j, hj, rfl⟩ := List.mem_iff_getElem.mp hmem
      have hij : i < j := by
        by_contra hle
        rcases (Nat.le_of_not_lt hle).eq_or_lt with rfl | hji
        · exact lt_irrefl _ hlt
        · exact lt_asymm hlt (List.pairwise_iff_getElem.mp hall j i hj hi hji)
      rw [List.mem_drop_iff_getElem]
      exact ⟨j - (i + 1), by omega, by congr 1; omega⟩
    · intro hx
      refine ⟨(mem_remaining.mp (List.mem_of_mem_drop hx)).1, fun k hk => ?_⟩
      obtain rfl := Option.some.inj hk
      obtain ⟨j, hj, rfl⟩ := List.mem_drop_iff_getElem.mp hx
      exact List.pairwise_iff_getElem.mp hall i _ hi _ (by omega)
  have hnodup {l : List α} (hl : l.Pairwise fun x y => key y < key x) : l.Nodup :=
    hl.imp fun hlt heq => hlt.ne' (congrArg key heq)
  have hperm := (List.perm_ext_iff_of_nodup (hnodup hbelow) (hnodup hdrop)).mpr hmem
  exact hperm.eq_of_pairwise (fun x y _ _ hxy hyx => absurd hxy (lt_asymm hyx)) hbelow hdrop

/-- The token of the last entry of a page. -/
def lastToken [Inhabited τ] (key : α → κ) (token : κ → τ) (limit : ℕ) (xs : List α) (n : ℕ) : τ :=
  (xs[(n + 1) * limit - 1]?.map fun x => token (key x)).getD default

/-- A page of what is below a cursor is a numbered page. -/
theorem page_eq_numbered [Inhabited τ] {token : κ → τ} {limit : ℕ} {ys : List α} {n : ℕ}
    (hlimit : 0 < limit) (h : remaining key c xs = ys.drop (n * limit)) :
    page key token limit c xs = numbered ys limit (lastToken key token limit ys) n := by
  have hsucc : (n + 1) * limit = n * limit + limit := Nat.succ_mul n limit
  have hmore : limit < (ys.drop (n * limit)).length ↔ (n + 1) * limit < ys.length := by
    rw [List.length_drop]
    omega
  unfold page numbered
  rw [h, decide_eq_decide.mpr hmore]
  congr 1
  refine if_ctx_congr hmore (fun hlast => ?_) fun _ => rfl
  have hindex : n * limit + (limit - 1) = (n + 1) * limit - 1 := by omega
  have hin : (n + 1) * limit - 1 < ys.length := by omega
  rw [List.getLast?_take, if_neg hlimit.ne', List.getElem?_drop, hindex, lastToken,
    List.getElem?_eq_getElem hin]
  rfl

/-- **Paging by key gives numbered pages** of the entries, largest key first. -/
theorem Serves.paged [Inhabited τ] {ask : Option τ → σ → Except ε (Reply α τ)}
    {matching : σ → List α} {token : κ → τ} {sound : κ → Prop} {limit : ℕ} {t : σ}
    (h : Serves ask key matching token sound limit) (ht : Servable key matching sound t)
    (hlimit : 0 < limit) :
    Paged (ask · t) (remaining key none (matching t)) limit
      (lastToken key token limit (remaining key none (matching t))) where
  pos := hlimit
  nodup := by
    have hpair : (remaining key none (matching t)).Pairwise fun x y => key y < key x :=
      pairwise_remaining ht.nodup
    exact hpair.imp fun hlt heq => hlt.ne' (congrArg key heq)
  first := by
    rw [h.first t, page_eq_numbered hlimit (n := 0)]
    rw [Nat.zero_mul, List.drop_zero]
  after n hn := by
    have hpos : 0 < (n + 1) * limit := Nat.mul_pos n.succ_pos hlimit
    have hin : (n + 1) * limit - 1 < (remaining key none (matching t)).length := by omega
    have htoken : lastToken key token limit (remaining key none (matching t)) n =
        token (key (remaining key none (matching t))[(n + 1) * limit - 1]) := by
      rw [lastToken, List.getElem?_eq_getElem hin]
      rfl
    have hsound := ht.sound _ (mem_remaining.mp (List.getElem_mem hin)).1
    rw [htoken, h.after _ t hsound, page_eq_numbered hlimit]
    rw [remaining_some_eq_drop ht.nodup hin, Nat.sub_add_cancel hpos]

end Paging
