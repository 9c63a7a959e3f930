import Mathlib.Data.List.Nodup
import Mathlib.Data.List.Sort
import Mathlib.Order.Lex

/-!
# Sorted sets

A key-value store's sorted set: every member occurs once and has a score.  The
three operations are the usual ones.  `add` sets the score of a member, new or
old; `remove` drops a member; `popMin n` takes out the `n` entries of least
score, ties broken by the order of the members.

That a member occurs once is a field, so no operation has to be shown to keep it
twice.  The proofs use three things about it.

* Membership: `mem_members_add`, `mem_members_remove`, and `mem_members_popMin`, which says that
  popping moves entries and loses none.
* The score of one member is none of the business of another (`score_add_of_not_mem`,
  `score_remove_of_ne`, `score_popMin_of_not_mem`), and what is added to distinct members has the
  score it came with (`score_add_of_mem`).
* What is popped comes in the order of the scores and each member once (`pairwise_popMin`,
  `nodup_popMin`), as the entries are sorted and then cut.
-/

universe u

namespace KeyValue

/-- An entry of a sorted set. -/
structure Scored (μ : Type u) where
  score : ℤ
  member : μ
  deriving DecidableEq

/-- A sorted set: scored members, each occurring once. -/
structure SortedSet (μ : Type u) where
  entries : List (Scored μ)
  nodup : (entries.map Scored.member).Nodup

namespace SortedSet

variable {μ : Type u}

/-- The members, without their scores. -/
def members (s : SortedSet μ) : List μ := s.entries.map Scored.member

/-- The set without entries. -/
def empty : SortedSet μ := ⟨[], List.nodup_nil⟩

@[simp] theorem members_empty : (empty : SortedSet μ).members = [] := rfl

section DecidableEq

variable [DecidableEq μ]

/-- Drop a member. -/
def remove (m : μ) (s : SortedSet μ) : SortedSet μ where
  entries := s.entries.filter fun x => x.member ≠ m
  nodup := s.nodup.sublist (List.filter_sublist.map _)

theorem mem_members_remove {m m' : μ} {s : SortedSet μ} :
    m' ∈ (s.remove m).members ↔ m' ∈ s.members ∧ m' ≠ m := by
  simp only [members, remove, List.mem_map, List.mem_filter, decide_eq_true_eq]
  constructor
  · rintro ⟨x, ⟨hx, hne⟩, rfl⟩
    exact ⟨⟨x, hx, rfl⟩, hne⟩
  · rintro ⟨⟨x, hx, rfl⟩, hne⟩
    exact ⟨x, ⟨hx, hne⟩, rfl⟩

/-- Set the score of one member. -/
def insert (x : Scored μ) (s : SortedSet μ) : SortedSet μ where
  entries := (s.remove x.member).entries ++ [x]
  nodup := by
    rw [List.map_append, List.map_singleton, ← List.concat_eq_append, List.nodup_concat]
    exact ⟨fun h => (mem_members_remove.mp h).2 rfl, (s.remove x.member).nodup⟩

theorem mem_members_insert {m : μ} {x : Scored μ} {s : SortedSet μ} :
    m ∈ (s.insert x).members ↔ m = x.member ∨ m ∈ s.members := by
  have h : (s.insert x).members = (s.remove x.member).members ++ [x.member] := by
    simp [insert, members]
  rw [h, List.mem_append, mem_members_remove, List.mem_singleton]
  by_cases hm : m = x.member
  · simp [hm]
  · simp [hm]

/-- Set the scores of several members, in order. -/
def add (xs : List (Scored μ)) (s : SortedSet μ) : SortedSet μ :=
  xs.foldl (fun s x => s.insert x) s

theorem mem_members_add {m : μ} {xs : List (Scored μ)} {s : SortedSet μ} :
    m ∈ (s.add xs).members ↔ m ∈ xs.map Scored.member ∨ m ∈ s.members := by
  induction xs generalizing s with
  | nil => simp [add]
  | cons x xs ih =>
    rw [add, List.foldl_cons, ← add, ih, mem_members_insert, List.map_cons, List.mem_cons]
    tauto

/-- The score of a member. -/
def score (m : μ) (s : SortedSet μ) : Option ℤ :=
  (s.entries.find? (·.member = m)).map Scored.score

/-- A member has the score of its entry. -/
theorem score_eq_some_iff {m : μ} {v : ℤ} {s : SortedSet μ} :
    s.score m = some v ↔ ⟨v, m⟩ ∈ s.entries := by
  rw [score, Option.map_eq_some_iff]
  constructor
  · rintro ⟨x, hx, rfl⟩
    have hfound := List.find?_some hx
    obtain rfl : x.member = m := of_decide_eq_true hfound
    exact List.mem_of_find?_eq_some hx
  · intro hmem
    cases hfind : s.entries.find? (·.member = m) with
    | none => exact absurd (decide_eq_true rfl) (List.find?_eq_none.mp hfind _ hmem)
    | some x =>
      have hfound := List.find?_some hfind
      obtain rfl : x.member = m := of_decide_eq_true hfound
      have heq := List.inj_on_of_nodup_map s.nodup (List.mem_of_find?_eq_some hfind) hmem rfl
      exact ⟨x, rfl, congrArg Scored.score heq⟩

theorem score_eq_none_iff {m : μ} {s : SortedSet μ} : s.score m = none ↔ m ∉ s.members := by
  rw [score, Option.map_eq_none_iff, List.find?_eq_none, members, List.mem_map]
  constructor
  · rintro hnone ⟨x, hx, rfl⟩
    exact hnone x hx (decide_eq_true rfl)
  · intro hnot x hx hm
    exact hnot ⟨x, hx, of_decide_eq_true hm⟩

theorem score_remove_of_ne {m m' : μ} (h : m' ≠ m) (s : SortedSet μ) :
    (s.remove m).score m' = s.score m' := by
  unfold score remove
  rw [List.find?_filter]
  congr 2
  funext x
  by_cases hx : x.member = m'
  · simp [hx, h]
  · simp [hx]

theorem score_remove_self (m : μ) (s : SortedSet μ) : (s.remove m).score m = none := by
  rw [score, Option.map_eq_none_iff, List.find?_eq_none]
  intro x hx
  simpa [remove] using (List.mem_filter.mp hx).2

theorem score_insert_of_ne {m : μ} {x : Scored μ} (h : m ≠ x.member) (s : SortedSet μ) :
    (s.insert x).score m = s.score m := by
  rw [← score_remove_of_ne h s]
  unfold score insert
  rw [List.find?_append, List.find?_singleton, if_neg (by simpa using h.symm), Option.or_none]

theorem score_insert_self (x : Scored μ) (s : SortedSet μ) :
    (s.insert x).score x.member = some x.score :=
  score_eq_some_iff.mpr (List.mem_append_right _ (List.mem_singleton_self x))

/-- Setting the scores of some members does not change the scores of the others. -/
theorem score_add_of_not_mem {m : μ} {xs : List (Scored μ)} (h : m ∉ xs.map Scored.member)
    (s : SortedSet μ) : (s.add xs).score m = s.score m := by
  induction xs generalizing s with
  | nil => rfl
  | cons x xs ih =>
    rw [List.map_cons, List.mem_cons, not_or] at h
    rw [add, List.foldl_cons, ← add, ih h.2, score_insert_of_ne h.1]

/-- Setting the scores of distinct members gives each the one it comes with. -/
theorem score_add_of_mem {x : Scored μ} {xs : List (Scored μ)} (hx : x ∈ xs)
    (hnodup : (xs.map Scored.member).Nodup) (s : SortedSet μ) :
    (s.add xs).score x.member = some x.score := by
  induction xs generalizing s with
  | nil => cases hx
  | cons y ys ih =>
    obtain ⟨hnot, hys⟩ := List.nodup_cons.mp hnodup
    rw [add, List.foldl_cons, ← add]
    rcases List.mem_cons.mp hx with rfl | hx
    · rw [score_add_of_not_mem hnot, score_insert_self]
    · exact ih hx hys _

end DecidableEq

section LinearOrder

variable [LinearOrder μ]

/-- The order of the entries: by score, then by member. -/
def Before (a b : Scored μ) : Prop :=
  a.score < b.score ∨ a.score = b.score ∧ a.member ≤ b.member

instance : DecidableRel (Before (μ := μ)) := fun _ _ => inferInstanceAs (Decidable (_ ∨ _))

instance : Std.Total (Before (μ := μ)) where
  total a b := by
    rcases lt_trichotomy a.score b.score with h | h | h
    · exact Or.inl (Or.inl h)
    · exact (le_total a.member b.member).imp (fun hm => Or.inr ⟨h, hm⟩)
        fun hm => Or.inr ⟨h.symm, hm⟩
    · exact Or.inr (Or.inl h)

instance : IsTrans (Scored μ) Before where
  trans a b c := by
    rintro (hab | ⟨hab, hm⟩) (hbc | ⟨hbc, hm'⟩)
    · exact Or.inl (hab.trans hbc)
    · exact Or.inl (hbc ▸ hab)
    · exact Or.inl (hab ▸ hbc)
    · exact Or.inr ⟨hab.trans hbc, hm.trans hm'⟩

/-- What comes before has no greater score. -/
theorem Before.score_le {a b : Scored μ} (h : Before a b) : a.score ≤ b.score := by
  rcases h with h | ⟨h, -⟩
  · exact le_of_lt h
  · exact le_of_eq h

/-- The entries in order. -/
def ordered (s : SortedSet μ) : List (Scored μ) := s.entries.insertionSort Before

theorem ordered_perm (s : SortedSet μ) : s.ordered.Perm s.entries :=
  List.perm_insertionSort _ _

/-- The `n` least entries, and the set without them. -/
def popMin (n : ℕ) (s : SortedSet μ) : List (Scored μ) × SortedSet μ :=
  (s.ordered.take n, ⟨s.ordered.drop n, by
    have h : (s.ordered.map Scored.member).Nodup :=
      (s.ordered_perm.map Scored.member).nodup_iff.mpr s.nodup
    exact h.sublist ((List.drop_sublist _ _).map _)⟩)

/-- **Popping moves entries and loses none.** -/
theorem mem_members_popMin {m : μ} {n : ℕ} {s : SortedSet μ} :
    m ∈ (s.popMin n).1.map Scored.member ∨ m ∈ (s.popMin n).2.members ↔ m ∈ s.members := by
  rw [members, members, ← (s.ordered_perm.map Scored.member).mem_iff, ← List.mem_append,
    ← List.map_append, popMin, List.take_append_drop]

/-- **Popping keeps no copy**: what it moves it removes. -/
theorem nodup_popMin (n : ℕ) (s : SortedSet μ) :
    ((s.popMin n).1.map Scored.member ++ (s.popMin n).2.members).Nodup := by
  rw [members, ← List.map_append, popMin, List.take_append_drop,
    (s.ordered_perm.map Scored.member).nodup_iff]
  exact s.nodup

/-- What is popped comes in the order of the scores. -/
theorem pairwise_popMin (n : ℕ) (s : SortedSet μ) :
    (s.popMin n).1.Pairwise fun a b => a.score ≤ b.score := by
  have hsorted : s.ordered.Pairwise Before := List.pairwise_insertionSort _ _
  exact (hsorted.sublist (List.take_sublist _ _)).imp Before.score_le

end LinearOrder

section Score

variable [LinearOrder μ] [DecidableEq μ]

theorem score_of_mem_popMin {n : ℕ} {s : SortedSet μ} {x : Scored μ} (hx : x ∈ (s.popMin n).1) :
    s.score x.member = some x.score :=
  score_eq_some_iff.mpr (s.ordered_perm.mem_iff.mp (List.mem_of_mem_take hx))

theorem score_popMin_of_mem {n : ℕ} {s : SortedSet μ} {m : μ}
    (hm : m ∈ (s.popMin n).1.map Scored.member) : (s.popMin n).2.score m = none := by
  rw [score_eq_none_iff]
  intro hmem
  have hnodup := nodup_popMin n s
  rw [List.nodup_append'] at hnodup
  exact hnodup.2.2 hm hmem

theorem score_popMin_of_not_mem {n : ℕ} {s : SortedSet μ} {m : μ}
    (hm : m ∉ (s.popMin n).1.map Scored.member) : (s.popMin n).2.score m = s.score m := by
  have hiff : ∀ v : ℤ, (s.popMin n).2.score m = some v ↔ s.score m = some v := by
    intro v
    rw [score_eq_some_iff, score_eq_some_iff, ← s.ordered_perm.mem_iff,
      ← List.take_append_drop n s.ordered, List.mem_append]
    refine ⟨Or.inr, fun h => h.resolve_left fun htake => hm ?_⟩
    exact List.mem_map.mpr ⟨_, htake, rfl⟩
  cases hscore : s.score m with
  | some v => exact (hiff v).mpr hscore
  | none =>
    rw [score_eq_none_iff] at hscore ⊢
    exact fun hmem => hscore (mem_members_popMin.mp (Or.inr hmem))

end Score

end SortedSet

end KeyValue
