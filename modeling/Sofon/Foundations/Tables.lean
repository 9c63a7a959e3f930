import Mathlib.Data.List.Nodup
import Mathlib.Data.Multiset.ZeroCons

/-!
# Tables

A table is a list of rows.  Three kinds of facts about it are collected here.

* *Parts.*  A query that has the condition for a part of the table in it can as well be made of the
  part: a row that is found by its primary key is found there (`filter_find?_eq_find?_filter`), an
  update or a deletion outside of the part leaves the part as it was, and rows from which nothing
  is selected can be left out.
* *Insertions* that leave out what is there already (`insertNew`): if nothing is there, the rows are
  appended in order (`foldl_insertNew`).
* *Selections* from the entries of a list that changes in one place, up to order
  (`filterMap_set_perm`, `filterMap_set_eq`).
-/

namespace List

universe u v

variable {α : Type u} {β κ : Type v}

/-- A row that is found by its primary key is found in the part that it belongs to. -/
theorem filter_find?_eq_find?_filter [DecidableEq κ] {key : α → κ} {l : List α}
    (h : (l.map key).Nodup) (p : α → Bool) (k : κ) :
    (l.find? (key · = k)).filter p = (l.filter p).find? (key · = k) := by
  rw [find?_filter]
  induction l with
  | nil => rfl
  | cons row rows ih =>
    rw [map_cons, nodup_cons] at h
    rw [find?_cons, find?_cons]
    by_cases hk : key row = k
    · by_cases hp : p row
      · simp [hk, hp]
      · -- no other row has this key
        have hnone : rows.find? (fun row => p row = true ∧ decide (key row = k) = true) = none := by
          rw [find?_eq_none]
          intro row' hrow' hfound
          simp only [decide_eq_true_eq] at hfound
          exact h.1 (mem_map.mpr ⟨row', hrow', hfound.2.trans hk.symm⟩)
        simp only [hk, decide_true, Option.filter_some, hp, hnone]
        rfl
    · simp only [hk, decide_false]
      simpa [hk] using ih h.2

/-- An update of rows outside of the part does not change the part. -/
theorem filter_map_eq_filter {p : α → Bool} {f : α → α} (hp : ∀ x, p (f x) = p x)
    (hf : ∀ x, p x → f x = x) (l : List α) : (l.map f).filter p = l.filter p := by
  have hcomp : p ∘ f = p := funext hp
  rw [filter_map, hcomp]
  refine (map_congr_left fun x hx => ?_).trans (map_id _)
  exact hf x (mem_filter.mp hx).2

theorem filter_filter_eq_filter {p q : α → Bool} (h : ∀ x, p x → q x) (l : List α) :
    (l.filter q).filter p = l.filter p := by
  rw [filter_filter]
  refine filter_congr fun x _ => ?_
  cases hx : p x with
  | true => rw [h x hx, Bool.and_self]
  | false => rw [Bool.false_and]

/-- Rows from which nothing is selected can be left out. -/
theorem flatMap_filter_eq {l : List α} {p : α → Bool} {f : α → List β}
    (h : ∀ x ∈ l, p x = false → f x = []) : (l.filter p).flatMap f = l.flatMap f := by
  induction l with
  | nil => rfl
  | cons x l ih =>
    have htail := ih fun y hy => h y (mem_cons_of_mem _ hy)
    cases hx : p x with
    | true => rw [filter_cons_of_pos hx, flatMap_cons, flatMap_cons, htail]
    | false =>
      rw [filter_cons_of_neg (by simp [hx]), flatMap_cons, h x mem_cons_self hx, nil_append, htail]

/-- **Tables whose parts are alike are alike**, when alike rows belong to the same part. -/
theorem rel_of_filter [DecidableEq κ] {key : α → κ} {r : α → α → Prop} {l l' : List α}
    (hkey : ∀ a b, r a b → key a = key b)
    (h : ∀ k, Forall₂ r (l.filter (key · = k)) (l'.filter (key · = k))) :
    Multiset.Rel r (l : Multiset α) (l' : Multiset α) := by
  induction l generalizing l' with
  | nil =>
    have hnil : l' = [] := by
      refine eq_nil_iff_forall_not_mem.mpr fun b hb => ?_
      have hpart := h (key b)
      rw [filter_nil, forall₂_nil_left_iff, filter_eq_nil_iff] at hpart
      exact hpart b hb (decide_eq_true rfl)
    rw [hnil]
    exact Multiset.Rel.zero
  | cons a l ih =>
    have hpart := h (key a)
    rw [filter_cons, if_pos (decide_eq_true rfl)] at hpart
    obtain ⟨b, rest, hab, hrest, hl'⟩ := forall₂_cons_left_iff.mp hpart
    obtain ⟨l₁, l₂, rfl, hl₁, -, rfl⟩ := filter_eq_cons_iff.mp hl'
    have hperm : ((l₁ ++ b :: l₂ : List α) : Multiset α) =
        b ::ₘ ((l₁ ++ l₂ : List α) : Multiset α) := Multiset.coe_eq_coe.mpr perm_middle
    rw [hperm]
    refine Multiset.Rel.cons hab (ih fun k => ?_)
    by_cases hk : key a = k
    · subst hk
      rw [filter_append, filter_eq_nil_iff.mpr hl₁, nil_append]
      exact hrest
    · have hothers := h k
      rw [filter_cons_of_neg (by simpa using hk), filter_append,
        filter_cons_of_neg (by simpa [← hkey a b hab] using hk), ← filter_append] at hothers
      exact hothers

/-! ## Insertion of what is not there -/

/-- `INSERT … ON CONFLICT (key) DO NOTHING` -/
def insertNew [DecidableEq κ] (key : α → κ) (rows : List α) (row : α) : List α :=
  if key row ∈ rows.map key then rows else rows ++ [row]

/-- **Rows with new keys are all inserted**, in order. -/
theorem foldl_insertNew [DecidableEq κ] {key : α → κ} {rows new : List α}
    (h : ((rows ++ new).map key).Nodup) : new.foldl (insertNew key) rows = rows ++ new := by
  induction new generalizing rows with
  | nil => rw [foldl_nil, append_nil]
  | cons row new ih =>
    have hnew : key row ∉ rows.map key := by
      rw [map_append, map_cons, nodup_append] at h
      exact fun hmem => h.2.2 _ hmem _ mem_cons_self rfl
    rw [foldl_cons, insertNew, if_neg hnew, ih, append_assoc, singleton_append]
    rwa [append_assoc, singleton_append]

/-- Changing an entry that was not selected to one that is selects one more. -/
theorem filterMap_set_perm {f : α → Option β} {l : List α} {i : ℕ} {a a' : α} {b : β}
    (hi : l[i]? = some a) (ha : f a = none) (ha' : f a' = some b) :
    (l.filterMap f ++ [b]).Perm ((l.set i a').filterMap f) := by
  induction l generalizing i with
  | nil => cases hi
  | cons x l ih =>
    cases i with
    | zero =>
      cases hi
      rw [set_cons_zero, filterMap_cons_none ha, filterMap_cons_some ha']
      exact perm_append_singleton b _
    | succ i =>
      rw [set_cons_succ, filterMap_cons, filterMap_cons]
      cases f x with
      | none => exact ih hi
      | some y => exact (ih hi).cons y

/-- Changing an entry without changing what is selected of it. -/
theorem filterMap_set_eq {f : α → Option β} {l : List α} {i : ℕ} {a a' : α}
    (hi : l[i]? = some a) (ha : f a' = f a) : (l.set i a').filterMap f = l.filterMap f := by
  induction l generalizing i with
  | nil => cases hi
  | cons x l ih =>
    cases i with
    | zero =>
      cases hi
      rw [set_cons_zero, filterMap_cons, filterMap_cons, ha]
    | succ i => rw [set_cons_succ, filterMap_cons, filterMap_cons, ih hi]

/-- What is collected from the entries of one list is selected from those of another. -/
theorem flatMap_sublist_filterMap {γ : Type*} {f : α → List β} {g : γ → Option β} {l : List α}
    {l' : List γ} (hlength : l.length = l'.length)
    (h : ∀ (i : ℕ) a c, l[i]? = some a → l'[i]? = some c → (f a).Sublist (g c).toList) :
    (l.flatMap f).Sublist (l'.filterMap g) := by
  induction l generalizing l' with
  | nil => exact nil_sublist _
  | cons a l ih =>
    cases l' with
    | nil => cases hlength
    | cons c l' =>
      have hfirst : (f a).Sublist (g c).toList := h 0 a c rfl rfl
      have hrest := ih (Nat.succ.inj hlength) fun i => h (i + 1)
      have hcons : (c :: l').filterMap g = (g c).toList ++ l'.filterMap g := by
        rw [filterMap_cons]
        cases g c <;> rfl
      rw [flatMap_cons, hcons]
      exact hfirst.append hrest

end List
