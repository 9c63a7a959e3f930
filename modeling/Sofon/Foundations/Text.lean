import Mathlib.Data.List.TakeWhile
import Mathlib.Data.String.Basic

/-!
# Trimming and splitting text

Two languages cut the same text at the same character and trim what they cut off, each with
its own idea of white space.  Here the idea is a parameter.

Everything is done on lists of characters, where cutting is Mathlib's `splitOn`; that cutting a
`String` at a text of one character is the same is the one place where strings come in
(`splitOn_singleton`).

* No piece contains the separator (`not_mem_of_mem_split`), so pieces put together come apart
  again (`fields_join`).  If the separator occurs in them, they come apart into the pieces of the
  pieces (`split_join`).
* Trimming leaves nothing of a text that is all white space, and of no other
  (`trim_eq_nil_iff`), so a piece that is dropped by one language as blank is blank for the other
  after the first has trimmed it.
* A text that one of them has cut, trimmed and put together again says to the other what it
  said before exactly if the trimming makes no difference to any piece
  (`fields_join_fields`).  Lists of pieces are compared piece by piece, after those that are
  dropped have been left out (`filter_ne_nil_map_eq_iff`).
-/

/-- Of two lists of lists, made from one list, the first has the same nonempty members as the
second exactly if they are the same, provided that it has empty members wherever the second
has. -/
theorem List.filter_ne_nil_map_eq_iff {α β : Type*} [DecidableEq β] {f g : α → List β}
    (h : ∀ x, g x = [] → f x = []) (l : List α) :
    (l.map f).filter (· ≠ []) = (l.map g).filter (· ≠ []) ↔ ∀ x ∈ l, f x = g x := by
  have hle (l : List α) :
      ((l.map f).filter (· ≠ [])).length ≤ ((l.map g).filter (· ≠ [])).length := by
    rw [← List.countP_eq_length_filter, ← List.countP_eq_length_filter, List.countP_map,
      List.countP_map]
    refine List.countP_mono_left fun x _ hx => ?_
    have hne : f x ≠ [] := of_decide_eq_true hx
    exact decide_eq_true fun hg => hne (h x hg)
  constructor
  · intro heq
    induction l with
    | nil => simp
    | cons x l ih =>
      rw [List.map_cons, List.map_cons] at heq
      have hsame : f x = g x ∧
          (l.map f).filter (· ≠ []) = (l.map g).filter (· ≠ []) := by
        by_cases hg : g x = []
        · rw [List.filter_cons_of_neg (by simp [h x hg]), List.filter_cons_of_neg (by simp [hg])]
            at heq
          exact ⟨(h x hg).trans hg.symm, heq⟩
        · by_cases hf : f x = []
          · -- then the second list is longer
            rw [List.filter_cons_of_neg (by simp [hf]), List.filter_cons_of_pos (by simp [hg])]
              at heq
            have hlen := congrArg List.length heq
            rw [List.length_cons] at hlen
            have := hle l
            omega
          · rw [List.filter_cons_of_pos (by simp [hf]), List.filter_cons_of_pos (by simp [hg])]
              at heq
            exact List.cons.inj heq
      intro y hy
      rcases List.mem_cons.mp hy with rfl | hy
      · exact hsame.1
      · exact ih hsame.2 y hy
  · intro heq
    rw [List.map_congr_left heq]

namespace String

/-- Cutting at a text of one character is cutting at the character. -/
theorem splitOnAux_singleton (s : String) (c : Char) (b i : Pos.Raw) (r : List String) :
    splitOnAux s (singleton c) b i 0 r = splitAux s (· == c) b i r := by
  have hget : (0 : Pos.Raw).get (singleton c) = c := by
    simpa using get_of_valid [] [c]
  have hnext : (0 : Pos.Raw).next (singleton c) = ⟨c.utf8Size⟩ := by
    simpa using next_of_valid [] c []
  have hend : (⟨c.utf8Size⟩ : Pos.Raw).atEnd (singleton c) = true := by
    simpa using atEnd_of_valid [c] []
  have hback (i : Pos.Raw) : i.unoffsetBy 0 = i := by
    rw [Pos.Raw.ext_iff]
    simp
  fun_induction splitAux s (· == c) b i r with
  | case1 b i r h r' => rw [splitOnAux, if_pos h]
  | case2 b i r h h' hc i' ih =>
    have hsame : i.get s = c := eq_of_beq hc
    have hstart : (i.next s).unoffsetBy ⟨c.utf8Size⟩ = i := by
      rw [Pos.Raw.ext_iff]
      simp [Pos.Raw.next, hsame]
    rw [splitOnAux, if_neg h, hget, if_pos hc]
    simp only [hnext, hend, hstart, if_true]
    exact ih
  | case3 b i r h h' hc ih =>
    rw [splitOnAux, if_neg h, hget, if_neg hc, hback]
    exact ih

/-- A text is cut at a character as the list of its characters is. -/
theorem splitOn_singleton (s : String) (c : Char) :
    s.splitOn (singleton c) = (s.toList.splitOn c).map ofList := by
  have hne : (singleton c == "") = false := by simp
  rw [splitOn, hne, if_neg Bool.false_ne_true, splitOnAux_singleton,
    List.splitOn_eq_splitOnP]
  exact splitToList_of_valid s (· == c)

end String

namespace Text

/-- `s` without the leading and the trailing characters that are `space`. -/
def trim (space : Char → Bool) (s : List Char) : List Char :=
  ((s.dropWhile space).reverse.dropWhile space).reverse

/-- The pieces of `s` between the separators. -/
def split (sep : Char) (s : List Char) : List (List Char) := s.splitOn sep

/-- The pieces, with a separator between any two. -/
def join (sep : Char) (ps : List (List Char)) : List Char := [sep].intercalate ps

/-- The trimmed pieces of `s` that are not empty. -/
def fields (space : Char → Bool) (sep : Char) (s : List Char) : List (List Char) :=
  ((split sep s).map (trim space)).filter (· ≠ [])

variable {space space' : Char → Bool} {sep : Char}

/-! ## Trimming -/

@[simp] theorem trim_nil : trim space [] = [] := rfl

/-- Trimming adds nothing. -/
theorem trim_subset (space : Char → Bool) (s : List Char) : trim space s ⊆ s := by
  intro c hc
  have hmid := List.dropWhile_subset space (List.mem_reverse.mp hc)
  exact List.dropWhile_subset space (List.mem_reverse.mp hmid)

/-- A text without white space stays as it is. -/
theorem trim_eq_self {s : List Char} (h : ∀ c ∈ s, space c = false) : trim space s = s := by
  have hdrop {t : List Char} (ht : ∀ c ∈ t, space c = false) : t.dropWhile space = t := by
    cases t with
    | nil => rfl
    | cons c t => rw [List.dropWhile_cons_of_neg (by simp [ht c List.mem_cons_self])]
  have hreverse : ∀ c ∈ s.reverse, space c = false := fun c hc => h c (List.mem_reverse.mp hc)
  rw [trim, hdrop h, hdrop hreverse, List.reverse_reverse]

/-- Nothing is left of a text that is all white space, and of no other. -/
theorem trim_eq_nil_iff {s : List Char} : trim space s = [] ↔ ∀ c ∈ s, space c := by
  unfold trim
  rw [List.reverse_eq_nil_iff, List.dropWhile_eq_nil_iff]
  constructor
  · intro h
    have hdrop : s.dropWhile space = [] := by
      cases hs : s.dropWhile space with
      | nil => rfl
      | cons c t =>
        have hhead := List.head?_dropWhile_not space s
        rw [hs] at hhead
        have hspace : space c := h c (List.mem_reverse.mpr (hs ▸ List.mem_cons_self))
        exact absurd hspace (Bool.not_eq_true _ ▸ hhead)
    exact List.dropWhile_eq_nil_iff.mp hdrop
  · intro h c hc
    exact h c (List.dropWhile_subset space (List.mem_reverse.mp hc))

/-- What one language sees as blank is blank after the other has trimmed it. -/
theorem trim_trim_eq_nil {s : List Char} (h : trim space s = []) :
    trim space (trim space' s) = [] :=
  trim_eq_nil_iff.mpr fun c hc => trim_eq_nil_iff.mp h c (trim_subset space' s hc)

/-! ## Splitting -/

theorem not_mem_of_mem_split {s p : List Char} (hp : p ∈ split sep s) : sep ∉ p := by
  unfold split at hp
  induction s generalizing p with
  | nil =>
    obtain rfl := List.mem_singleton.mp hp
    exact List.not_mem_nil
  | cons c s ih =>
    rw [List.splitOn_cons_eq_if_modifyHead] at hp
    split at hp
    · rcases List.mem_cons.mp hp with rfl | hp
      · exact List.not_mem_nil
      · exact ih hp
    · rename_i hc
      cases hs : s.splitOn sep with
      | nil => exact absurd hs (List.splitOn_ne_nil _ _)
      | cons q qs =>
        rw [hs, List.modifyHead_cons] at hp
        rcases List.mem_cons.mp hp with rfl | hp
        · intro hmem
          rcases List.mem_cons.mp hmem with rfl | hmem
          · exact hc (beq_self_eq_true _)
          · exact ih (hs ▸ List.mem_cons_self) hmem
        · exact ih (hs ▸ List.mem_cons_of_mem _ hp)

theorem not_mem_of_mem_fields {s p : List Char} (hp : p ∈ fields space sep s) : sep ∉ p := by
  obtain ⟨q, hq, rfl⟩ := List.mem_map.mp (List.mem_filter.mp hp).1
  exact fun hmem => not_mem_of_mem_split hq (trim_subset space q hmem)

/-- A text without the separator is one piece. -/
theorem split_eq_singleton {s : List Char} (h : sep ∉ s) : split sep s = [s] :=
  List.splitOn_eq_singleton h

/-- **What is put together comes apart into the pieces of the pieces.** -/
theorem split_join {ps : List (List Char)} (h : ps ≠ []) :
    split sep (join sep ps) = ps.flatMap (split sep) := by
  induction ps with
  | nil => exact absurd rfl h
  | cons p ps ih =>
    cases ps with
    | nil => simp [split, join]
    | cons q ps =>
      rw [join, List.intercalate_cons_cons, List.append_assoc, List.singleton_append, split,
        List.splitOn_append_cons_self]
      exact congrArg (split sep p ++ ·) (ih (List.cons_ne_nil q ps))

/-- Of all lists of pieces, only the one of an empty piece makes an empty text. -/
theorem join_eq_nil_iff {ps : List (List Char)} (h : ps ≠ []) : join sep ps = [] ↔ ps = [[]] := by
  cases ps with
  | nil => exact absurd rfl h
  | cons p ps =>
    cases ps with
    | nil => simp [join]
    | cons q ps => simp [join, List.intercalate_cons_cons]

/-- **What is put together comes apart again**, trimmed and without the pieces that are empty then,
provided that no piece contains the separator. -/
theorem fields_join {ps : List (List Char)} (h : ∀ p ∈ ps, sep ∉ p) :
    fields space sep (join sep ps) = (ps.map (trim space)).filter (· ≠ []) := by
  unfold fields split join
  cases ps with
  | nil => rfl
  | cons p ps => rw [List.splitOn_intercalate sep h (List.cons_ne_nil p ps)]

/-- **Cutting, trimming and putting together again** does not change what the text says to
another reader exactly if trimming twice is, for each piece, as good as trimming once. -/
theorem fields_join_fields (space space' : Char → Bool) (sep : Char) (s : List Char) :
    fields space sep (join sep (fields space' sep s)) = fields space sep s ↔
      ∀ p ∈ split sep s, trim space (trim space' p) = trim space p := by
  rw [fields_join fun p => not_mem_of_mem_fields]
  have hdropped : ((fields space' sep s).map (trim space)).filter (· ≠ []) =
      ((split sep s).map fun p => trim space (trim space' p)).filter (· ≠ []) := by
    unfold fields
    induction split sep s with
    | nil => rfl
    | cons p ps ih =>
      by_cases hp : trim space' p = []
      · rw [List.map_cons, List.filter_cons_of_neg (by simp [hp]), ih, List.map_cons,
          List.filter_cons_of_neg (by simp [hp])]
      · rw [List.map_cons, List.filter_cons_of_pos (by simp [hp]), List.map_cons,
          List.map_cons, List.filter_cons, List.filter_cons, ih]
  rw [hdropped]
  exact List.filter_ne_nil_map_eq_iff (fun p => trim_trim_eq_nil) _

end Text
