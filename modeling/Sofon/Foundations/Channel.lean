import Mathlib.Data.List.Basic

/-!
# Buffered channels

A channel is a bounded queue with a flag saying that it has been closed.  That
the queue fits the capacity is a field, so an overfull channel cannot be built.

A send waits while the buffer is full and panics once the channel is closed; a
receive waits while the buffer is empty, and on a closed channel the buffer is
emptied first (`Drained` is the state in which a `range` over the channel ends).
Waiting is the absence of a step: the operations are partial.

Proofs look at a channel in one of two states.

* While it is `Usable`, open and with a capacity, nobody panics, no `range` over it ends, and once
  it is empty it takes anything.  Sending and receiving keep it so.
* Once it is `Drained`, it stays so: nothing is sent or received any more.
-/

universe u

namespace Interleaving

/-- A buffered channel. -/
structure Channel (α : Type u) where
  capacity : ℕ
  queue : List α
  closed : Bool
  bounded : queue.length ≤ capacity

namespace Channel

variable {α : Type u}

/-- `make(chan T, n)` -/
def make (n : ℕ) : Channel α := ⟨n, [], false, Nat.zero_le n⟩

/-- `close(c)` -/
def close (c : Channel α) : Channel α := { c with closed := true }

/-- What becomes of a send that does not wait. -/
inductive Sent (α : Type u) where
  | ok (c : Channel α)
  | panics

/-- `c <- a` -/
def send (a : α) (c : Channel α) : Option (Sent α) :=
  if c.closed then some .panics
  else if h : c.queue.length < c.capacity then
    some (.ok { c with queue := c.queue ++ [a], bounded := by rw [List.length_append]; exact h })
  else none

/-- `<-c` -/
def recv (c : Channel α) : Option (α × Channel α) :=
  match h : c.queue with
  | [] => none
  | a :: rest => some (a, { c with
      queue := rest
      bounded := by
        have hle := c.bounded
        rw [h] at hle
        exact Nat.le_of_succ_le hle })

/-- Closed and emptied: nothing will ever be received again. -/
def Drained (c : Channel α) : Prop := c.closed = true ∧ c.queue = []

instance (c : Channel α) : Decidable c.Drained :=
  decidable_of_iff (c.closed && c.queue.isEmpty) (by simp [Drained])

@[simp] theorem make_queue (n : ℕ) : (make n : Channel α).queue = [] := rfl

@[simp] theorem make_closed (n : ℕ) : (make n : Channel α).closed = false := rfl

@[simp] theorem close_queue (c : Channel α) : c.close.queue = c.queue := rfl

@[simp] theorem close_closed (c : Channel α) : c.close.closed = true := rfl

variable {a : α} {c c' : Channel α}

/-- A send that goes through found the channel open and appends to its queue. -/
theorem send_ok (h : c.send a = some (.ok c')) :
    c.closed = false ∧ c'.closed = false ∧ c'.queue = c.queue ++ [a] := by
  unfold send at h
  split at h
  · cases h
  · rename_i hopen
    have hclosed : c.closed = false := Bool.eq_false_iff.mpr hopen
    split at h
    · cases h
      exact ⟨hclosed, hclosed, rfl⟩
    · cases h

/-- Only a closed channel panics. -/
theorem closed_of_panics (h : c.send a = some .panics) : c.closed = true := by
  unfold send at h
  split at h
  · assumption
  · split at h <;> cases h

/-- A receive takes the head of the queue. -/
theorem recv_some (h : c.recv = some (a, c')) :
    c.queue = a :: c'.queue ∧ c'.closed = c.closed := by
  unfold recv at h
  split at h
  · cases h
  · rename_i b rest hq
    cases h
    exact ⟨hq, rfl⟩

/-- A receive goes through while there is something to be received. -/
theorem exists_recv (h : c.queue ≠ []) : ∃ a c', c.recv = some (a, c') := by
  unfold recv
  split
  · rename_i hempty
    exact absurd hempty h
  · exact ⟨_, _, rfl⟩

theorem capacity_of_send (h : c.send a = some (.ok c')) : c'.capacity = c.capacity := by
  unfold send at h
  split at h
  · cases h
  · split at h
    · cases h
      rfl
    · cases h

theorem capacity_of_recv (h : c.recv = some (a, c')) : c'.capacity = c.capacity := by
  unfold recv at h
  split at h
  · cases h
  · cases h
    rfl

/-! ## Channels in use -/

/-- Open, and with room for something. -/
structure Usable (c : Channel α) : Prop where
  isOpen : c.closed = false
  roomy : 0 < c.capacity

theorem usable_make {n : ℕ} (hn : 0 < n) : (make n : Channel α).Usable := ⟨rfl, hn⟩

theorem Usable.send (hc : c.Usable) (h : c.send a = some (.ok c')) : c'.Usable :=
  ⟨(send_ok h).2.1, (capacity_of_send h).symm ▸ hc.roomy⟩

theorem Usable.recv (hc : c.Usable) (h : c.recv = some (a, c')) : c'.Usable :=
  ⟨(recv_some h).2.trans hc.isOpen, (capacity_of_recv h).symm ▸ hc.roomy⟩

theorem Usable.not_panics (hc : c.Usable) : c.send a ≠ some .panics := fun h =>
  Bool.false_ne_true (hc.isOpen.symm.trans (closed_of_panics h))

theorem Usable.not_drained (hc : c.Usable) : ¬ c.Drained := fun h =>
  Bool.false_ne_true (hc.isOpen.symm.trans h.1)

/-- **Once it is empty, it takes anything.** -/
theorem Usable.exists_send (hc : c.Usable) (hempty : c.queue = []) (a : α) :
    ∃ c', c.send a = some (.ok c') := by
  have hroom : c.queue.length < c.capacity := by
    rw [hempty]
    exact hc.roomy
  rw [Channel.send, if_neg (by rw [hc.isOpen]; exact Bool.false_ne_true), dif_pos hroom]
  exact ⟨_, rfl⟩

/-! ## Drained channels -/

theorem Drained.close (h : c.Drained) : c.close.Drained := ⟨rfl, h.2⟩

theorem Drained.send_ne_ok (h : c.Drained) : c.send a ≠ some (.ok c') := fun hsend =>
  Bool.false_ne_true ((send_ok hsend).1.symm.trans h.1)

theorem Drained.recv_ne_some (h : c.Drained) : c.recv ≠ some (a, c') := fun hrecv =>
  List.cons_ne_nil _ _ ((recv_some hrecv).1.symm.trans h.2)

end Channel

end Interleaving
