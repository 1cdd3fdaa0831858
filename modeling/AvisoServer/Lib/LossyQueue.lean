import Mathlib.Data.List.Basic
import Mathlib.Data.List.Pairwise

/-!
# A queue that may drop its oldest items

A sender appends, a receiver takes from the front, and now and then the front is dropped instead.
What has been taken and what has been dropped are then an interleaving of what was sent first, so
the receiver sees the items in the order they were sent and misses exactly the dropped ones.
-/

namespace LossyQueue

variable {α : Type}

/-! ## 1. Interleavings -/

/-- `all` is made of `kept` and `dropped`, both in their own order. -/
inductive Merge : List α → List α → List α → Prop where
  | nil : Merge [] [] []
  | keep {kept dropped all : List α} (x : α) :
      Merge kept dropped all → Merge (kept ++ [x]) dropped (all ++ [x])
  | drop {kept dropped all : List α} (x : α) :
      Merge kept dropped all → Merge kept (dropped ++ [x]) (all ++ [x])

section Merge

variable {kept dropped all : List α}

theorem Merge.kept_sublist (h : Merge kept dropped all) : kept.Sublist all := by
  induction h with
  | nil => exact List.Sublist.refl _
  | keep x _ ih => exact ih.append (List.Sublist.refl _)
  | drop x _ ih => exact ih.trans (List.sublist_append_left _ _)

theorem Merge.perm (h : Merge kept dropped all) : (kept ++ dropped).Perm all := by
  induction h with
  | nil => exact List.Perm.refl _
  | @keep kept dropped all x _ ih =>
    rw [List.append_assoc]
    have hswap : (kept ++ ([x] ++ dropped)).Perm (kept ++ (dropped ++ [x])) :=
      List.Perm.append_left kept List.perm_append_comm
    rw [← List.append_assoc kept dropped] at hswap
    exact hswap.trans (ih.append_right [x])
  | drop x _ ih =>
    rw [← List.append_assoc]
    exact ih.append_right [x]

theorem Merge.mem (h : Merge kept dropped all) (y : α) :
    y ∈ all ↔ y ∈ kept ∨ y ∈ dropped := by
  rw [← h.perm.mem_iff, List.mem_append]

theorem Merge.drop_append (h : Merge kept dropped all) (xs : List α) :
    Merge kept (dropped ++ xs) (all ++ xs) := by
  induction xs generalizing dropped all with
  | nil => simpa using h
  | cons x xs ih =>
    have := ih (h.drop x)
    rwa [List.append_assoc, List.append_assoc, List.singleton_append] at this

end Merge

/-! ## 2. Accounts -/

/-- Everything sent has been received, has been skipped or is pending, in this order. -/
def Accounts (sent received skipped pending : List α) : Prop :=
  ∃ taken, Merge received skipped taken ∧ sent = taken ++ pending

theorem accounts_start : Accounts ([] : List α) [] [] [] :=
  ⟨[], .nil, rfl⟩

section Accounts

variable {sent received skipped pending rest : List α}

theorem Accounts.send (h : Accounts sent received skipped pending) (xs : List α) :
    Accounts (sent ++ xs) received skipped (pending ++ xs) := by
  obtain ⟨taken, hmerge, hsent⟩ := h
  exact ⟨taken, hmerge, by rw [hsent, List.append_assoc]⟩

theorem Accounts.receive {x : α} (h : Accounts sent received skipped (x :: rest)) :
    Accounts sent (received ++ [x]) skipped rest := by
  obtain ⟨taken, hmerge, hsent⟩ := h
  exact ⟨taken ++ [x], hmerge.keep x, by rw [hsent, List.append_assoc, List.singleton_append]⟩

theorem Accounts.skip {xs : List α} (h : Accounts sent received skipped (xs ++ rest)) :
    Accounts sent received (skipped ++ xs) rest := by
  obtain ⟨taken, hmerge, hsent⟩ := h
  exact ⟨taken ++ xs, hmerge.drop_append xs, by rw [hsent, List.append_assoc]⟩

/-- Every item sent is received, skipped or pending, and only one of these. -/
theorem Accounts.perm (h : Accounts sent received skipped pending) :
    (received ++ skipped ++ pending).Perm sent := by
  obtain ⟨taken, hmerge, hsent⟩ := h
  rw [hsent]
  exact hmerge.perm.append_right pending

theorem Accounts.mem (h : Accounts sent received skipped pending) (x : α) :
    x ∈ sent ↔ x ∈ received ∨ x ∈ skipped ∨ x ∈ pending := by
  rw [← h.perm.mem_iff, List.mem_append, List.mem_append, or_assoc]

theorem Accounts.sublist (h : Accounts sent received skipped pending) :
    (received ++ pending).Sublist sent := by
  obtain ⟨taken, hmerge, hsent⟩ := h
  rw [hsent]
  exact hmerge.kept_sublist.append (List.Sublist.refl _)

theorem Accounts.received_sublist (h : Accounts sent received skipped pending) :
    received.Sublist sent :=
  (List.sublist_append_left _ _).trans h.sublist

/-- What was received or skipped was sent before what is pending. -/
theorem Accounts.before_pending {R : α → α → Prop}
    (h : Accounts sent received skipped pending) (hsent : sent.Pairwise R) {x y : α}
    (hx : x ∈ received ∨ x ∈ skipped) (hy : y ∈ pending) : R x y := by
  obtain ⟨taken, hmerge, rfl⟩ := h
  exact (List.pairwise_append.mp hsent).2.2 x ((hmerge.mem x).mpr hx) y hy

/-- An item sent no later than a received one was received too, unless it was skipped. -/
theorem Accounts.received_of_not_later {R : α → α → Prop}
    (h : Accounts sent received skipped pending) (hsent : sent.Pairwise R) {x y : α}
    (hx : x ∈ sent) (hskipped : x ∉ skipped) (hy : y ∈ received) (hlater : ¬ R y x) :
    x ∈ received := by
  rcases (h.mem x).mp hx with hmem | hmem | hmem
  · exact hmem
  · exact absurd hmem hskipped
  · exact absurd (h.before_pending hsent (Or.inl hy) hmem) hlater

end Accounts

/-! ## 3. A bounded broadcast receiver -/

/-- What a receiver of a broadcast is told. -/
inductive Received (α : Type) where
  | item (value : α)
  | lagged (skipped : Nat)
  deriving DecidableEq

/-- The next receive of a receiver with these pending items: the channel retains the `capacity`
youngest of them, and a receiver that has fallen further behind learns how many it has missed and
resumes at the oldest one retained. -/
def recv (capacity : Nat) : List α → Option (Received α × List α)
  | [] => none
  | x :: rest =>
    if capacity < (x :: rest).length then
      some (.lagged ((x :: rest).length - capacity),
        (x :: rest).drop ((x :: rest).length - capacity))
    else some (.item x, rest)

section Broadcast

variable {capacity : Nat} {pending rest : List α}

theorem recv_item {x : α} (h : recv capacity pending = some (.item x, rest)) :
    pending = x :: rest ∧ pending.length ≤ capacity := by
  cases pending with
  | nil => cases h
  | cons y ys =>
    rw [recv] at h
    by_cases hbehind : capacity < (y :: ys).length
    · rw [if_pos hbehind] at h
      cases h
    · rw [if_neg hbehind] at h
      cases h
      exact ⟨rfl, Nat.le_of_not_lt hbehind⟩

/-- A lag skips the oldest pending items; exactly the retained ones stay pending. -/
theorem recv_lagged {skipped : Nat} (h : recv capacity pending = some (.lagged skipped, rest)) :
    pending = pending.take skipped ++ rest ∧ (pending.take skipped).length = skipped ∧
      0 < skipped ∧ rest.length = capacity := by
  cases pending with
  | nil => cases h
  | cons y ys =>
    rw [recv] at h
    by_cases hbehind : capacity < (y :: ys).length
    · rw [if_pos hbehind] at h
      cases h
      refine ⟨(List.take_append_drop _ _).symm, ?_, Nat.sub_pos_of_lt hbehind, ?_⟩
      · rw [List.length_take]
        omega
      · rw [List.length_drop]
        omega
    · rw [if_neg hbehind] at h
      cases h

/-- A receiver lags only when it is further behind than the channel retains. -/
theorem recv_of_le (h : pending.length ≤ capacity) (skipped : Nat) :
    recv capacity pending ≠ some (.lagged skipped, rest) := by
  intro hrecv
  obtain ⟨hsplit, hlength, hpos, hrest⟩ := recv_lagged hrecv
  have := congrArg List.length hsplit
  rw [List.length_append, hlength, hrest] at this
  omega

end Broadcast

end LossyQueue
