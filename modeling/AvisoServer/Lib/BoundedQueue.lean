import Mathlib.Data.List.DropRight

/-!
# Queues that keep the last few items

Pushing onto a full queue drops its oldest item. As long as nothing else is removed, the queue is a
window over everything that was ever pushed.
-/

namespace BoundedQueue

variable {α : Type}

/-- Append to a queue, dropping the oldest item of a full one. -/
def push (capacity : Nat) (queue : List α) (x : α) : List α :=
  (if capacity ≤ queue.length then queue.tail else queue) ++ [x]

/-- A queue that holds a window and then more items holds the window of them all. -/
theorem rtake_append (n : Nat) (xs ys : List α) :
    (xs.rtake n ++ ys).rtake n = (xs ++ ys).rtake n := by
  have hlength : (xs.drop (xs.length - n) ++ ys).length =
      xs.length - (xs.length - n) + ys.length := by
    rw [List.length_append, List.length_drop]
  have hdrop : xs.drop (xs.length - n) ++ ys = (xs ++ ys).drop (xs.length - n) :=
    (List.drop_append_of_le_length (Nat.sub_le _ _)).symm
  rw [List.rtake, List.rtake, List.rtake, hlength, hdrop, List.drop_drop, List.length_append]
  congr 1
  omega

theorem rtake_of_length_le {n : Nat} {xs : List α} (h : xs.length ≤ n) : xs.rtake n = xs := by
  rw [List.rtake, Nat.sub_eq_zero_of_le h, List.drop_zero]

/-- A push is the window of the queue and the new item. A queue without capacity holds one item. -/
theorem push_eq_rtake (capacity : Nat) (queue : List α) (x : α)
    (h : queue.length ≤ max 1 capacity) :
    push capacity queue x = (queue ++ [x]).rtake (max 1 capacity) := by
  rw [push]
  by_cases hfull : capacity ≤ queue.length
  · rw [if_pos hfull]
    cases queue with
    | nil =>
      rw [rtake_of_length_le]
      · rfl
      · change 1 ≤ max 1 capacity
        omega
    | cons y ys =>
      have hone : (y :: ys ++ [x]).length - max 1 capacity = 1 := by
        simp only [List.length_append, List.length_cons, List.length_nil] at h hfull ⊢
        omega
      rw [List.rtake, hone]
      rfl
  · rw [if_neg hfull, rtake_of_length_le]
    rw [List.length_append, List.length_singleton]
    omega

/-- An item of the queue stays unless it is the oldest one of a full queue. -/
theorem mem_push {capacity : Nat} {queue : List α} {x y : α} (hy : y ∈ queue)
    (hstays : capacity ≤ queue.length → y ∈ queue.tail) : y ∈ push capacity queue x := by
  rw [push]
  apply List.mem_append_left
  by_cases hfull : capacity ≤ queue.length
  · rw [if_pos hfull]
    exact hstays hfull
  · rw [if_neg hfull]
    exact hy

end BoundedQueue
