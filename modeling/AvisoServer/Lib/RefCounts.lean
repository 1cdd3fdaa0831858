import Mathlib.Data.List.Dedup
import Mathlib.Logic.Function.Basic

/-!
# Reference counts

A store keeps, for each key that is held, how often it is held, and beside it a number is kept that
goes up with the first hold of a key and down with the last release. Whatever the order, the number
is that of the distinct keys held.
-/

namespace RefCounts

variable {α : Type} [DecidableEq α]

@[ext]
structure Tally (α : Type) where
  store : α → Option Nat
  distinct : Int

def Tally.acquire (r : Tally α) (key : α) : Tally α :=
  let count := (r.store key).getD 0 + 1
  { store := Function.update r.store key (some count)
    distinct := if count = 1 then r.distinct + 1 else r.distinct }

/-- A key that is not stored is left alone. -/
def Tally.release (r : Tally α) (key : α) : Tally α :=
  (r.store key).elim r fun stored =>
    if stored - 1 = 0 then
      { store := Function.update r.store key none
        distinct := r.distinct - 1 }
    else { r with store := Function.update r.store key (some (stored - 1)) }

/-- The count that is stored for a key: none is stored for a key that nobody holds. -/
def counted (held : List α) (key : α) : Option Nat :=
  if held.count key = 0 then none else some (held.count key)

/-- What the counts say of the keys held, each as often as it is held. -/
structure Counts (r : Tally α) (held : List α) : Prop where
  store : ∀ key, r.store key = counted held key
  distinct : r.distinct = held.dedup.length

theorem counted_of_notMem {held : List α} {key : α} (h : key ∉ held) : counted held key = none :=
  if_pos (List.count_eq_zero.mpr h)

theorem counted_of_mem {held : List α} {key : α} (h : key ∈ held) :
    counted held key = some (held.count key) :=
  if_neg fun hzero => List.count_eq_zero.mp hzero h

theorem counted_cons_self (held : List α) (key : α) :
    counted (key :: held) key = some (held.count key + 1) := by
  rw [counted_of_mem List.mem_cons_self, List.count_cons_self]

theorem counted_cons_of_ne {key other : α} (h : other ≠ key) (held : List α) :
    counted (key :: held) other = counted held other := by
  unfold counted
  rw [List.count_cons_of_ne (Ne.symm h)]

theorem counted_getD (held : List α) (key : α) : (counted held key).getD 0 = held.count key := by
  by_cases hmem : key ∈ held
  · rw [counted_of_mem hmem]; rfl
  · rw [counted_of_notMem hmem, List.count_eq_zero.mpr hmem]; rfl

/-- A store that is right but for one key is right once that key is. -/
theorem update_counted {store : α → Option Nat} {held : List α} {key : α} {count : Option Nat}
    (hkey : count = counted held key)
    (hothers : ∀ other, other ≠ key → store other = counted held other) (other : α) :
    Function.update store key count other = counted held other := by
  by_cases hother : other = key
  · subst hother
    rw [Function.update_self, hkey]
  · rw [Function.update_of_ne hother, hothers other hother]

theorem Counts.nil {r : Tally α} (hstore : ∀ key, r.store key = none)
    (hdistinct : r.distinct = 0) : Counts r [] where
  store key := by rw [hstore key, counted_of_notMem List.not_mem_nil]
  distinct := hdistinct

/-- The order of the holds does not matter. -/
theorem Counts.perm {r : Tally α} {held other : List α} (h : Counts r held)
    (hperm : held.Perm other) : Counts r other where
  store key := by
    unfold counted
    rw [← hperm.count_eq key]
    exact h.store key
  distinct := by
    rw [← hperm.dedup.length_eq]
    exact h.distinct

theorem Counts.acquire {r : Tally α} {held : List α} (h : Counts r held) (key : α) :
    Counts (r.acquire key) (key :: held) := by
  have hcount : (r.store key).getD 0 = held.count key := by rw [h.store key, counted_getD]
  unfold Tally.acquire
  rw [hcount]
  refine ⟨update_counted (counted_cons_self held key).symm fun other hother => ?_, ?_⟩
  · rw [h.store other, counted_cons_of_ne hother]
  · show (if held.count key + 1 = 1 then r.distinct + 1 else r.distinct) = _
    -- a key is new at its first hold
    by_cases hmem : key ∈ held
    · have hpos := List.count_pos_iff.mpr hmem
      rw [if_neg (by omega), List.dedup_cons_of_mem hmem, h.distinct]
    · rw [if_pos (by rw [List.count_eq_zero.mpr hmem]), List.dedup_cons_of_notMem hmem,
        List.length_cons, h.distinct]
      omega

theorem Counts.release {r : Tally α} {held : List α} {key : α}
    (h : Counts r (key :: held)) : Counts (r.release key) held := by
  have hothers : ∀ other, other ≠ key → r.store other = counted held other := by
    intro other hother
    rw [h.store other, counted_cons_of_ne hother]
  have hdistinct := h.distinct
  unfold Tally.release
  rw [h.store key, counted_cons_self]
  show Counts (if held.count key + 1 - 1 = 0 then _ else _) held
  rw [Nat.add_sub_cancel]
  -- and gone with its last release
  by_cases hmem : key ∈ held
  · have hpos := List.count_pos_iff.mpr hmem
    rw [if_neg (by omega)]
    rw [List.dedup_cons_of_mem hmem] at hdistinct
    exact ⟨update_counted (counted_of_mem hmem).symm hothers, hdistinct⟩
  · rw [if_pos (List.count_eq_zero.mpr hmem)]
    rw [List.dedup_cons_of_notMem hmem, List.length_cons] at hdistinct
    refine ⟨update_counted (counted_of_notMem hmem).symm hothers, ?_⟩
    show r.distinct - 1 = _
    omega

/-- The same for holds that need not have a key. -/
theorem Counts.acquire_toList {r : Tally α} {held : List α} (h : Counts r held)
    (key : Option α) : Counts (key.elim r r.acquire) (key.toList ++ held) := by
  cases key with
  | none => exact h
  | some key => exact h.acquire key

theorem Counts.release_toList {r : Tally α} {held : List α} {key : Option α}
    (h : Counts r (key.toList ++ held)) : Counts (key.elim r r.release) held := by
  cases key with
  | none => exact h
  | some key => exact h.release

/-- What is stored is the number of holds, and there is at least one. -/
theorem Counts.stored {r : Tally α} {held : List α} (h : Counts r held) {key : α} {count : Nat}
    (hstored : r.store key = some count) : count = held.count key ∧ 0 < count := by
  rw [h.store key] at hstored
  by_cases hmem : key ∈ held
  · rw [counted_of_mem hmem] at hstored
    have hcount := Option.some.inj hstored
    have hpos := List.count_pos_iff.mpr hmem
    omega
  · rw [counted_of_notMem hmem] at hstored
    cases hstored

theorem Counts.absent {r : Tally α} {held : List α} (h : Counts r held) {key : α}
    (habsent : r.store key = none) : held.count key = 0 := by
  rw [← counted_getD, ← h.store key, habsent]
  rfl

end RefCounts
