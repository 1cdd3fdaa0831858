import Mathlib.Data.List.AList

/-!
# The last value of a key

A list of keyed values in which a later value replaces an earlier one of the same key. Reading it,
keeping only what is not replaced and inserting it into a map agree on the value of every key.
-/

namespace LastValue

variable {κ β γ : Type} [DecidableEq κ]

/-! ## 1. Definitions -/

/-- The value of the last pair with this key. -/
def lastValue : List (κ × β) → κ → Option β
  | [], _ => none
  | pair :: rest, key => lastValue rest key <|> if pair.1 = key then some pair.2 else none

/-- The pairs that no later pair replaces, in order. -/
def keepLast : List (κ × β) → List (κ × β)
  | [] => []
  | pair :: rest =>
    if pair.1 ∈ rest.map Prod.fst then keepLast rest else pair :: keepLast rest

/-! ## 2. Reading -/

theorem lastValue_eq_none {xs : List (κ × β)} {key : κ} :
    lastValue xs key = none ↔ key ∉ xs.map Prod.fst := by
  induction xs with
  | nil => simp [lastValue]
  | cons pair xs ih =>
    rw [lastValue, List.map_cons, List.mem_cons, not_or, ← ih]
    by_cases hkey : pair.1 = key
    · rw [if_pos hkey]
      cases lastValue xs key <;> simp [hkey]
    · rw [if_neg hkey]
      cases lastValue xs key <;> simp [Ne.symm hkey]

theorem lastValue_isSome {xs : List (κ × β)} {key : κ} (h : key ∈ xs.map Prod.fst) :
    ∃ value, lastValue xs key = some value := by
  apply Option.ne_none_iff_exists'.mp
  intro hnone
  exact lastValue_eq_none.mp hnone h

/-- Inserting pair by pair gives the last values. -/
theorem lookup_foldl_insert (xs : List (κ × β)) (m : AList fun _ : κ => β) (key : κ) :
    (xs.foldl (fun m pair => m.insert pair.1 pair.2) m).lookup key =
      (lastValue xs key <|> m.lookup key) := by
  induction xs generalizing m with
  | nil => rfl
  | cons pair xs ih =>
    rw [List.foldl_cons, ih, lastValue]
    by_cases hkey : pair.1 = key
    · rw [if_pos hkey, ← hkey, AList.lookup_insert]
      cases lastValue xs pair.1 <;> rfl
    · rw [if_neg hkey, AList.lookup_insert_ne (Ne.symm hkey)]
      cases lastValue xs key <;> rfl

/-- The pairs of a map under these keys, in their order. -/
def lookups (m : AList fun _ : κ => β) (keys : List κ) : List (κ × β) :=
  keys.filterMap fun key => (m.lookup key).map fun value => (key, value)

theorem lookups_cons (m : AList fun _ : κ => β) (first : κ) (keys : List κ) :
    lookups m (first :: keys) =
      ((m.lookup first).map fun value => (first, value)).toList ++ lookups m keys := by
  unfold lookups
  rw [List.filterMap_cons]
  cases m.lookup first <;> rfl

theorem lookup_of_mem_lookups {m : AList fun _ : κ => β} {keys : List κ} {key : κ} {value : β}
    (h : (key, value) ∈ lookups m keys) : m.lookup key = some value := by
  obtain ⟨_, _, hfound⟩ := List.mem_filterMap.mp h
  obtain ⟨_, hlookup, heq⟩ := Option.map_eq_some_iff.mp hfound
  obtain ⟨rfl, rfl⟩ := Prod.mk.inj heq
  exact hlookup

theorem keepLast_subset (xs : List (κ × β)) : keepLast xs ⊆ xs := by
  induction xs with
  | nil => exact List.Subset.refl []
  | cons pair xs ih =>
    rw [keepLast]
    by_cases hlater : pair.1 ∈ xs.map Prod.fst
    · rw [if_pos hlater]
      exact List.Subset.trans ih (List.subset_cons_self pair xs)
    · rw [if_neg hlater]
      exact List.cons_subset_cons pair ih

theorem keepLast_of_nodup {xs : List (κ × β)} (h : (xs.map Prod.fst).Nodup) :
    keepLast xs = xs := by
  induction xs with
  | nil => rfl
  | cons pair xs ih =>
    rw [List.map_cons, List.nodup_cons] at h
    rw [keepLast, if_neg h.1, ih h.2]

/-! ## 4. By positions -/

/-- The position of each pair under its key. -/
def positions (xs : List (κ × β)) (start : Nat) : List (κ × Nat) :=
  (xs.zipIdx start).map fun indexed => (indexed.1.1, indexed.2)

omit [DecidableEq κ] in
theorem positions_cons (pair : κ × β) (xs : List (κ × β)) (start : Nat) :
    positions (pair :: xs) start = (pair.1, start) :: positions xs (start + 1) := rfl

omit [DecidableEq κ] in
theorem keys_positions (xs : List (κ × β)) (start : Nat) :
    (positions xs start).map Prod.fst = xs.map Prod.fst := by
  induction xs generalizing start with
  | nil => rfl
  | cons pair xs ih => rw [positions_cons, List.map_cons, ih, List.map_cons]

theorem le_of_lastValue_positions {xs : List (κ × β)} {start index : Nat} {key : κ}
    (h : lastValue (positions xs start) key = some index) : start ≤ index := by
  induction xs generalizing start index with
  | nil => cases h
  | cons pair xs ih =>
    rw [positions_cons, lastValue] at h
    cases hrest : lastValue (positions xs (start + 1)) key with
    | some later =>
      rw [hrest] at h
      have hle := ih hrest
      have heq : later = index := Option.some.inj h
      omega
    | none =>
      rw [hrest] at h
      by_cases hkey : pair.1 = key
      · simp only [if_pos hkey] at h
        exact Nat.le_of_eq (Option.some.inj h)
      · simp [if_neg hkey] at h

/-- The pairs at the last position of their key are those that are not replaced. -/
theorem filter_lastPosition (xs : List (κ × β)) (start : Nat) :
    ((xs.zipIdx start).filter fun indexed =>
        decide (lastValue (positions xs start) indexed.1.1 = some indexed.2)).map Prod.fst =
      keepLast xs := by
  induction xs generalizing start with
  | nil => rfl
  | cons pair xs ih =>
    -- pairs behind the first one are found behind it
    have hrest : ((xs.zipIdx (start + 1)).filter fun indexed =>
          decide (lastValue (positions (pair :: xs) start) indexed.1.1 = some indexed.2)) =
        (xs.zipIdx (start + 1)).filter fun indexed =>
          decide (lastValue (positions xs (start + 1)) indexed.1.1 = some indexed.2) := by
      apply List.filter_congr
      intro indexed hindexed
      have hkey : indexed.1.1 ∈ (positions xs (start + 1)).map Prod.fst :=
        List.mem_map.mpr ⟨_, List.mem_map_of_mem hindexed, rfl⟩
      obtain ⟨index, hindex⟩ := lastValue_isSome hkey
      rw [positions_cons, lastValue, hindex]
      rfl
    rw [List.zipIdx_cons, keepLast]
    by_cases hlater : pair.1 ∈ xs.map Prod.fst
    · rw [if_pos hlater, List.filter_cons_of_neg, hrest, ih]
      obtain ⟨index, hindex⟩ := lastValue_isSome
        (show pair.1 ∈ (positions xs (start + 1)).map Prod.fst by rw [keys_positions]; exact hlater)
      have hle := le_of_lastValue_positions hindex
      rw [positions_cons, lastValue, hindex, decide_eq_true_eq]
      intro heq
      have : index = start := Option.some.inj heq
      omega
    · rw [if_neg hlater, List.filter_cons_of_pos, List.map_cons, hrest, ih]
      have hnone : lastValue (positions xs (start + 1)) pair.1 = none := by
        rw [lastValue_eq_none, keys_positions]
        exact hlater
      rw [positions_cons, lastValue, hnone, decide_eq_true_eq, if_pos rfl]
      rfl

end LastValue
