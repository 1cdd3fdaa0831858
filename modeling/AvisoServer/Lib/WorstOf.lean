import Mathlib.Data.List.Perm.Basic

/-!
# The worst of a list

Items are ranked, and of a list the worst is kept while the list is read. Which one is kept does
not depend on the order of the list, where no two items have one rank.
-/

namespace WorstOf

variable {α : Type} (rank : α → Nat)

/-- The worse of two items, the first where they are equally bad. -/
def worse (a b : α) : α :=
  if rank b > rank a then b else a

/-- What is kept after one more item. -/
def add : Option α → α → Option α
  | none, item => some item
  | some kept, item => some (worse rank kept item)

def worst (items : List α) : Option α :=
  items.foldl (add rank) none

/-- An item of the list that no other item outranks. -/
structure IsWorst (items : List α) (item : α) : Prop where
  mem : item ∈ items
  atLeast : ∀ other ∈ items, rank other ≤ rank item

theorem worse_eq (a b : α) : worse rank a b = a ∨ worse rank a b = b := by
  unfold worse
  by_cases h : rank b > rank a
  · rw [if_pos h]
    exact Or.inr rfl
  · rw [if_neg h]
    exact Or.inl rfl

theorem rank_le_worse (a b : α) :
    rank a ≤ rank (worse rank a b) ∧ rank b ≤ rank (worse rank a b) := by
  unfold worse
  by_cases h : rank b > rank a
  · rw [if_pos h]
    omega
  · rw [if_neg h]
    omega

/-- What is kept in the end is the worst of what was kept before and the items. -/
theorem foldl_add_some (items : List α) (kept : α) :
    ∃ item, items.foldl (add rank) (some kept) = some item ∧
      IsWorst rank (kept :: items) item := by
  induction items generalizing kept with
  | nil =>
    refine ⟨kept, rfl, List.mem_cons_self, ?_⟩
    intro other hother
    exact Nat.le_of_eq (congrArg rank (List.mem_singleton.mp hother))
  | cons next items ih =>
    obtain ⟨item, hfold, hworst⟩ := ih (worse rank kept next)
    obtain ⟨hkept, hnext⟩ := rank_le_worse rank kept next
    have hhead := hworst.atLeast _ List.mem_cons_self
    refine ⟨item, hfold, ?_, ?_⟩
    · cases List.mem_cons.mp hworst.mem with
      | inl hitem =>
        cases worse_eq rank kept next with
        | inl hsame =>
          rw [hitem, hsame]
          exact List.mem_cons_self
        | inr hsame =>
          rw [hitem, hsame]
          exact List.mem_cons_of_mem kept List.mem_cons_self
      | inr hmem => exact List.mem_cons_of_mem kept (List.mem_cons_of_mem next hmem)
    · intro other hother
      rcases List.mem_cons.mp hother with rfl | hrest
      · omega
      rcases List.mem_cons.mp hrest with rfl | hmem
      · omega
      · exact hworst.atLeast other (List.mem_cons_of_mem _ hmem)

variable {rank}

theorem worst_eq_none {items : List α} : worst rank items = none ↔ items = [] := by
  cases items with
  | nil => exact ⟨fun _ => rfl, fun _ => rfl⟩
  | cons first items =>
    obtain ⟨item, hfold, -⟩ := foldl_add_some rank items first
    constructor
    · intro hnone
      have hsome : worst rank (first :: items) = some item := hfold
      rw [hsome] at hnone
      cases hnone
    · intro hnil
      cases hnil

theorem isWorst_of_worst {items : List α} {item : α} (h : worst rank items = some item) :
    IsWorst rank items item := by
  cases items with
  | nil => cases h
  | cons first items =>
    obtain ⟨found, hfold, hworst⟩ := foldl_add_some rank items first
    have hsome : worst rank (first :: items) = some found := hfold
    rw [hsome] at h
    cases h
    exact hworst

/-- Items of different ranks: there is one worst item, wherever it stands. -/
theorem worst_perm (hrank : Function.Injective rank) {items others : List α}
    (h : items.Perm others) : worst rank items = worst rank others := by
  cases hitems : worst rank items with
  | none =>
    rw [worst_eq_none] at hitems
    rw [hitems, List.nil_perm] at h
    rw [h]
    rfl
  | some item =>
    cases hothers : worst rank others with
    | none =>
      rw [worst_eq_none] at hothers
      rw [hothers, List.perm_nil] at h
      rw [h] at hitems
      cases hitems
    | some other =>
      have hitem := isWorst_of_worst hitems
      have hother := isWorst_of_worst hothers
      have hle := hother.atLeast item (h.mem_iff.mp hitem.mem)
      have hge := hitem.atLeast other (h.mem_iff.mpr hother.mem)
      rw [hrank (Nat.le_antisymm hle hge)]

end WorstOf
