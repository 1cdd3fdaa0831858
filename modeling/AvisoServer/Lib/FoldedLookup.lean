import Mathlib.Data.List.AList

/-!
# Look-up up to a folding

A key is looked up as it is, and then among the entries whose folded key is the folded key. The
second look-up takes the first such entry, so its result may depend on the order of the entries.
-/

namespace FoldedLookup

variable {κ ν ι : Type} [DecidableEq κ] [DecidableEq ι]

/-- The entry of the key, or else the first entry of the same folded key. -/
def lookup (fold : κ → ι) (entries : List (Sigma fun _ : κ => ν)) (key : κ) :
    Option (Sigma fun _ : κ => ν) :=
  match entries.dlookup key with
  | some value => some ⟨key, value⟩
  | none => entries.find? fun entry => fold entry.1 = fold key

/-- The entry may be found under the key in some order. -/
structure IsAlias (fold : κ → ι) (entries : List (Sigma fun _ : κ => ν)) (key : κ)
    (entry : Sigma fun _ : κ => ν) : Prop where
  mem : entry ∈ entries
  names : entry.1 = key ∨ (entries.dlookup key = none ∧ fold entry.1 = fold key)

variable {fold : κ → ι} {entries reordered : List (Sigma fun _ : κ => ν)} {key : κ}
  {entry : Sigma fun _ : κ => ν}

theorem lookup_isAlias (h : lookup fold entries key = some entry) :
    IsAlias fold entries key entry := by
  unfold lookup at h
  split at h
  · rename_i value hvalue
    cases h
    exact ⟨List.of_mem_dlookup hvalue, Or.inl rfl⟩
  · rename_i hnone
    have hfolded := List.find?_some h
    exact ⟨List.mem_of_find?_eq_some h, Or.inr ⟨hnone, of_decide_eq_true hfolded⟩⟩

theorem lookup_none (h : lookup fold entries key = none) : ¬ IsAlias fold entries key entry := by
  intro halias
  unfold lookup at h
  split at h
  · cases h
  · rename_i hnone
    have hfolded : fold entry.1 = fold key := by
      cases halias.names with
      | inl hkey => rw [hkey]
      | inr hfolded => exact hfolded.2
    exact List.find?_eq_none.mp h entry halias.mem (decide_eq_true hfolded)

omit [DecidableEq ι] in
theorem IsAlias.reorder (hperm : reordered.Perm entries) (hnodup : entries.NodupKeys)
    (h : IsAlias fold entries key entry) : IsAlias fold reordered key entry where
  mem := hperm.mem_iff.mpr h.mem
  names := by
    rw [List.perm_dlookup key ((List.perm_nodupKeys hperm).mpr hnodup) hperm]
    exact h.names

/-- If only one entry may be found, it is. -/
theorem lookup_of_isAlias (h : IsAlias fold entries key entry)
    (honly : ∀ other, IsAlias fold entries key other → other = entry) :
    lookup fold entries key = some entry := by
  cases hfound : lookup fold entries key with
  | none => exact absurd h (lookup_none hfound)
  | some found => rw [honly found (lookup_isAlias hfound)]

/-- If no more than one entry may be found, the order of the entries does not matter. -/
theorem lookup_reorder (hperm : reordered.Perm entries) (hnodup : entries.NodupKeys)
    (honly : ∀ left right, IsAlias fold entries key left → IsAlias fold entries key right →
      left = right) : lookup fold reordered key = lookup fold entries key := by
  have hnodup' : reordered.NodupKeys := (List.perm_nodupKeys hperm).mpr hnodup
  cases hfound : lookup fold entries key with
  | some found =>
    have halias := lookup_isAlias hfound
    apply lookup_of_isAlias (halias.reorder hperm hnodup)
    intro other hother
    exact honly other found (hother.reorder hperm.symm hnodup') halias
  | none =>
    cases hother : lookup fold reordered key with
    | none => rfl
    | some other =>
      have halias := (lookup_isAlias hother).reorder hperm.symm hnodup'
      exact absurd halias (lookup_none hfound)

/-- Whatever may be found is found first in some order. -/
theorem exists_order (hnodup : entries.NodupKeys) (h : IsAlias fold entries key entry) :
    ∃ reordered, reordered.Perm entries ∧ lookup fold reordered key = some entry := by
  obtain ⟨before, after, rfl⟩ := List.append_of_mem h.mem
  refine ⟨entry :: (before ++ after), List.perm_middle.symm, ?_⟩
  unfold lookup
  cases h.names with
  | inl hkey =>
    subst hkey
    rw [List.dlookup_cons_eq]
  | inr hfolded =>
    rw [List.perm_dlookup key ((List.perm_nodupKeys List.perm_middle.symm).mpr hnodup)
      List.perm_middle.symm, hfolded.1]
    exact List.find?_cons_of_pos (decide_eq_true hfolded.2)

end FoldedLookup
