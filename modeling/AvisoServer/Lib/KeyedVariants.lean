import AvisoServer.Lib.LastValue
import Mathlib.Data.List.Forall2

/-!
# Variants of keyed values

Two lists of keyed values, or two maps, that have the same keys in the same places and related
values under each key. What is read by key from one is related to what is read from the other.
-/

namespace KeyedVariants

open LastValue

variable {κ β γ : Type} [DecidableEq κ] {R : κ → β → β → Prop}

/-! ## 1. Lists -/

def Variant (R : κ → β → β → Prop) (left right : κ × β) : Prop :=
  left.1 = right.1 ∧ R left.1 left.2 right.2

def Variants (R : κ → β → β → Prop) : List (κ × β) → List (κ × β) → Prop :=
  List.Forall₂ (Variant R)

omit [DecidableEq κ] in
theorem Variants.refl (hR : ∀ key value, R key value value) (xs : List (κ × β)) :
    Variants R xs xs :=
  List.forall₂_same.mpr fun pair _ => ⟨rfl, hR pair.1 pair.2⟩

omit [DecidableEq κ] in
theorem Variants.keys {xs ys : List (κ × β)} (h : Variants R xs ys) :
    xs.map Prod.fst = ys.map Prod.fst := by
  induction h with
  | nil => rfl
  | cons hpair _ ih => rw [List.map_cons, List.map_cons, hpair.1, ih]

omit [DecidableEq κ] in
/-- A selection of the keys. -/
theorem Variants.filter (p : κ → Bool) {xs ys : List (κ × β)} (h : Variants R xs ys) :
    Variants R (xs.filter fun pair => p pair.1) (ys.filter fun pair => p pair.1) := by
  induction h with
  | nil => exact .nil
  | @cons left right xs ys hpair _ ih =>
    by_cases hleft : p left.1 = true
    · have hright : p right.1 = true := by rw [← hpair.1]; exact hleft
      rw [List.filter_cons, List.filter_cons, if_pos hleft, if_pos hright]
      exact .cons hpair ih
    · have hright : ¬ p right.1 = true := by rw [← hpair.1]; exact hleft
      rw [List.filter_cons, List.filter_cons, if_neg hleft, if_neg hright]
      exact ih

omit [DecidableEq κ] in
theorem Variants.append {xs ys xs' ys' : List (κ × β)} (h : Variants R xs ys)
    (h' : Variants R xs' ys') : Variants R (xs ++ xs') (ys ++ ys') := by
  induction h with
  | nil => exact h'
  | cons hpair _ ih => exact .cons hpair ih

theorem Variants.lastValue {xs ys : List (κ × β)} (h : Variants R xs ys) (key : κ) :
    Option.Rel (R key) (lastValue xs key) (lastValue ys key) := by
  induction h with
  | nil => exact .none
  | @cons left right xs ys hpair _ ih =>
    rw [LastValue.lastValue, LastValue.lastValue]
    -- the pairs behind this one decide first, and it counts only if they have no such key
    revert ih
    generalize LastValue.lastValue xs key = found
    generalize LastValue.lastValue ys key = other
    intro ih
    cases ih with
    | some hfound => exact .some hfound
    | none =>
      rw [← hpair.1]
      by_cases hkey : left.1 = key
      · rw [if_pos hkey, if_pos hkey]
        exact .some (hkey ▸ hpair.2)
      · rw [if_neg hkey, if_neg hkey]
        exact .none

theorem Variants.keepLast {xs ys : List (κ × β)} (h : Variants R xs ys) :
    Variants R (keepLast xs) (keepLast ys) := by
  induction h with
  | nil => exact .nil
  | @cons left right xs ys hpair hrest ih =>
    rw [LastValue.keepLast, LastValue.keepLast, ← hpair.1, ← Variants.keys hrest]
    -- kept in both lists or dropped from both, since the keys behind it are the same
    by_cases hmem : left.1 ∈ xs.map Prod.fst
    · rw [if_pos hmem, if_pos hmem]
      exact ih
    · rw [if_neg hmem, if_neg hmem]
      exact .cons hpair ih

/-! ## 2. Maps -/

def MapVariants (R : κ → β → β → Prop) (m m' : AList fun _ : κ => β) : Prop :=
  List.Forall₂ (fun left right => left.1 = right.1 ∧ R left.1 left.2 right.2) m.entries m'.entries

theorem MapVariants.kerase {l l' : List (Sigma fun _ : κ => β)}
    (h : List.Forall₂ (fun left right => left.1 = right.1 ∧ R left.1 left.2 right.2) l l')
    (key : κ) :
    List.Forall₂ (fun left right => left.1 = right.1 ∧ R left.1 left.2 right.2)
      (List.kerase key l) (List.kerase key l') := by
  induction h with
  | nil => exact .nil
  | @cons left right l l' hpair hrest ih =>
    by_cases hkey : key = left.1
    · rw [List.kerase_cons_eq hkey, List.kerase_cons_eq (hkey.trans hpair.1)]
      exact hrest
    · rw [List.kerase_cons_ne hkey, List.kerase_cons_ne (hpair.1 ▸ hkey)]
      exact .cons hpair ih

variable {m m' : AList fun _ : κ => β}

theorem MapVariants.insert (h : MapVariants R m m') {key : κ} {value value' : β}
    (hvalue : R key value value') : MapVariants R (m.insert key value) (m'.insert key value') := by
  unfold MapVariants
  rw [AList.entries_insert, AList.entries_insert]
  exact .cons ⟨rfl, hvalue⟩ (MapVariants.kerase h key)

theorem MapVariants.erase (h : MapVariants R m m') (key : κ) :
    MapVariants R (m.erase key) (m'.erase key) :=
  MapVariants.kerase h key

theorem MapVariants.lookup (h : MapVariants R m m') (key : κ) :
    Option.Rel (R key) (m.lookup key) (m'.lookup key) := by
  show Option.Rel (R key) (List.dlookup key m.entries) (List.dlookup key m'.entries)
  unfold MapVariants at h
  revert h
  generalize m.entries = l
  generalize m'.entries = l'
  intro h
  induction h with
  | nil => exact .none
  | @cons left right l l' hpair hrest ih =>
    obtain ⟨leftKey, leftValue⟩ := left
    obtain ⟨rightKey, rightValue⟩ := right
    obtain ⟨rfl, hvalue⟩ := hpair
    by_cases hkey : leftKey = key
    · subst hkey
      rw [List.dlookup_cons_eq, List.dlookup_cons_eq]
      exact .some hvalue
    · rw [List.dlookup_cons_ne _ _ (Ne.symm hkey), List.dlookup_cons_ne _ _ (Ne.symm hkey)]
      exact ih

/-- Inserting related values in one order. -/
theorem Variants.foldl_insert {xs ys : List (κ × β)} (h : Variants R xs ys)
    (hm : MapVariants R m m') :
    MapVariants R (xs.foldl (fun m pair => m.insert pair.1 pair.2) m)
      (ys.foldl (fun m pair => m.insert pair.1 pair.2) m') := by
  induction h generalizing m m' with
  | nil => exact hm
  | @cons left right xs ys hpair _ ih =>
    rw [List.foldl_cons, List.foldl_cons, ← hpair.1]
    exact ih (hm.insert hpair.2)

omit [DecidableEq κ] in
theorem MapVariants.keys (h : MapVariants R m m') : m.keys = m'.keys := by
  show m.entries.map Sigma.fst = m'.entries.map Sigma.fst
  unfold MapVariants at h
  revert h
  generalize m.entries = l
  generalize m'.entries = l'
  intro h
  induction h with
  | nil => rfl
  | cons hpair _ ih => rw [List.map_cons, List.map_cons, hpair.1, ih]

/-- The same keys are looked up in both maps. -/
theorem MapVariants.lookups (h : MapVariants R m m') (keys : List κ) :
    Variants R (lookups m keys) (lookups m' keys) := by
  induction keys with
  | nil => exact .nil
  | cons key keys ih =>
    rw [lookups_cons, lookups_cons]
    refine Variants.append ?_ ih
    have hrel := h.lookup key
    revert hrel
    generalize m.lookup key = found
    generalize m'.lookup key = other
    intro hrel
    cases hrel with
    | none => exact .nil
    | some hvalue => exact .cons ⟨rfl, hvalue⟩ .nil

omit [DecidableEq κ] in
/-- A fold that reads the same of related values gives the same. -/
theorem Variants.foldl_eq {xs ys : List (κ × β)} (h : Variants R xs ys) {step : γ → κ × β → γ}
    (hstep : ∀ acc key value value', (key, value) ∈ xs → R key value value' →
      step acc (key, value) = step acc (key, value')) (init : γ) :
    xs.foldl step init = ys.foldl step init := by
  induction h generalizing init with
  | nil => rfl
  | @cons left right xs ys hpair _ ih =>
    obtain ⟨leftKey, leftValue⟩ := left
    obtain ⟨rightKey, rightValue⟩ := right
    obtain ⟨rfl, hvalue⟩ := hpair
    rw [List.foldl_cons, List.foldl_cons,
      hstep init leftKey leftValue rightValue List.mem_cons_self hvalue]
    exact ih (fun acc key value value' hmem =>
      hstep acc key value value' (List.mem_cons_of_mem _ hmem)) _

end KeyedVariants
