import Mathlib.Data.List.Nodup

/-!
# Folds over keyed items

A loop that may fail goes over items with distinct keys. What each step does to the entry of its
own key holds at the end of the loop, because no other step touches that entry.
-/

namespace KeyedFold

variable {ε σ α κ γ δ : Type}

theorem foldlM_cons_eq_ok {step : σ → α → Except ε σ} {item : α} {items : List α} {s t : σ}
    (h : (item :: items).foldlM step s = .ok t) :
    ∃ next, step s item = .ok next ∧ items.foldlM step next = .ok t := by
  rw [List.foldlM_cons] at h
  cases hstep : step s item with
  | error e =>
    rw [hstep] at h
    cases h
  | ok next =>
    rw [hstep] at h
    exact ⟨next, rfl, h⟩

/-- A loop gets through from any state when each item of it gets through from any state, and of that
some step of a loop that got through is enough. -/
theorem foldlM_total {step step' : σ → α → Except ε σ} {items : List α} {s t : σ}
    (h : items.foldlM step s = .ok t)
    (htotal : ∀ item ∈ items, ∀ s t, step s item = .ok t → ∀ s', ∃ t', step' s' item = .ok t')
    (s' : σ) : ∃ t', items.foldlM step' s' = .ok t' := by
  induction items generalizing s s' with
  | nil => exact ⟨s', rfl⟩
  | cons item items ih =>
    obtain ⟨next, hstep, hrest⟩ := foldlM_cons_eq_ok h
    obtain ⟨next', hstep'⟩ := htotal item List.mem_cons_self s next hstep s'
    rw [List.foldlM_cons, hstep']
    exact ih hrest (fun later hlater => htotal later (List.mem_cons_of_mem item hlater)) next'

/-- Each step sets the entry of its own key from the unset value, and keeps the others. -/
structure SetsOwnKey (key : α → κ) (view : σ → κ → γ) (unset : γ) (holds : α → γ → Prop)
    (step : σ → α → Except ε σ) (items : List α) : Prop where
  own : ∀ item ∈ items, ∀ s t, step s item = .ok t → view s (key item) = unset →
    holds item (view t (key item))
  others : ∀ item ∈ items, ∀ s t, step s item = .ok t → ∀ other, other ≠ key item →
    view t other = view s other

theorem SetsOwnKey.tail {key : α → κ} {view : σ → κ → γ} {unset : γ} {holds : α → γ → Prop}
    {step : σ → α → Except ε σ} {item : α} {items : List α}
    (hsets : SetsOwnKey key view unset holds step (item :: items)) :
    SetsOwnKey key view unset holds step items where
  own other hother := hsets.own other (List.mem_cons_of_mem item hother)
  others other hother := hsets.others other (List.mem_cons_of_mem item hother)

/-- Keys of no item keep their entry. -/
theorem foldlM_others {key : α → κ} {view : σ → κ → γ} {unset : γ} {holds : α → γ → Prop}
    {step : σ → α → Except ε σ} {items : List α}
    (hsets : SetsOwnKey key view unset holds step items) {s t : σ}
    (h : items.foldlM step s = .ok t) (other : κ) (hother : ∀ item ∈ items, other ≠ key item) :
    view t other = view s other := by
  induction items generalizing s with
  | nil =>
    cases h
    rfl
  | cons item items ih =>
    obtain ⟨next, hstep, hrest⟩ := foldlM_cons_eq_ok h
    rw [ih hsets.tail hrest fun item' hitem' => hother item' (List.mem_cons_of_mem item hitem')]
    exact hsets.others item List.mem_cons_self s next hstep other (hother item List.mem_cons_self)

/-- At the end of the loop, the entry of every item is what its step made it. -/
theorem foldlM_own {key : α → κ} {view : σ → κ → γ} {unset : γ} {holds : α → γ → Prop}
    {step : σ → α → Except ε σ} {items : List α}
    (hsets : SetsOwnKey key view unset holds step items) (hnodup : (items.map key).Nodup) {s t : σ}
    (h : items.foldlM step s = .ok t) (hunset : ∀ item ∈ items, view s (key item) = unset) :
    ∀ item ∈ items, holds item (view t (key item)) := by
  induction items generalizing s with
  | nil => exact fun item hitem => absurd hitem List.not_mem_nil
  | cons first items ih =>
    obtain ⟨next, hstep, hrest⟩ := foldlM_cons_eq_ok h
    rw [List.map_cons, List.nodup_cons] at hnodup
    have hfresh : ∀ item ∈ items, key first ≠ key item := fun item hitem heq =>
      hnodup.1 (heq ▸ List.mem_map_of_mem hitem)
    intro item hitem
    cases List.mem_cons.mp hitem with
    | inl hfirst =>
      rw [hfirst, foldlM_others hsets.tail hrest (key first) hfresh]
      exact hsets.own first List.mem_cons_self s next hstep (hunset first List.mem_cons_self)
    | inr htail =>
      refine ih hsets.tail hnodup.2 hrest ?_ item htail
      intro later hlater
      rw [hsets.others first List.mem_cons_self s next hstep (key later)
        (Ne.symm (hfresh later hlater))]
      exact hunset later (List.mem_cons_of_mem first hlater)

/-- A part of the state that only some steps write is at the end what one of them wrote, or as it
was if there is none. -/
theorem foldlM_written (part : σ → δ) (writes : α → Bool) (wrote : α → δ → Prop)
    {step : σ → α → Except ε σ} {items : List α}
    (hwrite : ∀ item ∈ items, ∀ s t, step s item = .ok t → writes item = true →
      wrote item (part t))
    (hkeep : ∀ item ∈ items, ∀ s t, step s item = .ok t → writes item = false → part t = part s)
    {s t : σ} (h : items.foldlM step s = .ok t) :
    ((∀ item ∈ items, writes item = false) ∧ part t = part s) ∨
      ∃ item ∈ items, writes item = true ∧ wrote item (part t) := by
  induction items generalizing s with
  | nil =>
    cases h
    exact Or.inl ⟨fun item hitem => absurd hitem List.not_mem_nil, rfl⟩
  | cons item items ih =>
    obtain ⟨next, hstep, hrest⟩ := foldlM_cons_eq_ok h
    have hlast := ih (fun later hlater => hwrite later (List.mem_cons_of_mem item hlater))
      (fun later hlater => hkeep later (List.mem_cons_of_mem item hlater)) hrest
    cases hlast with
    | inr hlater =>
      obtain ⟨later, hlater, hwrites, hwrote⟩ := hlater
      exact Or.inr ⟨later, List.mem_cons_of_mem item hlater, hwrites, hwrote⟩
    | inl hnone =>
      -- no later step writes, so this one decides
      cases hwrites : writes item with
      | true =>
        refine Or.inr ⟨item, List.mem_cons_self, hwrites, ?_⟩
        rw [hnone.2]
        exact hwrite item List.mem_cons_self s next hstep hwrites
      | false =>
        refine Or.inl ⟨List.forall_mem_cons.mpr ⟨hwrites, hnone.1⟩, ?_⟩
        rw [hnone.2, hkeep item List.mem_cons_self s next hstep hwrites]

end KeyedFold
