import Mathlib.Logic.Relation

/-!
# Runs of a transition system

A run lists the states it visits, first and last included, so a hypothesis can speak of everything
that happened on the way.
-/

namespace Runs

variable {σ : Type} {step : σ → σ → Prop}

/-- `Run step s visited t`: finitely many steps lead from `s` to `t` through `visited`. -/
inductive Run (step : σ → σ → Prop) (s : σ) : List σ → σ → Prop where
  | refl : Run step s [s] s
  | tail {visited : List σ} {t u : σ} :
      Run step s visited t → step t u → Run step s (visited ++ [u]) u

/-- An invariant of every step holds at the end of every run. -/
theorem Run.invariant (inv : σ → Prop) (hstep : ∀ t u, inv t → step t u → inv u)
    {s t : σ} {visited : List σ} (hrun : Run step s visited t) (hs : inv s) : inv t := by
  induction hrun with
  | refl => exact hs
  | tail _ htu ih => exact hstep _ _ ih htu

/-- It holds in every state that the run visits. -/
theorem Run.invariant_visited (inv : σ → Prop) (hstep : ∀ t u, inv t → step t u → inv u)
    {s t : σ} {visited : List σ} (hrun : Run step s visited t) (hs : inv s) :
    ∀ v ∈ visited, inv v := by
  induction hrun with
  | refl =>
    intro v hv
    rw [List.mem_singleton.mp hv]
    exact hs
  | tail hrun htu ih =>
    intro v hv
    rcases List.mem_append.mp hv with hv | hv
    · exact ih v hv
    · rw [List.mem_singleton.mp hv]
      exact hstep _ _ (hrun.invariant inv hstep hs) htu

/-- The same for an invariant whose steps may use what all visited states satisfy. -/
theorem Run.invariant_of_visited (inv cond : σ → Prop)
    (hstep : ∀ t u, inv t → cond t → cond u → step t u → inv u)
    {s t : σ} {visited : List σ} (hrun : Run step s visited t) (hs : inv s)
    (hcond : ∀ v ∈ visited, cond v) : inv t := by
  induction hrun with
  | refl => exact hs
  | @tail visited t u hst htu ih =>
    have hbefore : ∀ v ∈ visited, cond v := fun v hv => hcond v (List.mem_append_left _ hv)
    have ht : t ∈ visited := by
      cases hst with
      | refl => exact List.mem_singleton_self _
      | tail => exact List.mem_append_right _ (List.mem_singleton_self _)
    exact hstep t u (ih hbefore) (hbefore t ht)
      (hcond u (List.mem_append_right _ (List.mem_singleton_self _))) htu

end Runs
