import Mathlib.Data.List.Basic

/-!
# Reconciliation passes

A rule sees whether a state has drifted from what the rule wants, and sets the state. One pass
applies the rules in order and notes those that found a drift. Where no rule disturbs an earlier
one, one pass is enough: a second finds nothing, and a pass that notes nothing changed nothing.
-/

namespace Reconcile

structure Rule (σ ι : Type) where
  label : ι
  drifted : σ → Bool
  set : σ → σ

variable {σ ι : Type}

/-- The state after the rules, and the labels of those that set it. -/
def pass : List (Rule σ ι) → σ → σ × List ι
  | [], state => (state, [])
  | rule :: rules, state =>
    if rule.drifted state then
      ((pass rules (rule.set state)).1, rule.label :: (pass rules (rule.set state)).2)
    else pass rules state

/-- No rule finds a drift. -/
def Settled (rules : List (Rule σ ι)) (state : σ) : Prop :=
  ∀ rule ∈ rules, rule.drifted state = false

/-- A rule is content with what it set, and what later rules set does not concern it. -/
structure Orderly (rules : List (Rule σ ι)) : Prop where
  content : ∀ rule ∈ rules, ∀ state, rule.drifted (rule.set state) = false
  undisturbed : rules.Pairwise fun earlier later =>
    ∀ state, earlier.drifted (later.set state) = earlier.drifted state

theorem pass_cons_drifted {rule : Rule σ ι} {rules : List (Rule σ ι)} {state : σ}
    (h : rule.drifted state = true) :
    pass (rule :: rules) state =
      ((pass rules (rule.set state)).1, rule.label :: (pass rules (rule.set state)).2) :=
  if_pos h

theorem pass_cons_same {rule : Rule σ ι} {rules : List (Rule σ ι)} {state : σ}
    (h : rule.drifted state = false) : pass (rule :: rules) state = pass rules state :=
  if_neg (by rw [h]; exact Bool.false_ne_true)

theorem pass_of_settled {rules : List (Rule σ ι)} {state : σ} (h : Settled rules state) :
    pass rules state = (state, []) := by
  induction rules with
  | nil => rfl
  | cons rule rules ih =>
    rw [pass_cons_same (h rule List.mem_cons_self)]
    exact ih fun other hother => h other (List.mem_cons_of_mem rule hother)

/-- What no rule sets is as it was. -/
theorem pass_keeps {β : Type} (part : σ → β) {rules : List (Rule σ ι)}
    (hkeep : ∀ rule ∈ rules, ∀ state, part (rule.set state) = part state) (state : σ) :
    part (pass rules state).1 = part state := by
  induction rules generalizing state with
  | nil => rfl
  | cons rule rules ih =>
    have hrest := ih fun other hother => hkeep other (List.mem_cons_of_mem rule hother)
    cases hdrift : rule.drifted state with
    | true =>
      rw [pass_cons_drifted hdrift]
      show part (pass rules (rule.set state)).1 = part state
      rw [hrest, hkeep rule List.mem_cons_self]
    | false =>
      rw [pass_cons_same hdrift]
      exact hrest state

theorem pass_append (rules others : List (Rule σ ι)) (state : σ) :
    (pass (rules ++ others) state).1 = (pass others (pass rules state).1).1 := by
  induction rules generalizing state with
  | nil => rfl
  | cons rule rules ih =>
    rw [List.cons_append]
    cases hdrift : rule.drifted state with
    | true =>
      rw [pass_cons_drifted hdrift, pass_cons_drifted hdrift]
      exact ih (rule.set state)
    | false =>
      rw [pass_cons_same hdrift, pass_cons_same hdrift]
      exact ih state

/-- One pass settles every rule: the rule that set the state last is content, and those before it
were not disturbed. -/
theorem settled_pass {rules : List (Rule σ ι)} (h : Orderly rules) (state : σ) :
    Settled rules (pass rules state).1 := by
  induction rules generalizing state with
  | nil =>
    intro rule hrule
    cases hrule
  | cons rule rules ih =>
    obtain ⟨hfirst, hlater⟩ := List.pairwise_cons.mp h.undisturbed
    have hrest := ih
      ⟨fun other hother => h.content other (List.mem_cons_of_mem rule hother), hlater⟩
    have hkeeps := pass_keeps rule.drifted hfirst
    intro other hother
    cases hdrift : rule.drifted state with
    | true =>
      rw [pass_cons_drifted hdrift]
      cases List.mem_cons.mp hother with
      | inl heq =>
        rw [heq]
        exact (hkeeps (rule.set state)).trans (h.content rule List.mem_cons_self state)
      | inr hmem => exact hrest (rule.set state) other hmem
    | false =>
      rw [pass_cons_same hdrift]
      cases List.mem_cons.mp hother with
      | inl heq =>
        rw [heq]
        exact (hkeeps state).trans hdrift
      | inr hmem => exact hrest state other hmem

theorem pass_eq_of_unnoted {rules : List (Rule σ ι)} {state : σ}
    (h : (pass rules state).2 = []) : (pass rules state).1 = state := by
  induction rules generalizing state with
  | nil => rfl
  | cons rule rules ih =>
    cases hdrift : rule.drifted state with
    | true =>
      rw [pass_cons_drifted hdrift] at h
      cases h
    | false =>
      rw [pass_cons_same hdrift] at h ⊢
      exact ih h

/-- A pass notes something exactly where it changes something. -/
theorem unnoted_iff_unchanged {rules : List (Rule σ ι)} (h : Orderly rules) (state : σ) :
    (pass rules state).2 = [] ↔ (pass rules state).1 = state := by
  constructor
  · exact pass_eq_of_unnoted
  · intro hsame
    -- a state that stays as it is was settled before
    have hsettled := settled_pass h state
    rw [hsame] at hsettled
    rw [pass_of_settled hsettled]

end Reconcile
