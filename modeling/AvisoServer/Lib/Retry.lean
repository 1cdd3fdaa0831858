import Mathlib.Data.List.Basic

/-!
# Retries with delays

A call is attempted a bounded number of times. After a failure that may be retried, the delay of
the attempt is computed, which can fail, and waited for. A run keeps the delays and how it ended.
-/

namespace Retry

inductive Ending (ε α : Type) where
  | returned (result : Except ε α)
  /-- The delay of an attempt could not be computed. -/
  | overflowed
  /-- No attempt is left, and none has returned. -/
  | exhausted

/-- What is returned where no attempt is left. -/
def Ending.orReturn {ε α : Type} (fallback : Except ε α) : Ending ε α → Ending ε α
  | .exhausted => .returned fallback
  | ending => ending

theorem Ending.orReturn_overflowed {ε α : Type} {fallback : Except ε α} {ending : Ending ε α} :
    ending.orReturn fallback = .overflowed ↔ ending = .overflowed := by
  cases ending with
  | returned result => exact Iff.rfl
  | overflowed => exact Iff.rfl
  | exhausted =>
    constructor
    · intro h
      cases h
    · intro h
      cases h

/-- A fallback that is an error is no success. -/
theorem Ending.orReturn_ok {ε α : Type} {e : ε} {a : α} {ending : Ending ε α}
    (h : ending.orReturn (.error e) = .returned (.ok a)) : ending = .returned (.ok a) := by
  cases ending with
  | returned result => exact h
  | overflowed => cases h
  | exhausted => cases h

structure Run (ε α : Type) where
  /-- What was waited for, the first delay first. -/
  delays : List Nat
  ending : Ending ε α

def Run.after {ε α : Type} (delay : Nat) (run : Run ε α) : Run ε α :=
  { run with delays := delay :: run.delays }

section

variable {ε α : Type} (retries : Nat → ε → Bool) (delayOf : Nat → Option Nat)
  (call : Nat → Except ε α)

/-- The attempts that are left, from the next one on. -/
def run : Nat → Nat → Run ε α
  | 0, _ => ⟨[], .exhausted⟩
  | left + 1, attempt =>
    match call attempt with
    | .ok a => ⟨[], .returned (.ok a)⟩
    | .error e =>
      if retries attempt e then
        match delayOf attempt with
        | some delay => (run left (attempt + 1)).after delay
        | none => ⟨[], .overflowed⟩
      else ⟨[], .returned (.error e)⟩

/-- The attempts that are made, the first one first. -/
def reached : Nat → Nat → List Nat
  | 0, _ => []
  | left + 1, attempt =>
    match call attempt with
    | .ok _ => [attempt]
    | .error e =>
      if retries attempt e ∧ (delayOf attempt).isSome then attempt :: reached left (attempt + 1)
      else [attempt]

end

variable {ε α : Type} {retries : Nat → ε → Bool} {delayOf : Nat → Option Nat}
  {call : Nat → Except ε α}

/-- One attempt: it ends the run, or the run goes on after its delay. -/
theorem run_succ (retries : Nat → ε → Bool) (delayOf : Nat → Option Nat)
    (call : Nat → Except ε α) (left attempt : Nat) :
    (∃ result, run retries delayOf call (left + 1) attempt = ⟨[], .returned result⟩) ∨
    (∃ e, call attempt = .error e ∧ retries attempt e = true ∧
      ((delayOf attempt = none ∧
        run retries delayOf call (left + 1) attempt = ⟨[], .overflowed⟩) ∨
      ∃ delay, delayOf attempt = some delay ∧
        run retries delayOf call (left + 1) attempt =
          (run retries delayOf call left (attempt + 1)).after delay)) := by
  rw [run]
  cases hcall : call attempt with
  | ok a => exact Or.inl ⟨.ok a, rfl⟩
  | error e =>
    cases hretry : retries attempt e with
    | false => exact Or.inl ⟨.error e, by simp [hretry]⟩
    | true =>
      refine Or.inr ⟨e, rfl, hretry, ?_⟩
      cases hdelay : delayOf attempt with
      | none => exact Or.inl ⟨rfl, by simp [hretry]⟩
      | some delay => exact Or.inr ⟨delay, rfl, by simp [hretry]⟩

/-- Every delay is the one of an attempt that was reached. -/
theorem mem_delays {left attempt delay : Nat}
    (h : delay ∈ (run retries delayOf call left attempt).delays) :
    ∃ reached, attempt ≤ reached ∧ delayOf reached = some delay := by
  induction left generalizing attempt with
  | zero => cases h
  | succ left ih =>
    rcases run_succ retries delayOf call left attempt with
      ⟨result, hrun⟩ | ⟨e, -, -, ⟨-, hrun⟩ | ⟨first, hfirst, hrun⟩⟩
    · rw [hrun] at h
      cases h
    · rw [hrun] at h
      cases h
    · rw [hrun] at h
      cases List.mem_cons.mp h with
      | inl heq => exact ⟨attempt, Nat.le_refl attempt, by rw [hfirst, heq]⟩
      | inr hrest =>
        obtain ⟨reached, hle, hdelay⟩ := ih hrest
        exact ⟨reached, by omega, hdelay⟩

/-- Delays that grow with the attempt are waited for in non-decreasing order. -/
theorem delays_sorted
    (hmono : ∀ first second a b, first ≤ second → delayOf first = some a →
      delayOf second = some b → a ≤ b) (left attempt : Nat) :
    (run retries delayOf call left attempt).delays.Pairwise (· ≤ ·) := by
  induction left generalizing attempt with
  | zero => exact List.Pairwise.nil
  | succ left ih =>
    rcases run_succ retries delayOf call left attempt with
      ⟨result, hrun⟩ | ⟨e, -, -, ⟨-, hrun⟩ | ⟨first, hfirst, hrun⟩⟩
    · rw [hrun]
      exact List.Pairwise.nil
    · rw [hrun]
      exact List.Pairwise.nil
    · rw [hrun]
      refine List.Pairwise.cons ?_ (ih (attempt + 1))
      intro delay hdelay
      obtain ⟨reached, hle, hreached⟩ := mem_delays hdelay
      exact hmono attempt reached first delay (by omega) hfirst hreached

/-- No delay fails where the delay of every attempt that may be retried can be computed. -/
theorem not_overflowed {left attempt : Nat}
    (hdelay : ∀ reached e, attempt ≤ reached → reached < attempt + left →
      retries reached e = true → delayOf reached ≠ none) :
    (run retries delayOf call left attempt).ending ≠ .overflowed := by
  induction left generalizing attempt with
  | zero =>
    intro h
    cases h
  | succ left ih =>
    rcases run_succ retries delayOf call left attempt with
      ⟨result, hrun⟩ | ⟨e, -, hretry, ⟨hnone, -⟩ | ⟨first, -, hrun⟩⟩
    · rw [hrun]
      intro h
      cases h
    · exact absurd hnone (hdelay attempt e (Nat.le_refl attempt) (by omega) hretry)
    · rw [hrun]
      exact ih fun reached e hle hlt => hdelay reached e (by omega) (by omega)

/-- A call that keeps failing so that it may be retried reaches the first delay that fails. -/
theorem overflowed_of_failing {e : ε} (last : Nat) (hcall : ∀ attempt, call attempt = .error e)
    (hretry : ∀ attempt, attempt ≤ last → retries attempt e = true)
    (hlast : delayOf last = none) {left attempt : Nat} (hle : attempt ≤ last)
    (hleft : last < attempt + left) :
    (run retries delayOf call left attempt).ending = .overflowed := by
  induction left generalizing attempt with
  | zero => omega
  | succ left ih =>
    rw [run, hcall]
    simp only [hretry attempt hle, if_true]
    cases hdelay : delayOf attempt with
    | none => rfl
    | some delay =>
      have hne : attempt ≠ last := by
        rintro rfl
        rw [hlast] at hdelay
        cases hdelay
      exact ih (by omega) (by omega)

/-- The last attempt is not retried, so the attempts are enough. -/
theorem not_exhausted {left attempt : Nat} (hleft : 0 < left)
    (hlast : ∀ e, retries (attempt + left - 1) e = false) :
    (run retries delayOf call left attempt).ending ≠ .exhausted := by
  induction left generalizing attempt with
  | zero => omega
  | succ left ih =>
    rcases run_succ retries delayOf call left attempt with
      ⟨result, hrun⟩ | ⟨e, -, hretry, ⟨-, hrun⟩ | ⟨first, -, hrun⟩⟩
    · rw [hrun]
      intro h
      cases h
    · rw [hrun]
      intro h
      cases h
    · rw [hrun]
      by_cases hzero : left = 0
      · -- the only attempt was retried
        subst hzero
        have hfalse := hlast e
        rw [show attempt + (0 + 1) - 1 = attempt by omega, hretry] at hfalse
        cases hfalse
      · apply ih (by omega)
        rw [show attempt + 1 + left - 1 = attempt + (left + 1) - 1 by omega]
        exact hlast

/-- One attempt: it is the last one, or it failed, is retried and the others follow. -/
theorem reached_succ (retries : Nat → ε → Bool) (delayOf : Nat → Option Nat)
    (call : Nat → Except ε α) (left attempt : Nat) :
    (reached retries delayOf call (left + 1) attempt = [attempt] ∧
      ∀ result, (run retries delayOf call (left + 1) attempt).ending = .returned result →
        call attempt = result) ∨
    ∃ e, call attempt = .error e ∧ retries attempt e = true ∧
      reached retries delayOf call (left + 1) attempt =
        attempt :: reached retries delayOf call left (attempt + 1) ∧
      (run retries delayOf call (left + 1) attempt).ending =
        (run retries delayOf call left (attempt + 1)).ending := by
  rw [reached, run]
  cases hcall : call attempt with
  | ok a => exact Or.inl ⟨rfl, fun result h => Ending.returned.inj h⟩
  | error e =>
    cases hretry : retries attempt e with
    | false =>
      refine Or.inl ⟨by simp [hretry], fun result h => ?_⟩
      simp only [hretry, Bool.false_eq_true, if_false] at h
      exact Ending.returned.inj h
    | true =>
      cases hdelay : delayOf attempt with
      | none =>
        refine Or.inl ⟨by simp, fun result h => ?_⟩
        simp [hretry] at h
      | some delay => exact Or.inr ⟨e, rfl, hretry, by simp [hretry],
          by simp [hretry, Run.after]⟩

theorem reached_length (left attempt : Nat) :
    (reached retries delayOf call left attempt).length ≤ left := by
  induction left generalizing attempt with
  | zero => exact Nat.le_refl 0
  | succ left ih =>
    rcases reached_succ retries delayOf call left attempt with ⟨heq, -⟩ | ⟨e, -, -, heq, -⟩
    · rw [heq]
      exact Nat.succ_le_succ (Nat.zero_le left)
    · rw [heq]
      exact Nat.succ_le_succ (ih (attempt + 1))

/-- An attempt that others follow failed and was retried. -/
theorem reached_retried (left attempt : Nat) :
    (reached retries delayOf call left attempt).Pairwise fun i _ =>
      ∃ e, call i = .error e ∧ retries i e = true := by
  induction left generalizing attempt with
  | zero => exact List.Pairwise.nil
  | succ left ih =>
    rcases reached_succ retries delayOf call left attempt with
      ⟨heq, -⟩ | ⟨e, hcall, hretry, heq, -⟩
    · rw [heq]
      exact List.pairwise_singleton _ _
    · rw [heq]
      exact List.Pairwise.cons (fun _ _ => ⟨e, hcall, hretry⟩) (ih (attempt + 1))

/-- What is returned is the result of the last attempt; those before it failed. -/
theorem reached_of_returned {left attempt : Nat} {result : Except ε α}
    (h : (run retries delayOf call left attempt).ending = .returned result) :
    ∃ before last, reached retries delayOf call left attempt = before ++ [last] ∧
      call last = result ∧ ∀ i ∈ before, ∃ e, call i = .error e := by
  induction left generalizing attempt with
  | zero => cases h
  | succ left ih =>
    rcases reached_succ retries delayOf call left attempt with
      ⟨heq, hlast⟩ | ⟨e, hcall, -, heq, hending⟩
    · exact ⟨[], attempt, heq, hlast result h, fun i hi => absurd hi List.not_mem_nil⟩
    · obtain ⟨before, last, hrest, hresult, hbefore⟩ := ih (hending ▸ h)
      refine ⟨attempt :: before, last, by rw [heq, hrest, List.cons_append], hresult, ?_⟩
      intro i hi
      cases List.mem_cons.mp hi with
      | inl hfirst => exact ⟨e, hfirst ▸ hcall⟩
      | inr hlater => exact hbefore i hlater

/-- Where nothing is returned, no attempt succeeded. -/
theorem reached_failed {left attempt : Nat}
    (h : ∀ a, (run retries delayOf call left attempt).ending ≠ .returned (.ok a)) :
    ∀ i ∈ reached retries delayOf call left attempt, ∃ e, call i = .error e := by
  induction left generalizing attempt with
  | zero => exact fun i hi => absurd hi List.not_mem_nil
  | succ left ih =>
    cases hcall : call attempt with
    | ok a => exact absurd (by simp [run, hcall]) (h a)
    | error e =>
      rcases reached_succ retries delayOf call left attempt with
        ⟨heq, -⟩ | ⟨e', -, -, heq, hending⟩
      · rw [heq]
        intro i hi
        rw [List.mem_singleton.mp hi]
        exact ⟨e, hcall⟩
      · rw [heq]
        rw [hending] at h
        intro i hi
        cases List.mem_cons.mp hi with
        | inl hfirst => exact ⟨e, hfirst ▸ hcall⟩
        | inr hlater => exact ih h i hlater

end Retry
