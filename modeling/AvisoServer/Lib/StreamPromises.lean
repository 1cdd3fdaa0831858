import AvisoServer.Lib.StoppedStream

/-!
# What a stream promises of its items

A stream promises a property of its items if some invariant of its states, kept by every poll in an
admissible environment, gives the property for the item of the poll. Streams that are put together
promise what their parts promise.
-/

namespace PollStream

variable {σ τ ε α ρ : Type}

/-! ## 1. Promises -/

/-- In the environments `env`, every item that the stream ever yields satisfies `p`. -/
def Promises (S : PollStream σ ε α) (env : ε → Prop) (p : α → Prop) : Prop :=
  ∃ inv : σ → Prop, inv S.init ∧ ∀ e s, env e → inv s →
    inv (S.poll e s).2 ∧ ∀ x, (S.poll e s).1 = .ready (some x) → p x

/-- What is promised holds of every item of every run. -/
theorem Promises.run {S : PollStream σ ε α} {env : ε → Prop} {p : α → Prop}
    (h : S.Promises env p) {polls : List ε} (henv : ∀ e ∈ polls, env e) :
    ∀ x ∈ (S.run polls S.init).1, p x := by
  obtain ⟨inv, hinit, hpoll⟩ := h
  -- by induction on the polls, from any state that keeps the invariant
  generalize S.init = s at hinit
  induction polls generalizing s with
  | nil =>
    intro x hx
    cases hx
  | cons e polls ih =>
    have hrest := ih fun e' he' => henv e' (List.mem_cons_of_mem e he')
    have hstep := hpoll e s (henv e List.mem_cons_self) hinit
    rcases hout : S.poll e s with ⟨_ | _ | x, s'⟩
    · rw [run_cons_pending S polls hout]
      rw [hout] at hstep
      exact hrest s' hstep.1
    · rw [run_cons_done S polls hout]
      intro x hx
      cases hx
    · rw [run_cons_item S polls hout]
      rw [hout] at hstep
      intro y hy
      cases List.mem_cons.mp hy with
      | inl hsame => exact hsame ▸ hstep.2 x rfl
      | inr hlater => exact hrest s' hstep.1 y hlater

section Combinators

variable {A : PollStream σ ε α} {B : PollStream τ ε α} {env : ε → Prop} {p : α → Prop}

theorem Promises.iter {ready : ε → Bool} {items : List α} (h : ∀ x ∈ items, p x) :
    (iter ready items).Promises env p := by
  refine ⟨fun rest => ∀ x ∈ rest, p x, h, ?_⟩
  intro e rest _ hrest
  unfold PollStream.iter
  by_cases hready : ready e = true
  · simp only [if_pos hready]
    cases rest with
    | nil => exact ⟨hrest, fun x hx => by cases hx⟩
    | cons first rest =>
      refine ⟨fun x hx => hrest x (List.mem_cons_of_mem first hx), fun x hx => ?_⟩
      cases hx
      exact hrest first List.mem_cons_self
  · simp only [if_neg hready]
    exact ⟨hrest, fun x hx => by cases hx⟩

theorem Promises.chain (hA : A.Promises env p) (hB : B.Promises env p) :
    (chain A B).Promises env p := by
  obtain ⟨invA, hinitA, hpollA⟩ := hA
  obtain ⟨invB, hinitB, hpollB⟩ := hB
  refine ⟨fun st => (∀ a, st.1 = some a → invA a) ∧ invB st.2, ⟨?_, hinitB⟩, ?_⟩
  · intro a ha
    cases ha
    exact hinitA
  · intro e st he hst
    obtain ⟨first, b⟩ := st
    obtain ⟨hfirst, hb⟩ := hst
    have hsecond := hpollB e b he hb
    cases first with
    | none => exact ⟨⟨fun a ha => (by cases ha), hsecond.1⟩, hsecond.2⟩
    | some a =>
      have hfirst := hpollA e a he (hfirst a rfl)
      unfold PollStream.chain
      rcases hout : A.poll e a with ⟨_ | _ | x, a'⟩
      · rw [hout] at hfirst
        simp only [hout]
        exact ⟨⟨fun a ha => (by cases ha; exact hfirst.1), hb⟩, fun x hx => by cases hx⟩
      · -- the second stream is polled in the same call
        simp only [hout]
        exact ⟨⟨fun a ha => (by cases ha), hsecond.1⟩, hsecond.2⟩
      · rw [hout] at hfirst
        simp only [hout]
        exact ⟨⟨fun a ha => (by cases ha; exact hfirst.1), hb⟩, hfirst.2⟩

/-- A fused poll keeps the invariant of the stream as long as there is a stream. -/
theorem pollFused_keeps {inv : σ → Prop} (hpoll : ∀ e s, env e → inv s →
      inv (A.poll e s).2 ∧ ∀ x, (A.poll e s).1 = .ready (some x) → p x)
    {e : ε} (he : env e) {st : Option σ} (hst : ∀ s, st = some s → inv s) :
    (∀ s, (pollFused A e st).2 = some s → inv s) ∧
      ∀ x, (pollFused A e st).1 = .ready (some x) → p x := by
  cases st with
  | none => exact ⟨fun s hs => (by cases hs), fun x hx => by cases hx⟩
  | some s =>
    have hstep := hpoll e s he (hst s rfl)
    unfold pollFused
    rcases hout : A.poll e s with ⟨_ | _ | x, s'⟩
    · rw [hout] at hstep
      simp only [hout]
      exact ⟨fun s hs => (by cases hs; exact hstep.1), fun x hx => by cases hx⟩
    · simp only [hout]
      exact ⟨fun s hs => (by cases hs), fun x hx => by cases hx⟩
    · rw [hout] at hstep
      simp only [hout]
      exact ⟨fun s hs => (by cases hs; exact hstep.1), hstep.2⟩

/-- Two polls in turn yield an item of one of them, and leave states they may have left. -/
theorem pollInTurn_keeps {inv : σ → Prop} {inv' : τ → Prop} {first : Poll α × σ}
    {second : Poll α × τ} {unpolled : τ} (hfirst : inv first.2 ∧ ∀ x, first.1 = .ready (some x) → p x)
    (hsecond : inv' second.2 ∧ ∀ x, second.1 = .ready (some x) → p x) (hunpolled : inv' unpolled) :
    inv (pollInTurn first second unpolled).2.1 ∧ inv' (pollInTurn first second unpolled).2.2 ∧
      ∀ x, (pollInTurn first second unpolled).1 = .ready (some x) → p x := by
  obtain ⟨answer, s⟩ := first
  obtain ⟨answer', t⟩ := second
  rcases answer with _ | _ | x
  · rcases answer' with _ | _ | y
    · exact ⟨hfirst.1, hsecond.1, fun x hx => by cases hx⟩
    · exact ⟨hfirst.1, hsecond.1, fun x hx => by cases hx⟩
    · exact ⟨hfirst.1, hsecond.1, hsecond.2⟩
  · exact ⟨hfirst.1, hsecond.1, hsecond.2⟩
  · exact ⟨hfirst.1, hunpolled, hfirst.2⟩

theorem Promises.merge (hA : A.Promises env p) (hB : B.Promises env p) :
    (merge A B).Promises env p := by
  obtain ⟨invA, hinitA, hpollA⟩ := hA
  obtain ⟨invB, hinitB, hpollB⟩ := hB
  refine ⟨fun st => (∀ a, st.a = some a → invA a) ∧ ∀ b, st.b = some b → invB b, ⟨?_, ?_⟩, ?_⟩
  · intro a ha
    cases ha
    exact hinitA
  · intro b hb
    cases hb
    exact hinitB
  · intro e st he hst
    obtain ⟨a, b, aFirst⟩ := st
    have hfirst := pollFused_keeps hpollA he hst.1
    have hsecond := pollFused_keeps hpollB he hst.2
    -- whose turn it is only swaps the two
    cases aFirst with
    | true =>
      obtain ⟨ha, hb, hitem⟩ := @pollInTurn_keeps _ _ _ p (fun st => ∀ a, st = some a → invA a)
        (fun st => ∀ b, st = some b → invB b) _ _ b hfirst hsecond hst.2
      exact ⟨⟨ha, hb⟩, hitem⟩
    | false =>
      obtain ⟨hb, ha, hitem⟩ := @pollInTurn_keeps _ _ _ p (fun st => ∀ b, st = some b → invB b)
        (fun st => ∀ a, st = some a → invA a) _ _ a hsecond hfirst hst.1
      exact ⟨⟨ha, hb⟩, hitem⟩

/-! ## 2. Streams that are stopped -/

theorem Promises.stopAfter {stop : α → Bool} (h : A.Promises env p) :
    (stopAfter stop A).Promises env p := by
  obtain ⟨inv, hinit, hpoll⟩ := h
  refine ⟨fun st => inv st.1, hinit, ?_⟩
  intro e st he hst
  have hstep := hpoll e st.1 he hst
  unfold PollStream.stopAfter
  by_cases hstopped : st.2 = true
  · simp only [if_pos hstopped]
    exact ⟨hst, fun x hx => by cases hx⟩
  · simp only [if_neg hstopped]
    rcases hout : A.poll e st.1 with ⟨_ | _ | x, s'⟩
    · rw [hout] at hstep
      exact ⟨hstep.1, fun x hx => by cases hx⟩
    · rw [hout] at hstep
      exact ⟨hstep.1, fun x hx => by cases hx⟩
    · rw [hout] at hstep
      exact ⟨hstep.1, hstep.2⟩

theorem Promises.takeUntil {stop : ε → Option ρ} (h : A.Promises env p) :
    (takeUntil A stop).Promises env p := by
  obtain ⟨inv, hinit, hpoll⟩ := h
  refine ⟨fun st => inv st.stream, hinit, ?_⟩
  intro e st he hst
  have hstep := hpoll e st.stream he hst
  obtain ⟨stream, waiting, result⟩ := st
  unfold PollStream.takeUntil
  cases waiting with
  | false => exact ⟨hst, fun x hx => by cases hx⟩
  | true =>
    cases hstop : stop e with
    | some r =>
      simp only [hstop]
      exact ⟨hst, fun x hx => by cases hx⟩
    | none =>
      simp only [hstop]
      rcases hout : A.poll e stream with ⟨_ | _ | x, s'⟩
      · rw [hout] at hstep
        exact ⟨hstep.1, fun x hx => by cases hx⟩
      · rw [hout] at hstep
        exact ⟨hstep.1, fun x hx => by cases hx⟩
      · rw [hout] at hstep
        exact ⟨hstep.1, hstep.2⟩

theorem Promises.endWith {last : ε → σ → α} (h : A.Promises env p) (hlast : ∀ e s, p (last e s)) :
    (endWith A last).Promises env p := by
  obtain ⟨inv, hinit, hpoll⟩ := h
  refine ⟨fun st => ∀ s, st = some s → inv s, fun s hs => (by cases hs; exact hinit), ?_⟩
  intro e st he hst
  unfold PollStream.endWith
  cases st with
  | none => exact ⟨hst, fun x hx => by cases hx⟩
  | some s =>
    have hstep := hpoll e s he (hst s rfl)
    rcases hout : A.poll e s with ⟨_ | _ | x, s'⟩
    · rw [hout] at hstep
      simp only [hout]
      exact ⟨fun s hs => (by cases hs; exact hstep.1), fun x hx => by cases hx⟩
    · -- the end of the stream yields the last item, once
      simp only [hout]
      refine ⟨fun s hs => (by cases hs), fun x hx => ?_⟩
      cases hx
      exact hlast e s'
    · rw [hout] at hstep
      simp only [hout]
      exact ⟨fun s hs => (by cases hs; exact hstep.1), hstep.2⟩

theorem Promises.comap {ε' : Type} {f : ε' → ε} (h : A.Promises env p) :
    (comap f A).Promises (fun e => env (f e)) p := by
  obtain ⟨inv, hinit, hpoll⟩ := h
  exact ⟨inv, hinit, fun e s he hs => hpoll (f e) s he hs⟩

end Combinators

end PollStream
