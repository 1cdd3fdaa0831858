import AvisoServer.Lib.PollStream

/-!
# Streams that are stopped from outside

Combinators that end a stream early, after one of its items or when a stop future is ready, and that
append a last item when it has ended. An open run of the result is an open run of the stream itself,
so a statement about the closing item needs no more than the poll at which it is made.
-/

namespace PollStream

variable {σ ε α ρ : Type}

/-! ## 1. Combinators -/

/-- End after the first item that satisfies `p`. -/
def stopAfter (p : α → Bool) (S : PollStream σ ε α) : PollStream (σ × Bool) ε α where
  init := (S.init, false)
  poll e st :=
    if st.2 then (.ready none, st)
    else
      match S.poll e st.1 with
      | (.ready (some x), s) => (.ready (some x), (s, p x))
      | (r, s) => (r, (s, false))

structure TakeUntilState (σ ρ : Type) where
  stream : σ
  /-- the stop future has neither completed nor been dropped -/
  waiting : Bool
  result : Option ρ

/-- End when the stop future is ready, which every poll asks before it polls the stream. -/
def takeUntil (S : PollStream σ ε α) (stop : ε → Option ρ) :
    PollStream (TakeUntilState σ ρ) ε α where
  init := { stream := S.init, waiting := true, result := none }
  poll e st :=
    match st.waiting, stop e with
    | false, _ => (.ready none, st)
    | true, some r => (.ready none, { st with waiting := false, result := some r })
    | true, none =>
      match S.poll e st.stream with
      | (.ready none, s) => (.ready none, { st with stream := s, waiting := false })
      | (r, s) => (r, { st with stream := s })

/-- One more item once the stream has ended, made from the state it ended in. -/
def endWith (S : PollStream σ ε α) (last : ε → σ → α) : PollStream (Option σ) ε α where
  init := some S.init
  poll e st :=
    match st with
    | some s =>
      match S.poll e s with
      | (.ready none, s) => (.ready (some (last e s)), none)
      | (r, s) => (r, some s)
    | none => (.ready none, none)

/-- The same stream in a larger environment. -/
def comap {ε' : Type} (f : ε' → ε) (S : PollStream σ ε α) : PollStream σ ε' α where
  init := S.init
  poll e s := S.poll (f e) s

/-! ## 2. Traces -/

section Stopping

variable {S : PollStream σ ε α}

theorem Emits.comap {ε' : Type} {f : ε' → ε} {s : σ} {items : List α} {ended : Bool}
    (h : (comap f S).Emits s items ended) : S.Emits s items ended := by
  induction h with
  | stop s => exact .stop s
  | pending hp _ ih => exact .pending hp ih
  | item hp _ ih => exact .item hp ih
  | done hp => exact .done hp

theorem run_comap {ε' : Type} (f : ε' → ε) (polls : List ε') (s : σ) :
    (comap f S).run polls s = S.run (polls.map f) s := by
  induction polls generalizing s with
  | nil => rfl
  | cons e polls ih => simp only [run, List.map_cons, PollStream.comap, ← ih]

theorem Emits.stopAfter_stopped {p : α → Bool} {st : σ × Bool} {items : List α} {ended : Bool}
    (h : (stopAfter p S).Emits st items ended) (hst : st.2 = true) : items = [] := by
  cases h with
  | stop => rfl
  | pending hp => simp [PollStream.stopAfter, hst] at hp
  | item hp => simp [PollStream.stopAfter, hst] at hp
  | done => rfl

/-- A trace of the stream in which only the last item can satisfy `p`. -/
theorem Emits.stopAfter {p : α → Bool} {st : σ × Bool} {items : List α} {ended : Bool}
    (h : (stopAfter p S).Emits st items ended) (hst : st.2 = false) :
    (∃ ended, S.Emits st.1 items ended) ∧ items.Pairwise fun x _ => p x = false := by
  induction h with
  | stop st => exact ⟨⟨false, .stop st.1⟩, List.Pairwise.nil⟩
  | @pending e st st' items ended hp _ ih =>
    rcases hpoll : S.poll e st.1 with ⟨_ | _ | x, s⟩ <;>
      simp only [PollStream.stopAfter, hst, hpoll, Bool.false_eq_true, if_false] at hp
    · obtain ⟨-, rfl⟩ := Prod.mk.inj hp
      obtain ⟨⟨ended, hemits⟩, hpair⟩ := ih rfl
      exact ⟨⟨ended, .pending hpoll hemits⟩, hpair⟩
    · cases (Prod.mk.inj hp).1
    · cases (Prod.mk.inj hp).1
  | @item e st st' x items ended hp hrest ih =>
    rcases hpoll : S.poll e st.1 with ⟨_ | _ | y, s⟩ <;>
      simp only [PollStream.stopAfter, hst, hpoll, Bool.false_eq_true, if_false] at hp
    · cases (Prod.mk.inj hp).1
    · cases (Prod.mk.inj hp).1
    · obtain ⟨hxy, rfl⟩ := Prod.mk.inj hp
      cases hxy
      cases hx : p x with
      | true =>
        rw [hrest.stopAfter_stopped hx]
        exact ⟨⟨false, .item hpoll (.stop s)⟩, List.pairwise_singleton _ _⟩
      | false =>
        obtain ⟨⟨ended, hemits⟩, hpair⟩ := ih hx
        exact ⟨⟨ended, .item hpoll hemits⟩, List.pairwise_cons.mpr ⟨fun _ _ => hx, hpair⟩⟩
  | @done e st st' hp => exact ⟨⟨false, .stop st.1⟩, List.Pairwise.nil⟩

theorem Emits.takeUntil {stop : ε → Option ρ} {st : TakeUntilState σ ρ} {items : List α}
    {ended : Bool} (h : (takeUntil S stop).Emits st items ended) :
    ∃ ended, S.Emits st.stream items ended := by
  induction h with
  | stop st => exact ⟨false, .stop st.stream⟩
  | @pending e st st' items ended hp _ ih =>
    cases hw : st.waiting <;> cases hstop : stop e <;>
      simp only [PollStream.takeUntil, hw, hstop] at hp <;> try cases (Prod.mk.inj hp).1
    rcases hpoll : S.poll e st.stream with ⟨_ | _ | x, s⟩ <;> simp only [hpoll] at hp
    · obtain ⟨-, rfl⟩ := Prod.mk.inj hp
      obtain ⟨ended, hemits⟩ := ih
      exact ⟨ended, .pending hpoll hemits⟩
    · cases (Prod.mk.inj hp).1
    · cases (Prod.mk.inj hp).1
  | @item e st st' x items ended hp _ ih =>
    cases hw : st.waiting <;> cases hstop : stop e <;>
      simp only [PollStream.takeUntil, hw, hstop] at hp <;> try cases (Prod.mk.inj hp).1
    rcases hpoll : S.poll e st.stream with ⟨_ | _ | x, s⟩ <;> simp only [hpoll] at hp
    · cases (Prod.mk.inj hp).1
    · cases (Prod.mk.inj hp).1
    · obtain ⟨hx, rfl⟩ := Prod.mk.inj hp
      cases hx
      obtain ⟨ended, hemits⟩ := ih
      exact ⟨ended, .item hpoll hemits⟩
  | @done e st st' hp => exact ⟨false, .stop st.stream⟩

theorem Emits.endWith_finished {last : ε → σ → α} {st : Option σ} {items : List α} {ended : Bool}
    (h : (endWith S last).Emits st items ended) (hst : st = none) : items = [] := by
  subst hst
  cases h with
  | stop => rfl
  | pending hp => cases hp
  | item hp => cases hp
  | done => rfl

/-- Either the stream is still open, or the last item follows its trace and nothing follows that. -/
theorem Emits.endWith {last : ε → σ → α} {st : Option σ} {items : List α} {ended : Bool} {s : σ}
    (h : (endWith S last).Emits st items ended) (hst : st = some s) :
    (S.Emits s items false ∧ ended = false) ∨
      ∃ body e s', items = body ++ [last e s'] ∧ S.Emits s body true := by
  induction h generalizing s with
  | stop st => exact .inl ⟨.stop s, rfl⟩
  | @pending e st st' items ended hp _ ih =>
    subst hst
    rcases hpoll : S.poll e s with ⟨_ | _ | x, s'⟩ <;>
      simp only [PollStream.endWith, hpoll] at hp
    · obtain ⟨-, rfl⟩ := Prod.mk.inj hp
      rcases ih rfl with ⟨hemits, hended⟩ | ⟨body, e', s'', hitems, hemits⟩
      · exact .inl ⟨.pending hpoll hemits, hended⟩
      · exact .inr ⟨body, e', s'', hitems, .pending hpoll hemits⟩
    · cases (Prod.mk.inj hp).1
    · cases (Prod.mk.inj hp).1
  | @item e st st' x items ended hp hrest ih =>
    subst hst
    rcases hpoll : S.poll e s with ⟨_ | _ | y, s'⟩ <;>
      simp only [PollStream.endWith, hpoll] at hp
    · cases (Prod.mk.inj hp).1
    · obtain ⟨hx, rfl⟩ := Prod.mk.inj hp
      cases hx
      rw [hrest.endWith_finished rfl]
      exact .inr ⟨[], e, s', rfl, .done hpoll⟩
    · obtain ⟨hx, rfl⟩ := Prod.mk.inj hp
      cases hx
      rcases ih rfl with ⟨hemits, hended⟩ | ⟨body, e', s'', hitems, hemits⟩
      · exact .inl ⟨.item hpoll hemits, hended⟩
      · exact .inr ⟨x :: body, e', s'', by rw [hitems, List.cons_append], .item hpoll hemits⟩
  | @done e st st' hp =>
    subst hst
    rcases hpoll : S.poll e s with ⟨_ | _ | y, s'⟩ <;>
      simp only [PollStream.endWith, hpoll] at hp <;> cases (Prod.mk.inj hp).1

end Stopping

/-! ## 3. Traces to the end -/

section Ended

variable {S : PollStream σ ε α}

/-- Such a stream ends with its source, unless its last item satisfies `p`. -/
theorem Emits.stopAfter_ended {p : α → Bool} {st : σ × Bool} {items : List α} {ended : Bool}
    (h : (PollStream.stopAfter p S).Emits st items ended) (hst : st.2 = false)
    (hended : ended = true) :
    S.Emits st.1 items true ∨
      ∃ body x, items = body ++ [x] ∧ p x = true ∧ S.Emits st.1 items false := by
  induction h with
  | stop st => cases hended
  | @pending e st st' items ended hp _ ih =>
    rcases hpoll : S.poll e st.1 with ⟨_ | _ | x, s⟩ <;>
      simp only [PollStream.stopAfter, hst, hpoll, Bool.false_eq_true, if_false] at hp
    · obtain ⟨-, rfl⟩ := Prod.mk.inj hp
      rcases ih rfl hended with hall | ⟨body, x, hitems, hx, hopen⟩
      · exact Or.inl (.pending hpoll hall)
      · exact Or.inr ⟨body, x, hitems, hx, .pending hpoll hopen⟩
    · cases (Prod.mk.inj hp).1
    · cases (Prod.mk.inj hp).1
  | @item e st st' x items ended hp hrest ih =>
    rcases hpoll : S.poll e st.1 with ⟨_ | _ | y, s⟩ <;>
      simp only [PollStream.stopAfter, hst, hpoll, Bool.false_eq_true, if_false] at hp
    · cases (Prod.mk.inj hp).1
    · cases (Prod.mk.inj hp).1
    · obtain ⟨hxy, rfl⟩ := Prod.mk.inj hp
      cases hxy
      cases hx : p x with
      | true =>
        -- this item stops the stream, so it is the last
        rw [hrest.stopAfter_stopped hx]
        exact Or.inr ⟨[], x, rfl, hx, .item hpoll (.stop s)⟩
      | false =>
        rcases ih hx hended with hall | ⟨body, last, rfl, hlast, hopen⟩
        · exact Or.inl (.item hpoll hall)
        · exact Or.inr ⟨x :: body, last, rfl, hlast, .item hpoll hopen⟩
  | @done e st st' hp =>
    rcases hpoll : S.poll e st.1 with ⟨_ | _ | y, s⟩ <;>
      simp only [PollStream.stopAfter, hst, hpoll, Bool.false_eq_true, if_false] at hp
    · cases (Prod.mk.inj hp).1
    · exact Or.inl (.done hpoll)
    · cases (Prod.mk.inj hp).1

/-- Without a stop signal the stream ends with its source. -/
theorem Emits.takeUntil_ended {stop : ε → Option ρ} {st : TakeUntilState σ ρ} {items : List α}
    {ended : Bool} (h : (PollStream.takeUntil S stop).Emits st items ended)
    (hquiet : ∀ e, stop e = none) (hst : st.waiting = true) :
    S.Emits st.stream items ended := by
  induction h with
  | stop st => exact .stop st.stream
  | @pending e st st' items ended hp _ ih =>
    rcases hpoll : S.poll e st.stream with ⟨_ | _ | x, s⟩ <;>
      simp only [PollStream.takeUntil, hst, hquiet e, hpoll] at hp
    · obtain ⟨-, rfl⟩ := Prod.mk.inj hp
      exact .pending hpoll (ih rfl)
    · cases (Prod.mk.inj hp).1
    · cases (Prod.mk.inj hp).1
  | @item e st st' x items ended hp _ ih =>
    rcases hpoll : S.poll e st.stream with ⟨_ | _ | y, s⟩ <;>
      simp only [PollStream.takeUntil, hst, hquiet e, hpoll] at hp
    · cases (Prod.mk.inj hp).1
    · cases (Prod.mk.inj hp).1
    · obtain ⟨hxy, rfl⟩ := Prod.mk.inj hp
      cases hxy
      exact .item hpoll (ih rfl)
  | @done e st st' hp =>
    rcases hpoll : S.poll e st.stream with ⟨_ | _ | y, s⟩ <;>
      simp only [PollStream.takeUntil, hst, hquiet e, hpoll] at hp
    · cases (Prod.mk.inj hp).1
    · exact .done hpoll
    · cases (Prod.mk.inj hp).1

theorem takeUntil_result {stop : ε → Option ρ} (hquiet : ∀ e, stop e = none) (e : ε)
    (st : TakeUntilState σ ρ) (h : st.result = none) :
    ((PollStream.takeUntil S stop).poll e st).2.result = none := by
  obtain ⟨s, waiting, result⟩ := st
  cases waiting with
  | false => exact h
  | true =>
    rcases hpoll : S.poll e s with ⟨_ | _ | x, s'⟩ <;>
      simp only [PollStream.takeUntil, hquiet e, hpoll] <;> exact h

/-- What every poll of the source preserves is true of the state from which the last item is made. -/
theorem Emits.endWith_invariant {last : ε → σ → α} (inv : σ → Prop)
    (hinv : ∀ e s, inv s → inv (S.poll e s).2) {st : Option σ} {items : List α} {ended : Bool}
    {s : σ} (h : (PollStream.endWith S last).Emits st items ended) (hst : st = some s)
    (hs : inv s) :
    S.Emits s items false ∨
      ∃ body e s', items = body ++ [last e s'] ∧ inv s' ∧ S.Emits s body true := by
  induction h generalizing s with
  | stop st => exact Or.inl (.stop s)
  | @pending e st st' items ended hp _ ih =>
    subst hst
    have hnext := hinv e s hs
    rcases hpoll : S.poll e s with ⟨_ | _ | x, s'⟩ <;>
      simp only [PollStream.endWith, hpoll] at hp hnext
    · obtain ⟨-, rfl⟩ := Prod.mk.inj hp
      rcases ih rfl hnext with hemits | ⟨body, e', s'', hitems, hlast, hemits⟩
      · exact Or.inl (.pending hpoll hemits)
      · exact Or.inr ⟨body, e', s'', hitems, hlast, .pending hpoll hemits⟩
    · cases (Prod.mk.inj hp).1
    · cases (Prod.mk.inj hp).1
  | @item e st st' x items ended hp hrest ih =>
    subst hst
    have hnext := hinv e s hs
    rcases hpoll : S.poll e s with ⟨_ | _ | y, s'⟩ <;>
      simp only [PollStream.endWith, hpoll] at hp hnext
    · cases (Prod.mk.inj hp).1
    · obtain ⟨hx, rfl⟩ := Prod.mk.inj hp
      cases hx
      -- the last item was yielded, and nothing comes after it
      rw [hrest.endWith_finished rfl]
      exact Or.inr ⟨[], e, s', rfl, hnext, .done hpoll⟩
    · obtain ⟨hx, rfl⟩ := Prod.mk.inj hp
      cases hx
      rcases ih rfl hnext with hemits | ⟨body, e', s'', hitems, hlast, hemits⟩
      · exact Or.inl (.item hpoll hemits)
      · exact Or.inr ⟨x :: body, e', s'', by rw [hitems, List.cons_append], hlast,
          .item hpoll hemits⟩
  | @done e st st' hp =>
    subst hst
    rcases hpoll : S.poll e s with ⟨_ | _ | y, s'⟩ <;>
      simp only [PollStream.endWith, hpoll] at hp <;> cases (Prod.mk.inj hp).1

end Ended

/-! ## 4. Open runs -/

section Open

variable {S : PollStream σ ε α}

theorem stopAfter_poll {p : α → Bool} {e : ε} {s s' : σ} {r : Poll α} (h : S.poll e s = (r, s')) :
    (stopAfter p S).poll e (s, false) = (r, (s', r.items.any p)) := by
  rcases r with _ | _ | x <;> simp [stopAfter, h, Poll.items]

/-- A stream is past its last item exactly if that item satisfies `p`. -/
theorem stopAfter_stopped {p : α → Bool} {polls : List ε} {st st' : σ × Bool} {items : List α}
    (h : (stopAfter p S).run polls st = (items, some st')) :
    st'.2 = (items.getLast?.map p).getD st.2 := by
  induction polls generalizing st items with
  | nil =>
    cases h
    rfl
  | cons e polls ih =>
    obtain ⟨s, start⟩ := st
    cases start with
    | true => cases h
    | false =>
      rcases hpoll : S.poll e s with ⟨_ | _ | x, s₁⟩
      · rw [run_cons_pending _ polls (stopAfter_poll hpoll)] at h
        have hrest := ih h
        exact hrest
      · rw [run_cons_done _ polls (stopAfter_poll hpoll)] at h
        cases h
      · rw [run_cons_item _ polls (stopAfter_poll hpoll)] at h
        obtain ⟨rfl, hopen⟩ := Prod.mk.inj h
        rw [ih (Prod.ext rfl hopen), List.getLast?_cons]
        cases ((stopAfter p S).run polls (s₁, (Poll.ready (some x)).items.any p)).1.getLast? <;>
          simp [Poll.items]

def TakeUntilState.waitingFor (ρ : Type) (s : σ) : TakeUntilState σ ρ :=
  { stream := s, waiting := true, result := none }

theorem takeUntil_poll_stop {stop : ε → Option ρ} {e : ε} {c : ρ} (h : stop e = some c) (s : σ) :
    (takeUntil S stop).poll e (.waitingFor ρ s) =
      (.ready none, { stream := s, waiting := false, result := some c }) := by
  simp [takeUntil, TakeUntilState.waitingFor, h]

theorem takeUntil_poll {stop : ε → Option ρ} {e : ε} {s s' : σ} {r : Poll α}
    (hstop : stop e = none) (h : S.poll e s = (r, s')) (hopen : r.goesOn = true) :
    (takeUntil S stop).poll e (.waitingFor ρ s) = (r, .waitingFor ρ s') := by
  rcases r with _ | _ | x
  · simp [takeUntil, TakeUntilState.waitingFor, hstop, h]
  · cases hopen
  · simp [takeUntil, TakeUntilState.waitingFor, hstop, h]

theorem takeUntil_poll_end {stop : ε → Option ρ} {e : ε} {s s' : σ}
    (hstop : stop e = none) (h : S.poll e s = (.ready none, s')) :
    (takeUntil S stop).poll e (.waitingFor ρ s) =
      (.ready none, { stream := s', waiting := false, result := none }) := by
  simp [takeUntil, TakeUntilState.waitingFor, hstop, h]

/-- The stream is open as long as nothing has stopped it and the inner stream is open. -/
theorem takeUntil_open_iff {stop : ε → Option ρ} {polls : List ε} {s : σ} {items : List α}
    {st : TakeUntilState σ ρ} :
    (takeUntil S stop).run polls (.waitingFor ρ s) = (items, some st) ↔
      (∀ e ∈ polls, stop e = none) ∧ S.run polls s = (items, some st.stream) ∧
        st = .waitingFor ρ st.stream := by
  induction polls generalizing s items with
  | nil =>
    constructor
    · intro h
      cases h
      exact ⟨fun e he => absurd he List.not_mem_nil, rfl, rfl⟩
    · rintro ⟨-, hrun, hst⟩
      cases hrun
      rw [hst]
      rfl
  | cons e polls ih =>
    cases hstop : stop e with
    | some c =>
      rw [run_cons_done _ polls (takeUntil_poll_stop hstop s)]
      simp [hstop]
    | none =>
      rw [List.forall_mem_cons]
      rcases hpoll : S.poll e s with ⟨_ | _ | x, s₁⟩
      · rw [run_cons_pending _ polls (takeUntil_poll hstop hpoll rfl),
          run_cons_pending _ polls hpoll]
        simpa [hstop] using ih
      · rw [run_cons_done _ polls (takeUntil_poll_end hstop hpoll), run_cons_done _ polls hpoll]
        simp
      · rw [run_cons_item _ polls (takeUntil_poll hstop hpoll rfl), run_cons_item _ polls hpoll]
        constructor
        · intro h
          obtain ⟨rfl, hopen⟩ := Prod.mk.inj h
          obtain ⟨hquiet, hrun, hst⟩ := ih.mp (Prod.ext rfl hopen)
          exact ⟨⟨hstop, hquiet⟩, by rw [hrun], hst⟩
        · rintro ⟨⟨-, hquiet⟩, h, hst⟩
          obtain ⟨rfl, hopen⟩ := Prod.mk.inj h
          rw [ih.mpr ⟨hquiet, Prod.ext rfl hopen, hst⟩]

theorem endWith_poll {last : ε → σ → α} {e : ε} {s s' : σ} {r : Poll α}
    (h : S.poll e s = (r, s')) (hopen : r.goesOn = true) :
    (endWith S last).poll e (some s) = (r, some s') := by
  rcases r with _ | _ | x
  · simp [endWith, h]
  · cases hopen
  · simp [endWith, h]

theorem endWith_poll_last {last : ε → σ → α} {e : ε} {s s' : σ}
    (h : S.poll e s = (.ready none, s')) :
    (endWith S last).poll e (some s) = (.ready (some (last e s')), none) := by
  simp [endWith, h]

/-- A stream that is open before a poll has not ended at that poll: the last item comes first. -/
theorem endWith_run_single_ne_none {last : ε → σ → α} (e : ε) (s : σ) :
    ((endWith S last).run [e] (some s)).2 ≠ none := by
  rcases hpoll : S.poll e s with ⟨_ | _ | x, s'⟩
  · rw [run_cons_pending _ _ (endWith_poll hpoll rfl)]
    nofun
  · rw [run_cons_item _ _ (endWith_poll_last hpoll)]
    nofun
  · rw [run_cons_item _ _ (endWith_poll hpoll rfl)]
    nofun

theorem endWith_run_finished {last : ε → σ → α} (polls : List ε) :
    ((endWith S last).run polls none).1 = [] := by
  cases polls <;> rfl

theorem endWith_open_iff {last : ε → σ → α} {polls : List ε} {s s' : σ} {items : List α} :
    (endWith S last).run polls (some s) = (items, some (some s')) ↔
      S.run polls s = (items, some s') := by
  induction polls generalizing s items with
  | nil => simp only [run_nil, Prod.mk.injEq, Option.some.injEq]
  | cons e polls ih =>
    rcases hpoll : S.poll e s with ⟨_ | _ | x, s₁⟩
    · rw [run_cons_pending _ polls (endWith_poll hpoll rfl),
        run_cons_pending _ polls hpoll]
      exact ih
    · rw [run_cons_item _ polls (endWith_poll_last hpoll), run_cons_done _ polls hpoll]
      constructor
      · intro h
        cases polls <;> cases h
      · intro h
        cases h
    · rw [run_cons_item _ polls (endWith_poll hpoll rfl), run_cons_item _ polls hpoll]
      constructor
      · intro h
        obtain ⟨rfl, hopen⟩ := Prod.mk.inj h
        rw [ih.mp (Prod.ext rfl hopen)]
      · intro h
        obtain ⟨rfl, hopen⟩ := Prod.mk.inj h
        rw [ih.mpr (Prod.ext rfl hopen)]

/-- The item a poll adds, when the stream has ended at every next poll, is the last one. -/
theorem endWith_last_item {last : ε → σ → α} {before : List ε} {e : ε} {s : σ} {x : α}
    (hitem : ((endWith S last).run (before ++ [e]) (some s)).1 =
      ((endWith S last).run before (some s)).1 ++ [x])
    (hlast : ((endWith S last).run (before ++ [e] ++ [e]) (some s)).2 = none) :
    ∃ items s₁ s₂, (endWith S last).run before (some s) = (items, some (some s₁)) ∧
      S.poll e s₁ = (.ready none, s₂) ∧ x = last e s₂ := by
  rcases hbefore : (endWith S last).run before (some s) with ⟨items, _ | _ | s₁⟩
  · rw [hbefore, run_append_of_ended hbefore] at hitem
    simp at hitem
  · rw [hbefore, run_append_of_open hbefore, endWith_run_finished] at hitem
    simp at hitem
  · rw [hbefore, run_append_of_open hbefore] at hitem
    rw [List.append_assoc, run_append_of_open hbefore] at hlast
    rcases hpoll : S.poll e s₁ with ⟨_ | _ | y, s₂⟩
    · rw [run_cons_pending _ [] (endWith_poll hpoll rfl)] at hitem
      simp at hitem
    · rw [run_cons_item _ [] (endWith_poll_last hpoll)] at hitem
      simp only [run_nil, List.append_cancel_left_eq, List.cons.injEq, and_true] at hitem
      exact ⟨items, s₁, s₂, rfl, hpoll, hitem.symm⟩
    · rw [List.singleton_append, run_cons_item _ [e] (endWith_poll hpoll rfl)] at hlast
      exact absurd hlast (endWith_run_single_ne_none e s₂)

end Open

end PollStream
