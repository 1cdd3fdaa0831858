import Mathlib.Data.List.Basic

/-!
# Polled streams

A stream is polled by its consumer and answers with an item, with its end, or not yet. What the
outside world does at a poll is the poll's environment, so a list of environments is a schedule and
a statement about all lists is a statement about all schedules.
-/

/-! ## 1. Streams and their runs -/

inductive Poll (α : Type) where
  | pending
  | ready (item : Option α)
  deriving DecidableEq, Repr

def Poll.items {α : Type} : Poll α → List α
  | .pending => []
  | .ready item => item.toList

/-- The stream goes on after this answer. -/
def Poll.goesOn {α : Type} : Poll α → Bool
  | .ready none => false
  | _ => true

structure PollStream (σ ε α : Type) where
  init : σ
  poll : ε → σ → Poll α × σ

namespace PollStream

variable {σ τ ε α ρ : Type}

/-- Poll until the schedule is over or the stream ends: the items, and the state if it is open. -/
def run (S : PollStream σ ε α) : List ε → σ → List α × Option σ
  | [], s => ([], some s)
  | e :: polls, s =>
    match S.poll e s with
    | (.pending, s') => S.run polls s'
    | (.ready (some x), s') => (x :: (S.run polls s').1, (S.run polls s').2)
    | (.ready none, _) => ([], none)

/-- Some schedule makes the stream emit these items from `s`, and end if `ended`. -/
inductive Emits (S : PollStream σ ε α) : σ → List α → Bool → Prop where
  | stop (s : σ) : Emits S s [] false
  | pending {e : ε} {s s' : σ} {items : List α} {ended : Bool} :
      S.poll e s = (.pending, s') → Emits S s' items ended → Emits S s items ended
  | item {e : ε} {s s' : σ} {x : α} {items : List α} {ended : Bool} :
      S.poll e s = (.ready (some x), s') → Emits S s' items ended →
        Emits S s (x :: items) ended
  | done {e : ε} {s s' : σ} : S.poll e s = (.ready none, s') → Emits S s [] true

section Runs

variable (S : PollStream σ ε α)

@[simp] theorem run_nil (s : σ) : S.run [] s = ([], some s) := rfl

theorem run_cons_pending {e : ε} {s s' : σ} (polls : List ε)
    (h : S.poll e s = (.pending, s')) : S.run (e :: polls) s = S.run polls s' := by
  simp only [run, h]

theorem run_cons_item {e : ε} {s s' : σ} {x : α} (polls : List ε)
    (h : S.poll e s = (.ready (some x), s')) :
    S.run (e :: polls) s = (x :: (S.run polls s').1, (S.run polls s').2) := by
  simp only [run, h]

theorem run_cons_done {e : ε} {s s' : σ} (polls : List ε)
    (h : S.poll e s = (.ready none, s')) : S.run (e :: polls) s = ([], none) := by
  simp only [run, h]

theorem emits_run (polls : List ε) (s : σ) :
    S.Emits s (S.run polls s).1 (S.run polls s).2.isNone := by
  induction polls generalizing s with
  | nil => exact .stop s
  | cons e polls ih =>
    rcases hpoll : S.poll e s with ⟨_ | _ | x, s'⟩
    · rw [run_cons_pending S polls hpoll]
      exact .pending hpoll (ih s')
    · rw [run_cons_done S polls hpoll]
      exact .done hpoll
    · rw [run_cons_item S polls hpoll]
      exact .item hpoll (ih s')

variable {S}

theorem run_append_of_ended {first : List ε} {s : σ} {items : List α}
    (h : S.run first s = (items, none)) (second : List ε) :
    S.run (first ++ second) s = (items, none) := by
  induction first generalizing s items with
  | nil => cases h
  | cons e first ih =>
    rw [List.cons_append]
    rcases hpoll : S.poll e s with ⟨_ | _ | x, s'⟩
    · rw [run_cons_pending S _ hpoll] at h ⊢
      exact ih h
    · rw [run_cons_done S _ hpoll] at h ⊢
      exact h
    · rw [run_cons_item S _ hpoll] at h ⊢
      obtain ⟨rfl, hended⟩ := Prod.mk.inj h
      rw [ih (Prod.ext rfl hended)]

/-- A run over two schedules goes on from the state the first one leaves open. -/
theorem run_append_of_open {first : List ε} {s s' : σ} {items : List α}
    (h : S.run first s = (items, some s')) (second : List ε) :
    S.run (first ++ second) s = (items ++ (S.run second s').1, (S.run second s').2) := by
  induction first generalizing s items with
  | nil =>
    cases h
    rfl
  | cons e first ih =>
    rw [List.cons_append]
    rcases hpoll : S.poll e s with ⟨_ | _ | x, s₁⟩
    · rw [run_cons_pending S _ hpoll] at h ⊢
      exact ih h
    · rw [run_cons_done S _ hpoll] at h
      cases h
    · rw [run_cons_item S _ hpoll] at h ⊢
      obtain ⟨rfl, hopen⟩ := Prod.mk.inj h
      rw [ih (Prod.ext rfl hopen), List.cons_append]

theorem Emits.unfinished {S : PollStream σ ε α} {s : σ} {items : List α} {ended : Bool}
    (h : S.Emits s items ended) : S.Emits s items false := by
  induction h with
  | stop s => exact .stop s
  | pending hp _ ih => exact .pending hp ih
  | item hp _ ih => exact .item hp ih
  | done => exact .stop _

/-- What every poll preserves and promises of its item holds along every run. -/
theorem Emits.forall_mem (inv : σ → Prop) (p : α → Prop)
    (hpoll : ∀ e s r s', inv s → S.poll e s = (r, s') →
      inv s' ∧ ∀ x, r = .ready (some x) → p x)
    {s : σ} {items : List α} {ended : Bool} (h : S.Emits s items ended) (hs : inv s) :
    ∀ x ∈ items, p x := by
  induction h with
  | stop => exact fun x hx => absurd hx List.not_mem_nil
  | pending hp _ ih => exact ih (hpoll _ _ _ _ hs hp).1
  | item hp _ ih =>
    obtain ⟨hs', hx⟩ := hpoll _ _ _ _ hs hp
    intro y hy
    rcases List.mem_cons.mp hy with rfl | hy
    · exact hx _ rfl
    · exact ih hs' y hy
  | done => exact fun x hx => absurd hx List.not_mem_nil

end Runs

/-! ## 2. Items from a list -/

/-- The items of a list, at the polls at which the stream does not yield. -/
def iter (ready : ε → Bool) (items : List α) : PollStream (List α) ε α where
  init := items
  poll e rest :=
    if ready e then
      match rest with
      | [] => (.ready none, [])
      | x :: rest => (.ready (some x), rest)
    else (.pending, rest)

def once (ready : ε → Bool) (item : α) : PollStream (List α) ε α :=
  iter ready [item]

theorem Emits.iter {ready : ε → Bool} {all s items : List α} {ended : Bool}
    (h : (iter ready all).Emits s items ended) :
    ∃ rest, s = items ++ rest ∧ (ended = true → rest = []) := by
  induction h with
  | stop s => exact ⟨s, rfl, nofun⟩
  | @pending e s s' items ended hp _ ih =>
    have hs : s' = s := by
      simp only [PollStream.iter] at hp
      split at hp
      · split at hp <;> cases hp
      · cases hp; rfl
    exact hs ▸ ih
  | @item e s s' x items ended hp _ ih =>
    have hs : s = x :: s' := by
      simp only [PollStream.iter] at hp
      split at hp
      · split at hp <;> cases hp
        rfl
      · cases hp
    obtain ⟨rest, hrest, hended⟩ := ih
    exact ⟨rest, by rw [hs, hrest, List.cons_append], hended⟩
  | @done e s s' hp =>
    have hs : s = [] := by
      simp only [PollStream.iter] at hp
      split at hp
      · split at hp <;> cases hp
        rfl
      · cases hp
    exact ⟨[], hs, fun _ => rfl⟩

theorem Emits.once {ready : ε → Bool} {item : α} {items : List α} {ended : Bool}
    (h : (once ready item).Emits [item] items ended) :
    (items = [] ∧ ended = false) ∨ items = [item] := by
  obtain ⟨rest, hrest, hended⟩ := Emits.iter h
  cases items with
  | nil =>
    cases ended with
    | false => exact .inl ⟨rfl, rfl⟩
    | true =>
      rw [hended rfl] at hrest
      cases hrest
  | cons x items =>
    obtain ⟨rfl, hnil⟩ := List.cons.inj hrest
    obtain ⟨rfl, -⟩ := List.append_eq_nil_iff.mp hnil.symm
    exact .inr rfl

/-! ## 3. Chaining -/

/-- The second stream after the first; the poll that ends the first already polls the second. -/
def chain (A : PollStream σ ε α) (B : PollStream τ ε α) : PollStream (Option σ × τ) ε α where
  init := (some A.init, B.init)
  poll e st :=
    let pollSecond (b : τ) : Poll α × (Option σ × τ) := ((B.poll e b).1, (none, (B.poll e b).2))
    match st with
    | (some a, b) =>
      match A.poll e a with
      | (.ready none, _) => pollSecond b
      | (r, a') => (r, (some a', b))
    | (none, b) => pollSecond b

section Chain

variable {A : PollStream σ ε α} {B : PollStream τ ε α}

theorem Emits.chain_second {st : Option σ × τ} {items : List α} {ended : Bool}
    (h : (chain A B).Emits st items ended) (hst : st.1 = none) : B.Emits st.2 items ended := by
  induction h with
  | stop s => exact .stop _
  | @pending e s s' items ended hp _ ih =>
    obtain ⟨a, b⟩ := s
    cases hst
    obtain ⟨hpoll, rfl⟩ := Prod.mk.inj hp
    exact .pending (Prod.ext hpoll rfl) (ih rfl)
  | @item e s s' x items ended hp _ ih =>
    obtain ⟨a, b⟩ := s
    cases hst
    obtain ⟨hpoll, rfl⟩ := Prod.mk.inj hp
    exact .item (Prod.ext hpoll rfl) (ih rfl)
  | @done e s s' hp =>
    obtain ⟨a, b⟩ := s
    cases hst
    have hb : B.poll e b = (.ready none, (B.poll e b).2) := Prod.ext (Prod.mk.inj hp).1 rfl
    exact .done hb

/-- Either the first stream is still open, or its whole trace comes before the second one's. -/
theorem Emits.chain {st : Option σ × τ} {items : List α} {ended : Bool} {a : σ}
    (h : (chain A B).Emits st items ended) (hst : st.1 = some a) :
    (A.Emits a items false ∧ ended = false) ∨
      ∃ first second, items = first ++ second ∧ A.Emits a first true ∧
        B.Emits st.2 second ended := by
  induction h generalizing a with
  | stop s => exact .inl ⟨.stop a, rfl⟩
  | @pending e s s' items ended hp hrest ih =>
    obtain ⟨a₀, b⟩ := s
    cases hst
    rcases hpoll : A.poll e a with ⟨_ | _ | x, a'⟩ <;>
      simp only [PollStream.chain, hpoll, Prod.mk.injEq] at hp
    · obtain ⟨-, rfl⟩ := hp
      rcases ih rfl with ⟨hopen, hended⟩ | ⟨first, second, hitems, hfirst, hsecond⟩
      · exact .inl ⟨.pending hpoll hopen, hended⟩
      · exact .inr ⟨first, second, hitems, .pending hpoll hfirst, hsecond⟩
    -- the first stream ends at this poll, and the second is polled at once
    · obtain ⟨hb, rfl⟩ := hp
      exact .inr ⟨[], items, rfl, .done hpoll,
        .pending (Prod.ext hb rfl) (hrest.chain_second rfl)⟩
    · cases hp.1
  | @item e s s' x items ended hp hrest ih =>
    obtain ⟨a₀, b⟩ := s
    cases hst
    rcases hpoll : A.poll e a with ⟨_ | _ | y, a'⟩ <;>
      simp only [PollStream.chain, hpoll, Prod.mk.injEq] at hp
    · cases hp.1
    · obtain ⟨hb, rfl⟩ := hp
      exact .inr ⟨[], x :: items, rfl, .done hpoll,
        .item (Prod.ext hb rfl) (hrest.chain_second rfl)⟩
    · obtain ⟨hxy, rfl⟩ := hp
      cases hxy
      rcases ih rfl with ⟨hopen, hended⟩ | ⟨first, second, hitems, hfirst, hsecond⟩
      · exact .inl ⟨.item hpoll hopen, hended⟩
      · exact .inr ⟨x :: first, second, by rw [hitems, List.cons_append],
          .item hpoll hfirst, hsecond⟩
  | @done e s s' hp =>
    obtain ⟨a₀, b⟩ := s
    cases hst
    rcases hpoll : A.poll e a with ⟨_ | _ | y, a'⟩ <;>
      simp only [PollStream.chain, hpoll, Prod.mk.injEq] at hp
    · cases hp.1
    · have hb : B.poll e b = (.ready none, (B.poll e b).2) := Prod.ext hp.1 rfl
      exact .inr ⟨[], [], rfl, .done hpoll, .done hb⟩
    · cases hp.1

/-- A stream that starts with one item: nothing yet, or that item and then the second stream. -/
theorem Emits.once_chain {ready : ε → Bool} {item : α} {items : List α} {ended : Bool}
    (h : (PollStream.chain (PollStream.once ready item) B).Emits (some [item], B.init) items ended) :
    (items = [] ∧ ended = false) ∨
      ∃ rest, items = item :: rest ∧ B.Emits B.init rest ended := by
  rcases h.chain rfl with ⟨hopen, rfl⟩ | ⟨first, second, rfl, hfirst, hsecond⟩
  · rcases hopen.once with ⟨rfl, -⟩ | rfl
    · exact .inl ⟨rfl, rfl⟩
    · exact .inr ⟨[], rfl, .stop _⟩
  · rcases hfirst.once with ⟨-, hended⟩ | rfl
    · cases hended
    · exact .inr ⟨second, rfl, hsecond⟩

end Chain

/-! ## 4. Merging -/

/-- A poll of a stream that is not polled again once it has ended. -/
def pollFused (S : PollStream σ ε α) (e : ε) : Option σ → Poll α × Option σ
  | some s =>
    match S.poll e s with
    | (.ready none, _) => (.ready none, none)
    | (r, s') => (r, some s')
  | none => (.ready none, none)

/-- The second stream is polled only if the first has no item; both must have ended to end. -/
def pollInTurn (first : Poll α × σ) (second : Poll α × τ) (unpolled : τ) : Poll α × σ × τ :=
  match first.1, second.1 with
  | .ready (some x), _ => (.ready (some x), first.2, unpolled)
  | .ready none, r => (r, first.2, second.2)
  | .pending, .ready (some x) => (.ready (some x), first.2, second.2)
  | .pending, _ => (.pending, first.2, second.2)

structure MergeState (σ τ : Type) where
  a : Option σ
  b : Option τ
  aFirst : Bool

/-- Items of both streams as they come; the two take turns in being polled first. -/
def merge (A : PollStream σ ε α) (B : PollStream τ ε α) : PollStream (MergeState σ τ) ε α where
  init := { a := some A.init, b := some B.init, aFirst := true }
  poll e st :=
    if st.aFirst then
      let out := pollInTurn (pollFused A e st.a) (pollFused B e st.b) st.b
      (out.1, { a := out.2.1, b := out.2.2, aFirst := false })
    else
      let out := pollInTurn (pollFused B e st.b) (pollFused A e st.a) st.a
      (out.1, { a := out.2.2, b := out.2.1, aFirst := true })

/-- `Interleave xs ys zs`: `zs` consists of `xs` and `ys`, each in its own order. -/
inductive Interleave : List α → List α → List α → Prop where
  | nil : Interleave [] [] []
  | left {x : α} {xs ys zs : List α} :
      Interleave xs ys zs → Interleave (x :: xs) ys (x :: zs)
  | right {y : α} {xs ys zs : List α} :
      Interleave xs ys zs → Interleave xs (y :: ys) (y :: zs)

section Interleaving

variable {xs ys zs : List α}

theorem Interleave.refl_left (items : List α) : Interleave items [] items := by
  induction items with
  | nil => exact .nil
  | cons x items ih => exact .left ih

theorem Interleave.append_left (h : Interleave xs ys zs) (items : List α) :
    Interleave (items ++ xs) ys (items ++ zs) := by
  induction items with
  | nil => exact h
  | cons x items ih => exact .left ih

theorem Interleave.append_right (h : Interleave xs ys zs) (items : List α) :
    Interleave xs (items ++ ys) (items ++ zs) := by
  induction items with
  | nil => exact h
  | cons x items ih => exact .right ih

theorem Interleave.mem (h : Interleave xs ys zs) {z : α} (hz : z ∈ zs) : z ∈ xs ∨ z ∈ ys := by
  induction h with
  | nil => exact .inl hz
  | left _ ih =>
    rcases List.mem_cons.mp hz with rfl | hz
    · exact .inl List.mem_cons_self
    · exact (ih hz).imp (List.mem_cons_of_mem _) id
  | right _ ih =>
    rcases List.mem_cons.mp hz with rfl | hz
    · exact .inr List.mem_cons_self
    · exact (ih hz).imp id (List.mem_cons_of_mem _)

theorem Interleave.pairwise {r : α → α → Prop} (h : Interleave xs ys zs) (hxs : xs.Pairwise r)
    (hys : ys.Pairwise r) (hcross : ∀ x ∈ xs, ∀ y ∈ ys, r x y ∧ r y x) : zs.Pairwise r := by
  induction h with
  | nil => exact List.Pairwise.nil
  | left hrest ih =>
    obtain ⟨hx, hxs⟩ := List.pairwise_cons.mp hxs
    refine List.pairwise_cons.mpr ⟨?_, ih hxs hys fun x hx => hcross x (List.mem_cons_of_mem _ hx)⟩
    intro z hz
    rcases hrest.mem hz with hz | hz
    · exact hx z hz
    · exact (hcross _ List.mem_cons_self z hz).1
  | right hrest ih =>
    obtain ⟨hy, hys⟩ := List.pairwise_cons.mp hys
    refine List.pairwise_cons.mpr
      ⟨?_, ih hxs hys fun x hx y hy => hcross x hx y (List.mem_cons_of_mem _ hy)⟩
    intro z hz
    rcases hrest.mem hz with hz | hz
    · exact (hcross z hz _ List.mem_cons_self).2
    · exact hy z hz

/-- What stands before an item in its own list stands before it in the interleaving. -/
theorem Interleave.split {before after : List α} {z : α}
    (h : Interleave xs ys (before ++ z :: after)) :
    (∃ b a, xs = b ++ z :: a ∧ b ⊆ before) ∨ ∃ b a, ys = b ++ z :: a ∧ b ⊆ before := by
  induction before generalizing xs ys with
  | nil =>
    cases h with
    | left => exact .inl ⟨[], _, rfl, List.nil_subset _⟩
    | right => exact .inr ⟨[], _, rfl, List.nil_subset _⟩
  | cons w before ih =>
    cases h with
    | left h =>
      rcases ih h with ⟨b, a, rfl, hb⟩ | ⟨b, a, rfl, hb⟩
      · exact .inl ⟨w :: b, a, rfl, List.cons_subset_cons w hb⟩
      · exact .inr ⟨b, a, rfl, fun x hx => List.mem_cons_of_mem _ (hb hx)⟩
    | right h =>
      rcases ih h with ⟨b, a, rfl, hb⟩ | ⟨b, a, rfl, hb⟩
      · exact .inl ⟨b, a, rfl, fun x hx => List.mem_cons_of_mem _ (hb hx)⟩
      · exact .inr ⟨w :: b, a, rfl, List.cons_subset_cons w hb⟩

end Interleaving

/-! ## 5. Order in a trace -/

/-- Every item that satisfies `p` has one before it that satisfies `q`. -/
def Preceded (p q : α → Prop) (items : List α) : Prop :=
  ∀ before x after, items = before ++ x :: after → p x → ∃ y ∈ before, q y

section Order

variable {p q : α → Prop}

theorem Preceded.of_forall {items : List α} (h : ∀ x ∈ items, ¬p x) : Preceded p q items := by
  rintro before x after rfl hx
  exact absurd hx (h x (List.mem_append_right _ List.mem_cons_self))

theorem Preceded.append_left {items : List α} (h : Preceded p q items) (first : List α)
    (hfirst : ∀ x ∈ first, ¬p x) : Preceded p q (first ++ items) := by
  intro before x after heq hx
  rcases List.append_eq_append_iff.mp heq with ⟨rest, rfl, hitems⟩ | ⟨rest, rfl, hrest⟩
  · obtain ⟨y, hy, hq⟩ := h rest x after hitems hx
    exact ⟨y, List.mem_append_right _ hy, hq⟩
  · cases rest with
    | nil =>
      obtain ⟨y, hy, -⟩ := h [] x after (by simpa using hrest.symm) hx
      exact absurd hy List.not_mem_nil
    | cons z rest =>
      obtain ⟨rfl, -⟩ := List.cons.inj hrest
      exact absurd hx (hfirst x (List.mem_append_right _ List.mem_cons_self))

theorem Preceded.cons_of {items : List α} {first : α} (hq : q first) (hp : ¬p first) :
    Preceded p q (first :: items) := by
  intro before x after heq hx
  cases before with
  | nil =>
    obtain ⟨rfl, -⟩ := List.cons.inj heq
    exact absurd hx hp
  | cons z before =>
    obtain ⟨rfl, -⟩ := List.cons.inj heq
    exact ⟨first, List.mem_cons_self, hq⟩

theorem Preceded.append_right {items : List α} (h : Preceded p q items) (last : List α)
    (hlast : ∀ x ∈ last, ¬p x) : Preceded p q (items ++ last) := by
  intro before x after heq hx
  rcases List.append_eq_append_iff.mp heq with ⟨rest, rfl, hrest⟩ | ⟨rest, rfl, hrest⟩
  · rw [hrest] at hlast
    exact absurd hx (hlast x (List.mem_append_right _ List.mem_cons_self))
  · cases rest with
    | nil =>
      rw [List.nil_append] at hrest
      exact absurd hx (hlast x (hrest ▸ List.mem_cons_self))
    | cons z rest =>
      obtain ⟨rfl, -⟩ := List.cons.inj hrest
      exact h before x rest rfl hx

theorem Preceded.interleave {xs ys zs : List α} (h : Preceded p q xs) (hys : ∀ y ∈ ys, ¬p y)
    (hzs : Interleave xs ys zs) : Preceded p q zs := by
  rintro before x after rfl hx
  rcases hzs.split with ⟨b, a, rfl, hb⟩ | ⟨b, a, rfl, -⟩
  · obtain ⟨y, hy, hq⟩ := h b x a rfl hx
    exact ⟨y, hb hy, hq⟩
  · exact absurd hx (hys x (List.mem_append_right _ List.mem_cons_self))

theorem pairwise_after {r : α → α → Prop} {items before after : List α} {x : α}
    (h : items.Pairwise r) (heq : items = before ++ x :: after) : ∀ y ∈ after, r x y := by
  rw [heq] at h
  exact (List.pairwise_cons.mp (List.pairwise_append.mp h).2.1).1

end Order

/-! ## 6. Traces of a merge -/

section Merge

variable {A : PollStream σ ε α} {B : PollStream τ ε α}

/-- The traces of a fused stream. -/
def FusedEmits (S : PollStream σ ε α) : Option σ → List α → Prop
  | some s, items => ∃ ended, S.Emits s items ended
  | none, items => items = []

theorem FusedEmits.nil (S : PollStream σ ε α) (s : Option σ) : FusedEmits S s [] := by
  cases s with
  | none => rfl
  | some s => exact ⟨false, .stop s⟩

theorem FusedEmits.poll {S : PollStream σ ε α} {e : ε} {s : Option σ} {items : List α}
    (h : FusedEmits S (pollFused S e s).2 items) :
    FusedEmits S s ((pollFused S e s).1.items ++ items) := by
  cases s with
  | none => exact h
  | some s =>
    rcases hpoll : S.poll e s with ⟨_ | _ | x, s'⟩ <;> simp only [pollFused, hpoll] at h ⊢
    · obtain ⟨ended, h⟩ := h
      exact ⟨ended, .pending hpoll h⟩
    · cases h
      exact ⟨true, .done hpoll⟩
    · obtain ⟨ended, h⟩ := h
      exact ⟨ended, .item hpoll h⟩

theorem pollInTurn_cases (first : Poll α × σ) (second : Poll α × τ) (unpolled : τ) :
    (pollInTurn first second unpolled).2.1 = first.2 ∧
      (((pollInTurn first second unpolled).1.items = first.1.items ∧
          (pollInTurn first second unpolled).2.2 = unpolled) ∨
        (first.1.items = [] ∧ (pollInTurn first second unpolled).1.items = second.1.items ∧
          (pollInTurn first second unpolled).2.2 = second.2)) := by
  rcases first with ⟨_ | _ | x, s⟩ <;> rcases second with ⟨_ | _ | y, t⟩ <;>
    simp [pollInTurn, Poll.items]

/-- One poll of the merge adds its item, if any, to the trace of one of the two streams. -/
theorem merge_poll {e : ε} {st : MergeState σ τ} {xs ys zs : List α}
    (hxs : FusedEmits A ((merge A B).poll e st).2.a xs)
    (hys : FusedEmits B ((merge A B).poll e st).2.b ys) (hzs : Interleave xs ys zs) :
    ∃ xs' ys', FusedEmits A st.a xs' ∧ FusedEmits B st.b ys' ∧
      Interleave xs' ys' (((merge A B).poll e st).1.items ++ zs) := by
  obtain ⟨a, b, aFirst⟩ := st
  cases aFirst with
  | true =>
    obtain ⟨ha, hcases⟩ := pollInTurn_cases (pollFused A e a) (pollFused B e b) b
    simp only [merge, if_true, ha] at hxs hys ⊢
    rcases hcases with ⟨hitems, hb⟩ | ⟨hnone, hitems, hb⟩
    · rw [hb] at hys
      exact ⟨_, ys, hxs.poll, hys, hitems ▸ hzs.append_left _⟩
    · rw [hb] at hys
      have hxs := hxs.poll
      rw [hnone] at hxs
      exact ⟨xs, _, hxs, hys.poll, hitems ▸ hzs.append_right _⟩
  | false =>
    obtain ⟨hb, hcases⟩ := pollInTurn_cases (pollFused B e b) (pollFused A e a) a
    simp only [merge, Bool.false_eq_true, if_false, hb] at hxs hys ⊢
    rcases hcases with ⟨hitems, ha⟩ | ⟨hnone, hitems, ha⟩
    · rw [ha] at hxs
      exact ⟨xs, _, hxs, hys.poll, hitems ▸ hzs.append_right _⟩
    · rw [ha] at hxs
      have hys := hys.poll
      rw [hnone] at hys
      exact ⟨_, ys, hxs.poll, hys, hitems ▸ hzs.append_left _⟩

/-- A merge interleaves a trace of the one stream with a trace of the other. -/
theorem Emits.merge {st : MergeState σ τ} {items : List α} {ended : Bool}
    (h : (merge A B).Emits st items ended) :
    ∃ xs ys, FusedEmits A st.a xs ∧ FusedEmits B st.b ys ∧ Interleave xs ys items := by
  induction h with
  | stop st => exact ⟨[], [], .nil A st.a, .nil B st.b, .nil⟩
  | pending hp _ ih =>
    obtain ⟨xs, ys, hxs, hys, hzs⟩ := ih
    have hpoll := merge_poll (by rw [hp]; exact hxs) (by rw [hp]; exact hys) hzs
    rwa [hp] at hpoll
  | item hp _ ih =>
    obtain ⟨xs, ys, hxs, hys, hzs⟩ := ih
    have hpoll := merge_poll (by rw [hp]; exact hxs) (by rw [hp]; exact hys) hzs
    rwa [hp] at hpoll
  | @done e st st' hp => exact ⟨[], [], .nil A st.a, .nil B st.b, .nil⟩

end Merge

end PollStream
