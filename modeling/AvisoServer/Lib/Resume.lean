import Mathlib.Data.List.Basic
import Mathlib.Data.List.Pairwise
import Mathlib.Data.List.Nodup

/-!
# Feeds that resume after the last processed item

A consumer remembers the key of the last item it has processed and asks for the items from the
next key on. If every session alone delivers in order and leaves no gap below what it delivered,
the sessions together do too, and no item is processed twice.
-/

namespace Resume

variable {α : Type} (key : α → Nat)

/-! ## 1. Feeds -/

/-- What a session that starts at the key `first` has delivered: allowed items from there on in
key order, and every item that was due up to the last one delivered. -/
structure Feed (allowed due : α → Prop) (first : Nat) (out : List α) : Prop where
  increasing : out.Pairwise fun x y => key x < key y
  sound : ∀ x ∈ out, allowed x ∧ first ≤ key x
  gapless : ∀ x, due x → first ≤ key x → (∃ y ∈ out, key x ≤ key y) → x ∈ out

/-- Where the consumer resumes: after the last item, or where it was if there is none. -/
def checkpoint (first : Nat) (out : List α) : Nat :=
  (out.getLast?).elim first fun x => key x + 1

variable {key} {allowed due : α → Prop} {first : Nat} {out : List α}

theorem feed_nil (first : Nat) : Feed key allowed due first [] where
  increasing := List.Pairwise.nil
  sound := by
    intro x hx
    cases hx
  gapless := by
    intro x _ _ h
    obtain ⟨y, hy, -⟩ := h
    cases hy

theorem Feed.lt_checkpoint (h : Feed key allowed due first out) {x : α} (hx : x ∈ out) :
    key x < checkpoint key first out := by
  obtain ⟨front, last, rfl⟩ := List.eq_nil_or_concat' out |>.resolve_left (List.ne_nil_of_mem hx)
  have hlast : checkpoint key first (front ++ [last]) = key last + 1 := by
    rw [checkpoint, List.getLast?_concat]
    rfl
  rw [hlast]
  rcases List.mem_append.mp hx with hx | hx
  · have := (List.pairwise_append.mp h.increasing).2.2 x hx last (List.mem_singleton_self _)
    omega
  · rw [List.mem_singleton.mp hx]
    exact Nat.lt_succ_self _

theorem Feed.first_le_checkpoint (h : Feed key allowed due first out) :
    first ≤ checkpoint key first out := by
  cases out with
  | nil => exact Nat.le_refl _
  | cons x xs =>
    have hx : x ∈ x :: xs := List.mem_cons_self
    exact Nat.le_trans (h.sound x hx).2 (Nat.le_of_lt (h.lt_checkpoint hx))

/-- A key below the checkpoint, and not below the start, is not above the last item. -/
theorem exists_of_lt_checkpoint {n : Nat} (hfirst : first ≤ n)
    (h : n < checkpoint key first out) : ∃ y ∈ out, n ≤ key y := by
  rw [checkpoint] at h
  cases hlast : out.getLast? with
  | none =>
    rw [hlast, Option.elim_none] at h
    omega
  | some y =>
    rw [hlast, Option.elim_some] at h
    exact ⟨y, List.mem_of_getLast? hlast, by omega⟩

/-- A prefix of an increasing list holds everything up to each of its items. -/
theorem mem_of_initial {xs ys : List α} (hys : ys.Pairwise fun x y => key x < key y)
    (hinitial : xs <+: ys) {x y : α} (hx : x ∈ ys) (hy : y ∈ xs) (hxy : key x ≤ key y) :
    x ∈ xs := by
  obtain ⟨rest, rfl⟩ := hinitial
  rcases List.mem_append.mp hx with hx | hx
  · exact hx
  · -- what comes later has a greater key
    have := (List.pairwise_append.mp hys).2.2 y hy x hx
    omega

/-- The consumer may stop anywhere in a session. -/
theorem Feed.of_initial (h : Feed key allowed due first out) {part : List α}
    (hinitial : part <+: out) : Feed key allowed due first part where
  increasing := h.increasing.sublist hinitial.sublist
  sound := fun x hx => h.sound x (hinitial.subset hx)
  gapless := by
    intro x hdue hx hbelow
    obtain ⟨y, hy, hxy⟩ := hbelow
    have hmem := h.gapless x hdue hx ⟨y, hinitial.subset hy, hxy⟩
    exact mem_of_initial h.increasing hinitial hmem hy hxy

theorem Feed.mono {allowed' due' : α → Prop} (h : Feed key allowed due first out)
    (hallowed : ∀ x, allowed x → allowed' x) (hdue : ∀ x, due' x → due x) :
    Feed key allowed' due' first out where
  increasing := h.increasing
  sound := fun x hx => ⟨hallowed x (h.sound x hx).1, (h.sound x hx).2⟩
  gapless := fun x hx => h.gapless x (hdue x hx)

/-- A session that resumes at the checkpoint of another continues it. -/
theorem Feed.append {xs ys : List α} (hx : Feed key allowed due first xs)
    (hy : Feed key allowed due (checkpoint key first xs) ys) :
    Feed key allowed due first (xs ++ ys) where
  increasing := by
    refine List.pairwise_append.mpr ⟨hx.increasing, hy.increasing, fun x hmem y hmem' => ?_⟩
    exact Nat.lt_of_lt_of_le (hx.lt_checkpoint hmem) (hy.sound y hmem').2
  sound := by
    intro x hmem
    rcases List.mem_append.mp hmem with hmem | hmem
    · exact hx.sound x hmem
    · exact ⟨(hy.sound x hmem).1, Nat.le_trans hx.first_le_checkpoint (hy.sound x hmem).2⟩
  gapless := by
    intro x hdue hfirst hbelow
    by_cases hpast : key x < checkpoint key first xs
    · exact List.mem_append_left _ (hx.gapless x hdue hfirst (exists_of_lt_checkpoint hfirst hpast))
    · obtain ⟨y, hmem, hxy⟩ := hbelow
      rcases List.mem_append.mp hmem with hmem | hmem
      · have := hx.lt_checkpoint hmem
        omega
      · exact List.mem_append_right _ (hy.gapless x hdue (Nat.le_of_not_lt hpast) ⟨y, hmem, hxy⟩)

/-- Below the checkpoint, every due item was delivered exactly once. -/
theorem Feed.count_eq_one [DecidableEq α] (h : Feed key allowed due first out) {x : α}
    (hdue : due x) (hfirst : first ≤ key x) (hpast : key x < checkpoint key first out) :
    out.count x = 1 := by
  have hnodup : out.Nodup := h.increasing.imp fun hlt heq => by
    rw [heq] at hlt
    exact Nat.lt_irrefl _ hlt
  exact List.count_eq_one_of_mem hnodup
    (h.gapless x hdue hfirst (exists_of_lt_checkpoint hfirst hpast))

/-! ## 2. Sessions in a row -/

section Sessions

variable {σ τ : Type} (key) (opens : σ → Nat → τ → Prop) (processed : τ → List α)
  (idle : τ → σ → Prop)

/-- Sessions of one consumer: each opens at the checkpoint of those before it, and between two
sessions the source may change. -/
inductive Sessions : σ → Nat → List τ → Prop where
  | nil (s : σ) (first : Nat) : Sessions s first []
  | cons {s s' : σ} {first : Nat} {session : τ} {rest : List τ} (hopens : opens s first session)
      (hidle : idle session s')
      (hrest : Sessions s' (checkpoint key first (processed session)) rest) :
      Sessions s first (session :: rest)

variable {key opens processed idle}

/-- Sessions that are feeds one by one are one feed together. -/
theorem Sessions.feed {inv : σ → Nat → Prop} {due : τ → α → Prop}
    (hinv : ∀ s first session s', inv s first → opens s first session → idle session s' →
      inv s' (checkpoint key first (processed session)))
    (hfeed : ∀ s first session, inv s first → opens s first session →
      Feed key allowed (due session) first (processed session))
    {s : σ} {first : Nat} {sessions : List τ}
    (h : Sessions key opens processed idle s first sessions) (hs : inv s first) :
    Feed key allowed (fun x => ∀ session ∈ sessions, due session x) first
      (sessions.flatMap processed) := by
  induction h with
  | nil s first => exact feed_nil first
  | @cons s s' first session rest hopens hidle hrest ih =>
    have htail := ih (hinv s first session s' hs hopens hidle)
    have hhead := hfeed s first session hs hopens
    rw [List.flatMap_cons]
    apply Feed.append
    · exact hhead.mono (fun _ hx => hx) fun x hx => hx session List.mem_cons_self
    · exact htail.mono (fun _ hx => hx) fun x hx session' hmem =>
        hx session' (List.mem_cons_of_mem _ hmem)

end Sessions

end Resume
