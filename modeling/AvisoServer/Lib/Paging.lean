import Mathlib.Data.List.Sort
import Mathlib.Data.List.Perm.Basic
import Mathlib.Order.Basic

/-!
# Cursor pagination

A reader asks for a page at its cursor, keeps the items and resumes at the key the page names,
until a page says that there is no more. What the reader has collected at the end depends on the
pages only through the few facts stated here: pages are sorted, they hold only what the cursor
admits, and they skip nothing they do not announce.
-/

namespace Paging

/-! ## 1. Pages and readers -/

/-- Cursors select items; resuming at `n` selects the items whose key is at least `n`. -/
structure Scheme (α γ : Type) where
  key : α → Nat
  Admits : γ → α → Prop
  resume : Nat → γ
  admits_resume : ∀ n x, Admits (resume n) x ↔ n ≤ key x

structure Page (α : Type) where
  items : List α
  more : Bool
  next : Option Nat

structure Reader (α γ : Type) where
  cursor : γ
  more : Bool
  delivered : List α

variable {α γ : Type}

/-- The reader before its first page. -/
def Reader.start (cursor : γ) : Reader α γ :=
  { cursor, more := true, delivered := [] }

/-- Strictly increasing keys. -/
def Increasing (key : α → Nat) (xs : List α) : Prop :=
  xs.Pairwise fun x y => key x < key y

theorem increasing_append {key : α → Nat} {xs ys : List α} (hx : Increasing key xs)
    (hy : Increasing key ys) (hxy : ∀ x ∈ xs, ∀ y ∈ ys, key x < key y) :
    Increasing key (xs ++ ys) :=
  List.pairwise_append.mpr ⟨hx, hy, hxy⟩

theorem Increasing.nodup {key : α → Nat} {xs : List α} (h : Increasing key xs) : xs.Nodup :=
  h.imp fun hlt heq => by rw [heq] at hlt; exact absurd hlt (lt_irrefl _)

/-- An increasing list is determined by its members. -/
theorem Increasing.eq_of_mem_iff {key : α → Nat} {xs ys : List α} (hx : Increasing key xs)
    (hy : Increasing key ys) (hmem : ∀ a, a ∈ xs ↔ a ∈ ys) : xs = ys := by
  have hperm : xs.Perm ys := (List.perm_ext_iff_of_nodup hx.nodup hy.nodup).mpr hmem
  exact hperm.eq_of_pairwise (fun a b _ _ hab hba => absurd hab (by omega)) hx hy

namespace Scheme

variable (sch : Scheme α γ)

def advance (r : Reader α γ) (p : Page α) : Reader α γ where
  cursor := p.next.elim r.cursor sch.resume
  more := p.more
  delivered := r.delivered ++ p.items

/-- What a page owes a reader whose cursor is `c`, when the items on offer are those of `S`. -/
structure Serves (S : α → Prop) (c : γ) (p : Page α) : Prop where
  increasing : Increasing sch.key p.items
  sound : ∀ x ∈ p.items, S x ∧ sch.Admits c x
  passed : ∀ n, p.next = some n → ∀ x ∈ p.items, sch.key x < n
  announced : p.next = none → p.items = []
  complete : ∀ x, S x → sch.Admits c x →
    x ∈ p.items ∨ p.more = true ∧ ∃ n, p.next = some n ∧ n ≤ sch.key x

/-- The page resumes past some item of `raw` that the cursor still admitted. -/
def Progress (raw : α → Prop) (c : γ) (p : Page α) : Prop :=
  ∀ n, p.next = some n → ∃ x, raw x ∧ sch.Admits c x ∧ sch.key x < n

/-! ## 2. The reader's invariants -/

/-- What the reader delivered is increasing and lies below everything its cursor admits. -/
structure Follows (r : Reader α γ) : Prop where
  increasing : Increasing sch.key r.delivered
  fresh : ∀ x ∈ r.delivered, ∀ y, sch.Admits r.cursor y → sch.key x < sch.key y

theorem follows_start (c₀ : γ) : sch.Follows (Reader.start c₀ : Reader α γ) where
  increasing := List.Pairwise.nil
  fresh := by intro x hx; simp [Reader.start] at hx

/-- One page keeps the order, if it resumes past an item that was still admitted. -/
theorem Follows.advance {raw S : α → Prop} {r : Reader α γ} {p : Page α} (h : sch.Follows r)
    (hp : sch.Serves S r.cursor p) (hprog : sch.Progress raw r.cursor p) :
    sch.Follows (sch.advance r p) where
  increasing := increasing_append h.increasing hp.increasing fun x hx y hy =>
    h.fresh x hx y (hp.sound y hy).2
  fresh := by
    intro x hx y hy
    simp only [Scheme.advance] at hx hy
    cases hnext : p.next with
    | none =>
      rw [hnext] at hy
      rw [hp.announced hnext, List.append_nil] at hx
      exact h.fresh x hx y hy
    | some n =>
      rw [hnext, Option.elim_some, sch.admits_resume] at hy
      rcases List.mem_append.mp hx with hx | hx
      · obtain ⟨z, -, hz, hzn⟩ := hprog n hnext
        have := h.fresh x hx z hz
        omega
      · have := hp.passed n hnext x hx
        omega

/-- The reader started at `c₀`: its cursor is `c₀` still, or it resumes past an item that `c₀`
admitted. -/
def Origin (raw : α → Prop) (c₀ : γ) (r : Reader α γ) : Prop :=
  r.cursor = c₀ ∨ ∃ n x, r.cursor = sch.resume n ∧ raw x ∧ sch.Admits c₀ x ∧ sch.key x < n

/-- `c₀` admits, with an item, every later one. -/
def UpwardClosed (raw : α → Prop) (c₀ : γ) : Prop :=
  ∀ x y, raw x → raw y → sch.Admits c₀ x → sch.key x ≤ sch.key y → sch.Admits c₀ y

/-- What the reader's cursor admits, its first cursor admitted. -/
theorem Origin.admits_start {raw : α → Prop} {c₀ : γ} {r : Reader α γ}
    (h : sch.Origin raw c₀ r) (hup : sch.UpwardClosed raw c₀) {y : α} (hy : raw y)
    (ha : sch.Admits r.cursor y) : sch.Admits c₀ y := by
  rcases h with hc | ⟨n, x, hc, hx, hax, hn⟩
  · rwa [hc] at ha
  · rw [hc, sch.admits_resume] at ha
    exact hup x y hx hy hax (by omega)

theorem Origin.advance {raw : α → Prop} {c₀ : γ} {r : Reader α γ} {p : Page α}
    (h : sch.Origin raw c₀ r) (hprog : sch.Progress raw r.cursor p)
    (hup : sch.UpwardClosed raw c₀) : sch.Origin raw c₀ (sch.advance r p) := by
  cases hnext : p.next with
  | none => simpa only [Origin, Scheme.advance, hnext, Option.elim_none] using h
  | some n =>
    obtain ⟨z, hzraw, hz, hzn⟩ := hprog n hnext
    refine Or.inr ⟨n, z, ?_, hzraw, h.admits_start sch hup hzraw hz, hzn⟩
    simp only [Scheme.advance, hnext, Option.elim_some]

/-! ## 3. Coverage -/

/-- The item is delivered, or the reader will still be offered it. -/
def Covered (r : Reader α γ) (x : α) : Prop :=
  x ∈ r.delivered ∨ r.more = true ∧ sch.Admits r.cursor x

theorem Covered.advance {S : α → Prop} {r : Reader α γ} {p : Page α} {x : α}
    (h : sch.Covered r x) (hp : sch.Serves S r.cursor p)
    (hS : sch.Admits r.cursor x → S x) : sch.Covered (sch.advance r p) x := by
  rcases h with h | ⟨-, ha⟩
  · exact Or.inl (List.mem_append_left _ h)
  rcases hp.complete x (hS ha) ha with hx | ⟨hmore, n, hnext, hn⟩
  · exact Or.inl (List.mem_append_right _ hx)
  · refine Or.inr ⟨hmore, ?_⟩
    simp only [Scheme.advance, hnext, Option.elim_some, sch.admits_resume]
    exact hn

/-! ## 4. Reading a source that does not change -/

/-- Follow pages for at most `fuel` fetches; `fetch i` is what the source answers at call `i`. -/
def follow (fetch : Nat → γ → Page α) : Nat → Nat → Reader α γ → Option (List α)
  | 0, _, r => if r.more then none else some r.delivered
  | fuel + 1, call, r =>
    if r.more then follow fetch fuel (call + 1) (sch.advance r (fetch call r.cursor))
    else some r.delivered

variable (fetch : Nat → γ → Page α)

theorem follow_of_done (fuel call : Nat) (r : Reader α γ) (h : r.more = false) :
    sch.follow fetch fuel call r = some r.delivered := by
  cases fuel <;> simp [follow, h]

theorem follow_succ_of_more (fuel call : Nat) (r : Reader α γ) (h : r.more = true) :
    sch.follow fetch (fuel + 1) call r =
      sch.follow fetch fuel (call + 1) (sch.advance r (fetch call r.cursor)) := by
  simp [follow, h]

/-- More fuel changes nothing once the reader has finished. -/
theorem follow_mono (fuel extra call : Nat) (r : Reader α γ) (out : List α)
    (h : sch.follow fetch fuel call r = some out) :
    sch.follow fetch (fuel + extra) call r = some out := by
  induction fuel generalizing call r with
  | zero =>
    have hdone : r.more = false := by
      by_contra hmore
      simp [follow, hmore] at h
    rw [follow_of_done _ _ _ _ _ hdone] at h ⊢
    exact h
  | succ fuel ih =>
    cases hmore : r.more with
    | false => rwa [follow_of_done _ _ _ _ _ hmore] at h ⊢
    | true =>
      rw [follow_succ_of_more _ _ _ _ _ hmore] at h
      rw [Nat.succ_add, follow_succ_of_more _ _ _ _ _ hmore]
      exact ih _ _ h

/-- A page that announces more than it holds says where to resume. -/
def Announces (p : Page α) : Prop :=
  p.more = true → p.next.isSome = true

/-- The number of items of `raw` at or after key `n`. -/
def remaining (raw : List α) (n : Nat) : Nat :=
  raw.countP fun x => n ≤ sch.key x

theorem remaining_lt (raw : List α) (n m : Nat) (x : α) (hx : x ∈ raw) (hnx : n ≤ sch.key x)
    (hxm : sch.key x < m) : sch.remaining raw m < sch.remaining raw n := by
  induction raw with
  | nil => simp at hx
  | cons y ys ih =>
    have hle : sch.remaining ys m ≤ sch.remaining ys n :=
      List.countP_mono_left fun z _ hz => by simp only [decide_eq_true_eq] at hz ⊢; omega
    simp only [remaining, List.countP_cons, decide_eq_true_eq] at ih hle ⊢
    rcases List.mem_cons.mp hx with rfl | hx
    · rw [if_neg (by omega), if_pos hnx]
      omega
    · have := ih hx
      split_ifs <;> omega

/-- A set of cursors that contains every cursor a page resumes at. -/
def Closed (C : γ → Prop) : Prop :=
  ∀ n, C (sch.resume n)

theorem Closed.advance {C : γ → Prop} (hC : sch.Closed C) {r : Reader α γ} (hr : C r.cursor)
    (p : Page α) : C (sch.advance r p).cursor := by
  simp only [Scheme.advance]
  cases p.next with
  | none => exact hr
  | some n => exact hC n

section Termination

variable {C : γ → Prop} (hC : sch.Closed C) (raw : List α)
  (hann : ∀ i c, C c → Announces (fetch i c))
  (hprog : ∀ i c, C c → sch.Progress (· ∈ raw) c (fetch i c))

include hC hann hprog

/-- A reader that resumes at a key finishes within one page more than there are items left. -/
theorem follow_terminates_of_resume (fuel n call : Nat) (r : Reader α γ)
    (hcursor : r.cursor = sch.resume n) (hfuel : sch.remaining raw n < fuel) :
    (sch.follow fetch fuel call r).isSome = true := by
  induction fuel generalizing r n call with
  | zero => omega
  | succ fuel ih =>
    cases hmore : r.more with
    | false => simp [follow_of_done _ _ _ _ _ hmore]
    | true =>
      have hr : C r.cursor := hcursor ▸ hC n
      rw [follow_succ_of_more _ _ _ _ _ hmore]
      cases hpage : (fetch call r.cursor).more with
      | false =>
        simp [follow_of_done _ fetch fuel (call + 1) (sch.advance r (fetch call r.cursor)) hpage]
      | true =>
        obtain ⟨m, hm⟩ := Option.isSome_iff_exists.mp (hann call r.cursor hr hpage)
        obtain ⟨x, hx, hax, hxm⟩ := hprog call r.cursor hr m hm
        rw [hcursor, sch.admits_resume] at hax
        have hlt := sch.remaining_lt raw n m x hx hax hxm
        exact ih m _ _ (by simp [advance, hm]) (by omega)

/-- Every reader finishes: one page from its first cursor, then as many as there are items. -/
theorem follow_terminates (call : Nat) (r : Reader α γ) (hr : C r.cursor) :
    (sch.follow fetch (raw.length + 2) call r).isSome = true := by
  cases hmore : r.more with
  | false => simp [follow_of_done _ _ _ _ _ hmore]
  | true =>
    rw [follow_succ_of_more _ _ _ _ _ hmore]
    cases hpage : (fetch call r.cursor).more with
    | false =>
      simp [follow_of_done _ fetch (raw.length + 1) (call + 1)
        (sch.advance r (fetch call r.cursor)) hpage]
    | true =>
      obtain ⟨m, hm⟩ := Option.isSome_iff_exists.mp (hann call r.cursor hr hpage)
      refine sch.follow_terminates_of_resume fetch hC raw hann hprog _ m _ _
        (by simp [advance, hm]) ?_
      have : sch.remaining raw m ≤ raw.length := List.countP_le_length
      omega

end Termination

section Spec

variable {fetch} {raw S : α → Prop} {c₀ : γ}

/-- Along the pages of an unchanging source, the reader has delivered only what it should and
nothing it should deliver is lost. -/
structure Exact (sch : Scheme α γ) (raw S : α → Prop) (c₀ : γ) (r : Reader α γ) : Prop where
  follows : sch.Follows r
  origin : sch.Origin raw c₀ r
  sound : ∀ x ∈ r.delivered, S x ∧ sch.Admits c₀ x
  covered : ∀ x, S x → sch.Admits c₀ x → sch.Covered r x

theorem exact_start : sch.Exact raw S c₀ (Reader.start c₀) where
  follows := sch.follows_start c₀
  origin := Or.inl rfl
  sound := by intro x hx; simp [Reader.start] at hx
  covered := fun _ _ ha => Or.inr ⟨rfl, ha⟩

theorem Exact.advance {r : Reader α γ} {p : Page α} (h : sch.Exact raw S c₀ r)
    (hp : sch.Serves S r.cursor p) (hprog : sch.Progress raw r.cursor p)
    (hS : ∀ x, S x → raw x) (hup : sch.UpwardClosed raw c₀) :
    sch.Exact raw S c₀ (sch.advance r p) where
  follows := h.follows.advance sch hp hprog
  origin := h.origin.advance sch hprog hup
  sound := by
    intro x hx
    rcases List.mem_append.mp hx with hx | hx
    · exact h.sound x hx
    · obtain ⟨hxS, hxa⟩ := hp.sound x hx
      exact ⟨hxS, h.origin.admits_start sch hup (hS x hxS) hxa⟩
  covered := fun x hx ha => (h.covered x hx ha).advance sch hp fun _ => hx

theorem Exact.mem_iff {r : Reader α γ} (h : sch.Exact raw S c₀ r) (hmore : r.more = false)
    (x : α) : x ∈ r.delivered ↔ S x ∧ sch.Admits c₀ x := by
  refine ⟨h.sound x, fun ⟨hx, ha⟩ => ?_⟩
  rcases h.covered x hx ha with hmem | ⟨hcontra, -⟩
  · exact hmem
  · rw [hmore] at hcontra
    cases hcontra

/-- What a finished reader of an unchanging source delivered: exactly the items of `S` its first
cursor admits, in key order. -/
theorem follow_spec {C : γ → Prop} (hC : sch.Closed C)
    (hserve : ∀ i c, C c → sch.Serves S c (fetch i c))
    (hprog : ∀ i c, C c → sch.Progress raw c (fetch i c)) (hS : ∀ x, S x → raw x)
    (hup : sch.UpwardClosed raw c₀) (fuel call : Nat) (r : Reader α γ) (hr : C r.cursor)
    (out : List α) (hexact : sch.Exact raw S c₀ r) (hout : sch.follow fetch fuel call r = some out) :
    Increasing sch.key out ∧ ∀ x, x ∈ out ↔ S x ∧ sch.Admits c₀ x := by
  have hdone (r : Reader α γ) (hexact : sch.Exact raw S c₀ r) (hmore : r.more = false)
      (hout : some r.delivered = some out) :
      Increasing sch.key out ∧ ∀ x, x ∈ out ↔ S x ∧ sch.Admits c₀ x := by
    cases hout
    exact ⟨hexact.follows.increasing, hexact.mem_iff sch hmore⟩
  induction fuel generalizing r call with
  | zero =>
    cases hmore : r.more with
    | false =>
      rw [follow_of_done _ _ _ _ _ hmore] at hout
      exact hdone r hexact hmore hout
    | true => simp [follow, hmore] at hout
  | succ fuel ih =>
    cases hmore : r.more with
    | false =>
      rw [follow_of_done _ _ _ _ _ hmore] at hout
      exact hdone r hexact hmore hout
    | true =>
      rw [follow_succ_of_more _ _ _ _ _ hmore] at hout
      exact ih _ _ (hC.advance sch hr _)
        (hexact.advance sch (hserve _ _ hr) (hprog _ _ hr) hS hup) hout

end Spec

end Scheme

end Paging
