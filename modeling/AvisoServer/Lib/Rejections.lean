import Mathlib.Data.List.Infix

/-!
# What a computation rejects with

A property of every error that a computation can end with is carried from its steps to the whole.
Where one step is made for each item of a list, the error is that of the first rejected item.
-/

namespace Rejections

variable {ε α β σ : Type}

/-- Whatever the computation rejects with has the property. -/
def Rejects (P : ε → Prop) (r : Except ε α) : Prop := ∀ e, r = .error e → P e

variable {P : ε → Prop}

theorem Rejects.ok (a : α) : Rejects P (.ok a : Except ε α) := by
  intro e h
  cases h

theorem Rejects.error {e : ε} (h : P e) : Rejects P (.error e : Except ε α) := by
  intro other hother
  cases hother
  exact h

/-- The second step counts only for what the first returns. -/
theorem Rejects.bind {r : Except ε α} {f : α → Except ε β} (hr : Rejects P r)
    (hf : ∀ a, r = .ok a → Rejects P (f a)) : Rejects P (r >>= f) := by
  cases r with
  | error e => exact Rejects.error (hr e rfl)
  | ok a => exact hf a rfl

theorem Rejects.map {r : Except ε α} (f : α → β) (hr : Rejects P r) : Rejects P (f <$> r) := by
  cases r with
  | error e => exact Rejects.error (hr e rfl)
  | ok a => exact Rejects.ok (f a)

theorem Rejects.ite {condition : Prop} [Decidable condition] {r s : Except ε α}
    (hr : condition → Rejects P r) (hs : ¬condition → Rejects P s) :
    Rejects P (if condition then r else s) := by
  by_cases h : condition
  · rw [if_pos h]
    exact hr h
  · rw [if_neg h]
    exact hs h

/-- An error that is changed on the way has the property afterwards. -/
theorem Rejects.mapError {δ : Type} {r : Except δ α} {f : δ → ε} (h : ∀ d, r = .error d → P (f d)) :
    Rejects P (r.mapError f) := by
  cases r with
  | error d => exact Rejects.error (h d rfl)
  | ok a => exact Rejects.ok a

theorem Rejects.imp {Q : ε → Prop} {r : Except ε α} (hr : Rejects P r) (h : ∀ e, P e → Q e) :
    Rejects Q r :=
  fun e he => h e (hr e he)

/-- A fold rejects with what one of its steps rejects with. -/
theorem Rejects.foldlM {step : σ → α → Except ε σ} (hstep : ∀ s a, Rejects P (step s a))
    (items : List α) (start : σ) : Rejects P (items.foldlM step start) := by
  induction items generalizing start with
  | nil => exact Rejects.ok start
  | cons item items ih =>
    rw [List.foldlM_cons]
    exact Rejects.bind (hstep start item) fun next _ => ih next

/-- A loop of checks ends with the error of the first item that is not accepted. -/
theorem forM_error {check : α → Except ε PUnit} {items : List α} {e : ε}
    (h : items.forM check = .error e) :
    ∃ item, items.find? (fun a => !(check a).isOk) = some item ∧ check item = .error e := by
  induction items with
  | nil => cases h
  | cons item items ih =>
    change (check item >>= fun _ => items.forM check) = .error e at h
    cases hfirst : check item with
    | error first =>
      rw [hfirst] at h
      cases h
      exact ⟨item, List.find?_cons_of_pos (by rw [hfirst]; rfl), hfirst⟩
    | ok passed =>
      rw [hfirst] at h
      obtain ⟨found, hfind, herror⟩ := ih h
      refine ⟨found, ?_, herror⟩
      rw [List.find?_cons_of_neg (by rw [hfirst]; exact Bool.false_ne_true), hfind]

/-- A fold whose steps accept an item or not, whatever came before it, ends with the error of the
first item that is not accepted. -/
theorem foldlM_error {step : σ → α → Except ε σ} {accepted : α → Bool} {items : List α}
    (hstep : ∀ a ∈ items, ∀ s, (step s a).isOk = accepted a) {start : σ} {e : ε}
    (h : items.foldlM step start = .error e) :
    ∃ item s, items.find? (fun a => !accepted a) = some item ∧ step s item = .error e := by
  induction items generalizing start with
  | nil => cases h
  | cons item items ih =>
    rw [List.foldlM_cons] at h
    have haccepted := hstep item List.mem_cons_self start
    replace ih := @ih fun a ha => hstep a (List.mem_cons_of_mem item ha)
    cases hfirst : step start item with
    | error first =>
      rw [hfirst] at h haccepted
      cases h
      refine ⟨item, start, ?_, hfirst⟩
      exact List.find?_cons_of_pos (by rw [← haccepted]; rfl)
    | ok next =>
      rw [hfirst] at h haccepted
      obtain ⟨found, s, hfind, herror⟩ := ih h
      refine ⟨found, s, ?_, herror⟩
      rw [List.find?_cons_of_neg (by rw [← haccepted]; exact Bool.false_ne_true), hfind]

theorem find?_of_foldlM {step : σ → α → Except ε σ} {accepted : α → Bool} {items : List α}
    (hstep : ∀ a ∈ items, ∀ s, (step s a).isOk = accepted a) {start s : σ}
    (h : items.foldlM step start = .ok s) : items.find? (fun a => !accepted a) = none := by
  induction items generalizing start with
  | nil => rfl
  | cons item items ih =>
    rw [List.foldlM_cons] at h
    have haccepted := hstep item List.mem_cons_self start
    replace ih := @ih fun a ha => hstep a (List.mem_cons_of_mem item ha)
    cases hfirst : step start item with
    | error first =>
      rw [hfirst] at h
      cases h
    | ok next =>
      rw [hfirst] at h haccepted
      rw [List.find?_cons_of_neg (by rw [← haccepted]; exact Bool.false_ne_true), ih h]

/-- A text without the separator stands in a joined text where it stands in one of the parts. -/
theorem infix_append_cons {separator : α} {text before after : List α} (h : separator ∉ text) :
    text <:+: before ++ separator :: after ↔ text <:+: before ∨ text <:+: after := by
  constructor
  · intro hinfix
    obtain ⟨left, right, hjoined⟩ := hinfix
    rw [List.append_assoc] at hjoined
    cases List.append_eq_append_iff.mp hjoined with
    | inl hcase =>
      obtain ⟨rest, hbefore, hrest⟩ := hcase
      -- the text starts in the first part, and does not reach over the separator
      cases List.append_eq_append_iff.mp hrest with
      | inl hover =>
        obtain ⟨tail, hsplit, -⟩ := hover
        exact .inl ⟨left, tail, by rw [hbefore, hsplit, List.append_assoc]⟩
      | inr hover =>
        obtain ⟨tail, htext, hcons⟩ := hover
        cases tail with
        | nil =>
          rw [List.append_nil] at htext
          exact .inl ⟨left, [], by rw [hbefore, htext, List.append_nil]⟩
        | cons c tail =>
          cases hcons
          exact absurd (by rw [htext]; simp) h
    | inr hcase =>
      obtain ⟨rest, hleft, hcons⟩ := hcase
      cases rest with
      | nil =>
        cases text with
        | nil => exact .inl List.nil_infix
        | cons c text =>
          cases hcons
          exact absurd List.mem_cons_self h
      | cons c rest =>
        cases hcons
        refine .inr ⟨rest, right, ?_⟩
        rw [List.append_assoc]
        rfl
  · intro hparts
    cases hparts with
    | inl hbefore => exact hbefore.trans (List.prefix_append before _).isInfix
    | inr hafter =>
      exact hafter.trans ((List.suffix_cons separator after).trans
        (List.suffix_append before _)).isInfix

end Rejections
