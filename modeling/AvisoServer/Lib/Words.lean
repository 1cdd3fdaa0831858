import Mathlib.Data.List.TakeWhile
import Mathlib.Tactic.Set

/-!
# Words between separators

The words of a text are its longest pieces without a separator. A text has certain words exactly if
it consists of them in this order, with separators around them.
-/

namespace Words

variable {α : Type} (p : α → Bool)

/-! ## 1. Words -/

/-- The pieces between the separators, without the empty ones. -/
def words (text : List α) : List (List α) :=
  (text.splitOnP p).filter fun part => !part.isEmpty

def IsGap (text : List α) : Prop :=
  ∀ c ∈ text, p c = true

structure IsPiece (word : List α) : Prop where
  nonempty : word ≠ []
  whole : ∀ c ∈ word, p c = false

variable {p}

theorem words_append_separator {c : α} (hc : p c = true) (left right : List α) :
    words p (left ++ c :: right) = words p left ++ words p right := by
  rw [words, words, words, List.splitOnP_append_cons left right hc, List.filter_append]

theorem words_nil : words p [] = [] := by
  rw [words, List.splitOnP_nil]
  rfl

theorem words_separator {c : α} (hc : p c = true) (text : List α) :
    words p (c :: text) = words p text := by
  have hsplit := words_append_separator hc [] text
  rw [words_nil, List.nil_append, List.nil_append] at hsplit
  exact hsplit

theorem words_word {word : List α} (h : IsPiece p word) : words p word = [word] := by
  rw [words, List.splitOnP_eq_singleton fun c hc => h.whole c hc, List.filter_cons_of_pos]
  · rfl
  · cases word with
    | nil => exact absurd rfl h.nonempty
    | cons c word => rfl

/-- A gap before a text belongs to no word. -/
theorem words_blank_append {blank : List α} (h : IsGap p blank) (text : List α) :
    words p (blank ++ text) = words p text := by
  induction blank with
  | nil => rfl
  | cons c blank ih =>
    rw [List.cons_append, words_separator (h c List.mem_cons_self)]
    exact ih fun d hd => h d (List.mem_cons_of_mem c hd)

theorem words_blank {blank : List α} (h : IsGap p blank) : words p blank = [] := by
  have happend := words_blank_append h []
  rw [List.append_nil, words_nil] at happend
  exact happend

/-- Blanks after a text belong to no word. -/
theorem words_append_blank {blank : List α} (h : IsGap p blank) (text : List α) :
    words p (text ++ blank) = words p text := by
  cases blank with
  | nil => rw [List.append_nil]
  | cons c blank =>
    have hrest : IsGap p blank := fun d hd => h d (List.mem_cons_of_mem c hd)
    rw [words_append_separator (h c List.mem_cons_self), words_blank hrest, List.append_nil]

/-- Blanks that are not empty separate two texts. -/
theorem words_append_blank_append {blank : List α} (h : IsGap p blank) (hne : blank ≠ [])
    (left right : List α) :
    words p (left ++ (blank ++ right)) = words p left ++ words p right := by
  cases blank with
  | nil => exact absurd rfl hne
  | cons c blank =>
    have hrest : IsGap p blank := fun d hd => h d (List.mem_cons_of_mem c hd)
    rw [List.cons_append, words_append_separator (h c List.mem_cons_self),
      words_blank_append hrest]

/-! ## 2. Texts of two words -/

/-- A text that has a word starts with blanks, the word, and then its end or a separator. -/
theorem exists_first_word {text : List α} {word : List α} {rest : List (List α)}
    (h : words p text = word :: rest) :
    ∃ before after, text = before ++ (word ++ after) ∧ IsGap p before ∧ IsPiece p word ∧
      (∀ c ∈ after.head?, p c = true) ∧ words p after = rest := by
  have hparts : text = text.takeWhile p ++ text.dropWhile p := List.takeWhile_append_dropWhile.symm
  have hblank : IsGap p (text.takeWhile p) := fun c hc => List.mem_takeWhile_imp hc
  set tail := text.dropWhile p with htail
  have hwords : words p tail = word :: rest := by
    rw [hparts, words_blank_append hblank] at h
    exact h
  have hword : tail = tail.takeWhile (fun c => !p c) ++ tail.dropWhile (fun c => !p c) :=
    List.takeWhile_append_dropWhile.symm
  have hwhole : ∀ c ∈ tail.takeWhile (fun c => !p c), p c = false := fun c hc => by
    simpa using List.mem_takeWhile_imp hc
  set first := tail.takeWhile (fun c => !p c) with hfirst
  set after := tail.dropWhile (fun c => !p c) with hafter
  have hhead : ∀ c ∈ after.head?, p c = true := by
    intro c hc
    have hstop := List.head?_dropWhile_not (fun c => !p c) tail
    rw [← hafter] at hstop
    rw [Option.mem_def] at hc
    rw [hc] at hstop
    simpa using hstop
  have hne : first ≠ [] := by
    intro hnil
    cases htailcases : tail with
    | nil =>
      rw [htailcases, words_nil] at hwords
      cases hwords
    | cons c others =>
      -- the tail starts with something that is no separator
      have hstart := List.head?_dropWhile_not p text
      rw [← htail, htailcases] at hstart
      have hc : p c = false := by simpa using hstart
      rw [hfirst, htailcases, List.takeWhile_cons_of_pos (by simp [hc])] at hnil
      cases hnil
  have hisword : IsPiece p first := ⟨hne, hwhole⟩
  have hsplit : words p tail = first :: words p after := by
    cases hcases : after with
    | nil =>
      rw [hword, hcases, List.append_nil, words_word hisword, words_nil]
    | cons c others =>
      have hc : p c = true := hhead c (by rw [hcases]; rfl)
      rw [hword, hcases, words_append_separator hc, words_word hisword, words_separator hc]
      rfl
  rw [hwords] at hsplit
  obtain ⟨rfl, hrest⟩ := List.cons.inj hsplit
  exact ⟨text.takeWhile p, after, by rw [← hword]; exact hparts, hblank, hisword, hhead,
    hrest.symm⟩

theorem words_eq_nil_iff {text : List α} : words p text = [] ↔ IsGap p text := by
  constructor
  · intro h
    induction text with
    | nil =>
      intro c hc
      cases hc
    | cons c text ih =>
      by_cases hc : p c = true
      · rw [words_separator hc] at h
        intro d hd
        cases List.mem_cons.mp hd with
        | inl hsame => rw [hsame]; exact hc
        | inr hrest => exact ih h d hrest
      · -- a text that starts with a letter has a word
        have hsplit : (c :: text).splitOnP p = (text.splitOnP p).modifyHead (c :: ·) := by
          rw [List.splitOnP_cons_eq_if_modifyHead, if_neg hc]
        obtain ⟨first, others, hothers⟩ :=
          List.exists_cons_of_ne_nil (List.splitOnP_ne_nil p text)
        rw [words, hsplit, hothers, List.modifyHead_cons,
          List.filter_cons_of_pos (by rfl)] at h
        cases h
  · exact words_blank

/-- A text has two words if it is the two with blanks around them, and some blank between them. -/
theorem words_eq_pair_iff {text first second : List α} :
    words p text = [first, second] ↔
      ∃ before between after, text = before ++ (first ++ (between ++ (second ++ after))) ∧
        IsGap p before ∧ IsGap p between ∧ between ≠ [] ∧ IsGap p after ∧
        IsPiece p first ∧ IsPiece p second := by
  constructor
  · intro h
    obtain ⟨before, rest, rfl, hbefore, hfirst, hhead, hrest⟩ := exists_first_word h
    obtain ⟨between, after, rfl, hbetween, hsecond, -, hafter⟩ := exists_first_word hrest
    refine ⟨before, between, after, rfl, hbefore, hbetween, ?_, words_eq_nil_iff.mp hafter,
      hfirst, hsecond⟩
    -- the first word ends at a separator
    intro hnil
    subst hnil
    cases hcases : second with
    | nil => exact hsecond.nonempty hcases
    | cons c others =>
      have hseparator := hhead c (by rw [hcases]; rfl)
      rw [hsecond.whole c (by rw [hcases]; exact List.mem_cons_self)] at hseparator
      cases hseparator
  · intro h
    obtain ⟨before, between, after, rfl, hbefore, hbetween, hne, hafter, hfirst, hsecond⟩ := h
    rw [words_blank_append hbefore, words_append_blank_append hbetween hne,
      words_append_blank hafter, words_word hfirst, words_word hsecond]
    rfl

end Words
