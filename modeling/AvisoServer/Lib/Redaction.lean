import Mathlib.Data.List.Basic

/-!
# Replacing matched values

A pattern is a beginning of fixed shape and, behind it, the longest run of the symbols of its value.
Every value that is found is replaced by one text, the hole. Two texts become the same exactly when
they agree outside their values, where a hole that is written out counts as a value.
-/

namespace Redaction

/-! ## 1. Patterns -/

/-- A symbol, or as many symbols as there are. -/
inductive Step (α : Type) where
  | one (test : α → Bool)
  | many (test : α → Bool)

def Step.test {α : Type} : Step α → α → Bool
  | .one test => test
  | .many test => test

/-- What the steps take off a text, and the rest. -/
def splitSteps {α : Type} : List (Step α) → List α → Option (List α × List α)
  | [], text => some ([], text)
  | .one _ :: _, [] => none
  | .one test :: steps, c :: text =>
    if test c then (splitSteps steps text).map fun parts => (c :: parts.1, parts.2) else none
  | .many test :: steps, text =>
    (splitSteps steps (text.dropWhile test)).map fun parts =>
      (text.takeWhile test ++ parts.1, parts.2)

structure Pattern (α : Type) where
  /-- The first symbol of the beginning. -/
  first : α → Bool
  /-- The rest of the beginning. -/
  steps : List (Step α)
  value : α → Bool

section Pattern

variable {α : Type}

/-- The rest of the beginning, where a match starts at a symbol. -/
def Pattern.find (p : Pattern α) (c : α) (text : List α) : Option (List α) :=
  if p.first c then
    (splitSteps p.steps text).bind fun parts =>
      if parts.2.head?.any p.value then some parts.1 else none
  else none

/-- Where a scan stands: between matches, before a value, or in a value. -/
inductive Mode where
  | scan
  | keep (left : Nat)
  | drop

/-- The symbols outside the values, and the values. -/
def Pattern.piecesFrom (p : Pattern α) : Mode → List α → List (α ⊕ List α)
  | _, [] => []
  | .keep (left + 1), c :: text => .inl c :: p.piecesFrom (.keep left) text
  | .keep 0, c :: text => .inr (c :: text.takeWhile p.value) :: p.piecesFrom .drop text
  | .drop, c :: text =>
    if p.value c then p.piecesFrom .drop text
    else
      .inl c :: p.piecesFrom ((p.find c text).elim .scan fun start => .keep start.length) text
  | .scan, c :: text =>
    .inl c :: p.piecesFrom ((p.find c text).elim .scan fun start => .keep start.length) text

def Pattern.pieces (p : Pattern α) (text : List α) : List (α ⊕ List α) := p.piecesFrom .scan text

/-- The values that are found in a text. -/
def Pattern.values (p : Pattern α) (text : List α) : List (List α) :=
  (p.pieces text).filterMap Sum.getRight?

/-- The text with a hole for every value. -/
def Pattern.replaceAll (p : Pattern α) (hole : List α) (text : List α) : List α :=
  (p.pieces text).flatMap (Sum.elim (fun c => [c]) fun _ => hole)

end Pattern

/-! ## 2. One match -/

theorem splitSteps_append {α : Type} {steps : List (Step α)} {text start rest : List α}
    (h : splitSteps steps text = some (start, rest)) : text = start ++ rest := by
  induction steps generalizing text start with
  | nil =>
    cases h
    rfl
  | cons step steps ih =>
    cases step with
    | one test =>
      cases text with
      | nil => cases h
      | cons c text =>
        rw [splitSteps] at h
        by_cases hc : test c = true
        · rw [if_pos hc] at h
          obtain ⟨⟨start', rest'⟩, hsplit, heq⟩ := Option.map_eq_some_iff.mp h
          cases heq
          rw [ih hsplit]
          rfl
        · rw [if_neg hc] at h
          cases h
    | many test =>
      rw [splitSteps] at h
      obtain ⟨⟨start', rest'⟩, hsplit, heq⟩ := Option.map_eq_some_iff.mp h
      cases heq
      rw [List.append_assoc, ← ih hsplit]
      exact List.takeWhile_append_dropWhile.symm

section Match

variable {α : Type} (p : Pattern α)

/-- A match behind its first symbol: the rest of the beginning, the value and what follows it. -/
structure Pattern.Match (c : α) (start value rest : List α) : Prop where
  found : p.find c (start ++ value ++ rest) = some start
  nonempty : value ≠ []
  run : ∀ d ∈ value, p.value d = true
  ends : rest.head?.any p.value = false

theorem Pattern.exists_match {c : α} {text start : List α} (h : p.find c text = some start) :
    ∃ value rest, text = start ++ value ++ rest ∧ p.Match c start value rest := by
  have hfound := h
  unfold Pattern.find at h
  by_cases hfirst : p.first c = true
  · rw [if_pos hfirst] at h
    obtain ⟨⟨start', behind⟩, hsplit, h⟩ := Option.bind_eq_some_iff.mp h
    by_cases hvalue : behind.head?.any p.value = true
    · rw [if_pos hvalue] at h
      have hstart : start' = start := Option.some.inj h
      rw [hstart] at hsplit
      have htext : text = start ++ behind := splitSteps_append hsplit
      -- the value is the whole run behind the beginning
      have hparts : text = start ++ behind.takeWhile p.value ++ behind.dropWhile p.value := by
        rw [List.append_assoc, List.takeWhile_append_dropWhile]
        exact htext
      refine ⟨behind.takeWhile p.value, behind.dropWhile p.value, hparts, ?_, ?_, ?_, ?_⟩
      · rw [← hparts]
        exact hfound
      · cases behind with
        | nil => cases hvalue
        | cons d behind =>
          rw [List.takeWhile_cons_of_pos (show p.value d = true from hvalue)]
          exact List.cons_ne_nil _ _
      · exact List.all_eq_true.mp List.all_takeWhile
      · cases hrest : behind.dropWhile p.value with
        | nil => rfl
        | cons d rest =>
          have hd := List.head?_dropWhile_not p.value behind
          rw [hrest] at hd
          exact hd
    · rw [if_neg hvalue] at h
      cases h
  · rw [if_neg hfirst] at h
    cases h

/-- A text is scanned symbol by symbol up to a match, and on behind its value. -/
theorem Pattern.scan_induct {motive : List α → Prop} (nil : motive [])
    (skip : ∀ c text, p.find c text = none → motive text → motive (c :: text))
    (found : ∀ c start value rest, p.Match c start value rest → motive rest →
      motive (c :: (start ++ value ++ rest))) (text : List α) : motive text := by
  -- on the length: what is scanned next is shorter, by the value at least
  induction hlen : text.length using Nat.strongRecOn generalizing text with
  | ind n ih =>
    cases text with
    | nil => exact nil
    | cons c text =>
      rw [List.length_cons] at hlen
      cases hfind : p.find c text with
      | none => exact skip c text hfind (ih text.length (by omega) text rfl)
      | some start =>
        obtain ⟨value, rest, rfl, hmatch⟩ := p.exists_match hfind
        apply found c start value rest hmatch
        apply ih rest.length _ rest rfl
        rw [List.length_append, List.length_append] at hlen
        omega

theorem Pattern.pieces_skip {c : α} {text : List α} (h : p.find c text = none) :
    p.pieces (c :: text) = .inl c :: p.pieces text := by
  show Sum.inl c :: p.piecesFrom ((p.find c text).elim _ _) text = _
  rw [h]
  rfl

theorem Pattern.piecesFrom_keep (start text : List α) (d : α) :
    p.piecesFrom (.keep start.length) (start ++ d :: text) =
      start.map .inl ++ .inr (d :: text.takeWhile p.value) :: p.piecesFrom .drop text := by
  induction start with
  | nil => rfl
  | cons c start ih =>
    show Sum.inl c :: p.piecesFrom (.keep start.length) (start ++ d :: text) = _
    rw [ih]
    rfl

/-- Behind a value the scan goes on where the run ends. -/
theorem Pattern.piecesFrom_drop {value rest : List α} (hrun : ∀ d ∈ value, p.value d = true)
    (hends : rest.head?.any p.value = false) :
    p.piecesFrom .drop (value ++ rest) = p.pieces rest := by
  induction value with
  | nil =>
    cases rest with
    | nil => rfl
    | cons c rest =>
      have hc : ¬ p.value c = true := by
        rw [Bool.not_eq_true]
        exact hends
      show (if p.value c then _ else _) = _
      rw [if_neg hc]
      rfl
  | cons d value ih =>
    show (if p.value d then _ else _) = _
    rw [if_pos (hrun d List.mem_cons_self)]
    exact ih fun e he => hrun e (List.mem_cons_of_mem d he)

theorem Pattern.takeWhile_run {value rest : List α} (hrun : ∀ d ∈ value, p.value d = true)
    (hends : rest.head?.any p.value = false) : (value ++ rest).takeWhile p.value = value := by
  rw [List.takeWhile_append_of_pos hrun]
  cases rest with
  | nil => rw [List.takeWhile_nil, List.append_nil]
  | cons c rest =>
    rw [List.takeWhile_cons_of_neg (by rw [Bool.not_eq_true]; exact hends), List.append_nil]

theorem Pattern.pieces_match {c : α} {start value rest : List α}
    (h : p.Match c start value rest) :
    p.pieces (c :: (start ++ value ++ rest)) =
      .inl c :: (start.map .inl ++ .inr value :: p.pieces rest) := by
  show Sum.inl c :: p.piecesFrom ((p.find c _).elim _ _) _ = _
  rw [h.found]
  show Sum.inl c :: p.piecesFrom (.keep start.length) (start ++ value ++ rest) = _
  obtain ⟨d, value, rfl⟩ := List.exists_cons_of_ne_nil h.nonempty
  have hrun : ∀ e ∈ value, p.value e = true := fun e he => h.run e (List.mem_cons_of_mem d he)
  rw [List.append_assoc, List.cons_append, p.piecesFrom_keep, p.piecesFrom_drop hrun h.ends,
    p.takeWhile_run hrun h.ends]

theorem Pattern.replaceAll_skip (hole : List α) {c : α} {text : List α}
    (h : p.find c text = none) : p.replaceAll hole (c :: text) = c :: p.replaceAll hole text := by
  unfold Pattern.replaceAll
  rw [p.pieces_skip h]
  rfl

theorem Pattern.replaceAll_match (hole : List α) {c : α} {start value rest : List α}
    (h : p.Match c start value rest) :
    p.replaceAll hole (c :: (start ++ value ++ rest)) =
      c :: (start ++ hole ++ p.replaceAll hole rest) := by
  have hkept : (start.map Sum.inl).flatMap (Sum.elim (fun c => [c]) fun _ : List α => hole) =
      start := by
    rw [List.flatMap_map]
    exact List.flatMap_singleton' start
  unfold Pattern.replaceAll
  rw [p.pieces_match h, List.flatMap_cons, List.flatMap_append, List.flatMap_cons, hkept,
    List.append_assoc]
  rfl

theorem Pattern.values_skip {c : α} {text : List α} (h : p.find c text = none) :
    p.values (c :: text) = p.values text := by
  unfold Pattern.values
  rw [p.pieces_skip h]
  rfl

theorem Pattern.values_match {c : α} {start value rest : List α}
    (h : p.Match c start value rest) :
    p.values (c :: (start ++ value ++ rest)) = value :: p.values rest := by
  have hkept : (start.map Sum.inl).filterMap (Sum.getRight? : α ⊕ List α → _) = [] := by
    rw [List.filterMap_map]
    exact List.filterMap_eq_nil_iff.mpr fun _ _ => rfl
  unfold Pattern.values
  rw [p.pieces_match h, List.filterMap_cons_none rfl, List.filterMap_append, hkept,
    List.nil_append]
  rfl

end Match

/-! ## 3. Holes -/

section Holes

variable {α : Type} (mark : α) (tail : List α)

/-- A text with holes, with the holes written out. -/
def render (text : List (Option α)) : List α :=
  text.flatMap fun c => c.elim (mark :: tail) fun c => [c]

theorem render_cons_some (c : α) (text : List (Option α)) :
    render mark tail (some c :: text) = c :: render mark tail text := rfl

theorem render_cons_none (text : List (Option α)) :
    render mark tail (none :: text) = mark :: tail ++ render mark tail text := rfl

theorem render_hole : render mark tail [none] = mark :: tail := List.append_nil _

theorem render_append (text other : List (Option α)) :
    render mark tail (text ++ other) = render mark tail text ++ render mark tail other :=
  List.flatMap_append

theorem render_map_some (text : List α) : render mark tail (text.map some) = text := by
  unfold render
  rw [List.flatMap_map]
  exact List.flatMap_singleton' text

/-- A text with the holes that are written out in it read back. -/
def readHoles [DecidableEq α] : Nat → List α → List (Option α)
  | _, [] => []
  | skip + 1, _ :: text => readHoles skip text
  | 0, c :: text =>
    if (mark :: tail).isPrefixOf (c :: text) then none :: readHoles tail.length text
    else some c :: readHoles 0 text

theorem render_readHoles [DecidableEq α] (skip : Nat) (text : List α) :
    render mark tail (readHoles mark tail skip text) = text.drop skip := by
  induction text generalizing skip with
  | nil => rw [readHoles, List.drop_nil]; rfl
  | cons c text ih =>
    cases skip with
    | succ skip => exact ih skip
    | zero =>
      rw [readHoles, List.drop_zero]
      by_cases hhole : (mark :: tail).isPrefixOf (c :: text) = true
      · -- the hole that is read is written out as the text that is skipped
        obtain ⟨rest, hrest⟩ := List.isPrefixOf_iff_prefix.mp hhole
        rw [if_pos hhole, render_cons_none, ih, ← hrest]
        rw [List.cons_append, List.cons.injEq] at hrest
        rw [← hrest.2, List.drop_left]
      · rw [if_neg hhole, render_cons_some, ih, List.drop_zero]

/-- No hole is written out. -/
def NoLiteral (text : List (Option α)) : Prop :=
  ∀ before after, text ≠ before ++ ((mark :: tail).map some ++ after)

theorem NoLiteral.of_cons {c : Option α} {text : List (Option α)}
    (h : NoLiteral mark tail (c :: text)) : NoLiteral mark tail text := by
  intro before after htext
  apply h (c :: before) after
  rw [htext]
  rfl

/-- A text with a new symbol has no hole written out, unless one starts there. -/
theorem NoLiteral.cons {c : Option α} {text : List (Option α)} (h : NoLiteral mark tail text)
    (hc : ∀ after, c :: text ≠ (mark :: tail).map some ++ after) :
    NoLiteral mark tail (c :: text) := by
  intro before after htext
  cases before with
  | nil => exact hc after htext
  | cons d before =>
    rw [List.cons_append, List.cons.injEq] at htext
    exact h before after htext.2

theorem noLiteral_readHoles [DecidableEq α] (skip : Nat) (text : List α) :
    NoLiteral mark tail (readHoles mark tail skip text) := by
  induction text generalizing skip with
  | nil =>
    rw [readHoles]
    intro before after htext
    simp at htext
  | cons c text ih =>
    cases skip with
    | succ skip => exact ih skip
    | zero =>
      rw [readHoles]
      by_cases hhole : (mark :: tail).isPrefixOf (c :: text) = true
      · rw [if_pos hhole]
        apply (ih tail.length).cons
        intro after htext
        rw [List.map_cons, List.cons_append, List.cons.injEq] at htext
        cases htext.1
      · rw [if_neg hhole]
        apply (ih 0).cons
        intro after htext
        -- written out, the text starts with the hole that was not read
        have hrender := congrArg (render mark tail) htext
        rw [render_append, render_cons_some, render_readHoles, List.drop_zero] at hrender
        apply hhole
        apply List.isPrefixOf_iff_prefix.mpr
        refine ⟨render mark tail after, ?_⟩
        rw [hrender, render_map_some]

/-- What is written out without the mark was written symbol by symbol. -/
theorem exists_of_render_append {text : List (Option α)} {start rest : List α}
    (hmark : mark ∉ start) (h : render mark tail text = start ++ rest) :
    ∃ behind, text = start.map some ++ behind := by
  induction start generalizing text with
  | nil => exact ⟨text, rfl⟩
  | cons a start ih =>
    rw [List.mem_cons, not_or] at hmark
    cases text with
    | nil => cases h
    | cons c text =>
      cases c with
      | none =>
        rw [render_cons_none, List.cons_append, List.cons_append, List.cons.injEq] at h
        exact absurd h.1 hmark.1
      | some b =>
        rw [render_cons_some, List.cons_append, List.cons.injEq] at h
        obtain ⟨behind, rfl⟩ := ih hmark.2 h.2
        refine ⟨behind, ?_⟩
        rw [h.1]
        rfl

/-- A hole and a symbol are not written out alike, where no hole is written out. -/
theorem render_none_ne_some (hmark : mark ∉ tail) {text other : List (Option α)} {b : α}
    (hother : NoLiteral mark tail (some b :: other)) :
    render mark tail (none :: text) ≠ render mark tail (some b :: other) := by
  intro h
  rw [render_cons_none, render_cons_some, List.cons_append, List.cons.injEq] at h
  obtain ⟨behind, hbehind⟩ := exists_of_render_append mark tail hmark h.2.symm
  apply hother [] behind
  rw [hbehind, ← h.1]
  rfl

theorem render_injective (hmark : mark ∉ tail) {text other : List (Option α)}
    (htext : NoLiteral mark tail text) (hother : NoLiteral mark tail other)
    (h : render mark tail text = render mark tail other) : text = other := by
  induction text generalizing other with
  | nil =>
    cases other with
    | nil => rfl
    | cons d other => cases d <;> cases h
  | cons c text ih =>
    cases other with
    | nil => cases c <;> cases h
    | cons d other =>
      cases c with
      | none =>
        cases d with
        | none =>
          rw [render_cons_none, render_cons_none, List.append_cancel_left_eq] at h
          rw [ih htext.of_cons hother.of_cons h]
        | some b => exact absurd h (render_none_ne_some mark tail hmark hother)
      | some a =>
        cases d with
        | none => exact absurd h.symm (render_none_ne_some mark tail hmark htext)
        | some b =>
          rw [render_cons_some, render_cons_some, List.cons.injEq] at h
          rw [h.1, ih htext.of_cons hother.of_cons h.2]

end Holes

/-! ## 4. Covering -/

section Covers

variable {α : Type}

/-- A text with some of its runs made holes. -/
inductive Covers : List (Option α) → List (Option α) → Prop where
  | nil : Covers [] []
  | keep (c : Option α) {text covered : List (Option α)} (h : Covers text covered) :
      Covers (c :: text) (c :: covered)
  | hole {value text covered : List (Option α)} (hvalue : value ≠ []) (h : Covers text covered) :
      Covers (value ++ text) (none :: covered)

theorem Covers.keepAll (start : List (Option α)) {text covered : List (Option α)}
    (h : Covers text covered) : Covers (start ++ text) (start ++ covered) := by
  induction start with
  | nil => exact h
  | cons c start ih => exact .keep c ih

theorem Pattern.covers_replaceAll (p : Pattern (Option α)) (text : List (Option α)) :
    Covers text (p.replaceAll [none] text) := by
  induction text using p.scan_induct with
  | nil => exact .nil
  | skip c text hskip ih =>
    rw [p.replaceAll_skip [none] hskip]
    exact .keep c ih
  | found c start value rest hmatch ih =>
    rw [p.replaceAll_match [none] hmatch, List.append_assoc, List.append_assoc]
    exact .keep c (.keepAll start (.hole hmatch.nonempty ih))

/-- What can be read in a covered text was written in the text. -/
theorem Covers.exists_append_of_startsWith {text covered : List (Option α)}
    (h : Covers text covered) (word : List α) {after : List (Option α)}
    (hword : covered = word.map some ++ after) :
    ∃ after', text = word.map some ++ after' := by
  induction word generalizing text covered with
  | nil => exact ⟨text, rfl⟩
  | cons c word ih =>
    cases h with
    | nil => cases hword
    | keep d h =>
      rw [List.map_cons, List.cons_append, List.cons.injEq] at hword
      obtain ⟨after', rfl⟩ := ih h hword.2
      refine ⟨after', ?_⟩
      rw [hword.1]
      rfl
    | hole hvalue h =>
      rw [List.map_cons, List.cons_append, List.cons.injEq] at hword
      cases hword.1

theorem Covers.noLiteral {mark : α} {tail : List α} {text covered : List (Option α)}
    (h : Covers text covered) (htext : NoLiteral mark tail text) :
    NoLiteral mark tail covered := by
  intro before after hcovered
  -- the same place of the text, behind what the covered text has before it
  have hplace : ∀ {text covered : List (Option α)}, Covers text covered →
      ∀ before, covered = before ++ ((mark :: tail).map some ++ after) →
      ∃ before' after', text = before' ++ ((mark :: tail).map some ++ after') := by
    intro text covered h
    induction h with
    | nil =>
      intro before hcovered
      simp at hcovered
    | keep c h ih =>
      intro before hcovered
      cases before with
      | nil =>
        obtain ⟨after', hafter⟩ :=
          (Covers.keep c h).exists_append_of_startsWith (mark :: tail) hcovered
        exact ⟨[], after', hafter⟩
      | cons d before =>
        rw [List.cons_append, List.cons.injEq] at hcovered
        obtain ⟨before', after', rfl⟩ := ih before hcovered.2
        exact ⟨c :: before', after', rfl⟩
    | hole hvalue h ih =>
      rename_i value _ _
      intro before hcovered
      cases before with
      | nil =>
        rw [List.nil_append, List.map_cons, List.cons_append, List.cons.injEq] at hcovered
        cases hcovered.1
      | cons d before =>
        rw [List.cons_append, List.cons.injEq] at hcovered
        obtain ⟨before', after', rfl⟩ := ih before hcovered.2
        refine ⟨value ++ before', after', ?_⟩
        rw [List.append_assoc]
  obtain ⟨before', after', htext'⟩ := hplace h before hcovered
  exact htext before' after' htext'

/-- A symbol counts twice, a hole once. -/
def weight : List (Option α) → Nat
  | [] => 0
  | none :: text => weight text + 1
  | some _ :: text => weight text + 2

theorem weight_append (text other : List (Option α)) :
    weight (text ++ other) = weight text + weight other := by
  induction text with
  | nil => exact (Nat.zero_add _).symm
  | cons c text ih =>
    rw [List.cons_append]
    cases c with
    | none =>
      show weight (text ++ other) + 1 = weight text + 1 + weight other
      omega
    | some a =>
      show weight (text ++ other) + 2 = weight text + 2 + weight other
      omega

/-- Only a hole is as light as a hole. -/
theorem weight_value {value : List (Option α)} (hvalue : value ≠ []) :
    1 ≤ weight value ∧ (weight value = 1 → value = [none]) := by
  cases value with
  | nil => exact absurd rfl hvalue
  | cons c value =>
    cases c with
    | some a =>
      show 1 ≤ weight value + 2 ∧ (weight value + 2 = 1 → _)
      omega
    | none =>
      show 1 ≤ weight value + 1 ∧ (weight value + 1 = 1 → _)
      refine ⟨by omega, fun hone => ?_⟩
      cases value with
      | nil => rfl
      | cons d value =>
        cases d with
        | none => exact absurd hone (by show ¬ weight value + 1 + 1 = 1; omega)
        | some a => exact absurd hone (by show ¬ weight value + 2 + 1 = 1; omega)

/-- Covering makes a text lighter, or leaves it alone. -/
theorem Covers.weight_le {text covered : List (Option α)} (h : Covers text covered) :
    weight covered ≤ weight text ∧ (weight covered = weight text → covered = text) := by
  induction h with
  | nil => exact ⟨Nat.le_refl _, fun _ => rfl⟩
  | keep c h ih =>
    rename_i text covered
    have hcons : weight (c :: covered) + weight text = weight (c :: text) + weight covered := by
      cases c with
      | none =>
        show weight covered + 1 + weight text = weight text + 1 + weight covered
        omega
      | some a =>
        show weight covered + 2 + weight text = weight text + 2 + weight covered
        omega
    refine ⟨by omega, fun hweight => ?_⟩
    rw [ih.2 (by omega)]
  | hole hvalue h ih =>
    rename_i value text covered
    obtain ⟨hone, hhole⟩ := weight_value hvalue
    rw [weight_append]
    show weight covered + 1 ≤ weight value + weight text ∧
      (weight covered + 1 = weight value + weight text → _)
    refine ⟨by omega, fun hweight => ?_⟩
    rw [hhole (by omega), ih.2 (by omega)]
    rfl

end Covers

/-! ## 5. Patterns on texts with holes -/

section Lift

variable {α : Type} (mark : α) (tail : List α)

/-- A step that sees a hole as its mark. -/
def Step.lift : Step α → Step (Option α)
  | .one test => .one fun c => test (c.getD mark)
  | .many test => .many fun c => test (c.getD mark)

/-- A pattern that sees a hole as its mark. -/
def Pattern.lift (p : Pattern α) : Pattern (Option α) where
  first c := p.first (c.getD mark)
  steps := p.steps.map (Step.lift mark)
  value c := p.value (c.getD mark)

/-- No beginning of a match touches a hole, and a value has all of a hole or nothing of it. -/
structure Pattern.Respects (p : Pattern α) : Prop where
  first : p.first mark = false
  steps : ∀ step ∈ p.steps, step.test mark = false
  quiet : ∀ before c after, tail = before ++ c :: after → ∀ rest, p.find c (after ++ rest) = none
  value : p.value mark = true → ∀ c ∈ tail, p.value c = true

/-- A text without holes at the symbols that a test takes is split as it is written out. -/
theorem render_span (test : α → Bool) (hmark : test mark = false) (text : List (Option α)) :
    (render mark tail text).takeWhile test =
        render mark tail (text.takeWhile fun c => test (c.getD mark)) ∧
      (render mark tail text).dropWhile test =
        render mark tail (text.dropWhile fun c => test (c.getD mark)) := by
  induction text with
  | nil => exact ⟨rfl, rfl⟩
  | cons c text ih =>
    cases c with
    | none =>
      simp only [render_cons_none, List.cons_append, List.takeWhile_cons, List.dropWhile_cons,
        Option.getD_none, hmark]
      exact ⟨rfl, rfl⟩
    | some a =>
      cases ha : test a with
      | true =>
        simp only [render_cons_some, List.takeWhile_cons, List.dropWhile_cons, Option.getD_some, ha,
          ih.1, ih.2]
        exact ⟨rfl, rfl⟩
      | false =>
        simp only [render_cons_some, List.takeWhile_cons, List.dropWhile_cons, Option.getD_some, ha]
        exact ⟨rfl, rfl⟩

theorem splitSteps_render {steps : List (Step α)}
    (hmark : ∀ step ∈ steps, step.test mark = false) (text : List (Option α)) :
    splitSteps steps (render mark tail text) =
      (splitSteps (steps.map (Step.lift mark)) text).map fun parts =>
        (render mark tail parts.1, render mark tail parts.2) := by
  induction steps generalizing text with
  | nil => rfl
  | cons step steps ih =>
    rw [List.forall_mem_cons] at hmark
    rw [List.map_cons]
    cases step with
    | one test =>
      have htest : test mark = false := hmark.1
      cases text with
      | nil => rfl
      | cons c text =>
        cases c with
        | none =>
          show (if test mark then _ else none) = (if test mark then _ else none : Option _).map _
          -- no test accepts the mark, so both sides stop at it
          rw [htest]
          rfl
        | some a =>
          have hlift : splitSteps (Step.lift mark (.one test) :: steps.map (Step.lift mark))
              (some a :: text) =
                if test a then
                  (splitSteps (steps.map (Step.lift mark)) text).map fun parts =>
                    (some a :: parts.1, parts.2)
                else none := rfl
          rw [render_cons_some, splitSteps, hlift]
          by_cases ha : test a = true
          · rw [if_pos ha, if_pos ha, ih hmark.2, Option.map_map, Option.map_map]
            rfl
          · rw [if_neg ha, if_neg ha]
            rfl
    | many test =>
      obtain ⟨htake, hdrop⟩ := render_span mark tail test hmark.1 text
      rw [splitSteps, htake, hdrop, ih hmark.2]
      show _ = ((splitSteps (steps.map (Step.lift mark)) _).map _).map _
      rw [Option.map_map, Option.map_map]
      congr 1
      funext parts
      show (_, _) = (render mark tail (_ ++ parts.1), _)
      rw [render_append]

theorem head?_render (test : α → Bool) (text : List (Option α)) :
    (render mark tail text).head?.any test = text.head?.any fun c => test (c.getD mark) := by
  cases text with
  | nil => rfl
  | cons c text => cases c <;> rfl

theorem Pattern.find_render {p : Pattern α} (h : p.Respects mark tail) (a : α)
    (text : List (Option α)) :
    p.find a (render mark tail text) =
      ((p.lift mark).find (some a) text).map (render mark tail) := by
  show (if p.first a then _ else none) = (if p.first a then _ else none : Option _).map _
  by_cases ha : p.first a = true
  · rw [if_pos ha, if_pos ha, splitSteps_render mark tail h.steps]
    show _ = ((splitSteps (p.steps.map (Step.lift mark)) text).bind _).map _
    cases splitSteps (p.steps.map (Step.lift mark)) text with
    | none => rfl
    | some parts =>
      show (if (render mark tail parts.2).head?.any p.value = true then _ else none) =
        (if parts.2.head?.any (fun c => p.value (c.getD mark)) = true then _ else none).map _
      rw [head?_render]
      by_cases hvalue : parts.2.head?.any (fun c => p.value (c.getD mark)) = true
      · rw [if_pos hvalue, if_pos hvalue]
        rfl
      · rw [if_neg hvalue, if_neg hvalue]
        rfl
  · rw [if_neg ha, if_neg ha]
    rfl

/-- Nothing is found in a hole that is written out. -/
theorem Pattern.replaceAll_hole {p : Pattern α} (h : p.Respects mark tail) (hole rest : List α) :
    p.replaceAll hole (mark :: tail ++ rest) = mark :: tail ++ p.replaceAll hole rest := by
  have hsuffix : ∀ suffix before, tail = before ++ suffix →
      p.replaceAll hole (suffix ++ rest) = suffix ++ p.replaceAll hole rest := by
    intro suffix
    induction suffix with
    | nil => exact fun _ _ => rfl
    | cons c suffix ih =>
      intro before htail
      have hnext := ih (before ++ [c]) (by rw [htail, List.append_assoc]; rfl)
      rw [List.cons_append, p.replaceAll_skip hole (h.quiet before c suffix htail rest), hnext]
      rfl
  have hmark : p.find mark (tail ++ rest) = none := by
    unfold Pattern.find
    rw [h.first]
    rfl
  rw [List.cons_append, p.replaceAll_skip hole hmark, hsuffix tail [] rfl]
  rfl

/-- Replacing in a text that is written out is writing out the text with more holes. -/
theorem Pattern.replaceAll_render {p : Pattern α} (h : p.Respects mark tail)
    (text : List (Option α)) :
    p.replaceAll (mark :: tail) (render mark tail text) =
      render mark tail ((p.lift mark).replaceAll [none] text) := by
  induction text using (p.lift mark).scan_induct with
  | nil => rfl
  | skip c text hskip ih =>
    rw [(p.lift mark).replaceAll_skip [none] hskip]
    cases c with
    | none => rw [render_cons_none, render_cons_none, p.replaceAll_hole mark tail h, ih]
    | some a =>
      have hfind := p.find_render mark tail h a text
      rw [hskip] at hfind
      rw [render_cons_some, render_cons_some, p.replaceAll_skip _ hfind, ih]
  | found c start value rest hmatch ih =>
    rw [(p.lift mark).replaceAll_match [none] hmatch]
    cases c with
    | none =>
      -- a hole starts no match
      have hfound := hmatch.found
      unfold Pattern.find at hfound
      rw [show (p.lift mark).first none = false from h.first] at hfound
      cases hfound
    | some a =>
      have hvalue : p.Match a (render mark tail start) (render mark tail value)
          (render mark tail rest) := by
        refine ⟨?_, ?_, ?_, ?_⟩
        · rw [← render_append, ← render_append, p.find_render mark tail h, hmatch.found]
          rfl
        · obtain ⟨d, value, rfl⟩ := List.exists_cons_of_ne_nil hmatch.nonempty
          cases d with
          | none => exact List.cons_ne_nil _ _
          | some b => exact List.cons_ne_nil _ _
        · intro e he
          obtain ⟨d, hd, he⟩ := List.mem_flatMap.mp he
          have hrun := hmatch.run d hd
          cases d with
          | some b =>
            rw [List.mem_singleton.mp he]
            exact hrun
          | none =>
            -- a value that has a hole has all of its text
            cases List.mem_cons.mp he with
            | inl hhead =>
              rw [hhead]
              exact hrun
            | inr htail => exact h.value hrun e htail
        · rw [head?_render]
          exact hmatch.ends
      rw [render_cons_some, render_append, render_append, p.replaceAll_match _ hvalue, ih,
        render_cons_some, render_append, render_append, render_hole]

end Lift

/-! ## 6. Several patterns -/

section Redact

variable {α : Type} (mark : α) (tail : List α) (patterns : List (Pattern α))

/-- The values of each pattern in turn replaced by the hole. -/
def redact (text : List α) : List α :=
  patterns.foldl (fun text p => p.replaceAll (mark :: tail) text) text

/-- The text outside the values that the patterns replace, in turn. -/
def outside [DecidableEq α] (text : List α) : List (Option α) :=
  patterns.foldl (fun text p => (p.lift mark).replaceAll [none] text) (readHoles mark tail 0 text)

variable {patterns}

theorem redact_render (h : ∀ p ∈ patterns, p.Respects mark tail) (text : List (Option α)) :
    redact mark tail patterns (render mark tail text) =
      render mark tail
        (patterns.foldl (fun text p => (p.lift mark).replaceAll [none] text) text) := by
  unfold redact
  induction patterns generalizing text with
  | nil => rfl
  | cons p patterns ih =>
    rw [List.forall_mem_cons] at h
    rw [List.foldl_cons, List.foldl_cons, p.replaceAll_render mark tail h.1]
    exact ih h.2 _

/-- Covering with all patterns keeps holes unwritten, makes no text heavier, and leaves it alone
only if each pattern does. -/
theorem foldl_covers (text : List (Option α)) (htext : NoLiteral mark tail text) :
    NoLiteral mark tail
        (patterns.foldl (fun text p => (p.lift mark).replaceAll [none] text) text) ∧
      weight (patterns.foldl (fun text p => (p.lift mark).replaceAll [none] text) text) ≤
        weight text ∧
      (patterns.foldl (fun text p => (p.lift mark).replaceAll [none] text) text = text →
        ∀ p ∈ patterns, (p.lift mark).replaceAll [none] text = text) := by
  induction patterns generalizing text with
  | nil => exact ⟨htext, Nat.le_refl _, fun _ p hp => nomatch hp⟩
  | cons p patterns ih =>
    have hcovers := (p.lift mark).covers_replaceAll text
    obtain ⟨hliteral, hweight, hself⟩ := ih _ (hcovers.noLiteral htext)
    obtain ⟨hle, heq⟩ := hcovers.weight_le
    rw [List.foldl_cons]
    refine ⟨hliteral, Nat.le_trans hweight hle, ?_⟩
    intro hfold
    -- if all of them leave the weight alone, so does the first
    rw [hfold] at hweight
    have hfirst := heq (Nat.le_antisymm hle hweight)
    rw [hfirst] at hself hfold
    exact List.forall_mem_cons.mpr ⟨hfirst, hself hfold⟩

theorem redact_eq_render [DecidableEq α] (h : ∀ p ∈ patterns, p.Respects mark tail)
    (text : List α) :
    redact mark tail patterns text = render mark tail (outside mark tail patterns text) := by
  have hread := render_readHoles mark tail 0 text
  rw [List.drop_zero] at hread
  have hredact := redact_render mark tail h (readHoles mark tail 0 text)
  rw [hread] at hredact
  exact hredact

/-- Two texts become the same exactly when they agree outside their values. -/
theorem redact_eq_iff [DecidableEq α] (h : ∀ p ∈ patterns, p.Respects mark tail)
    (hmark : mark ∉ tail) (text other : List α) :
    redact mark tail patterns text = redact mark tail patterns other ↔
      outside mark tail patterns text = outside mark tail patterns other := by
  rw [redact_eq_render mark tail h, redact_eq_render mark tail h]
  constructor
  · exact render_injective mark tail hmark
      (foldl_covers mark tail _ (noLiteral_readHoles mark tail 0 text)).1
      (foldl_covers mark tail _ (noLiteral_readHoles mark tail 0 other)).1
  · intro houtside
    rw [houtside]

/-- A text is left alone by all patterns only if it is by each of them. -/
theorem redact_eq_self_iff [DecidableEq α] (h : ∀ p ∈ patterns, p.Respects mark tail)
    (hmark : mark ∉ tail) (text : List α) :
    redact mark tail patterns text = text ↔
      ∀ p ∈ patterns, p.replaceAll (mark :: tail) text = text := by
  have hread := render_readHoles mark tail 0 text
  rw [List.drop_zero] at hread
  have hliteral := noLiteral_readHoles mark tail 0 text
  obtain ⟨hfolded, -, hself⟩ := @foldl_covers _ mark tail patterns _ hliteral
  constructor
  · intro hredact p hp
    rw [redact_eq_render mark tail h] at hredact
    have hsame := hself
      (render_injective mark tail hmark hfolded hliteral (hredact.trans hread.symm))
    have hp' := p.replaceAll_render mark tail (h p hp) (readHoles mark tail 0 text)
    rw [hsame p hp, hread] at hp'
    exact hp'
  · intro heach
    unfold redact
    clear hfolded hself h
    induction patterns with
    | nil => rfl
    | cons p patterns ih =>
      rw [List.forall_mem_cons] at heach
      rw [List.foldl_cons, heach.1]
      exact ih heach.2

/-- A replacement that changes nothing found nothing but holes. -/
theorem Pattern.replaceAll_eq_self_iff {p : Pattern α} (h : p.Respects mark tail)
    (text : List α) :
    p.replaceAll (mark :: tail) text = text ↔ ∀ value ∈ p.values text, value = mark :: tail := by
  -- what follows a value starts as it did
  have hhead : ∀ rest : List α, (p.replaceAll (mark :: tail) rest).head? = rest.head? := by
    intro rest
    induction rest using p.scan_induct with
    | nil => rfl
    | skip c text hskip _ => rw [p.replaceAll_skip _ hskip]; rfl
    | found c start value rest hmatch _ => rw [p.replaceAll_match _ hmatch]; rfl
  induction text using p.scan_induct with
  | nil => exact Iff.intro (fun _ value hvalue => nomatch hvalue) fun _ => rfl
  | skip c text hskip ih =>
    have ih : p.replaceAll (mark :: tail) text = text ↔
      ∀ value ∈ p.values text, value = mark :: tail := ih
    rw [p.replaceAll_skip _ hskip, p.values_skip hskip, List.cons.injEq, and_iff_right rfl, ih]
  | found c start value rest hmatch ih =>
    have ih : p.replaceAll (mark :: tail) rest = rest ↔
      ∀ value ∈ p.values rest, value = mark :: tail := ih
    rw [p.replaceAll_match _ hmatch, p.values_match hmatch, List.forall_mem_cons, ← ih,
      List.cons.injEq, and_iff_right rfl, List.append_assoc, List.append_assoc,
      List.append_cancel_left_eq]
    constructor
    · intro hsame
      have hvalue : mark :: tail = value := by
        by_cases hmark : p.value mark = true
        · -- both are the run of the value at the start of the same text
          have hrun : ∀ d ∈ mark :: tail, p.value d = true :=
            List.forall_mem_cons.mpr ⟨hmark, h.value hmark⟩
          have hends : (p.replaceAll (mark :: tail) rest).head?.any p.value = false := by
            rw [hhead]
            exact hmatch.ends
          rw [← p.takeWhile_run hrun hends, hsame, p.takeWhile_run hmatch.run hmatch.ends]
        · obtain ⟨d, value, rfl⟩ := List.exists_cons_of_ne_nil hmatch.nonempty
          rw [List.cons_append, List.cons_append, List.cons.injEq] at hsame
          rw [hsame.1] at hmark
          exact absurd (hmatch.run d List.mem_cons_self) hmark
      rw [← hvalue, List.append_cancel_left_eq] at hsame
      exact ⟨hvalue.symm, hsame⟩
    · rintro ⟨rfl, hrest⟩
      rw [hrest]

end Redact

end Redaction
