import Mathlib.Algebra.GroupWithZero.Nat
import Mathlib.Data.List.AList

/-!
# Counters with labels

A family of counters has one series for each combination of labels that was used so far. A series
counts the events that were recorded under its labels, and all of them together count every event.
-/

namespace Counters

variable {κ : Type} [DecidableEq κ]

/-! ## 1. Series -/

abbrev CounterVec (κ : Type) := AList fun _ : κ => Nat

/-- A series that does not exist counts nothing. -/
def value (counters : CounterVec κ) (labels : κ) : Nat :=
  (counters.lookup labels).getD 0

/-- `with_label_values`: the series exists from now on. -/
def touch (labels : κ) (counters : CounterVec κ) : CounterVec κ :=
  if labels ∈ counters then counters else counters.insert labels 0

def inc (labels : κ) (counters : CounterVec κ) : CounterVec κ :=
  counters.insert labels (value counters labels + 1)

def total (counters : CounterVec κ) : Nat :=
  (counters.entries.map Sigma.snd).sum

theorem value_of_notMem {counters : CounterVec κ} {labels : κ} (h : labels ∉ counters) :
    value counters labels = 0 := by
  rw [value, AList.lookup_eq_none.mpr h]
  rfl

theorem value_inc (counters : CounterVec κ) (labels other : κ) :
    value (inc labels counters) other =
      value counters other + if labels = other then 1 else 0 := by
  by_cases heq : labels = other
  · subst heq
    rw [if_pos rfl, value, inc, AList.lookup_insert]
    rfl
  · rw [if_neg heq, value, inc, AList.lookup_insert_ne (Ne.symm heq)]
    rfl

theorem mem_inc {counters : CounterVec κ} {labels other : κ} :
    other ∈ inc labels counters ↔ other = labels ∨ other ∈ counters :=
  AList.mem_insert counters

theorem value_touch (counters : CounterVec κ) (labels other : κ) :
    value (touch labels counters) other = value counters other := by
  rw [touch]
  by_cases hmem : labels ∈ counters
  · rw [if_pos hmem]
  · rw [if_neg hmem]
    by_cases heq : other = labels
    · subst heq
      rw [value_of_notMem hmem, value, AList.lookup_insert]
      rfl
    · rw [value, AList.lookup_insert_ne heq]
      rfl

theorem mem_touch {counters : CounterVec κ} {labels other : κ} :
    other ∈ touch labels counters ↔ other = labels ∨ other ∈ counters := by
  rw [touch]
  by_cases hmem : labels ∈ counters
  · rw [if_pos hmem]
    constructor
    · exact Or.inr
    · intro h
      exact h.elim (fun heq => heq ▸ hmem) id
  · rw [if_neg hmem]
    exact AList.mem_insert counters

/-- The series of some labels, and the others. -/
theorem total_eq_value_add (counters : CounterVec κ) (labels : κ) :
    total counters = value counters labels + total (counters.erase labels) := by
  by_cases hmem : labels ∈ counters
  · obtain ⟨count, before, after, hfresh, hsplit, herase⟩ := List.exists_of_kerase hmem
    have hlookup : counters.lookup labels = some count := by
      show List.dlookup labels counters.entries = some count
      rw [hsplit, List.dlookup_append, List.dlookup_eq_none.mpr hfresh, List.dlookup_cons_eq]
      rfl
    have hrest : total (counters.erase labels) = ((before ++ after).map Sigma.snd).sum := by
      show ((List.kerase labels counters.entries).map Sigma.snd).sum = _
      rw [herase]
    rw [hrest, value, hlookup, total, hsplit]
    simp only [List.map_append, List.map_cons, List.sum_append, List.sum_cons, Option.getD_some]
    omega
  · have herase : counters.erase labels = counters :=
      AList.ext (List.kerase_of_notMem_keys hmem)
    rw [value_of_notMem hmem, herase, Nat.zero_add]

theorem total_insert (counters : CounterVec κ) (labels : κ) (count : Nat) :
    total (counters.insert labels count) = count + total (counters.erase labels) := by
  rw [total, AList.entries_insert, List.map_cons, List.sum_cons]
  rfl

theorem total_inc (counters : CounterVec κ) (labels : κ) :
    total (inc labels counters) = total counters + 1 := by
  rw [inc, total_insert, total_eq_value_add counters labels]
  omega

theorem total_touch (counters : CounterVec κ) (labels : κ) :
    total (touch labels counters) = total counters := by
  rw [touch]
  by_cases hmem : labels ∈ counters
  · rw [if_pos hmem]
  · rw [if_neg hmem, total_insert, total_eq_value_add counters labels, value_of_notMem hmem]

/-! ## 2. Series that exist from the start -/

def touchAll (series : List κ) (counters : CounterVec κ) : CounterVec κ :=
  series.foldl (fun counters labels => touch labels counters) counters

theorem value_touchAll (series : List κ) (counters : CounterVec κ) (labels : κ) :
    value (touchAll series counters) labels = value counters labels := by
  induction series generalizing counters with
  | nil => rfl
  | cons first series ih => exact (ih _).trans (value_touch counters first labels)

theorem mem_touchAll {series : List κ} {counters : CounterVec κ} {labels : κ} :
    labels ∈ touchAll series counters ↔ labels ∈ series ∨ labels ∈ counters := by
  induction series generalizing counters with
  | nil => simp [touchAll]
  | cons first series ih =>
    refine ih.trans ?_
    rw [mem_touch, List.mem_cons, or_left_comm, or_assoc]

theorem total_touchAll (series : List κ) (counters : CounterVec κ) :
    total (touchAll series counters) = total counters := by
  induction series generalizing counters with
  | nil => rfl
  | cons first series ih => exact (ih _).trans (total_touch counters first)

/-! ## 3. Events -/

def record (events : List κ) (counters : CounterVec κ) : CounterVec κ :=
  events.foldl (fun counters labels => inc labels counters) counters

theorem record_append (events later : List κ) (counters : CounterVec κ) :
    record (events ++ later) counters = record later (record events counters) :=
  List.foldl_append

/-- A series counts its events. -/
theorem value_record (events : List κ) (counters : CounterVec κ) (labels : κ) :
    value (record events counters) labels =
      value counters labels + events.countP fun event => decide (event = labels) := by
  induction events generalizing counters with
  | nil => rfl
  | cons event events ih =>
    show value (record events (inc event counters)) labels = _
    rw [ih, value_inc, List.countP_cons]
    simp only [decide_eq_true_eq]
    omega

theorem mem_record {events : List κ} {counters : CounterVec κ} {labels : κ} :
    labels ∈ record events counters ↔ labels ∈ events ∨ labels ∈ counters := by
  induction events generalizing counters with
  | nil => simp [record]
  | cons event events ih =>
    have hrest : labels ∈ record events (inc event counters) ↔
        labels ∈ events ∨ labels ∈ inc event counters := ih
    show labels ∈ record events (inc event counters) ↔ _
    rw [hrest, mem_inc, List.mem_cons, or_left_comm, or_assoc]

/-- Together the series count every event. -/
theorem total_record (events : List κ) (counters : CounterVec κ) :
    total (record events counters) = total counters + events.length := by
  induction events generalizing counters with
  | nil => rfl
  | cons event events ih =>
    show total (record events (inc event counters)) = _
    rw [ih, total_inc, List.length_cons]
    omega

/-- The same where some of the events are counted, each under its own labels. -/
theorem value_record_filterMap {ε : Type} (labelsOf : ε → Option κ) (events : List ε)
    (counters : CounterVec κ) (labels : κ) :
    value (record (events.filterMap labelsOf) counters) labels =
      value counters labels + events.countP fun event => decide (labelsOf event = some labels) := by
  rw [value_record, List.countP_filterMap]
  refine congrArg (value counters labels + ·) (List.countP_congr fun event _ => ?_)
  cases labelsOf event with
  | none => simp
  | some found => simp

theorem total_record_filterMap {ε : Type} (labelsOf : ε → Option κ) (events : List ε)
    (counters : CounterVec κ) :
    total (record (events.filterMap labelsOf) counters) =
      total counters + events.countP fun event => (labelsOf event).isSome := by
  rw [total_record, List.length_filterMap_eq_countP]

end Counters
