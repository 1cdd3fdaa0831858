import AvisoServer.Backend.StoreInvariant
import AvisoServer.Sse.Streams

/-!
# The end of a replay

A replay ends at the last message stored when it starts, or before, at an inclusive sequence or
date. A date becomes the sequence before the first message stored after it, which is looked up after
the history end was read; the store may change between the two.
-/

namespace AvisoServer

/-! ## 1. The first later message -/

/-- The least sequence of the messages stored after a time. -/
def firstAfter (messages : List NotificationMessage) (at_ : DateTime) : Option Nat :=
  ((messages.filter fun message => message.timestamp.any fun stored => at_ < stored).map
    (·.sequence)).min?

theorem firstSequenceAfter_eq {state : BackendState} {topic coarse : String}
    {pattern : List String} (htopic : analyzeWatchPattern topic = .ok (coarse, pattern))
    (at_ : DateTime) :
    firstSequenceAfter state topic at_ = .ok (firstAfter (matchingMessages state pattern) at_) := by
  unfold firstSequenceAfter
  rw [htopic]
  rfl

theorem firstAfter_eq_none {messages : List NotificationMessage} {at_ : DateTime}
    (h : firstAfter messages at_ = none) {m : NotificationMessage} (hm : m ∈ messages)
    {stored : DateTime} (hstored : m.timestamp = some stored) : stored ≤ at_ := by
  unfold firstAfter at h
  rw [List.min?_eq_none_iff, List.map_eq_nil_iff, List.filter_eq_nil_iff] at h
  have hlater := h m hm
  rw [hstored, Option.any_some, decide_eq_true_eq] at hlater
  exact Int.not_lt.mp hlater

/-- With timestamps in order, the messages from the first later one on are the later ones. -/
theorem firstAfter_le_iff {messages : List NotificationMessage}
    (hmono : TimestampsMonotone (· ∈ messages)) {at_ : DateTime} {first : Nat}
    (h : firstAfter messages at_ = some first) {m : NotificationMessage} (hm : m ∈ messages)
    {stored : DateTime} (hstored : m.timestamp = some stored) :
    first ≤ m.sequence ↔ at_ < stored := by
  obtain ⟨hfirst, hleast⟩ := List.min?_eq_some_iff.mp h
  constructor
  · intro hle
    obtain ⟨x, hx, rfl⟩ := List.mem_map.mp hfirst
    obtain ⟨hmem, hlater⟩ := List.mem_filter.mp hx
    cases hxStored : x.timestamp with
    | none =>
      rw [hxStored] at hlater
      cases hlater
    | some xStored =>
      rw [hxStored, Option.any_some, decide_eq_true_eq] at hlater
      exact Int.lt_of_lt_of_le hlater (hmono x m hmem hm hle xStored stored hxStored hstored)
  · intro hlater
    apply hleast
    apply List.mem_map_of_mem
    apply List.mem_filter.mpr
    rw [hstored, Option.any_some, decide_eq_true_eq]
    exact ⟨hm, hlater⟩

/-! ## 2. The end sequence -/

/-- The messages at or before the end. -/
def EndAt.admits : EndAt → NotificationMessage → Bool
  | .latest, _ => true
  | .sequence toId, m => m.sequence ≤ toId
  | .date toDate, m => m.timestamp.any fun stored => stored ≤ toDate

/-- Whatever messages bound the end, one of them is in range when it is in the history and at or
before the end. -/
theorem resolveEndSequence_spec {messages : List NotificationMessage}
    (hmono : TimestampsMonotone (· ∈ messages)) (historyEnd : Nat) (endAt : EndAt) :
    ∃ e, resolveEndSequence (.ok historyEnd) (fun at_ => .ok (firstAfter messages at_)) endAt =
        .ok e ∧ e ≤ historyEnd ∧
      ∀ m ∈ messages, 0 < m.sequence → m.timestamp.isSome = true →
        (m.sequence ≤ e ↔ m.sequence ≤ historyEnd ∧ endAt.admits m = true) := by
  cases endAt with
  | latest =>
    refine ⟨historyEnd, rfl, Nat.le_refl _, ?_⟩
    intro m _ _ _
    simp [EndAt.admits]
  | sequence toId =>
    refine ⟨min historyEnd toId, rfl, Nat.min_le_left _ _, ?_⟩
    intro m _ _ _
    simp [EndAt.admits]
  | date toDate =>
    unfold resolveEndSequence
    simp only [bind, Except.bind]
    cases hfirst : firstAfter messages toDate with
    | none =>
      refine ⟨historyEnd, rfl, Nat.le_refl _, ?_⟩
      intro m hm _ hstamp
      obtain ⟨stored, hstored⟩ := Option.isSome_iff_exists.mp hstamp
      have hbefore := firstAfter_eq_none hfirst hm hstored
      simp [EndAt.admits, hstored, hbefore]
    | some first =>
      refine ⟨min historyEnd (first - 1), rfl, Nat.min_le_left _ _, ?_⟩
      intro m hm hpos hstamp
      obtain ⟨stored, hstored⟩ := Option.isSome_iff_exists.mp hstamp
      have hlater := firstAfter_le_iff hmono hfirst hm hstored
      have hbefore : m.sequence ≤ first - 1 ↔ stored ≤ toDate := by
        rw [← Int.not_lt, ← hlater]
        omega
      simp [EndAt.admits, hstored, hbefore]

/-! ## 3. Two readings of a changing store -/

/-- The store changed by finitely many operations. -/
def StoreChanges (config : InMemoryConfig) (toLowercase : String → String) :
    BackendState → BackendState → Prop :=
  Relation.ReflTransGen fun state next => ∃ sent, StoreStep config toLowercase state sent next

section Changes

variable {config : InMemoryConfig} {toLowercase : String → String} {before after : BackendState}

theorem StoreChanges.reachable (hchanges : StoreChanges config toLowercase before after)
    (h : Reachable config toLowercase before) : Reachable config toLowercase after := by
  induction hchanges with
  | refl => exact h
  | tail _ hstep ih =>
    obtain ⟨sent, hstep⟩ := hstep
    exact ih.step hstep

theorem StoreChanges.next_le (hchanges : StoreChanges config toLowercase before after) :
    before.nextSequence ≤ after.nextSequence := by
  induction hchanges with
  | refl => exact Nat.le_refl _
  | tail _ hstep ih =>
    obtain ⟨sent, hstep⟩ := hstep
    exact ih.trans (storeStep_next_le hstep)

/-- A message from before the first reading is still the one it was. -/
theorem StoreChanges.old_message (hchanges : StoreChanges config toLowercase before after)
    {m : NotificationMessage} (hm : m ∈ after.stored) (hold : m.sequence < before.nextSequence) :
    m ∈ before.stored := by
  induction hchanges with
  | refl => exact hm
  | @tail state next hbefore hstep ih =>
    apply ih
    obtain ⟨sent, hstep⟩ := hstep
    rcases storeStep_cases hstep with
      ⟨-, -, hstored⟩ | ⟨msg, rest, -, hsequence, -, -, hstored, hrest⟩
    · exact hstored.subset hm
    · cases List.mem_cons.mp (hstored.subset hm) with
      | inl hnew =>
        have hle := StoreChanges.next_le hbefore
        rw [hnew] at hold
        omega
      | inr hrestMem => exact hrest.subset hrestMem

theorem reachable_positive {state : BackendState} (h : Reachable config toLowercase state) :
    ∀ m ∈ state.stored, 0 < m.sequence := by
  induction h with
  | initial =>
    intro m hm
    cases hm
  | step hreachable hstep ih =>
    intro m hm
    rcases storeStep_cases hstep with
      ⟨-, -, hstored⟩ | ⟨msg, rest, -, hsequence, -, -, hstored, hrest⟩
    · exact ih m (hstored.subset hm)
    · cases List.mem_cons.mp (hstored.subset hm) with
      | inl hnew =>
        rw [hnew, hsequence]
        exact (reachable_valid hreachable).positive
      | inr hold => exact ih m (hrest.subset hold)

end Changes

theorem matchingMessages_stored {state : BackendState} {pattern : List String}
    {m : NotificationMessage} (hm : m ∈ matchingMessages state pattern) :
    m ∈ state.stored ∧ matchesWatchPattern m.topic pattern = true :=
  List.mem_filter.mp hm

/-- A matching message that is still stored is in range exactly when it was part of the history and
is at or before the end, whichever superset of the topic's messages bounds the end. -/
theorem replayEnd_iff {config : InMemoryConfig} {toLowercase : String → String}
    {captured read final : BackendState} (hcaptured : Reachable config toLowercase captured)
    (hread : StoreChanges config toLowercase captured read)
    (hfinal : StoreChanges config toLowercase read final)
    (hmono : TimestampsMonotone (· ∈ read.stored)) {topic coarse : String} {pattern : List String}
    (htopic : analyzeWatchPattern topic = .ok (coarse, pattern)) (endAt : EndAt) :
    ∃ last, historyEnd captured topic = .ok last ∧
      (∃ e, resolveEndSequence (historyEnd captured topic) (firstSequenceAfter read topic) endAt =
          .ok e ∧
        ∀ m ∈ matchingMessages final pattern,
          m.sequence ≤ e ↔ m.sequence ≤ last ∧ endAt.admits m = true) ∧
      ∀ wider, matchingMessages read pattern ⊆ wider → TimestampsMonotone (· ∈ wider) →
        ∃ e, resolveEndSequence (historyEnd captured topic)
            (fun at_ => .ok (firstAfter wider at_)) endAt = .ok e ∧
          ∀ m ∈ matchingMessages final pattern,
            m.sequence ≤ e ↔ m.sequence ≤ last ∧ endAt.admits m = true := by
  have hlast : historyEnd captured topic = .ok (captured.nextSequence - 1) := by
    unfold historyEnd
    rw [htopic]
    rfl
  -- every superset of the matching messages bounds the end alike, the messages themselves too
  have hbound : ∀ wider, matchingMessages read pattern ⊆ wider →
      TimestampsMonotone (· ∈ wider) →
      ∃ e, resolveEndSequence (historyEnd captured topic)
          (fun at_ => .ok (firstAfter wider at_)) endAt = .ok e ∧
        ∀ m ∈ matchingMessages final pattern,
          m.sequence ≤ e ↔ m.sequence ≤ captured.nextSequence - 1 ∧ endAt.admits m = true := by
    intro wider hsuperset hwider
    obtain ⟨e, hresolve, hle, hspec⟩ :=
      resolveEndSequence_spec hwider (captured.nextSequence - 1) endAt
    refine ⟨e, by rw [hlast]; exact hresolve, ?_⟩
    intro m hm
    obtain ⟨hstored, hmatch⟩ := matchingMessages_stored hm
    have hreachable := hfinal.reachable (hread.reachable hcaptured)
    have hpos := reachable_positive hreachable m hstored
    have hstamp := (reachable_valid hreachable).stamped m hstored
    have hpositive := (reachable_valid hcaptured).positive
    by_cases hold : m.sequence ≤ captured.nextSequence - 1
    · -- it was stored when the bound was computed
      have hnext := hread.next_le
      have hmem : m ∈ wider := by
        apply hsuperset
        apply List.mem_filter.mpr
        exact ⟨hfinal.old_message hstored (by omega), hmatch⟩
      exact hspec m hmem hpos hstamp
    · exact iff_of_false (by omega) (fun hin => hold hin.1)
  refine ⟨captured.nextSequence - 1, hlast, ?_, hbound⟩
  obtain ⟨e, hresolve, hspec⟩ := hbound (matchingMessages read pattern) (fun _ hm => hm) <| by
    intro x y hx hy
    exact hmono x y (matchingMessages_stored hx).1 (matchingMessages_stored hy).1
  refine ⟨e, ?_, hspec⟩
  rw [← hresolve]
  congr 1
  funext at_
  exact firstSequenceAfter_eq htopic at_

-- the message of `mars.rd` is stored between the two readings of a replay up to time six
def odOnly : BackendState :=
  (storeMessage twoTopicsConfig ⟨5, fun _ => 5⟩ "mars.od" "1" none BackendState.initial).1

theorem odOnly_reachable : Reachable twoTopicsConfig id odOnly :=
  Reachable.initial.step (.storeMessage _ _ _ _ _)

theorem odOnly_twoTopics : StoreChanges twoTopicsConfig id odOnly twoTopics :=
  Relation.ReflTransGen.single ⟨_, .storeMessage odOnly ⟨7, fun _ => 7⟩ "mars.rd" "2" none⟩

theorem replayEnd_iff_twoTopics :
    ∃ last, historyEnd odOnly "mars.%2A" = .ok last ∧
      (∃ e, resolveEndSequence (historyEnd odOnly "mars.%2A")
          (firstSequenceAfter twoTopics "mars.%2A") (.date 6) = .ok e ∧
        ∀ m ∈ matchingMessages twoTopics ["mars", "*"],
          m.sequence ≤ e ↔ m.sequence ≤ last ∧ (EndAt.date 6).admits m = true) ∧
      ∀ wider, matchingMessages twoTopics ["mars", "*"] ⊆ wider →
        TimestampsMonotone (· ∈ wider) →
        ∃ e, resolveEndSequence (historyEnd odOnly "mars.%2A")
            (fun at_ => .ok (firstAfter wider at_)) (.date 6) = .ok e ∧
          ∀ m ∈ matchingMessages twoTopics ["mars", "*"],
            m.sequence ≤ e ↔ m.sequence ≤ last ∧ (EndAt.date 6).admits m = true :=
  replayEnd_iff odOnly_reachable odOnly_twoTopics Relation.ReflTransGen.refl twoTopics_monotone
    (analyzeWatchPattern_encodeSubject ["mars", "*"] (by simp)) (.date 6)

end AvisoServer
