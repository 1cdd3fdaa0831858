import AvisoServer.Backend.StoreInvariant

/-!
# The order of evictions

A store on a new topic may evict another topic, the one whose newest message is the oldest. A topic
that lost its messages to deletions counts as one that was used just now.
-/

namespace AvisoServer

/-! ## 1. What an eviction removes -/

/-- The store removes this topic from the map. -/
def Evicts (config : InMemoryConfig) (clock : Clock) (topic payload : String)
    (metadata : Option (HashMap String)) (state : BackendState) (victim : String) : Prop :=
  victim ∈ state.topics ∧
    victim ∉ (storeMessage config clock topic payload metadata state).1.topics

/-- The latest message of a queue. -/
def TopicState.Latest (topicState : TopicState) (m : NotificationMessage) : Prop :=
  m ∈ topicState.messages ∧ ∀ other ∈ topicState.messages, other.sequence ≤ m.sequence

/-- The right order: a topic without messages goes before any topic with messages, and then no stored
message is lost; among topics with messages, one goes whose latest message is the oldest. -/
structure EvictedInOrder (state next : BackendState) (victim : String) : Prop where
  emptyFirst : ∀ key topicState, state.topics.get key = some topicState →
    topicState.messages = [] →
    ∀ evicted, state.topics.get victim = some evicted → evicted.messages = []
  oldest : (∀ key topicState, state.topics.get key = some topicState →
      topicState.messages ≠ []) →
    ∀ evicted latest, state.topics.get victim = some evicted → evicted.Latest latest →
    ∀ key topicState other, state.topics.get key = some topicState → topicState.Latest other →
    ∀ at_ otherAt, latest.timestamp = some at_ → other.timestamp = some otherAt → at_ ≤ otherAt
  kept : (∃ key topicState, state.topics.get key = some topicState ∧
      topicState.messages = []) →
    ∀ m ∈ state.stored, m ∈ next.stored

section Step

variable {config : InMemoryConfig} {clock : Clock} {topic payload : String}
  {metadata : Option (HashMap String)} {state : BackendState} {victim : String}

/-- The evicted topic has the least key, and every other topic stays as it is. -/
theorem evicts_oldest (h : Evicts config clock topic payload metadata state victim) :
    (∃ oldest, minByKey (newestTimestamp clock) state.topics.entries = some oldest ∧
      oldest.1 = victim) ∧
    ∀ key, key ∈ state.topics → key ≠ victim →
      (storeMessage config clock topic payload metadata state).1.topics.get key =
        state.topics.get key := by
  obtain ⟨hbefore, hafter⟩ := h
  unfold storeMessage at hafter ⊢
  by_cases hknown : topic ∈ state.topics
  · simp only [if_pos hknown, AList.mem_insert, not_or] at hafter
    exact absurd hbefore hafter.2
  simp only [if_neg hknown, AList.mem_insert, not_or] at hafter ⊢
  have hgone := hafter.2
  unfold enforceTopicLimit at hgone ⊢
  -- below the limit nothing is evicted
  by_cases hfull : config.maxTopics ≤ state.topics.entries.length
  · rw [if_pos hfull] at hgone ⊢
    cases holdest : minByKey (newestTimestamp clock) state.topics.entries with
    | none =>
      rw [holdest] at hgone
      exact absurd hbefore hgone
    | some oldest =>
      rw [holdest] at hgone
      simp only [AList.mem_erase, not_and] at hgone
      have hvictim : oldest.1 = victim := by
        by_contra hne
        exact hgone (Ne.symm hne) hbefore
      refine ⟨⟨oldest, rfl, hvictim⟩, ?_⟩
      intro key hkey hother
      have hnew : key ≠ topic := by
        rintro rfl
        exact hknown hkey
      exact (AList.lookup_insert_ne hnew).trans (AList.lookup_erase_ne (hvictim ▸ hother))
  · rw [if_neg hfull] at hgone
    exact absurd hbefore hgone

/-! ## 2. The keys of the eviction -/

/-- The key of a topic without messages is the time the eviction looked at it. -/
theorem newestTimestamp_empty (clock : Clock) {entry : Sigma fun _ : String => TopicState}
    (h : entry.2.messages = []) : newestTimestamp clock entry = clock.emptyTopic entry.1 := by
  unfold newestTimestamp
  rw [h]
  rfl

/-- The last message of a queue is its latest one. -/
theorem getLast_latest (hwell : state.WellFormed config)
    {entry : Sigma fun _ : String => TopicState} (hentry : entry ∈ state.topics.entries)
    (hne : entry.2.messages ≠ []) : entry.2.Latest (entry.2.messages.getLast hne) := by
  refine ⟨List.getLast_mem hne, ?_⟩
  intro other hother
  have hincreasing := (hwell.queues entry.1 entry.2 (get_of_mem_entries hentry)).increasing
  rw [← List.dropLast_append_getLast hne, List.map_append, List.pairwise_append] at hincreasing
  rw [← List.dropLast_append_getLast hne] at hother
  rcases List.mem_append.mp hother with hmem | hmem
  · exact le_of_lt (hincreasing.2.2 _ (List.mem_map_of_mem hmem) _ (by simp))
  · rw [List.mem_singleton.mp hmem]

/-- The key of a topic with messages is the time of its latest message. -/
theorem newestTimestamp_latest (clock : Clock) (hwell : state.WellFormed config)
    {entry : Sigma fun _ : String => TopicState} (hentry : entry ∈ state.topics.entries)
    {latest : NotificationMessage} (hlatest : entry.2.Latest latest) :
    latest.timestamp = some (newestTimestamp clock entry) := by
  have hget := get_of_mem_entries hentry
  have hne : entry.2.messages ≠ [] := List.ne_nil_of_mem hlatest.1
  have hlast := getLast_latest hwell hentry hne
  -- sequences are distinct, so the message with the greatest one is the last
  have hsame : latest.sequence = (entry.2.messages.getLast hne).sequence :=
    le_antisymm (hlast.2 latest hlatest.1) (hlatest.2 _ hlast.1)
  have heq : latest = entry.2.messages.getLast hne :=
    List.inj_on_of_nodup_map hwell.distinct (mem_stored_of_get hget hlatest.1)
      (mem_stored_of_get hget hlast.1) hsame
  obtain ⟨at_, hat⟩ := Option.isSome_iff_exists.mp
    (hwell.stamped latest (mem_stored_of_get hget hlatest.1))
  unfold newestTimestamp
  rw [List.getLast?_eq_getLast_of_ne_nil hne, ← heq, Option.bind_some, hat]
  rfl

/-! ## 3. When the order is right -/

/-- No stored message is newer than what the eviction reads from the clock. -/
def ClockAhead (clock : Clock) (state : BackendState) : Prop :=
  ∀ m ∈ state.stored, ∀ at_, m.timestamp = some at_ → ∀ key, at_ ≤ clock.emptyTopic key

/-- The map starts with topics without messages, and for one of them the clock is read at the very
time of the newest message of every topic that has messages. -/
def EmptyTopicWins (clock : Clock) (state : BackendState) : Prop :=
  ∃ before empty after, state.topics.entries = before ++ empty :: after ∧
    empty.2.messages = [] ∧ (∀ entry ∈ before, entry.2.messages = []) ∧
    ∀ entry ∈ state.topics.entries, ∀ latest at_, entry.2.Latest latest →
      latest.timestamp = some at_ → clock.emptyTopic empty.1 ≤ at_

theorem newestTimestamp_le (hwell : state.WellFormed config) (hclock : ClockAhead clock state)
    {entry : Sigma fun _ : String => TopicState} (hentry : entry ∈ state.topics.entries)
    (hne : entry.2.messages ≠ []) (key : String) :
    newestTimestamp clock entry ≤ clock.emptyTopic key := by
  have hlast := getLast_latest hwell hentry hne
  exact hclock _ (mem_stored_of_get (get_of_mem_entries hentry) hlast.1) _
    (newestTimestamp_latest clock hwell hentry hlast) key

/-- The evicted topic is without messages exactly when such a topic wins. -/
theorem oldest_empty_iff (hwell : state.WellFormed config) (hclock : ClockAhead clock state)
    {oldest : Sigma fun _ : String => TopicState}
    (holdest : minByKey (newestTimestamp clock) state.topics.entries = some oldest) :
    oldest.2.messages = [] ↔ EmptyTopicWins clock state := by
  obtain ⟨before, after, hsplit, hbefore, hafter⟩ := minByKey_split _ holdest
  have hmem : oldest ∈ state.topics.entries := minByKey_mem _ holdest
  constructor
  · intro hempty
    have hkey := newestTimestamp_empty clock hempty
    refine ⟨before, oldest, after, hsplit, hempty, ?_, ?_⟩
    · intro entry hentry
      by_contra hne
      have hstored : entry ∈ state.topics.entries := by
        rw [hsplit]
        exact List.mem_append_left _ hentry
      -- a topic with messages and a greater key would have a message newer than the clock
      have hlt := hbefore entry hentry
      have hle := newestTimestamp_le hwell hclock hstored hne oldest.1
      rw [hkey] at hlt
      exact absurd hlt (not_lt.mpr hle)
    · intro entry hentry latest at_ hlatest hat
      have htime := newestTimestamp_latest clock hwell hentry hlatest
      rw [hat, Option.some.injEq] at htime
      rw [← hkey, htime]
      exact minByKey_le _ holdest hentry
  · rintro ⟨front, empty, rest, hfront, hempty, hall, hleast⟩
    by_contra hne
    have hlast := getLast_latest hwell hmem hne
    have hle := hleast oldest hmem _ _ hlast
      (newestTimestamp_latest clock hwell hmem hlast)
    rw [← newestTimestamp_empty clock hempty] at hle
    -- the empty topic comes before the evicted one, which then has a smaller key
    rw [hsplit] at hfront
    rcases List.append_eq_append_iff.mp hfront with ⟨middle, hmiddle, hrest⟩ | ⟨middle, hmiddle, hrest⟩
    · cases middle with
      | nil =>
        rw [List.nil_append] at hrest
        rw [(List.cons.inj hrest).1] at hne
        exact hne hempty
      | cons first middle =>
        have hfirst : oldest = first := (List.cons.inj hrest).1
        refine hne (hall oldest ?_)
        rw [hmiddle, hfirst]
        exact List.mem_append_right _ List.mem_cons_self
    · cases middle with
      | nil =>
        rw [List.nil_append] at hrest
        rw [← (List.cons.inj hrest).1] at hne
        exact hne hempty
      | cons first middle =>
        have hfirst : empty = first := (List.cons.inj hrest).1
        have hlt := hbefore empty (by
          rw [hmiddle, hfirst]
          exact List.mem_append_right _ List.mem_cons_self)
        exact absurd hlt (not_lt.mpr hle)

/-- In every state of the store, an eviction keeps the right order exactly when no topic is without
messages, or one that is wins. -/
theorem evictedInOrder_iff {toLowercase : String → String} {assigned : List NotificationMessage}
    (hrun : StoreRun config toLowercase assigned state) (hclock : ClockAhead clock state)
    (hevicts : Evicts config clock topic payload metadata state victim) :
    EvictedInOrder state (storeMessage config clock topic payload metadata state).1 victim ↔
      (∀ entry ∈ state.topics.entries, entry.2.messages ≠ []) ∨ EmptyTopicWins clock state := by
  have hwell := (storeRun_wellFormed hrun).1
  obtain ⟨⟨oldest, holdest, rfl⟩, hothers⟩ := evicts_oldest hevicts
  have hget := get_of_mem_entries (minByKey_mem _ holdest)
  constructor
  · intro hordered
    by_cases hall : ∀ entry ∈ state.topics.entries, entry.2.messages ≠ []
    · exact Or.inl hall
    · push Not at hall
      obtain ⟨emptied, hmem, hempty⟩ := hall
      right
      rw [← oldest_empty_iff hwell hclock holdest]
      exact hordered.emptyFirst emptied.1 emptied.2 (get_of_mem_entries hmem) hempty oldest.2 hget
  -- without empty topics the key of a topic is the time of its latest message
  · rintro (hall | hwins)
    · have hnone : ∀ key topicState, state.topics.get key = some topicState →
          topicState.messages ≠ [] := fun key topicState hkey =>
        hall ⟨key, topicState⟩ (AList.mem_lookup_iff.mp hkey)
      refine ⟨?_, ?_, ?_⟩
      · intro key topicState hkey hempty
        exact absurd hempty (hnone key topicState hkey)
      · intro _ evicted latest hevicted hlatest key topicState other hkey hother at_ otherAt hat hotherAt
        rw [hget, Option.some.injEq] at hevicted
        subst hevicted
        have hentry : ⟨key, topicState⟩ ∈ state.topics.entries := AList.mem_lookup_iff.mp hkey
        rw [newestTimestamp_latest clock hwell (minByKey_mem _ holdest) hlatest,
          Option.some.injEq] at hat
        rw [newestTimestamp_latest clock hwell hentry hother,
          Option.some.injEq] at hotherAt
        rw [← hat, ← hotherAt]
        exact minByKey_le _ holdest hentry
      · rintro ⟨key, topicState, hkey, hempty⟩
        exact absurd hempty (hnone key topicState hkey)
    · have hempty := (oldest_empty_iff hwell hclock holdest).mpr hwins
      refine ⟨?_, ?_, ?_⟩
      · intro _ _ _ _ evicted hevicted
        rw [hget, Option.some.injEq] at hevicted
        rw [← hevicted]
        exact hempty
      · intro hnone
        exact absurd hempty (hnone oldest.1 oldest.2 hget)
      · intro _ m hm
        obtain ⟨key, topicState, hkey, hmem⟩ := mem_stored_iff.mp hm
        -- the evicted queue has no message to lose
        have hne : key ≠ oldest.1 := by
          rintro rfl
          rw [hget, Option.some.injEq] at hkey
          rw [← hkey, hempty] at hmem
          exact absurd hmem List.not_mem_nil
        have hpresent : key ∈ state.topics := AList.lookup_isSome.mp (by
          show (state.topics.get key).isSome = true
          rw [hkey]
          rfl)
        exact mem_stored_of_get ((hothers key hpresent hne).trans hkey) hmem

end Step

-- room for two topics, of which the second lost its only message
def pairConfig : InMemoryConfig where
  maxHistoryPerTopic := 4
  maxTopics := 2

def emptiedRd : BackendState :=
  (deleteMessage id "mars" 2
    (storeMessage pairConfig ⟨2, fun _ => 2⟩ "mars.rd" "2" none
      (storeMessage pairConfig ⟨1, fun _ => 1⟩ "mars.od" "1" none BackendState.initial).1).1).1

theorem emptiedRd_run : StoreRun pairConfig id
    [⟨1, "mars.od", "1", some 1, none⟩, ⟨2, "mars.rd", "2", some 2, none⟩] emptiedRd :=
  .step (.step (.step .initial (.storeMessage _ ⟨1, fun _ => 1⟩ "mars.od" "1" none))
    (.storeMessage _ ⟨2, fun _ => 2⟩ "mars.rd" "2" none)) (.deleteMessage _ "mars" 2)

theorem emptiedRd_clock : ClockAhead ⟨5, fun _ => 5⟩ emptiedRd := by
  have hstored : emptiedRd.stored = [⟨1, "mars.od", "1", some 1, none⟩] := by decide +kernel
  intro m hm at_ hat key
  rw [hstored, List.mem_singleton] at hm
  subst hm
  rw [← Option.some.inj hat]
  show (1 : Int) ≤ 5
  decide

theorem emptiedRd_evicts :
    Evicts pairConfig ⟨5, fun _ => 5⟩ "mars.sd" "3" none emptiedRd "mars.od" := by
  unfold Evicts
  decide +kernel

theorem evictedInOrder_iff_emptiedRd :
    EvictedInOrder emptiedRd
        (storeMessage pairConfig ⟨5, fun _ => 5⟩ "mars.sd" "3" none emptiedRd).1 "mars.od" ↔
      (∀ entry ∈ emptiedRd.topics.entries, entry.2.messages ≠ []) ∨
        EmptyTopicWins ⟨5, fun _ => 5⟩ emptiedRd :=
  evictedInOrder_iff emptiedRd_run emptiedRd_clock emptiedRd_evicts

/-- A topic with a message is evicted, and the message lost, while a topic without messages stays. -/
theorem emptiedRd_stays :
    StoreRun pairConfig id
        [⟨1, "mars.od", "1", some 1, none⟩, ⟨2, "mars.rd", "2", some 2, none⟩] emptiedRd ∧
      ClockAhead ⟨5, fun _ => 5⟩ emptiedRd ∧
      Evicts pairConfig ⟨5, fun _ => 5⟩ "mars.sd" "3" none emptiedRd "mars.od" ∧
      ¬ EvictedInOrder emptiedRd
        (storeMessage pairConfig ⟨5, fun _ => 5⟩ "mars.sd" "3" none emptiedRd).1 "mars.od" := by
  refine ⟨emptiedRd_run, emptiedRd_clock, emptiedRd_evicts, ?_⟩
  intro hordered
  have hempty := hordered.emptyFirst "mars.rd" ⟨[], 1⟩ (by decide +kernel) rfl
    ⟨[⟨1, "mars.od", "1", some 1, none⟩], 1⟩ (by decide +kernel)
  exact absurd hempty (by decide)

end AvisoServer
