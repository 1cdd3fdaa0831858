import AvisoServer.Backend.Eviction
import AvisoServer.Backend.StreamMembership
import AvisoServer.Lib.BoundedQueue

/-!
# What the in-memory store retains

A topic's queue is a window over the messages stored on the topic, until something else is removed
from it. A single message stays as long as nothing removes it by name, its topic is not evicted and
the window has not moved past it.
-/

namespace AvisoServer

/-! ## 1. Traces -/

/-- An operation, with the state it was applied to. -/
structure StoreEvent where
  before : BackendState
  operation : StoreOperation

section Events

variable (config : InMemoryConfig) (toLowercase : String → String)

def StoreEvent.sent (event : StoreEvent) : Option NotificationMessage :=
  (event.operation.apply config toLowercase event.before).2

/-- Operations one after the other; the map may change its iteration order at any time. -/
inductive StoreTrace (start : BackendState) : List StoreEvent → BackendState → Prop where
  | refl : StoreTrace start [] start
  | apply {events : List StoreEvent} {state : BackendState} (operation : StoreOperation) :
      StoreTrace start events state →
      StoreTrace start (events ++ [⟨state, operation⟩])
        (operation.apply config toLowercase state).1
  | rehash {events : List StoreEvent} {state : BackendState} {topics : HashMap TopicState}
      (horder : topics.entries.Perm state.topics.entries) :
      StoreTrace start events state → StoreTrace start events { state with topics := topics }

/-- The messages a trace stored on a topic, oldest first. -/
def storedOn (key : String) (events : List StoreEvent) : List NotificationMessage :=
  (events.filterMap (StoreEvent.sent config toLowercase)).filter (·.topic = key)

end Events

def BackendState.queue (state : BackendState) (key : String) : List NotificationMessage :=
  ((state.topics.get key).getD TopicState.new).messages

section Operations

variable (config : InMemoryConfig) (toLowercase : String → String)

/-- The operation takes nothing away from the topic: it evicts and wipes others, and it deletes no
message of this one. -/
def StoreEvent.Leaves (event : StoreEvent) (key : String) : Prop :=
  match event.operation with
  | .storeMessage clock topic payload metadata =>
    ¬ Evicts config clock topic payload metadata event.before key
  | .wipeStream streamKey =>
    startsWith (toLowercase key) (streamPrefix toLowercase streamKey) = false
  | .wipeAll => key ∉ event.before.topics
  | .deleteMessage streamKey sequence =>
    topicInStream toLowercase streamKey key = true →
      ∀ m ∈ event.before.queue key, m.sequence ≠ sequence

/-- The operation does not take this message away other than by storing on its topic. -/
def StoreEvent.Spares (event : StoreEvent) (m : NotificationMessage) : Prop :=
  match event.operation with
  | .storeMessage clock topic payload metadata =>
    ¬ Evicts config clock topic payload metadata event.before m.topic
  | .wipeStream streamKey =>
    startsWith (toLowercase m.topic) (streamPrefix toLowercase streamKey) = false
  | .wipeAll => False
  | .deleteMessage streamKey sequence =>
    topicInStream toLowercase streamKey m.topic = true → m.sequence ≠ sequence

end Operations

/-! ## 2. Queues after an operation -/

theorem queue_of_get {state next : BackendState} {key : String}
    (h : next.topics.get key = state.topics.get key) : next.queue key = state.queue key := by
  rw [BackendState.queue, BackendState.queue, h]

theorem mem_stored_of_queue {state : BackendState} {key : String} {m : NotificationMessage}
    (hm : m ∈ state.queue key) : m ∈ state.stored := by
  rw [BackendState.queue] at hm
  cases hget : state.topics.get key with
  | none =>
    rw [hget] at hm
    cases hm
  | some topicState =>
    rw [hget] at hm
    exact mem_stored_of_get hget hm

theorem mem_queue_of_stored {config : InMemoryConfig} {state : BackendState}
    (hwell : state.WellFormed config) {m : NotificationMessage} (hm : m ∈ state.stored) :
    m ∈ state.queue m.topic := by
  obtain ⟨key, topicState, hget, hmem⟩ := mem_stored_iff.mp hm
  rw [(hwell.queues key topicState hget).owned m hmem, BackendState.queue, hget]
  exact hmem

section Queues

variable {config : InMemoryConfig} {toLowercase : String → String} {state : BackendState}
  {key : String}

theorem queue_wellFormed (hwell : state.WellFormed config) (key : String) :
    (state.queue key).length ≤ max 1 config.maxHistoryPerTopic ∧
      (state.queue key).Pairwise fun x y => x.sequence < y.sequence := by
  rw [BackendState.queue]
  cases hget : state.topics.get key with
  | none => exact ⟨Nat.zero_le _, List.Pairwise.nil⟩
  | some topicState =>
    have hqueue := hwell.queues key topicState hget
    exact ⟨hqueue.bounded, List.pairwise_map.mp hqueue.increasing⟩

/-- A store pushes to the queue of its topic. -/
theorem storeMessage_queue (clock : Clock) (topic payload : String)
    (metadata : Option (HashMap String)) :
    (storeMessage config clock topic payload metadata state).1.queue topic =
      BoundedQueue.push config.maxHistoryPerTopic (state.queue topic)
        (storeMessage config clock topic payload metadata state).2 := by
  -- the queue pushed to is that of the map after the eviction, which has not touched it
  have hqueue : (((if topic ∈ state.topics then state.topics
      else enforceTopicLimit config clock state.topics).get topic).getD TopicState.new).messages =
        state.queue topic := by
    by_cases hknown : topic ∈ state.topics
    · rw [if_pos hknown]
      rfl
    · rw [if_neg hknown]
      obtain ⟨evicted, hevicted⟩ := enforceTopicLimit_get config clock state.topics
      have hnone : state.topics.get topic = none := AList.lookup_eq_none.mpr hknown
      rw [hevicted, BackendState.queue, hnone, ite_self]
  rw [BoundedQueue.push, ← hqueue, BackendState.queue]
  have hget : (storeMessage config clock topic payload metadata state).1.topics.get topic =
      some (TopicState.push config (((if topic ∈ state.topics then state.topics
        else enforceTopicLimit config clock state.topics).get topic).getD TopicState.new)
          (storeMessage config clock topic payload metadata state).2) :=
    AList.lookup_insert _
  rw [hget]
  rfl

/-- A store leaves the queues of the other topics that it does not evict. -/
theorem storeMessage_other {clock : Clock} {topic payload : String}
    {metadata : Option (HashMap String)} (hother : key ≠ topic)
    (hstays : ¬ Evicts config clock topic payload metadata state key) :
    (storeMessage config clock topic payload metadata state).1.queue key = state.queue key := by
  obtain ⟨-, -, -, evicted, -, hothers⟩ :=
    storeMessage_get config clock topic payload metadata state
  have hget := hothers key hother
  apply queue_of_get
  by_cases hevicted : evicted = some key
  · rw [if_pos hevicted] at hget
    have hgone : key ∉ (storeMessage config clock topic payload metadata state).1.topics :=
      AList.lookup_eq_none.mp hget
    have hunknown : key ∉ state.topics := fun hmem => hstays ⟨hmem, hgone⟩
    rw [hget]
    exact (AList.lookup_eq_none.mpr hunknown).symm
  · rw [if_neg hevicted] at hget
    exact hget

/-- A deletion takes the sequence out of the first queue of the stream that has it. -/
theorem deleteMessage_queue (toLowercase : String → String) (streamKey : String) (sequence : Nat) :
    (deleteMessage toLowercase streamKey sequence state).1.queue key = state.queue key ∨
      topicInStream toLowercase streamKey key = true ∧
        (∃ m ∈ state.queue key, m.sequence = sequence) ∧
        (deleteMessage toLowercase streamKey sequence state).1.queue key =
          (state.queue key).eraseP fun message => message.sequence = sequence := by
  unfold deleteMessage
  cases hfind : state.topics.entries.find? (holdsSequence toLowercase streamKey sequence) with
  | none => exact Or.inl rfl
  | some entry =>
    have hget := get_of_mem_entries (List.mem_of_find?_eq_some hfind)
    have hholds := List.find?_some hfind
    rw [holdsSequence, Bool.and_eq_true] at hholds
    simp only [BackendState.queue, HashMap.get_replace]
    by_cases hkey : key = entry.1
    · right
      have hfound : state.topics.get key = some entry.2 := by
        rw [hkey]
        exact hget
      rw [hfound, if_pos hkey]
      refine ⟨by rw [hkey]; exact hholds.1, ?_, rfl⟩
      obtain ⟨m, hm, hsequence⟩ := List.any_eq_true.mp hholds.2
      exact ⟨m, hm, of_decide_eq_true hsequence⟩
    · left
      rw [if_neg hkey]

theorem apply_wellFormed (hwell : state.WellFormed config) (operation : StoreOperation) :
    (operation.apply config toLowercase state).1.WellFormed config :=
  storeStep_wellFormed hwell (StoreOperation.apply_step config toLowercase state operation)

theorem rehash_queue {topics : HashMap TopicState}
    (horder : topics.entries.Perm state.topics.entries) :
    ({ state with topics := topics } : BackendState).queue key = state.queue key :=
  queue_of_get (AList.perm_lookup horder)

end Queues

/-! ## 3. The window -/

section Window

variable {config : InMemoryConfig} {toLowercase : String → String} {key : String}

theorem storedOn_append (events : List StoreEvent) (event : StoreEvent) :
    storedOn config toLowercase key (events ++ [event]) =
      storedOn config toLowercase key events ++
        (event.sent config toLowercase).toList.filter (·.topic = key) := by
  rw [storedOn, storedOn, List.filterMap_append, List.filter_append]
  cases hsent : event.sent config toLowercase with
  | none => simp [hsent]
  | some m => simp [hsent]

/-- What a topic keeps of an operation that takes nothing away from it. -/
theorem StoreEvent.Leaves.queue {event : StoreEvent}
    (h : event.Leaves config toLowercase key) (hwell : event.before.WellFormed config) :
    (event.operation.apply config toLowercase event.before).1.queue key =
      (event.before.queue key ++
        (event.sent config toLowercase).toList.filter (·.topic = key)).rtake
          (max 1 config.maxHistoryPerTopic) := by
  have hbounded := (queue_wellFormed hwell key).1
  -- nothing is sent to the topic by any operation that leaves its queue alone
  have hsame {state : BackendState} (hqueue : state.queue key = event.before.queue key) :
      state.queue key = (event.before.queue key ++ []).rtake (max 1 config.maxHistoryPerTopic) := by
    rw [List.append_nil, BoundedQueue.rtake_of_length_le hbounded, hqueue]
  obtain ⟨before, operation⟩ := event
  cases operation with
  | storeMessage clock topic payload metadata =>
    by_cases hkey : topic = key
    · subst hkey
      have hsent : ((StoreEvent.mk before (.storeMessage clock topic payload metadata)).sent config
          toLowercase).toList.filter (fun m => m.topic = topic) =
            [(storeMessage config clock topic payload metadata before).2] :=
        List.filter_cons_of_pos (decide_eq_true rfl)
      rw [hsent, ← BoundedQueue.push_eq_rtake _ _ _ hbounded]
      exact storeMessage_queue clock topic payload metadata
    · have hsent : ((StoreEvent.mk before (.storeMessage clock topic payload metadata)).sent config
          toLowercase).toList.filter (fun m => m.topic = key) = [] :=
        List.filter_cons_of_neg fun hsame => hkey (of_decide_eq_true hsame)
      rw [hsent]
      exact hsame (storeMessage_other (Ne.symm hkey) h)
  | wipeStream streamKey =>
    have houtside : startsWith (toLowercase key) (streamPrefix toLowercase streamKey) = false := h
    apply hsame
    apply queue_of_get
    have hget := wipeStream_get toLowercase streamKey before key
    rw [houtside] at hget
    exact hget
  | wipeAll =>
    have hnone : before.topics.get key = none := AList.lookup_eq_none.mpr h
    apply hsame
    apply queue_of_get
    rw [hnone]
    rfl
  | deleteMessage streamKey sequence =>
    apply hsame
    rcases deleteMessage_queue toLowercase streamKey sequence with
      hqueue | ⟨hstream, ⟨m, hm, hsequence⟩, -⟩
    · exact hqueue
    · exact absurd hsequence (h hstream m hm)

theorem storeTrace_wellFormed {start final : BackendState} {events : List StoreEvent}
    (hwell : start.WellFormed config) (htrace : StoreTrace config toLowercase start events final) :
    final.WellFormed config := by
  induction htrace with
  | refl => exact hwell
  | apply operation _ ih => exact apply_wellFormed ih operation
  | @rehash events state topics horder _ ih =>
    have hstep : StoreStep config toLowercase state none { state with topics := topics } :=
      .rehash state topics horder
    exact storeStep_wellFormed ih hstep

/-- While nothing is taken away from a topic, its queue is the window over what it held and what
was stored on it. -/
theorem storeTrace_queue {start final : BackendState} {events : List StoreEvent}
    (hwell : start.WellFormed config) (htrace : StoreTrace config toLowercase start events final)
    (hleaves : ∀ event ∈ events, event.Leaves config toLowercase key) :
    final.queue key = (start.queue key ++ storedOn config toLowercase key events).rtake
      (max 1 config.maxHistoryPerTopic) := by
  induction htrace with
  | refl =>
    rw [storedOn, List.filterMap_nil, List.filter_nil, List.append_nil,
      BoundedQueue.rtake_of_length_le (queue_wellFormed hwell key).1]
  | @apply events state operation htrace ih =>
    have hbefore := ih fun event hevent => hleaves event (List.mem_append_left _ hevent)
    have hlast : (StoreEvent.mk state operation).Leaves config toLowercase key :=
      hleaves _ (List.mem_append_right _ (List.mem_singleton_self _))
    have hnext := hlast.queue (storeTrace_wellFormed hwell htrace)
    rw [storedOn_append, ← List.append_assoc, ← BoundedQueue.rtake_append, ← hbefore]
    exact hnext
  | rehash horder _ ih =>
    rw [rehash_queue horder]
    exact ih hleaves

end Window

/-! ## 4. One message -/

section Message

variable {config : InMemoryConfig} {toLowercase : String → String} {m : NotificationMessage}

/-- The messages of a queue that are younger than this one. -/
def younger (m : NotificationMessage) (queue : List NotificationMessage) :
    List NotificationMessage :=
  queue.filter fun other => m.sequence < other.sequence

/-- The head of a full queue has as many younger messages behind it as the queue has room for. -/
theorem mem_push_of_younger {queue : List NotificationMessage} {x : NotificationMessage}
    {capacity : Nat} (hordered : queue.Pairwise fun x y => x.sequence < y.sequence)
    (hm : m ∈ queue) (hroom : (younger m queue).length + 1 < max 1 capacity) :
    m ∈ BoundedQueue.push capacity queue x := by
  apply BoundedQueue.mem_push hm
  intro hfull
  cases queue with
  | nil => cases hm
  | cons first rest =>
    rcases List.mem_cons.mp hm with heq | hmem
    · have hall : younger m rest = rest := List.filter_eq_self.mpr fun other hother => by
        rw [heq]
        exact decide_eq_true ((List.pairwise_cons.mp hordered).1 other hother)
      have hlength : rest.length ≤ (younger m (first :: rest)).length := by
        have hsub : (younger m rest).Sublist (younger m (first :: rest)) :=
          (List.sublist_cons_self first rest).filter _
        rw [hall] at hsub
        exact hsub.length_le
      rw [List.length_cons] at hfull
      omega
    · exact hmem

theorem younger_push_le (capacity : Nat) (queue : List NotificationMessage)
    (x : NotificationMessage) :
    (younger m (BoundedQueue.push capacity queue x)).length ≤ (younger m queue).length + 1 := by
  have hsub : (BoundedQueue.push capacity queue x).Sublist (queue ++ [x]) := by
    rw [BoundedQueue.push]
    apply List.Sublist.append _ (List.Sublist.refl _)
    by_cases hfull : capacity ≤ queue.length
    · rw [if_pos hfull]
      exact List.tail_sublist _
    · rw [if_neg hfull]
  have hlength := (hsub.filter fun other => decide (m.sequence < other.sequence)).length_le
  rw [List.filter_append, List.length_append] at hlength
  have hone : ([x].filter fun other => decide (m.sequence < other.sequence)).length ≤ 1 :=
    List.length_filter_le _ _
  exact hlength.trans (Nat.add_le_add_left hone _)

/-- A queue in which the message has at most this many younger ones. -/
structure Held (state : BackendState) (m : NotificationMessage) (bound : Nat) : Prop where
  mem : m ∈ state.queue m.topic
  younger : (younger m (state.queue m.topic)).length ≤ bound

/-- An operation that spares the message keeps it, unless it pushes out the window. -/
theorem StoreEvent.Spares.held {event : StoreEvent} {bound : Nat}
    (h : event.Spares config toLowercase m) (hwell : event.before.WellFormed config)
    (hheld : Held event.before m bound)
    (hroom : bound + ((event.sent config toLowercase).toList.filter (·.topic = m.topic)).length <
      max 1 config.maxHistoryPerTopic) :
    Held (event.operation.apply config toLowercase event.before).1 m
      (bound + ((event.sent config toLowercase).toList.filter (·.topic = m.topic)).length) := by
  -- every operation but two leaves the queue of the topic as it is
  have hsame {state : BackendState} {extra : Nat}
      (hqueue : state.queue m.topic = event.before.queue m.topic) :
      Held state m (bound + extra) := by
    refine ⟨by rw [hqueue]; exact hheld.mem, ?_⟩
    rw [hqueue]
    exact hheld.younger.trans (Nat.le_add_right _ _)
  obtain ⟨before, operation⟩ := event
  cases operation with
  | storeMessage clock topic payload metadata =>
    by_cases hkey : topic = m.topic
    · have hsent : ((StoreEvent.mk before (.storeMessage clock topic payload metadata)).sent config
          toLowercase).toList.filter (fun x => x.topic = m.topic) =
            [(storeMessage config clock topic payload metadata before).2] :=
        List.filter_cons_of_pos (decide_eq_true hkey)
      have hqueue : (storeMessage config clock topic payload metadata before).1.queue m.topic =
          BoundedQueue.push config.maxHistoryPerTopic (before.queue m.topic)
            (storeMessage config clock topic payload metadata before).2 := by
        rw [← hkey]
        exact storeMessage_queue clock topic payload metadata
      rw [hsent, List.length_singleton] at hroom ⊢
      have hyounger : (AvisoServer.younger m (before.queue m.topic)).length ≤ bound :=
        hheld.younger
      -- the new message is one more that is younger, and there is still room for it
      refine ⟨?_, ?_⟩
      · change m ∈ (storeMessage config clock topic payload metadata before).1.queue m.topic
        rw [hqueue]
        exact mem_push_of_younger (queue_wellFormed hwell m.topic).2 hheld.mem (by omega)
      · change (AvisoServer.younger m
          ((storeMessage config clock topic payload metadata before).1.queue m.topic)).length ≤ _
        rw [hqueue]
        exact (younger_push_le _ _ _).trans (Nat.succ_le_succ hyounger)
    · exact hsame (storeMessage_other (Ne.symm hkey) h)
  | wipeStream streamKey =>
    have houtside : startsWith (toLowercase m.topic) (streamPrefix toLowercase streamKey) =
      false := h
    apply hsame
    apply queue_of_get
    have hget := wipeStream_get toLowercase streamKey before m.topic
    rw [houtside] at hget
    exact hget
  | wipeAll => exact absurd h id
  | deleteMessage streamKey sequence =>
    have hcases := @deleteMessage_queue before m.topic toLowercase streamKey sequence
    rcases hcases with hqueue | ⟨hstream, -, hqueue⟩
    · exact hsame hqueue
    · -- another message of the topic is deleted
      have hother : m.sequence ≠ sequence := h hstream
      refine ⟨?_, ?_⟩
      · change m ∈ (deleteMessage toLowercase streamKey sequence before).1.queue m.topic
        rw [hqueue]
        exact (List.mem_eraseP_of_neg (by simpa using hother)).mpr hheld.mem
      · change (AvisoServer.younger m
          ((deleteMessage toLowercase streamKey sequence before).1.queue m.topic)).length ≤ _
        rw [hqueue]
        exact ((List.eraseP_sublist.filter _).length_le.trans hheld.younger).trans
          (Nat.le_add_right _ _)

theorem storeTrace_held {start final : BackendState} {events : List StoreEvent} {bound : Nat}
    (hwell : start.WellFormed config) (htrace : StoreTrace config toLowercase start events final)
    (hheld : Held start m bound)
    (hspares : ∀ event ∈ events, event.Spares config toLowercase m)
    (hroom : bound + (storedOn config toLowercase m.topic events).length <
      max 1 config.maxHistoryPerTopic) :
    Held final m (bound + (storedOn config toLowercase m.topic events).length) := by
  induction htrace with
  | refl => exact hheld
  | @apply events state operation htrace ih =>
    rw [storedOn_append, List.length_append, ← Nat.add_assoc] at hroom ⊢
    have hbefore := ih (fun event hevent => hspares event (List.mem_append_left _ hevent))
      (by omega)
    have hlast : (StoreEvent.mk state operation).Spares config toLowercase m :=
      hspares _ (List.mem_append_right _ (List.mem_singleton_self _))
    exact hlast.held (storeTrace_wellFormed hwell htrace) hbefore hroom
  | rehash horder _ ih =>
    have hbefore := ih hspares hroom
    exact ⟨by rw [rehash_queue horder]; exact hbefore.mem,
      by rw [rehash_queue horder]; exact hbefore.younger⟩

end Message

/-! ## 5. Retention -/

/-- Over every trace from a reachable store: a topic from which nothing is taken away holds the last
`max_history_per_topic` (at least one) of the messages it held and those stored on it; and a stored
message is still stored if no operation removes it by name, none evicts its topic, and the messages
stored on its topic after it, before and during the trace, are fewer than that. -/
theorem retention (config : InMemoryConfig) (toLowercase : String → String)
    (assigned : List NotificationMessage) (start : BackendState)
    (hrun : StoreRun config toLowercase assigned start) (events : List StoreEvent)
    (final : BackendState) (htrace : StoreTrace config toLowercase start events final) :
    (∀ key, (∀ event ∈ events, event.Leaves config toLowercase key) →
      final.queue key = (start.queue key ++ storedOn config toLowercase key events).rtake
        (max 1 config.maxHistoryPerTopic)) ∧
    (∀ m ∈ start.stored, (∀ event ∈ events, event.Spares config toLowercase m) →
      (younger m (start.queue m.topic)).length +
          (storedOn config toLowercase m.topic events).length <
        max 1 config.maxHistoryPerTopic →
      m ∈ final.stored) := by
  have hwell := (storeRun_wellFormed hrun).1
  refine ⟨fun key hleaves => storeTrace_queue hwell htrace hleaves, ?_⟩
  intro m hm hspares hroom
  have hheld : Held start m (younger m (start.queue m.topic)).length :=
    ⟨mem_queue_of_stored hwell hm, Nat.le_refl _⟩
  exact mem_stored_of_queue (storeTrace_held hwell htrace hheld hspares hroom).mem

/-- A store on a topic that `emptiedRd` has, and a wipe of another stream. -/
def storeThirdOd : StoreOperation := .storeMessage ⟨5, fun _ => 5⟩ "mars.od" "3" none

def threeStoredOd : BackendState := (storeThirdOd.apply pairConfig id emptiedRd).1

def wipedOzone : BackendState :=
  ((StoreOperation.wipeStream "ozone").apply pairConfig id threeStoredOd).1

theorem retention_emptiedRd :
    (wipedOzone.queue "mars.od").map (·.sequence) = [1, 3] ∧
      wipedOzone.queue "mars.od" = (emptiedRd.queue "mars.od" ++ storedOn pairConfig id "mars.od"
        [⟨emptiedRd, storeThirdOd⟩, ⟨threeStoredOd, .wipeStream "ozone"⟩]).rtake 4 ∧
      ⟨1, "mars.od", "1", some 1, none⟩ ∈ wipedOzone.stored := by
  have htrace : StoreTrace pairConfig id emptiedRd
      [⟨emptiedRd, storeThirdOd⟩, ⟨threeStoredOd, .wipeStream "ozone"⟩] wipedOzone :=
    .apply (.wipeStream "ozone") (.apply storeThirdOd .refl)
  have hstays : ¬ Evicts pairConfig ⟨5, fun _ => 5⟩ "mars.od" "3" none emptiedRd "mars.od" := by
    unfold Evicts
    decide +kernel
  have houtside : startsWith (id "mars.od") (streamPrefix id "ozone") = false := by decide +kernel
  have h := retention pairConfig id _ emptiedRd emptiedRd_run _ wipedOzone htrace
  refine ⟨by decide +kernel, h.1 "mars.od" ?_, h.2 _ (by decide +kernel) ?_ (by decide +kernel)⟩
  · intro event hevent
    rcases List.mem_cons.mp hevent with rfl | hevent
    · exact hstays
    · rw [List.mem_singleton.mp hevent]
      exact houtside
  · intro event hevent
    rcases List.mem_cons.mp hevent with rfl | hevent
    · exact hstays
    · rw [List.mem_singleton.mp hevent]
      exact houtside

end AvisoServer
