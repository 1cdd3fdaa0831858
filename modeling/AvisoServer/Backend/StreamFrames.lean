import AvisoServer.Backend.Retention

/-!
# Frames of the in-memory store

A store leaves the other topics alone, but for the one that a new topic may evict. A wipe or a
deletion compares lower-case texts by the rules of Unicode, so it keeps to the stream that its key
names only when no other stored base has the key as its lower case.
-/

namespace AvisoServer

/-! ## 1. Streams -/

/-- The key names the stream of the topic: it is the base of the topic, ignoring ASCII case. -/
def NamedBy (streamKey topic : String) : Prop :=
  ∃ base, decodeSubjectBase topic = .ok base ∧ toAsciiLowercase base = toAsciiLowercase streamKey

theorem namedBy_topic_iff (streamKey base : String) (values : List String)
    (hbase : isTopicBase base = true) :
    NamedBy streamKey (encodeSubject (base :: values)) ↔
      toAsciiLowercase base = toAsciiLowercase streamKey := by
  have hdecode := decodeSubjectBase_topic base values hbase
  constructor
  · intro ⟨found, hfound, hnames⟩
    rw [hdecode] at hfound
    cases hfound
    exact hnames
  · exact fun hnames => ⟨base, hdecode, hnames⟩

namespace StoreOperation

/-- The topic is none that the operation is on. -/
def OnAnother (topic : String) : StoreOperation → Prop
  | .storeMessage _ stored _ _ => topic ≠ stored
  | .wipeStream streamKey => ¬ NamedBy streamKey topic
  | .wipeAll => False
  | .deleteMessage streamKey _ => ¬ NamedBy streamKey topic

/-- The operation stores on a topic that is not there yet. -/
def OpensTopic (state : BackendState) : StoreOperation → Prop
  | .storeMessage _ topic _ _ => topic ∉ state.topics
  | _ => False

/-- The operation changes no message of another topic or stream, but for the one topic that a new
topic evicts. -/
def Framed (config : InMemoryConfig) (toLowercase : String → String) (state : BackendState)
    (operation : StoreOperation) : Prop :=
  ∃ evicted : Option String, (evicted.isSome = true → operation.OpensTopic state) ∧
    ∀ topic, operation.OnAnother topic →
      (operation.apply config toLowercase state).1.queue topic =
        if evicted = some topic then [] else state.queue topic

/-- Every stored message that the lower-case texts give to the key is of the stream that the key
names. -/
def KeepsToStream (toLowercase : String → String) (state : BackendState) : StoreOperation → Prop
  | .wipeStream streamKey => ∀ m ∈ state.stored,
    startsWith (toLowercase m.topic) (streamPrefix toLowercase streamKey) = true →
      NamedBy streamKey m.topic
  | .deleteMessage streamKey sequence => ∀ m ∈ state.stored, m.sequence = sequence →
    topicInStream toLowercase streamKey m.topic = true → NamedBy streamKey m.topic
  | _ => True

/-- The key has no stored base as its lower case but those it is, ignoring ASCII case. -/
def KeyNamesBases (toLowercase : String → String) (state : BackendState) : StoreOperation → Prop
  | .wipeStream streamKey => ∀ m ∈ state.stored, ∀ base values, values ≠ [] →
    isTopicBase base = true → m.topic = encodeSubject (base :: values) →
      toLowercase streamKey = toAsciiLowercase base →
        toAsciiLowercase base = toAsciiLowercase streamKey
  | .deleteMessage streamKey sequence => ∀ m ∈ state.stored, m.sequence = sequence →
    ∀ base values, isTopicBase base = true → m.topic = encodeSubject (base :: values) →
      toLowercase streamKey = toAsciiLowercase base →
        toAsciiLowercase base = toAsciiLowercase streamKey
  | _ => True

/-! ## 2. One operation -/

section Frames

variable {config : InMemoryConfig} {toLowercase : String → String} {state : BackendState}

theorem storeMessage_framed (clock : Clock) (topic payload : String)
    (metadata : Option (HashMap String)) :
    (StoreOperation.storeMessage clock topic payload metadata).Framed config toLowercase state := by
  obtain ⟨-, -, -, evicted, hopens, hothers⟩ :=
    storeMessage_get config clock topic payload metadata state
  refine ⟨evicted, hopens, ?_⟩
  intro key hkey
  have hget := hothers key hkey
  by_cases hevicted : evicted = some key
  · rw [if_pos hevicted] at hget ⊢
    rw [BackendState.queue]
    exact congrArg (fun topicState => (topicState.getD TopicState.new).messages) hget
  · rw [if_neg hevicted] at hget ⊢
    exact queue_of_get hget

/-- A topic that the wipe takes has no messages after it. -/
theorem wipeStream_queue (streamKey key : String) :
    (AvisoServer.wipeStream toLowercase streamKey state).1.queue key =
      if startsWith (toLowercase key) (streamPrefix toLowercase streamKey) then []
      else state.queue key := by
  rw [BackendState.queue, wipeStream_get]
  split
  · rfl
  · rfl

theorem mem_queue_topic (hwell : state.WellFormed config) {key : String} {m : NotificationMessage}
    (hm : m ∈ state.queue key) : m.topic = key := by
  rw [BackendState.queue] at hm
  cases hget : state.topics.get key with
  | none =>
    rw [hget] at hm
    cases hm
  | some topicState =>
    rw [hget] at hm
    exact (hwell.queues key topicState hget).owned m hm

theorem wipeStream_framed_iff (hwell : state.WellFormed config) (streamKey : String) :
    (StoreOperation.wipeStream streamKey).Framed config toLowercase state ↔
      (StoreOperation.wipeStream streamKey).KeepsToStream toLowercase state := by
  constructor
  · intro ⟨evicted, hopens, hframe⟩ m hm hstart
    by_contra hother
    have hqueue : (AvisoServer.wipeStream toLowercase streamKey state).1.queue m.topic = _ :=
      hframe m.topic hother
    have hnone : evicted ≠ some m.topic := fun hevicted => hopens (by rw [hevicted]; rfl)
    have hmem := mem_queue_of_stored hwell hm
    rw [wipeStream_queue, if_pos hstart, if_neg hnone] at hqueue
    rw [← hqueue] at hmem
    exact List.not_mem_nil hmem
  · intro hkeeps
    refine ⟨none, by simp, ?_⟩
    intro key hother
    rw [if_neg (by simp)]
    show (AvisoServer.wipeStream toLowercase streamKey state).1.queue key = state.queue key
    rw [wipeStream_queue]
    split
    · rename_i hstart
      -- the wipe takes the topic, which must then be empty
      apply Eq.symm
      apply List.eq_nil_iff_forall_not_mem.mpr
      intro m hm
      have htopic := mem_queue_topic hwell hm
      apply hother
      rw [← htopic]
      exact hkeeps m (mem_stored_of_queue hm) (htopic ▸ hstart)
    · rfl

/-- A deletion makes the queue of the message shorter that it finds. -/
theorem deleteMessage_shortens (hwell : state.WellFormed config) (streamKey : String)
    {m : NotificationMessage} (hm : m ∈ state.stored)
    (hstream : topicInStream toLowercase streamKey m.topic = true) :
    ((AvisoServer.deleteMessage toLowercase streamKey m.sequence state).1.queue m.topic).length <
      (state.queue m.topic).length := by
  have hdeleted := (deleteMessage_stored_iff toLowercase streamKey hwell hm).mpr hstream
  unfold AvisoServer.deleteMessage at hdeleted ⊢
  split at hdeleted
  · rename_i entry hfind
    have hholds := List.find?_some hfind
    rw [holdsSequence, Bool.and_eq_true] at hholds
    obtain ⟨found, hfound, hsequence⟩ := List.any_eq_true.mp hholds.2
    have hget := get_of_mem_entries (List.mem_of_find?_eq_some hfind)
    -- sequences are distinct, so the message found is this one
    have hsame : found = m := List.inj_on_of_nodup_map hwell.distinct
      (mem_stored_of_get hget hfound) hm (of_decide_eq_true hsequence)
    have htopic : m.topic = entry.1 := by
      rw [← hsame]
      exact (hwell.queues entry.1 entry.2 hget).owned found hfound
    have hentry : state.queue m.topic = entry.2.messages := by
      rw [BackendState.queue, htopic, hget]
      rfl
    have hafter : ({ state with
        topics := state.topics.replace entry.1 (entry.2.removeSequence m.sequence) } :
          BackendState).queue m.topic = (entry.2.removeSequence m.sequence).messages := by
      rw [BackendState.queue, htopic, HashMap.get_replace, if_pos rfl, hget]
      rfl
    rw [hafter, hentry]
    unfold TopicState.removeSequence
    have hpos := List.length_pos_of_mem hfound
    rw [List.length_eraseP_of_mem hfound (by exact hsequence)]
    omega
  · cases hdeleted

theorem deleteMessage_framed_iff (hwell : state.WellFormed config) (streamKey : String)
    (sequence : Nat) :
    (StoreOperation.deleteMessage streamKey sequence).Framed config toLowercase state ↔
      (StoreOperation.deleteMessage streamKey sequence).KeepsToStream toLowercase state := by
  constructor
  · intro ⟨evicted, hopens, hframe⟩ m hm hsequence hstream
    by_contra hother
    have hqueue := hframe m.topic hother
    have hnone : evicted ≠ some m.topic := fun hevicted => hopens (by rw [hevicted]; rfl)
    rw [if_neg hnone] at hqueue
    have hshorter := deleteMessage_shortens hwell streamKey hm hstream
    rw [hsequence, ← hqueue] at hshorter
    exact Nat.lt_irrefl _ hshorter
  · intro hkeeps
    refine ⟨none, by simp, ?_⟩
    intro key hother
    rw [if_neg (by simp)]
    rcases @deleteMessage_queue state key toLowercase streamKey sequence with
      hqueue | ⟨hstream, ⟨m, hm, hsequence⟩, -⟩
    · exact hqueue
    · have htopic := mem_queue_topic hwell hm
      apply absurd _ hother
      rw [← htopic]
      exact hkeeps m (mem_stored_of_queue hm) hsequence (htopic ▸ hstream)

theorem framed_iff (hwell : state.WellFormed config) (operation : StoreOperation) :
    operation.Framed config toLowercase state ↔ operation.KeepsToStream toLowercase state := by
  cases operation with
  | storeMessage clock topic payload metadata =>
    exact iff_of_true (storeMessage_framed clock topic payload metadata) trivial
  | wipeStream streamKey => exact wipeStream_framed_iff hwell streamKey
  | wipeAll => exact iff_of_true ⟨none, by simp, fun key hother => hother.elim⟩ trivial
  | deleteMessage streamKey sequence => exact deleteMessage_framed_iff hwell streamKey sequence

/-- In a store of stream topics the lower-case texts come down to the bases. -/
theorem keepsToStream_iff (laws : LowercaseLaws toLowercase)
    (htopics : ∀ m ∈ state.stored, ∃ base values, isTopicBase base = true ∧
      m.topic = encodeSubject (base :: values)) (operation : StoreOperation) :
    operation.KeepsToStream toLowercase state ↔ operation.KeyNamesBases toLowercase state := by
  cases operation with
  | storeMessage clock topic payload metadata => exact Iff.rfl
  | wipeStream streamKey =>
    constructor
    · intro hkeeps m hm base values hvalues hbase htopic hlowered
      have hnamed := hkeeps m hm
      rw [htopic, startsWith_streamPrefix_iff laws streamKey base values hbase,
        namedBy_topic_iff streamKey base values hbase] at hnamed
      exact hnamed ⟨hvalues, hlowered⟩
    · intro hnames m hm hstart
      obtain ⟨base, values, hbase, htopic⟩ := htopics m hm
      rw [htopic, startsWith_streamPrefix_iff laws streamKey base values hbase] at hstart
      rw [htopic, namedBy_topic_iff streamKey base values hbase]
      exact hnames m hm base values hstart.1 hbase htopic hstart.2
  | wipeAll => exact Iff.rfl
  | deleteMessage streamKey sequence =>
    constructor
    · intro hkeeps m hm hsequence base values hbase htopic hlowered
      have hnamed := hkeeps m hm hsequence
      rw [htopic, topicInStream_iff laws streamKey base values hbase,
        namedBy_topic_iff streamKey base values hbase] at hnamed
      exact hnamed hlowered
    · intro hnames m hm hsequence hstream
      obtain ⟨base, values, hbase, htopic⟩ := htopics m hm
      rw [htopic, topicInStream_iff laws streamKey base values hbase] at hstream
      rw [htopic, namedBy_topic_iff streamKey base values hbase]
      exact hnames m hm hsequence base values hbase htopic hstream

end Frames

end StoreOperation

/-! ## 3. Runs -/

/-- After every run the store is well formed and no sequence was assigned twice. The next operation
does not lower the counter, and it changes no other stream exactly when the lower-case texts give it
none; where every topic is one of a stream, when its key has no other base as its lower case. -/
theorem storeInvariant {config : InMemoryConfig} {toLowercase : String → String}
    {assigned : List NotificationMessage} {state : BackendState}
    (hrun : StoreRun config toLowercase assigned state) :
    state.WellFormed config ∧ (assigned.map (·.sequence)).Nodup ∧
      ∀ operation : StoreOperation,
        state.nextSequence ≤ (operation.apply config toLowercase state).1.nextSequence ∧
          (operation.Framed config toLowercase state ↔
            operation.KeepsToStream toLowercase state) ∧
          (LowercaseLaws toLowercase → (∀ m ∈ state.stored, ∃ base values,
              isTopicBase base = true ∧ m.topic = encodeSubject (base :: values)) →
            (operation.Framed config toLowercase state ↔
              operation.KeyNamesBases toLowercase state)) := by
  obtain ⟨hwellFormed, hassigned⟩ := storeRun_wellFormed hrun
  refine ⟨hwellFormed, hassigned.increasing.imp Nat.ne_of_lt, ?_⟩
  intro operation
  have hframed : operation.Framed config toLowercase state ↔
      operation.KeepsToStream toLowercase state :=
    StoreOperation.framed_iff hwellFormed operation
  refine ⟨storeStep_next_le (operation.apply_step config toLowercase state), hframed, ?_⟩
  intro laws htopics
  rw [hframed, StoreOperation.keepsToStream_iff laws htopics]

-- room for one message on one topic: the second store evicts the first topic
def tightConfig : InMemoryConfig where
  maxHistoryPerTopic := 0
  maxTopics := 0

def evictedOd : BackendState :=
  (storeMessage tightConfig ⟨7, fun _ => 7⟩ "mars.rd" "2" none
    (storeMessage tightConfig ⟨5, fun _ => 5⟩ "mars.od" "1" none BackendState.initial).1).1

theorem evictedOd_run : StoreRun tightConfig toAsciiLowercase
    [⟨1, "mars.od", "1", some 5, none⟩, ⟨2, "mars.rd", "2", some 7, none⟩] evictedOd :=
  (StoreRun.initial.step (.storeMessage _ ⟨5, fun _ => 5⟩ "mars.od" "1" none)).step
    (.storeMessage _ ⟨7, fun _ => 7⟩ "mars.rd" "2" none)

theorem storeInvariant_evictedOd :
    evictedOd.WellFormed tightConfig ∧ evictedOd.topics.keys = ["mars.rd"] ∧
      (StoreOperation.wipeStream "ozone").Framed tightConfig toAsciiLowercase evictedOd := by
  obtain ⟨hwell, -, hoperations⟩ := storeInvariant evictedOd_run
  have hstored : evictedOd.stored = [⟨2, "mars.rd", "2", some 7, none⟩] := by decide +kernel
  refine ⟨hwell, by decide, ((hoperations (.wipeStream "ozone")).2.2 toAsciiLowercase_laws ?_).mpr ?_⟩
  · intro m hm
    rw [hstored, List.mem_singleton] at hm
    exact ⟨"mars", ["rd"], by decide +kernel, by rw [hm]; decide +kernel⟩
  · intro m hm base values _ hbase htopic hlowered
    -- the only stored base is mars
    rw [hstored, List.mem_singleton] at hm
    have hdecode := decodeSubjectBase_topic base values hbase
    rw [← htopic, hm, show decodeSubjectBase "mars.rd" = .ok "mars" by decide +kernel] at hdecode
    cases hdecode
    revert hlowered
    decide +kernel

/-! ## 4. A sign with an ASCII lower case -/

/-- Lower case of ASCII letters and of U+212A KELVIN SIGN, whose lower case is `k`. -/
def kelvinLowercase (s : String) : String :=
  String.ofList (s.toList.map fun ch => if ch = '\u212A' then 'k' else ch.toLower)

theorem kelvinLowercase_ascii {s : String} (hs : isAscii s) :
    kelvinLowercase s = toAsciiLowercase s := by
  unfold kelvinLowercase toAsciiLowercase
  congr 1
  apply List.map_congr_left
  intro ch hch
  have hne : ch ≠ '\u212A' := by
    rintro rfl
    exact absurd (hs _ hch) (by decide)
  rw [if_neg hne]

theorem kelvinLowercase_laws : LowercaseLaws kelvinLowercase where
  ascii _ hs := kelvinLowercase_ascii hs
  append s t hs := by
    refine ⟨kelvinLowercase t, ?_⟩
    rw [← kelvinLowercase_ascii hs]
    unfold kelvinLowercase
    rw [String.toList_append, List.map_append, String.ofList_append]

def storedK : BackendState :=
  (storeMessage bareConfig ⟨5, fun _ => 5⟩ "k.od" "1" none BackendState.initial).1

/-- The wipe of the sign takes the message of the stream `k`, which it does not name. -/
theorem kelvin_wipes_k :
    LowercaseLaws kelvinLowercase ∧
      StoreRun bareConfig kelvinLowercase [⟨1, "k.od", "1", some 5, none⟩] storedK ∧
      ¬ (StoreOperation.wipeStream "\u212A").Framed bareConfig kelvinLowercase storedK := by
  refine ⟨kelvinLowercase_laws,
    StoreRun.initial.step (.storeMessage _ ⟨5, fun _ => 5⟩ "k.od" "1" none), ?_⟩
  intro ⟨evicted, hopens, hframe⟩
  have hother : ¬ NamedBy "\u212A" "k.od" := by
    intro ⟨base, hdecode, hnames⟩
    rw [show decodeSubjectBase "k.od" = .ok "k" by decide +kernel] at hdecode
    cases hdecode
    revert hnames
    decide +kernel
  have hqueue := hframe "k.od" hother
  have hnone : evicted ≠ some "k.od" := fun hevicted => hopens (by rw [hevicted]; rfl)
  rw [if_neg hnone] at hqueue
  revert hqueue
  decide +kernel

end AvisoServer
