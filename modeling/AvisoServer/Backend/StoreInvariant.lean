import AvisoServer.Backend.Invariant

/-!
# The invariant of the in-memory store

Each queue holds the messages of its own topic in the order of their sequences, the limits hold, and
no sequence is assigned twice.
-/

namespace AvisoServer

/-! ## 1. Well-formed stores -/

/-- A queue: its own topic's messages, oldest first, no more than the limit. -/
structure TopicState.WellFormed (config : InMemoryConfig) (key : String)
    (topicState : TopicState) : Prop where
  owned : ∀ m ∈ topicState.messages, m.topic = key
  increasing : (topicState.messages.map (·.sequence)).Pairwise (· < ·)
  bounded : topicState.messages.length ≤ max 1 config.maxHistoryPerTopic

structure BackendState.WellFormed (config : InMemoryConfig) (state : BackendState) : Prop
    extends state.Valid where
  queues : ∀ key topicState, state.topics.get key = some topicState →
    topicState.WellFormed config key
  limited : state.topics.entries.length ≤ max 1 config.maxTopics

theorem TopicState.WellFormed.sublist {config : InMemoryConfig} {key : String}
    {before after : TopicState} (h : before.WellFormed config key)
    (hsub : after.messages.Sublist before.messages) : after.WellFormed config key where
  owned m hm := h.owned m (hsub.subset hm)
  increasing := h.increasing.sublist (hsub.map _)
  bounded := hsub.length_le.trans h.bounded

theorem TopicState.new_wellFormed (config : InMemoryConfig) (key : String) :
    TopicState.new.WellFormed config key where
  owned m hm := by cases hm
  increasing := List.Pairwise.nil
  bounded := Nat.zero_le _

theorem push_length_le (config : InMemoryConfig) (topicState : TopicState)
    (msg : NotificationMessage)
    (h : topicState.messages.length ≤ max 1 config.maxHistoryPerTopic) :
    (topicState.push config msg).messages.length ≤ max 1 config.maxHistoryPerTopic := by
  unfold TopicState.push
  simp only [List.length_append, List.length_cons, List.length_nil]
  split_ifs with hfull
  · rw [List.length_tail]
    omega
  · omega

/-- The new message is newer than the queue. -/
theorem TopicState.WellFormed.push {config : InMemoryConfig} {key : String}
    {topicState : TopicState} (h : topicState.WellFormed config key) {msg : NotificationMessage}
    (htopic : msg.topic = key) (hnewest : ∀ m ∈ topicState.messages, m.sequence < msg.sequence) :
    (topicState.push config msg).WellFormed config key := by
  obtain ⟨kept, hpushed, hkept⟩ := push_messages config topicState msg
  refine ⟨?_, ?_, push_length_le config topicState msg h.bounded⟩
  · intro m hm
    rw [hpushed, List.mem_append, List.mem_singleton] at hm
    cases hm with
    | inl hold => exact h.owned m (hkept.subset hold)
    | inr hnew => rw [hnew]; exact htopic
  · rw [hpushed, List.map_append, List.pairwise_append]
    refine ⟨h.increasing.sublist (hkept.map _), List.pairwise_singleton _ _, ?_⟩
    intro sequence hsequence newest hnewestEq
    obtain ⟨m, hm, rfl⟩ := List.mem_map.mp hsequence
    rw [List.map_cons, List.map_nil, List.mem_singleton] at hnewestEq
    rw [hnewestEq]
    exact hnewest m (hkept.subset hm)

/-! ## 2. Topics after a step -/

theorem minByKey_eq_none {α : Type} (key : α → Int) {items : List α}
    (h : minByKey key items = none) : items = [] := by
  unfold minByKey at h
  split at h
  · rfl
  · split at h
    · split at h <;> cases h
    · cases h

/-- The element found is below all that come before it, and not above any that comes after it. -/
theorem minByKey_split {α : Type} (key : α → Int) {items : List α} {least : α}
    (h : minByKey key items = some least) :
    ∃ before after, items = before ++ least :: after ∧ (∀ x ∈ before, key least < key x) ∧
      ∀ x ∈ after, key least ≤ key x := by
  fun_induction minByKey key items generalizing least with
  | case1 => cases h
  | case2 x rest found hfound hlt ih =>
    cases h
    obtain ⟨before, after, hsplit, hbefore, hafter⟩ := ih hfound
    refine ⟨x :: before, after, by rw [hsplit]; rfl, ?_, hafter⟩
    exact List.forall_mem_cons.mpr ⟨hlt, hbefore⟩
  | case3 x rest found hfound hge ih =>
    cases h
    obtain ⟨before, after, hsplit, hbefore, hafter⟩ := ih hfound
    refine ⟨[], rest, rfl, fun y hy => absurd hy List.not_mem_nil, ?_⟩
    -- the first element is not above the least of the others
    intro y hy
    rw [hsplit] at hy
    have hleast : key found ≤ key y := by
      rcases List.mem_append.mp hy with hmem | hmem
      · exact le_of_lt (hbefore y hmem)
      · rcases List.mem_cons.mp hmem with rfl | hmem
        · exact le_rfl
        · exact hafter y hmem
    omega
  | case4 x rest hnone ih =>
    cases h
    rw [minByKey_eq_none key hnone]
    exact ⟨[], [], rfl, fun y hy => absurd hy List.not_mem_nil,
      fun y hy => absurd hy List.not_mem_nil⟩

theorem minByKey_mem {α : Type} (key : α → Int) {items : List α} {least : α}
    (h : minByKey key items = some least) : least ∈ items := by
  obtain ⟨before, after, hsplit, -⟩ := minByKey_split key h
  rw [hsplit]
  exact List.mem_append_right before List.mem_cons_self

theorem minByKey_le {α : Type} (key : α → Int) {items : List α} {least : α}
    (h : minByKey key items = some least) {item : α} (hitem : item ∈ items) :
    key least ≤ key item := by
  obtain ⟨before, after, hsplit, hbefore, hafter⟩ := minByKey_split key h
  rw [hsplit] at hitem
  rcases List.mem_append.mp hitem with hmem | hmem
  · exact le_of_lt (hbefore item hmem)
  · rcases List.mem_cons.mp hmem with rfl | hmem
    · exact le_rfl
    · exact hafter item hmem

/-- The eviction removes one topic at most, as a whole. -/
theorem enforceTopicLimit_get (config : InMemoryConfig) (clock : Clock)
    (topics : HashMap TopicState) :
    ∃ evicted : Option String, ∀ key,
      (enforceTopicLimit config clock topics).get key =
        if evicted = some key then none else topics.get key := by
  unfold enforceTopicLimit
  split
  · split
    · rename_i oldest _
      refine ⟨some oldest.1, ?_⟩
      intro key
      by_cases hkey : oldest.1 = key
      · subst hkey
        rw [if_pos rfl]
        exact AList.lookup_erase _ _
      · rw [if_neg (by simpa using hkey)]
        exact AList.lookup_erase_ne (Ne.symm hkey)
    · exact ⟨none, fun key => rfl⟩
  · exact ⟨none, fun key => rfl⟩

theorem eraseAll_get (keys : List String) (topics : HashMap TopicState) (key : String) :
    (eraseAll topics keys).get key = if key ∈ keys then none else topics.get key := by
  induction keys generalizing topics with
  | nil => rfl
  | cons first keys ih =>
    change (eraseAll (topics.erase first) keys).get key = _
    rw [ih]
    by_cases hfirst : key = first
    · subst hfirst
      simp [HashMap.get]
    · simp [HashMap.get, hfirst, AList.lookup_erase_ne hfirst]

theorem get_of_mem_entries {topics : HashMap TopicState}
    {entry : Sigma fun _ : String => TopicState} (h : entry ∈ topics.entries) :
    topics.get entry.1 = some entry.2 :=
  AList.mem_lookup_iff.mpr h

/-- The queues that a store leaves under the other keys were there before. -/
theorem storeMessage_get (config : InMemoryConfig) (clock : Clock) (topic payload : String)
    (metadata : Option (HashMap String)) (state : BackendState) :
    ∃ before : TopicState, (before = TopicState.new ∨ state.topics.get topic = some before) ∧
      (storeMessage config clock topic payload metadata state).1.topics.get topic =
        some (before.push config (storeMessage config clock topic payload metadata state).2) ∧
      ∃ evicted : Option String, (evicted.isSome = true → topic ∉ state.topics) ∧
        ∀ key, key ≠ topic →
          (storeMessage config clock topic payload metadata state).1.topics.get key =
            if evicted = some key then none else state.topics.get key := by
  unfold storeMessage
  by_cases hknown : topic ∈ state.topics
  · simp only [if_pos hknown]
    obtain ⟨before, hbefore⟩ := Option.isSome_iff_exists.mp (AList.lookup_isSome.mpr hknown)
    refine ⟨before, Or.inr hbefore, ?_, none, by simp, ?_⟩
    · change AList.lookup topic (AList.insert topic _ _) = _
      rw [AList.lookup_insert, HashMap.get, hbefore]
      rfl
    · intro key hkey
      exact AList.lookup_insert_ne hkey
  · simp only [if_neg hknown]
    obtain ⟨evicted, hevicted⟩ := enforceTopicLimit_get config clock state.topics
    have hnew : (enforceTopicLimit config clock state.topics).get topic = none := by
      rw [hevicted]
      split
      · rfl
      · exact AList.lookup_eq_none.mpr hknown
    refine ⟨TopicState.new, Or.inl rfl, ?_, evicted, fun _ => hknown, ?_⟩
    · change AList.lookup topic (AList.insert topic _ _) = _
      rw [AList.lookup_insert, hnew]
      rfl
    · intro key hkey
      rw [← hevicted]
      exact AList.lookup_insert_ne hkey

/-- Every queue after a step is a queue from before, perhaps with messages removed, or the one that
the stored message was pushed to. -/
theorem storeStep_get {config : InMemoryConfig} {toLowercase : String → String}
    {state next : BackendState} {sent : Option NotificationMessage}
    (hstep : StoreStep config toLowercase state sent next) {key : String} {after : TopicState}
    (hafter : next.topics.get key = some after) :
    (∃ before, state.topics.get key = some before ∧ after.messages.Sublist before.messages) ∨
    ∃ msg before, sent = some msg ∧ msg.topic = key ∧ msg.sequence = state.nextSequence ∧
      (before = TopicState.new ∨ state.topics.get key = some before) ∧
      after = before.push config msg := by
  cases hstep with
  | storeMessage clock topic payload metadata =>
    obtain ⟨before, hbefore, hpushed, evicted, -, hothers⟩ :=
      storeMessage_get config clock topic payload metadata state
    by_cases hkey : key = topic
    · subst hkey
      rw [hpushed] at hafter
      cases hafter
      exact Or.inr ⟨_, before, rfl, rfl, rfl, hbefore, rfl⟩
    · rw [hothers key hkey] at hafter
      split at hafter
      -- another topic: evicted, or as it was
      · cases hafter
      · exact Or.inl ⟨after, hafter, List.Sublist.refl _⟩
  | wipeStream streamKey =>
    unfold wipeStream at hafter
    simp only at hafter
    split at hafter
    · exact Or.inl ⟨after, hafter, List.Sublist.refl _⟩
    · rw [eraseAll_get] at hafter
      split at hafter
      · cases hafter
      · exact Or.inl ⟨after, hafter, List.Sublist.refl _⟩
  | wipeAll => cases hafter
  | deleteMessage streamKey sequence =>
    unfold deleteMessage at hafter
    split at hafter
    · rename_i entry hfind
      have hentry := get_of_mem_entries (List.mem_of_find?_eq_some hfind)
      rw [HashMap.get_replace] at hafter
      split at hafter
      · rename_i hkey
        rw [hkey, hentry] at hafter
        cases hafter
        exact Or.inl ⟨entry.2, hkey ▸ hentry, List.eraseP_sublist⟩
      · exact Or.inl ⟨after, hafter, List.Sublist.refl _⟩
    · exact Or.inl ⟨after, hafter, List.Sublist.refl _⟩
  | rehash topics horder =>
    have hget : topics.get key = state.topics.get key := AList.perm_lookup horder
    exact Or.inl ⟨after, hget ▸ hafter, List.Sublist.refl _⟩

/-! ## 3. The topic limit -/

theorem length_erase_of_mem {topics : HashMap TopicState} {key : String} (h : key ∈ topics) :
    (topics.erase key).entries.length + 1 = topics.entries.length := by
  have hkeys : (topics.erase key).entries.length = (topics.keys.erase key).length := by
    rw [← AList.keys_erase, AList.keys, List.keys, List.length_map]
  have hlength : topics.keys.length = topics.entries.length := List.length_map _
  have hpos : 0 < topics.keys.length := List.length_pos_of_mem (AList.mem_keys.mpr h)
  rw [hkeys, List.length_erase_of_mem (AList.mem_keys.mpr h)]
  omega

theorem length_erase_le (topics : HashMap TopicState) (key : String) :
    (topics.erase key).entries.length ≤ topics.entries.length :=
  (List.kerase_sublist key topics.entries).length_le

theorem length_insert (topics : HashMap TopicState) (key : String) (topicState : TopicState) :
    (topics.insert key topicState).entries.length = (topics.erase key).entries.length + 1 := by
  rw [AList.entries_insert, List.length_cons]
  rfl

theorem enforceTopicLimit_length (config : InMemoryConfig) (clock : Clock)
    (topics : HashMap TopicState) (h : topics.entries.length ≤ max 1 config.maxTopics) :
    (enforceTopicLimit config clock topics).entries.length + 1 ≤ max 1 config.maxTopics := by
  unfold enforceTopicLimit
  split
  · split
    · rename_i oldest holdest
      have hmem : oldest.1 ∈ topics :=
        AList.mem_keys.mp (List.mem_keys_of_mem (minByKey_mem _ holdest))
      have hlength := length_erase_of_mem hmem
      omega
    · rename_i hnone
      rw [minByKey_eq_none _ hnone, List.length_nil]
      omega
  · omega

theorem length_eraseAll_le (keys : List String) (topics : HashMap TopicState) :
    (eraseAll topics keys).entries.length ≤ topics.entries.length := by
  induction keys generalizing topics with
  | nil => exact Nat.le_refl _
  | cons key keys ih => exact (ih (topics.erase key)).trans (length_erase_le topics key)

theorem length_replace (topics : HashMap TopicState) (key : String) (topicState : TopicState) :
    (topics.replace key topicState).entries.length = topics.entries.length :=
  List.length_lookmap _ _

theorem storeStep_limited {config : InMemoryConfig} {toLowercase : String → String}
    {state next : BackendState} {sent : Option NotificationMessage}
    (hstep : StoreStep config toLowercase state sent next)
    (h : state.topics.entries.length ≤ max 1 config.maxTopics) :
    next.topics.entries.length ≤ max 1 config.maxTopics := by
  cases hstep with
  | storeMessage clock topic payload metadata =>
    unfold storeMessage
    simp only [length_insert]
    split
    · rename_i hknown
      rw [length_erase_of_mem hknown]
      exact h
    · have hle := length_erase_le (enforceTopicLimit config clock state.topics) topic
      have hlimit := enforceTopicLimit_length config clock state.topics h
      omega
  | wipeStream streamKey =>
    unfold wipeStream
    simp only
    split
    · exact h
    · exact (length_eraseAll_le _ _).trans h
  | wipeAll => exact Nat.zero_le _
  | deleteMessage streamKey sequence =>
    unfold deleteMessage
    split
    · rw [length_replace]
      exact h
    · exact h
  | rehash topics horder =>
    rw [horder.length_eq]
    exact h

/-! ## 4. Runs -/

theorem BackendState.initial_wellFormed (config : InMemoryConfig) :
    BackendState.initial.WellFormed config where
  toValid := BackendState.initial_valid
  queues key topicState h := by cases h
  limited := Nat.zero_le _

theorem mem_stored_of_get {state : BackendState} {key : String} {topicState : TopicState}
    (h : state.topics.get key = some topicState) {m : NotificationMessage}
    (hm : m ∈ topicState.messages) : m ∈ state.stored := by
  rw [BackendState.stored_eq, storedIn_eq]
  exact List.mem_flatMap.mpr ⟨⟨key, topicState⟩, AList.mem_lookup_iff.mp h, hm⟩

theorem mem_stored_iff {state : BackendState} {m : NotificationMessage} :
    m ∈ state.stored ↔
      ∃ key topicState, state.topics.get key = some topicState ∧ m ∈ topicState.messages := by
  constructor
  · intro hm
    rw [BackendState.stored_eq, storedIn_eq] at hm
    obtain ⟨entry, hentry, hmessages⟩ := List.mem_flatMap.mp hm
    exact ⟨entry.1, entry.2, get_of_mem_entries hentry, hmessages⟩
  · rintro ⟨key, topicState, hget, hm⟩
    exact mem_stored_of_get hget hm

theorem storeStep_wellFormed {config : InMemoryConfig} {toLowercase : String → String}
    {state next : BackendState} {sent : Option NotificationMessage} (h : state.WellFormed config)
    (hstep : StoreStep config toLowercase state sent next) : next.WellFormed config where
  toValid := storeStep_valid h.toValid hstep
  limited := storeStep_limited hstep h.limited
  queues := by
    intro key after hafter
    rcases storeStep_get hstep hafter with
      ⟨before, hbefore, hsub⟩ | ⟨msg, before, -, htopic, hsequence, hbefore, rfl⟩
    · exact (h.queues key before hbefore).sublist hsub
    · rcases hbefore with rfl | hget
      · exact (TopicState.new_wellFormed config key).push htopic (by intro m hm; cases hm)
      · apply (h.queues key before hget).push htopic
        intro m hm
        rw [hsequence]
        exact h.below m (mem_stored_of_get hget hm)

/-- A run from the empty store, with every message it stored, in order. -/
inductive StoreRun (config : InMemoryConfig) (toLowercase : String → String) :
    List NotificationMessage → BackendState → Prop where
  | initial : StoreRun config toLowercase [] BackendState.initial
  | step {assigned : List NotificationMessage} {state next : BackendState}
      {sent : Option NotificationMessage} :
      StoreRun config toLowercase assigned state → StoreStep config toLowercase state sent next →
      StoreRun config toLowercase (assigned ++ sent.toList) next

/-- What a run has stored: each message has its own sequence, below the counter, and nothing else is
in the store. -/
structure Assigned (assigned : List NotificationMessage) (state : BackendState) : Prop where
  increasing : (assigned.map (·.sequence)).Pairwise (· < ·)
  below : ∀ m ∈ assigned, m.sequence < state.nextSequence
  stored : ∀ m ∈ state.stored, m ∈ assigned

theorem storeStep_assigned {config : InMemoryConfig} {toLowercase : String → String}
    {assigned : List NotificationMessage} {state next : BackendState}
    {sent : Option NotificationMessage} (h : Assigned assigned state)
    (hstep : StoreStep config toLowercase state sent next) :
    Assigned (assigned ++ sent.toList) next := by
  rcases storeStep_cases hstep with
    ⟨rfl, hnext, hstored⟩ | ⟨msg, rest, rfl, hsequence, -, hnext, hstored, hrest⟩
  · rw [Option.toList_none, List.append_nil]
    exact
      { increasing := h.increasing
        below := fun m hm => hnext ▸ h.below m hm
        stored := fun m hm => h.stored m (hstored.subset hm) }
  · refine ⟨?_, ?_, ?_⟩
    · rw [Option.toList_some, List.map_append, List.pairwise_append]
      refine ⟨h.increasing, List.pairwise_singleton _ _, ?_⟩
      intro old hold new hnew
      obtain ⟨m, hm, rfl⟩ := List.mem_map.mp hold
      rw [List.map_cons, List.map_nil, List.mem_singleton] at hnew
      rw [hnew, hsequence]
      exact h.below m hm
    · intro m hm
      rw [Option.toList_some, List.mem_append, List.mem_singleton] at hm
      cases hm with
      | inl hold =>
        have := h.below m hold
        omega
      | inr hnew =>
        rw [hnew]
        omega
    · intro m hm
      rw [Option.toList_some, List.mem_append, List.mem_singleton]
      cases List.mem_cons.mp (hstored.subset hm) with
      | inl hnew => exact Or.inr hnew
      | inr hold => exact Or.inl (h.stored m (hrest.subset hold))

theorem storeRun_wellFormed {config : InMemoryConfig} {toLowercase : String → String}
    {assigned : List NotificationMessage} {state : BackendState}
    (hrun : StoreRun config toLowercase assigned state) :
    state.WellFormed config ∧ Assigned assigned state := by
  induction hrun with
  | initial =>
    exact ⟨BackendState.initial_wellFormed config,
      { increasing := List.Pairwise.nil
        below := by intro m hm; cases hm
        stored := by intro m hm; cases hm }⟩
  | step _ hstep ih => exact ⟨storeStep_wellFormed ih.1 hstep, storeStep_assigned ih.2 hstep⟩

/-- Sequences start at one. -/
theorem storeRun_positive {config : InMemoryConfig} {toLowercase : String → String}
    {assigned : List NotificationMessage} {state : BackendState}
    (hrun : StoreRun config toLowercase assigned state) : ∀ m ∈ assigned, 0 < m.sequence := by
  induction hrun with
  | initial => simp
  | step hbefore hstep ih =>
    intro m hm
    cases List.mem_append.mp hm with
    | inl hold => exact ih m hold
    | inr hnew =>
      have hpositive := (storeRun_wellFormed hbefore).1.positive
      rcases storeStep_cases hstep with ⟨rfl, -⟩ | ⟨msg, -, rfl, hsequence, -⟩
      · cases hnew
      · rw [List.mem_singleton.mp hnew, hsequence]
        exact hpositive

/-! ## 5. Operations -/

inductive StoreOperation where
  | storeMessage (clock : Clock) (topic payload : String) (metadata : Option (HashMap String))
  | wipeStream (streamKey : String)
  | wipeAll
  | deleteMessage (streamKey : String) (sequence : Nat)

namespace StoreOperation

/-- The state after the operation, and the message it stored. -/
def apply (config : InMemoryConfig) (toLowercase : String → String) (state : BackendState) :
    StoreOperation → BackendState × Option NotificationMessage
  | .storeMessage clock topic payload metadata =>
    ((AvisoServer.storeMessage config clock topic payload metadata state).1,
      some (AvisoServer.storeMessage config clock topic payload metadata state).2)
  | .wipeStream streamKey => ((AvisoServer.wipeStream toLowercase streamKey state).1, none)
  | .wipeAll => (AvisoServer.wipeAll state, none)
  | .deleteMessage streamKey sequence =>
    ((AvisoServer.deleteMessage toLowercase streamKey sequence state).1, none)

theorem apply_step (config : InMemoryConfig) (toLowercase : String → String)
    (state : BackendState) (operation : StoreOperation) :
    StoreStep config toLowercase state (operation.apply config toLowercase state).2
      (operation.apply config toLowercase state).1 := by
  cases operation with
  | storeMessage clock topic payload metadata =>
    exact StoreStep.storeMessage state clock topic payload metadata
  | wipeStream streamKey => exact StoreStep.wipeStream state streamKey
  | wipeAll => exact StoreStep.wipeAll state
  | deleteMessage streamKey sequence => exact StoreStep.deleteMessage state streamKey sequence

end StoreOperation

theorem storeStep_next_le {config : InMemoryConfig} {toLowercase : String → String}
    {state next : BackendState} {sent : Option NotificationMessage}
    (hstep : StoreStep config toLowercase state sent next) :
    state.nextSequence ≤ next.nextSequence := by
  rcases storeStep_cases hstep with ⟨-, hnext, -⟩ | ⟨-, -, -, -, -, hnext, -, -⟩ <;> omega

end AvisoServer
