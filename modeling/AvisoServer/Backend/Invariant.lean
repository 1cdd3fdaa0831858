import AvisoServer.Backend.InMemory
import AvisoServer.Lib.Archive
import Mathlib.Data.List.Flatten

/-!
# The in-memory store as an archive

Forgetting topics and order, a backend state is the collection of its stored messages together
with the counter, and every operation is a step of that archive.
-/

namespace AvisoServer

/-! ## 1. Stored messages under map updates -/

def storedIn (topics : HashMap TopicState) : List NotificationMessage :=
  topics.values.flatMap (·.messages)

theorem BackendState.stored_eq (state : BackendState) : state.stored = storedIn state.topics := rfl

theorem storedIn_eq (topics : HashMap TopicState) :
    storedIn topics = topics.entries.flatMap fun entry => entry.2.messages := by
  rw [storedIn, HashMap.values, List.flatMap_map]

theorem storedIn_perm (xs ys : HashMap TopicState) (h : xs.entries.Perm ys.entries) :
    (storedIn xs).Perm (storedIn ys) := by
  rw [storedIn_eq, storedIn_eq]
  exact h.flatMap_right _

theorem storedIn_erase_sublist (topics : HashMap TopicState) (key : String) :
    (storedIn (topics.erase key)).Sublist (storedIn topics) := by
  rw [storedIn_eq, storedIn_eq]
  exact (List.kerase_sublist key topics.entries).flatMap _

theorem storedIn_insert (topics : HashMap TopicState) (key : String) (topicState : TopicState) :
    storedIn (topics.insert key topicState) = topicState.messages ++ storedIn (topics.erase key) := by
  rw [storedIn_eq, storedIn_eq, AList.entries_insert, List.flatMap_cons]
  rfl

/-- A map is, up to order, one of its entries and the map without it. -/
theorem entries_perm_of_get (topics : HashMap TopicState) (key : String) (topicState : TopicState)
    (hget : topics.get key = some topicState) :
    topics.entries.Perm (⟨key, topicState⟩ :: (topics.erase key).entries) := by
  have hentry := AList.mem_lookup_iff.mp hget
  have hkey : key ∈ topics.entries.keys := List.mem_keys_of_mem hentry
  obtain ⟨b, l₁, l₂, hnot, heq, herase⟩ := List.exists_of_kerase hkey
  have hb : b = topicState := by
    have hmem : (⟨key, b⟩ : Sigma fun _ : String => TopicState) ∈ topics.entries := by
      rw [heq]
      simp
    have hlookup : topics.get key = some b := AList.mem_lookup_iff.mpr hmem
    rw [hget] at hlookup
    exact (Option.some.inj hlookup).symm
  subst hb
  change topics.entries.Perm (⟨key, b⟩ :: List.kerase key topics.entries)
  rw [herase, heq]
  exact List.perm_middle

theorem storedIn_perm_of_get (topics : HashMap TopicState) (key : String) (topicState : TopicState)
    (hget : topics.get key = some topicState) :
    (storedIn topics).Perm (topicState.messages ++ storedIn (topics.erase key)) := by
  rw [storedIn_eq, storedIn_eq]
  have h := (entries_perm_of_get topics key topicState hget).flatMap_right
    fun entry => entry.2.messages
  rwa [List.flatMap_cons] at h

theorem kreplace_sublist (entries : List (Sigma fun _ : String => TopicState)) (key : String)
    (after : TopicState)
    (hsub : ∀ entry ∈ entries, key = entry.1 → after.messages.Sublist entry.2.messages) :
    ((entries.kreplace key after).flatMap fun entry => entry.2.messages).Sublist
      (entries.flatMap fun entry => entry.2.messages) := by
  induction entries with
  | nil => exact List.Sublist.refl _
  | cons entry entries ih =>
    rw [List.kreplace, List.lookmap_cons]
    split_ifs with hkey
    · simp only [List.flatMap_cons]
      exact (hsub entry List.mem_cons_self hkey).append (List.Sublist.refl _)
    · simp only [List.flatMap_cons]
      exact (List.Sublist.refl _).append (ih fun e he => hsub e (List.mem_cons_of_mem entry he))

theorem storedIn_replace_sublist (topics : HashMap TopicState) (key : String)
    (before after : TopicState) (hentry : ⟨key, before⟩ ∈ topics.entries)
    (hsub : after.messages.Sublist before.messages) :
    (storedIn (topics.replace key after)).Sublist (storedIn topics) := by
  rw [storedIn_eq, storedIn_eq]
  apply kreplace_sublist
  rintro ⟨key', topicState⟩ hmem rfl
  have hget : topics.get key = some before := AList.mem_lookup_iff.mpr hentry
  have hget' : topics.get key = some topicState := AList.mem_lookup_iff.mpr hmem
  rw [hget] at hget'
  cases hget'
  exact hsub

/-! ## 2. What one step can do -/

theorem storedIn_eraseAll_sublist (keys : List String) (topics : HashMap TopicState) :
    (storedIn (eraseAll topics keys)).Sublist (storedIn topics) := by
  induction keys generalizing topics with
  | nil => exact List.Sublist.refl _
  | cons key keys ih => exact (ih (topics.erase key)).trans (storedIn_erase_sublist topics key)

theorem enforceTopicLimit_sublist (config : InMemoryConfig) (clock : Clock)
    (topics : HashMap TopicState) :
    (storedIn (enforceTopicLimit config clock topics)).Sublist (storedIn topics) := by
  rw [enforceTopicLimit]
  split_ifs
  · split
    · exact storedIn_erase_sublist topics _
    · exact List.Sublist.refl _
  · exact List.Sublist.refl _

theorem push_messages (config : InMemoryConfig) (topicState : TopicState)
    (msg : NotificationMessage) :
    ∃ kept, (topicState.push config msg).messages = kept ++ [msg] ∧
      kept.Sublist topicState.messages := by
  refine ⟨_, rfl, ?_⟩
  split_ifs
  · exact List.tail_sublist _
  · exact List.Sublist.refl _

/-- The messages under one key and those under the others are messages of the map. -/
theorem storedIn_split_subperm (topics : HashMap TopicState) (key : String)
    (kept : List NotificationMessage)
    (hkept : kept.Sublist ((topics.get key).getD TopicState.new).messages) :
    List.Subperm (kept ++ storedIn (topics.erase key)) (storedIn topics) := by
  cases hget : topics.get key with
  | none =>
    rw [hget] at hkept
    have hnil : kept = [] := List.sublist_nil.mp hkept
    rw [hnil, List.nil_append]
    exact (storedIn_erase_sublist topics key).subperm
  | some topicState =>
    rw [hget] at hkept
    exact (hkept.append (List.Sublist.refl _)).subperm.trans
      (storedIn_perm_of_get topics key topicState hget).symm.subperm

theorem storeMessage_stored (config : InMemoryConfig) (clock : Clock) (topic payload : String)
    (metadata : Option (HashMap String)) (state : BackendState) :
    ∃ rest, (storeMessage config clock topic payload metadata state).1.stored.Perm
        ((storeMessage config clock topic payload metadata state).2 :: rest) ∧
      rest.Subperm state.stored := by
  simp only [storeMessage, BackendState.stored_eq]
  set topics := if topic ∈ state.topics then state.topics
    else enforceTopicLimit config clock state.topics with htopics
  have hsub : (storedIn topics).Sublist (storedIn state.topics) := by
    rw [htopics]
    split_ifs
    · exact List.Sublist.refl _
    · exact enforceTopicLimit_sublist config clock state.topics
  obtain ⟨kept, hkept, hsubkept⟩ := push_messages config
    ((topics.get topic).getD TopicState.new)
    { sequence := state.nextSequence, topic, payload, timestamp := some clock.now, metadata }
  refine ⟨kept ++ storedIn (topics.erase topic), ?_, ?_⟩
  · rw [storedIn_insert, hkept, List.append_assoc]
    exact List.perm_middle
  · exact (storedIn_split_subperm topics topic kept hsubkept).trans hsub.subperm

/-- Everything a step can do to the stored messages, the counter and the broadcast. -/
theorem storeStep_cases {config : InMemoryConfig} {toLowercase : String → String}
    {state next : BackendState} {sent : Option NotificationMessage}
    (hstep : StoreStep config toLowercase state sent next) :
    (sent = none ∧ next.nextSequence = state.nextSequence ∧ next.stored.Subperm state.stored) ∨
    ∃ msg rest, sent = some msg ∧ msg.sequence = state.nextSequence ∧
      msg.timestamp.isSome = true ∧ next.nextSequence = state.nextSequence + 1 ∧
      next.stored.Perm (msg :: rest) ∧ rest.Subperm state.stored := by
  cases hstep with
  | storeMessage clock topic payload metadata =>
    obtain ⟨rest, hperm, hrest⟩ := storeMessage_stored config clock topic payload metadata state
    exact Or.inr ⟨_, rest, rfl, rfl, rfl, rfl, hperm, hrest⟩
  | wipeStream streamKey =>
    refine Or.inl ⟨rfl, ?_, ?_⟩
    · simp only [wipeStream]
      split_ifs <;> rfl
    · simp only [wipeStream]
      split_ifs
      · exact List.Subperm.refl _
      · exact (storedIn_eraseAll_sublist _ state.topics).subperm
  | wipeAll => exact Or.inl ⟨rfl, rfl, (List.nil_sublist _).subperm⟩
  | deleteMessage streamKey sequence =>
    refine Or.inl ⟨rfl, ?_, ?_⟩
    · simp only [deleteMessage]
      split <;> rfl
    · simp only [deleteMessage]
      split
      · rename_i entry hfind
        exact (storedIn_replace_sublist state.topics entry.1 entry.2 _
          (List.mem_of_find?_eq_some hfind) List.eraseP_sublist).subperm
      · exact List.Subperm.refl _
  | rehash topics horder => exact Or.inl ⟨rfl, rfl, (storedIn_perm _ _ horder).subperm⟩

/-! ## 3. The archive -/

/-- Sequences are distinct and below the counter, which starts at one, and every message carries
the time it was stored. -/
structure BackendState.Valid (state : BackendState) : Prop where
  distinct : (state.stored.map (·.sequence)).Nodup
  below : ∀ m ∈ state.stored, m.sequence < state.nextSequence
  positive : 0 < state.nextSequence
  stamped : ∀ m ∈ state.stored, m.timestamp.isSome = true

abbrev MessageArchive := Archive NotificationMessage (·.sequence)

def BackendState.archive (state : BackendState) (h : state.Valid) : MessageArchive where
  live := state.stored
  next := state.nextSequence
  distinct := h.distinct
  below := h.below

theorem BackendState.initial_valid : BackendState.initial.Valid where
  distinct := List.nodup_nil
  below := by intro m hm; cases hm
  positive := Nat.one_pos
  stamped := by intro m hm; cases hm

theorem storeStep_valid {config : InMemoryConfig} {toLowercase : String → String}
    {state next : BackendState} {sent : Option NotificationMessage} (h : state.Valid)
    (hstep : StoreStep config toLowercase state sent next) : next.Valid := by
  rcases storeStep_cases hstep with
    ⟨-, hnext, hstored⟩ | ⟨msg, rest, -, hseq, hstamp, hnext, hstored, hrest⟩
  · refine ⟨?_, fun m hm => ?_, ?_, fun m hm => h.stamped m (hstored.subset hm)⟩
    · obtain ⟨l, hperm, hsub⟩ := hstored
      exact ((hperm.map _).nodup_iff).mp ((hsub.map _).nodup h.distinct)
    · rw [hnext]
      exact h.below m (hstored.subset hm)
    · rw [hnext]
      exact h.positive
  · have hle : (rest : Multiset NotificationMessage) ≤ (state.archive h).live :=
      Multiset.coe_le.mpr hrest
    refine ⟨?_, fun m hm => ?_, by omega, fun m hm => ?_⟩
    · exact ((hstored.map _).nodup_iff).mpr (Archive.distinct_publish (state.archive h) hseq hle)
    · rw [hnext]
      exact Archive.below_publish (state.archive h) hseq hle m (hstored.subset hm)
    · rcases List.mem_cons.mp (hstored.subset hm) with rfl | hm
      · exact hstamp
      · exact h.stamped m (hrest.subset hm)

/-- Every operation of the backend is a step of the archive. -/
theorem storeStep_archive {config : InMemoryConfig} {toLowercase : String → String}
    {state next : BackendState} {sent : Option NotificationMessage} (h : state.Valid)
    (hstep : StoreStep config toLowercase state sent next) :
    Archive.Step (state.archive h) sent (next.archive (storeStep_valid h hstep)) := by
  rcases storeStep_cases hstep with
    ⟨rfl, hnext, hstored⟩ | ⟨msg, rest, rfl, hseq, -, hnext, hstored, hrest⟩
  · exact .drop hnext (Multiset.coe_le.mpr hstored)
  · have hlive : (next.archive (storeStep_valid h hstep)).live =
        msg ::ₘ (rest : Multiset NotificationMessage) := by
      rw [Multiset.cons_coe]
      exact Multiset.coe_eq_coe.mpr hstored
    exact .publish hseq hnext hlive (Multiset.coe_le.mpr hrest)

theorem reachable_valid {config : InMemoryConfig} {toLowercase : String → String}
    {state : BackendState} (h : Reachable config toLowercase state) : state.Valid := by
  induction h with
  | initial => exact BackendState.initial_valid
  | step _ hstep ih => exact storeStep_valid ih hstep

end AvisoServer
