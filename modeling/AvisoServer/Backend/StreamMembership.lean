import AvisoServer.Backend.StoreInvariant
import AvisoServer.Routes.Streaming

/-!
# Stream membership

Wiping a stream and deleting one of its messages each decide by themselves which topics the stream
has. They differ on a topic without a token after its base, which only the deletion finds.
-/

namespace AvisoServer

/-! ## 1. Lowering subjects -/

def isAscii (s : String) : Prop :=
  ∀ ch ∈ s.toList, ch.toNat < 128

/-- `str::to_lowercase` lowers ASCII characters one by one, whatever follows them. -/
structure LowercaseLaws (toLowercase : String → String) : Prop where
  ascii : ∀ s, isAscii s → toLowercase s = toAsciiLowercase s
  append : ∀ s t, isAscii s → ∃ rest, toLowercase (s ++ t) = toAsciiLowercase s ++ rest

theorem toAsciiLowercase_laws : LowercaseLaws toAsciiLowercase where
  ascii _ _ := rfl
  append s t _ := ⟨_, toAsciiLowercase_append s t⟩

theorem isTopicBase_ascii (base : String) (hbase : isTopicBase base = true) : isAscii base :=
  fun ch hch => (isTopicBase_bytes base hbase ch hch).1

theorem isReservedChar_toLower (ch : Char) (hascii : ch.toNat < 128) :
    isReservedChar ch.toLower = isReservedChar ch := by
  have hall : ∀ n < 128, isReservedChar (Char.ofNat n).toLower = isReservedChar (Char.ofNat n) := by
    decide +kernel
  have h := hall ch.toNat hascii
  rwa [Char.ofNat_toNat] at h

theorem toAsciiLowercase_base_plain (base : String) (hbase : isTopicBase base = true) :
    ∀ ch ∈ (toAsciiLowercase base).toList, isReservedChar ch = false := by
  intro ch hch
  unfold toAsciiLowercase at hch
  rw [String.toList_ofList] at hch
  obtain ⟨c, hc, rfl⟩ := List.mem_map.mp hch
  rw [isReservedChar_toLower c (isTopicBase_ascii base hbase c hc)]
  exact isTopicBase_chars base hbase c hc

/-- A lowered base is its own encoding, so it is found by the lowered key that equals it. -/
theorem encodeToken_eq_lowered (key base : String) (hbase : isTopicBase base = true) :
    encodeToken key = toAsciiLowercase base ↔ key = toAsciiLowercase base := by
  have hplain := encodeToken_of_plain _ (toAsciiLowercase_base_plain base hbase)
  constructor
  · intro h
    rw [← hplain] at h
    exact encodeToken_injective h
  · rintro rfl
    exact hplain

theorem encodeSubject_cons_cons (base value : String) (values : List String)
    (hbase : isTopicBase base = true) :
    encodeSubject (base :: value :: values) = (base ++ ".") ++ encodeSubject (value :: values) := by
  apply String.toList_injective
  unfold encodeSubject joinChar
  rw [List.map_cons, List.map_cons, String.toList_ofList,
    List.intercalate_cons_of_ne_nil (by simp), encodeToken_of_isTopicBase base hbase,
    String.toList_append, String.toList_append, String.toList_ofList, List.append_assoc,
    List.append_assoc]
  rw [String.toList_ofList]
  rfl

/-- A text up to its first separator is determined by any longer text it starts. -/
theorem prefix_separator_iff (sep : Char) (xs ys zs : List Char) (hx : sep ∉ xs) (hy : sep ∉ ys) :
    xs ++ [sep] <+: ys ++ sep :: zs ↔ xs = ys := by
  constructor
  · intro h
    induction xs generalizing ys with
    | nil =>
      cases ys with
      | nil => rfl
      | cons y ys =>
        have hhead := (List.cons_prefix_cons.mp h).1
        exact absurd (hhead ▸ List.mem_cons_self) hy
    | cons x xs ih =>
      cases ys with
      | nil =>
        have hhead := (List.cons_prefix_cons.mp h).1
        exact absurd (hhead ▸ List.mem_cons_self) hx
      | cons y ys =>
        obtain ⟨rfl, htail⟩ := List.cons_prefix_cons.mp h
        rw [ih ys (fun hmem => hx (List.mem_cons_of_mem x hmem))
          (fun hmem => hy (List.mem_cons_of_mem x hmem)) htail]
  · rintro rfl
    exact ⟨zs, by simp⟩

section Membership

variable {toLowercase : String → String} (laws : LowercaseLaws toLowercase)

include laws

theorem lowered_base (base : String) (hbase : isTopicBase base = true) :
    toLowercase (encodeSubject [base]) = toAsciiLowercase base := by
  rw [encodeSubject_base base hbase]
  exact laws.ascii base (isTopicBase_ascii base hbase)

theorem lowered_topic (base value : String) (values : List String)
    (hbase : isTopicBase base = true) :
    ∃ rest, (toLowercase (encodeSubject (base :: value :: values))).toList =
      (toAsciiLowercase base).toList ++ '.' :: rest := by
  have hascii : isAscii (base ++ ".") := by
    intro ch hch
    rw [String.toList_append, List.mem_append] at hch
    cases hch with
    | inl h => exact isTopicBase_ascii base hbase ch h
    | inr h =>
      rw [show ch = '.' by simpa using h]
      decide
  obtain ⟨rest, hrest⟩ := laws.append (base ++ ".") (encodeSubject (value :: values)) hascii
  refine ⟨rest.toList, ?_⟩
  rw [encodeSubject_cons_cons base value values hbase, hrest, toAsciiLowercase_append,
    String.toList_append, String.toList_append, List.append_assoc]
  rfl

omit laws in
theorem separator_notMem_lowered (base : String) (hbase : isTopicBase base = true) :
    '.' ∉ (toAsciiLowercase base).toList := by
  intro hmem
  have hplain := toAsciiLowercase_base_plain base hbase '.' hmem
  revert hplain
  decide

/-- The prefix test finds the topics with a token after the base. -/
theorem startsWith_streamPrefix_iff (streamKey base : String) (values : List String)
    (hbase : isTopicBase base = true) :
    startsWith (toLowercase (encodeSubject (base :: values))) (streamPrefix toLowercase streamKey) =
        true ↔ values ≠ [] ∧ toLowercase streamKey = toAsciiLowercase base := by
  have hkey := notMem_encodeToken '.' (Or.inl rfl) (toLowercase streamKey)
  have hlowered := separator_notMem_lowered base hbase
  have hstartsWith : (streamPrefix toLowercase streamKey).toList =
      (encodeToken (toLowercase streamKey)).toList ++ ['.'] := by
    unfold streamPrefix
    rw [String.toList_append]
    rfl
  unfold startsWith
  rw [List.isPrefixOf_iff_prefix, hstartsWith]
  cases values with
  | nil =>
    rw [lowered_base laws base hbase]
    constructor
    · intro h
      exact absurd (h.subset (by simp)) hlowered
    · rintro ⟨h, -⟩
      exact absurd rfl h
  | cons value values =>
    obtain ⟨rest, hrest⟩ := lowered_topic laws base value values hbase
    rw [hrest, prefix_separator_iff '.' _ _ rest hkey hlowered, String.toList_inj,
      encodeToken_eq_lowered _ base hbase]
    simp

/-- The equality test finds the topic that is the base alone. -/
theorem lowered_eq_encodeToken_iff (streamKey base : String) (values : List String)
    (hbase : isTopicBase base = true) :
    toLowercase (encodeSubject (base :: values)) = encodeToken (toLowercase streamKey) ↔
      values = [] ∧ toLowercase streamKey = toAsciiLowercase base := by
  cases values with
  | nil =>
    rw [lowered_base laws base hbase, eq_comm, encodeToken_eq_lowered _ base hbase]
    simp
  | cons value values =>
    obtain ⟨rest, hrest⟩ := lowered_topic laws base value values hbase
    constructor
    · intro h
      have hkey := notMem_encodeToken '.' (Or.inl rfl) (toLowercase streamKey)
      rw [← h, hrest] at hkey
      exact absurd (by simp) hkey
    · rintro ⟨h, -⟩
      cases h

/-- A topic belongs to the keys that lower to its lowered base. -/
theorem topicInStream_iff (streamKey base : String) (values : List String)
    (hbase : isTopicBase base = true) :
    topicInStream toLowercase streamKey (encodeSubject (base :: values)) = true ↔
      toLowercase streamKey = toAsciiLowercase base := by
  unfold topicInStream
  rw [Bool.or_eq_true, decide_eq_true_eq,
    lowered_eq_encodeToken_iff laws streamKey base values hbase,
    startsWith_streamPrefix_iff laws streamKey base values hbase, ← or_and_right]
  exact and_iff_right (Classical.em _)

end Membership

/-! ## 2. Wiping and deleting -/

section Operations

variable (toLowercase : String → String) (streamKey : String)

theorem wipeStream_get (state : BackendState) (key : String) :
    (wipeStream toLowercase streamKey state).1.topics.get key =
      if startsWith (toLowercase key) (streamPrefix toLowercase streamKey) then none
      else state.topics.get key := by
  have hnone : key ∉ state.topics.keys → state.topics.get key = none := fun h =>
    AList.lookup_eq_none.mpr fun hmem => h (AList.mem_keys.mpr hmem)
  unfold wipeStream
  simp only
  split
  · rename_i hempty
    by_cases hstart : startsWith (toLowercase key) (streamPrefix toLowercase streamKey) = true
    · rw [if_pos hstart]
      apply hnone
      intro hkey
      exact List.filter_eq_nil_iff.mp hempty key hkey hstart
    · rw [if_neg hstart]
  · rw [eraseAll_get]
    by_cases hkey : key ∈ state.topics.keys
    · simp [List.mem_filter, hkey]
    · simp [List.mem_filter, hkey, hnone hkey]

variable {config : InMemoryConfig} {state : BackendState}

/-- A wipe keeps the messages of topics without the prefix. -/
theorem mem_wipeStream_iff (h : state.WellFormed config) {m : NotificationMessage} :
    m ∈ (wipeStream toLowercase streamKey state).1.stored ↔
      m ∈ state.stored ∧
        startsWith (toLowercase m.topic) (streamPrefix toLowercase streamKey) = false := by
  rw [mem_stored_iff, mem_stored_iff]
  constructor
  · rintro ⟨key, topicState, hget, hm⟩
    rw [wipeStream_get] at hget
    split at hget
    · cases hget
    · rename_i houtside
      refine ⟨⟨key, topicState, hget, hm⟩, ?_⟩
      rw [(h.queues key topicState hget).owned m hm]
      exact Bool.eq_false_iff.mpr houtside
  · rintro ⟨⟨key, topicState, hget, hm⟩, houtside⟩
    refine ⟨key, topicState, ?_, hm⟩
    rw [(h.queues key topicState hget).owned m hm] at houtside
    rw [wipeStream_get, houtside]
    exact hget

/-- A deletion finds the sequence if a message of the stream has it. -/
theorem deleteMessage_deleted_iff (h : state.WellFormed config) (sequence : Nat) :
    (deleteMessage toLowercase streamKey sequence state).2 = .deleted ↔
      ∃ m ∈ state.stored, topicInStream toLowercase streamKey m.topic = true ∧
        m.sequence = sequence := by
  unfold deleteMessage
  cases hfind : state.topics.entries.find? (holdsSequence toLowercase streamKey sequence) with
  | some entry =>
    have hholds := List.find?_some hfind
    unfold holdsSequence at hholds
    obtain ⟨hstream, hany⟩ := Bool.and_eq_true_iff.mp hholds
    obtain ⟨m, hm, hsequence⟩ := List.any_eq_true.mp hany
    have hget := get_of_mem_entries (List.mem_of_find?_eq_some hfind)
    refine iff_of_true rfl ⟨m, mem_stored_of_get hget hm, ?_, of_decide_eq_true hsequence⟩
    rwa [(h.queues entry.1 entry.2 hget).owned m hm]
  | none =>
    refine iff_of_false (by simp) ?_
    rintro ⟨m, hm, hstream, hsequence⟩
    obtain ⟨key, topicState, hget, hmessages⟩ := mem_stored_iff.mp hm
    rw [(h.queues key topicState hget).owned m hmessages] at hstream
    apply List.find?_eq_none.mp hfind ⟨key, topicState⟩ (AList.mem_lookup_iff.mp hget)
    unfold holdsSequence
    rw [hstream, Bool.true_and]
    exact List.any_eq_true.mpr ⟨m, hmessages, decide_eq_true hsequence⟩

theorem deleteMessage_stored_iff (h : state.WellFormed config) {m : NotificationMessage}
    (hm : m ∈ state.stored) :
    (deleteMessage toLowercase streamKey m.sequence state).2 = .deleted ↔
      topicInStream toLowercase streamKey m.topic = true := by
  rw [deleteMessage_deleted_iff toLowercase streamKey h]
  constructor
  · rintro ⟨other, hother, hstream, hsequence⟩
    have heq := List.inj_on_of_nodup_map h.distinct hother hm hsequence
    rwa [← heq]
  · intro hstream
    exact ⟨m, hm, hstream, rfl⟩

/-! ## 3. Agreement -/

/-- The wipe removes what the deletion would have found, after it nothing is left to delete, and
streams that the key does not name, ignoring ASCII case, keep their messages. -/
structure WipeDeleteAgree (state : BackendState) : Prop where
  removed : ∀ m ∈ state.stored, m ∉ (wipeStream toLowercase streamKey state).1.stored ↔
    (deleteMessage toLowercase streamKey m.sequence state).2 = .deleted
  notFound : ∀ sequence, (deleteMessage toLowercase streamKey sequence
    (wipeStream toLowercase streamKey state).1).2 = .notFound
  untouched : ∀ m ∈ state.stored, ∀ base, decodeSubjectBase m.topic = .ok base →
    toAsciiLowercase base ≠ toAsciiLowercase streamKey →
    m ∈ (wipeStream toLowercase streamKey state).1.stored

end Operations

/-- A topic that some accepted notification is stored under. -/
def IsNotifyTopic (lib : Libraries) (settings : Settings) (topic : String) : Prop :=
  ∃ user request result, notify lib settings user request = .ok result ∧ result.topic = topic

theorem notifyTopic_eq {lib : Libraries} {settings : Settings} {topic : String}
    (h : IsNotifyTopic lib settings topic) :
    ∃ base values, isTopicBase base = true ∧ topic = encodeSubject (base :: values) := by
  obtain ⟨user, request, result, hnotify, rfl⟩ := h
  obtain ⟨hbase, ⟨values, htopic⟩, -⟩ := processRequest_topic (notify_eq_ok hnotify).2
  exact ⟨_, values, hbase, htopic⟩

/-- In a store of notifications, the two operations agree on a key exactly when no message is stored
under the key alone, and the key lowers to no stored base but those it names ignoring ASCII case. -/
theorem wipeDelete_agree_iff (lib : Libraries) (laws : LowercaseLaws lib.toLowercase)
    {settings : Settings} {config : InMemoryConfig} {assigned : List NotificationMessage}
    {state : BackendState} (hrun : StoreRun config lib.toLowercase assigned state)
    (hnotified : ∀ m ∈ assigned, IsNotifyTopic lib settings m.topic) (streamKey : String) :
    WipeDeleteAgree lib.toLowercase streamKey state ↔
      (∀ m ∈ state.stored, lib.toLowercase m.topic ≠ encodeToken (lib.toLowercase streamKey)) ∧
        ∀ m ∈ state.stored, ∀ base, decodeSubjectBase m.topic = .ok base →
          lib.toLowercase streamKey = toAsciiLowercase base →
          toAsciiLowercase base = toAsciiLowercase streamKey := by
  obtain ⟨hwellFormed, hassigned⟩ := storeRun_wellFormed hrun
  have htopic : ∀ m ∈ state.stored, ∃ base values, isTopicBase base = true ∧
      m.topic = encodeSubject (base :: values) := fun m hm =>
    notifyTopic_eq (hnotified m (hassigned.stored m hm))
  constructor
  · intro hagree
    -- a message that the deletion finds is in the range of the wipe
    have hstartsWith : ∀ m ∈ state.stored,
        topicInStream lib.toLowercase streamKey m.topic = true →
        startsWith (lib.toLowercase m.topic) (streamPrefix lib.toLowercase streamKey) = true := by
      intro m hm hstream
      have hremoved := (hagree.removed m hm).mpr
        ((deleteMessage_stored_iff lib.toLowercase streamKey hwellFormed hm).mpr hstream)
      by_contra houtside
      exact hremoved ((mem_wipeStream_iff lib.toLowercase streamKey hwellFormed).mpr
        ⟨hm, Bool.eq_false_iff.mpr houtside⟩)
    constructor
    · intro m hm halone
      obtain ⟨base, values, hbase, heq⟩ := htopic m hm
      have hstart := hstartsWith m hm (by unfold topicInStream; rw [decide_eq_true halone]; rfl)
      rw [heq, startsWith_streamPrefix_iff laws streamKey base values hbase] at hstart
      rw [heq, lowered_eq_encodeToken_iff laws streamKey base values hbase] at halone
      exact hstart.1 halone.1
    · intro m hm base hdecode hlowered
      by_contra hnamed
      have hkept := hagree.untouched m hm base hdecode hnamed
      rw [mem_wipeStream_iff lib.toLowercase streamKey hwellFormed] at hkept
      have hstream : topicInStream lib.toLowercase streamKey m.topic = true := by
        obtain ⟨found, values, hbase, heq⟩ := htopic m hm
        rw [heq, decodeSubjectBase_topic found values hbase] at hdecode
        cases hdecode
        rw [heq, topicInStream_iff laws streamKey base values hbase]
        exact hlowered
      rw [hstartsWith m hm hstream] at hkept
      exact absurd hkept.2 (by simp)
  · rintro ⟨halone, hnamed⟩
    have hstream : ∀ m ∈ state.stored, topicInStream lib.toLowercase streamKey m.topic =
        startsWith (lib.toLowercase m.topic) (streamPrefix lib.toLowercase streamKey) := by
      intro m hm
      unfold topicInStream
      rw [decide_eq_false (halone m hm), Bool.false_or]
    constructor
    · intro m hm
      rw [mem_wipeStream_iff lib.toLowercase streamKey hwellFormed,
        deleteMessage_stored_iff lib.toLowercase streamKey hwellFormed hm, hstream m hm]
      simp [hm]
    · intro sequence
      have hstep : StoreStep config lib.toLowercase state none
          (wipeStream lib.toLowercase streamKey state).1 := .wipeStream state streamKey
      have hwiped := storeStep_wellFormed hwellFormed hstep
      have hnone : ¬ (deleteMessage lib.toLowercase streamKey sequence
          (wipeStream lib.toLowercase streamKey state).1).2 = .deleted := by
        rw [deleteMessage_deleted_iff lib.toLowercase streamKey hwiped]
        rintro ⟨m, hm, hfound, -⟩
        obtain ⟨hm, houtside⟩ :=
          (mem_wipeStream_iff lib.toLowercase streamKey hwellFormed).mp hm
        rw [hstream m hm, houtside] at hfound
        cases hfound
      cases hresult : (deleteMessage lib.toLowercase streamKey sequence
          (wipeStream lib.toLowercase streamKey state).1).2 with
      | deleted => exact absurd hresult hnone
      | notFound => rfl
    · intro m hm base hdecode hother
      rw [mem_wipeStream_iff lib.toLowercase streamKey hwellFormed]
      refine ⟨hm, ?_⟩
      by_contra hstart
      rw [Bool.not_eq_false] at hstart
      obtain ⟨found, values, hbase, heq⟩ := htopic m hm
      rw [heq, startsWith_streamPrefix_iff laws streamKey found values hbase] at hstart
      rw [heq, decodeSubjectBase_topic found values hbase] at hdecode
      cases hdecode
      apply hother
      apply hnamed m hm base _ hstart.2
      rw [heq]
      exact decodeSubjectBase_topic base values hbase

-- a server without schemas, and its store after a notification with an empty identifier
def schemalessSettings : Settings where
  applicationPort := 8000
  notificationBackend := { kind := "in_memory", retentionPolicy := none }
  notificationSchema := none
  notificationSchemaStrict := none
  auth := AuthSettings.default
  metrics := { enabled := false, port := none }

def bareConfig : InMemoryConfig where
  maxHistoryPerTopic := 1
  maxTopics := 1

def bareMars : BackendState :=
  (storeMessage bareConfig ⟨5, fun _ => 5⟩ "mars" "null" none BackendState.initial).1

theorem bareMars_run : StoreRun bareConfig toAsciiLowercase
    [⟨1, "mars", "null", some 5, none⟩] bareMars :=
  StoreRun.initial.step (.storeMessage _ ⟨5, fun _ => 5⟩ "mars" "null" none)

theorem bareMars_notified : ∀ m ∈ [(⟨1, "mars", "null", some 5, none⟩ : NotificationMessage)],
    IsNotifyTopic plainLibraries schemalessSettings m.topic := by
  intro m hm
  rw [List.mem_singleton.mp hm]
  obtain ⟨result, hnotify, htopic⟩ :=
    notify_bareRequest plainLibraries schemalessSettings "mars" rfl rfl (by decide +kernel)
  exact ⟨none, bareRequest "mars", result, hnotify, htopic⟩

theorem wipeDelete_agree_iff_rd :
    WipeDeleteAgree toAsciiLowercase "rd" bareMars ↔
      (∀ m ∈ bareMars.stored, toAsciiLowercase m.topic ≠ encodeToken (toAsciiLowercase "rd")) ∧
        ∀ m ∈ bareMars.stored, ∀ base, decodeSubjectBase m.topic = .ok base →
          toAsciiLowercase "rd" = toAsciiLowercase base →
          toAsciiLowercase base = toAsciiLowercase "rd" :=
  wipeDelete_agree_iff plainLibraries toAsciiLowercase_laws bareMars_run bareMars_notified "rd"

/-- The wipe of `mars` does not find the message that the deletion finds. -/
theorem bareMars_survives_wipe : ¬ WipeDeleteAgree toAsciiLowercase "mars" bareMars := by
  intro hagree
  have hgone := hagree.notFound 1
  revert hgone
  decide +kernel

end AvisoServer
