import AvisoServer.CloudEvents.Rendering
import AvisoServer.Routes.Admin

/-!
# Deleting by the id of an event

The id of a cloud event is its event type and its sequence. The deletion trims it, splits it at the
first `@` and resolves what comes before, so it finds the message unless the event type is changed
on the way.
-/

namespace AvisoServer

/-! ## 1. Reading ids -/

/-- The id of an event with this sequence. -/
def eventId (eventType : String) (sequence : Nat) : String :=
  eventType ++ "@" ++ toString sequence

theorem eventId_chars (eventType : String) (sequence : Nat) :
    eventId eventType sequence =
      eventType ++ String.ofList ('@' :: (toString sequence).toList) := by
  apply String.toList_injective
  unfold eventId
  rw [String.toList_append, String.toList_append, String.toList_append, String.toList_ofList,
    String.toList_ofList, List.append_assoc, List.singleton_append]

theorem sequence_digits (sequence : Nat) : ∀ c ∈ (toString sequence).toList, c.isDigit = true := by
  intro c hc
  have hmem : c ∈ Nat.toDigits 10 sequence := by
    rw [← Nat.toList_repr]
    exact hc
  exact Nat.isDigit_of_mem_toDigits (by decide) (by decide) hmem

theorem sequence_ne_nil (sequence : Nat) : (toString sequence).toList ≠ [] := by
  show sequence.repr.toList ≠ []
  rw [Nat.toList_repr]
  exact Nat.toDigits_ne_nil

/-- Only the start of an id is trimmed, as its sequence ends it. -/
theorem trim_eventId (eventType : String) (sequence : Nat) :
    trim (eventId eventType sequence) = eventId (trimStart eventType) sequence := by
  have hne := sequence_ne_nil sequence
  have hlast := sequence_digits sequence _ (List.getLast_mem hne)
  rw [eventId_chars, eventId_chars, ← List.dropLast_append_getLast hne]
  exact trim_append eventType (by decide) (digit_no_whitespace hlast)

theorem trimStart_suffix (text : String) : (trimStart text).toList <:+ text.toList := by
  unfold trimStart
  rw [String.toList_ofList]
  exact List.dropWhile_suffix _

/-- The separator is no whitespace, so trimming keeps it. -/
theorem at_mem_trimStart {text : String} (h : '@' ∈ text.toList) : '@' ∈ (trimStart text).toList := by
  obtain ⟨before, after, hsplit⟩ := List.append_of_mem h
  unfold trimStart
  rw [String.toList_ofList, hsplit, dropWhile_append_stop _ _ _ (by decide)]
  exact List.mem_append_right _ List.mem_cons_self

/-- An id without an event type, or with another separator, is no id. -/
theorem parseNotificationId_error {eventType : String} (sequence : Nat)
    (h : trimStart eventType = "" ∨ '@' ∈ eventType.toList) :
    ∃ message, parseNotificationId (eventId eventType sequence) = .error message := by
  unfold parseNotificationId
  rw [trim_eventId]
  by_cases hat : '@' ∈ eventType.toList
  · obtain ⟨before, after, hsplit, hfirst⟩ := List.eq_append_cons_of_mem (at_mem_trimStart hat)
    have hid : eventId (trimStart eventType) sequence = String.ofList before ++
        String.ofList ('@' :: (eventId (String.ofList after) sequence).toList) := by
      apply String.toList_injective
      rw [eventId_chars, eventId_chars, String.toList_append, hsplit]
      simp
    rw [hid, splitOnce_append _ (by rwa [String.toList_ofList])]
    -- what follows the first separator has another one, so it is no number
    have hnumber : ∀ n, parseInt u64 (eventId (String.ofList after) sequence) ≠ .ok n := by
      intro n hparse
      have hchars := parseInt_digits hparse '@' (by rw [eventId_chars]; simp)
      exact absurd hchars (by decide)
    cases hparse : parseInt u64 (eventId (String.ofList after) sequence) with
    | ok n => exact absurd hparse (hnumber n)
    | error e =>
      simp only [hparse]
      split
      · exact ⟨_, rfl⟩
      · exact ⟨_, rfl⟩
  · have hempty : trimStart eventType = "" := h.resolve_right hat
    rw [hempty, eventId_chars, splitOnce_append _ (by decide)]
    exact ⟨_, if_pos (Or.inl rfl)⟩

/-- Any other id is read as its event type, without the whitespace before it, and its sequence. -/
theorem parseNotificationId_ok {eventType : String} {sequence : Nat}
    (hne : trimStart eventType ≠ "") (hat : '@' ∉ eventType.toList)
    (hpositive : 0 < sequence) (hfits : isU64 sequence = true) :
    parseNotificationId (eventId eventType sequence) = .ok ⟨trimStart eventType, sequence⟩ := by
  have hkey : '@' ∉ (trimStart eventType).toList := fun h =>
    hat ((trimStart_suffix eventType).mem h)
  have hrest : toString sequence ≠ "" := by
    intro h
    exact sequence_ne_nil sequence (by rw [h]; rfl)
  -- the sequence is printed in decimal, and reads back as it fits
  have hsequence : parseInt u64 (toString sequence) = .ok (sequence : Int) := by
    have hbound : sequence < 18446744073709551616 := of_decide_eq_true hfits
    apply parseInt_natDigits (by decide) Nat.toList_repr
    rw [IntType.fits_iff]
    show (0 : Int) ≤ sequence ∧ (sequence : Int) ≤ 18446744073709551615
    omega
  unfold parseNotificationId
  rw [trim_eventId, eventId_chars, splitOnce_append _ hkey]
  simp only [hne, hrest, or_self, if_false, hsequence]
  rw [if_neg (by omega)]
  rfl

/-! ## 2. Deleting one message -/

/-- Where one element of a list has the property, erasing the first that has it leaves the others. -/
theorem eraseP_eq_filter {α : Type} [DecidableEq α] {test : α → Bool} {chosen : α} {items : List α}
    (hnodup : items.Nodup) (htest : ∀ item ∈ items, test item = true ↔ item = chosen) :
    items.eraseP test = items.filter fun item => decide (item ≠ chosen) := by
  induction items with
  | nil => rfl
  | cons item items ih =>
    obtain ⟨hfresh, hnodup⟩ := List.nodup_cons.mp hnodup
    have hrest := ih hnodup fun other hother => htest other (List.mem_cons_of_mem item hother)
    have hitem := htest item List.mem_cons_self
    -- once the chosen element is met, the rest does not have it
    by_cases hchosen : item = chosen
    · have hothers : items.filter (fun other => decide (other ≠ chosen)) = items := by
        apply List.filter_eq_self.mpr
        intro other hother
        apply decide_eq_true
        rintro rfl
        exact hfresh (hchosen ▸ hother)
      rw [List.eraseP_cons_of_pos (hitem.mpr hchosen), List.filter_cons_of_neg (by simp [hchosen]),
        hothers]
    · rw [List.eraseP_cons_of_neg (fun h => hchosen (hitem.mp h)),
        List.filter_cons_of_pos (by simpa using hchosen), hrest]

/-- The message goes, and every queue keeps its other messages in their order. -/
structure RemovesOnly (state next : BackendState) (m : NotificationMessage) : Prop where
  counter : next.nextSequence = state.nextSequence
  removed : m ∉ next.stored
  queues : ∀ key, (next.topics.get key).map (·.messages) =
    (state.topics.get key).map fun topicState => topicState.messages.filter (· ≠ m)

theorem deleteMessage_removesOnly {config : InMemoryConfig} {toLowercase : String → String}
    {streamKey : String} {state : BackendState} (hwell : state.WellFormed config)
    {m : NotificationMessage} (hm : m ∈ state.stored)
    (hstream : topicInStream toLowercase streamKey m.topic = true) :
    RemovesOnly state (deleteMessage toLowercase streamKey m.sequence state).1 m := by
  have hdeleted := (deleteMessage_stored_iff toLowercase streamKey hwell hm).mpr hstream
  -- a stored message is known by its sequence
  have hknown : ∀ other ∈ state.stored, other.sequence = m.sequence → other = m :=
    fun other hother hsequence => List.inj_on_of_nodup_map hwell.distinct hother hm hsequence
  unfold deleteMessage at hdeleted ⊢
  cases hfind : state.topics.entries.find? (holdsSequence toLowercase streamKey m.sequence) with
  | none =>
    rw [hfind] at hdeleted
    cases hdeleted
  | some entry =>
    have hget := get_of_mem_entries (List.mem_of_find?_eq_some hfind)
    have hqueue := hwell.queues entry.1 entry.2 hget
    have htopic : m.topic = entry.1 := by
      have hholds := List.find?_some hfind
      unfold holdsSequence at hholds
      obtain ⟨other, hother, hsequence⟩ := List.any_eq_true.mp (Bool.and_eq_true_iff.mp hholds).2
      have hsame := hknown other (mem_stored_of_get hget hother) (of_decide_eq_true hsequence)
      rw [← hsame]
      exact hqueue.owned other hother
    -- the one queue that is replaced loses its only message of the sequence
    have hqueues : ∀ key,
        (HashMap.get (state.topics.replace entry.1 (entry.2.removeSequence m.sequence)) key).map
            (·.messages) =
          (state.topics.get key).map fun topicState => topicState.messages.filter (· ≠ m) := by
      intro key
      rw [HashMap.get_replace]
      by_cases hkey : key = entry.1
      · rw [if_pos hkey, hkey, hget]
        show some (entry.2.messages.eraseP _) = some (entry.2.messages.filter _)
        have hnodup : entry.2.messages.Nodup :=
          List.Nodup.of_map _ (hqueue.increasing.imp fun hlt => Nat.ne_of_lt hlt)
        rw [eraseP_eq_filter hnodup]
        intro other hother
        rw [decide_eq_true_iff]
        exact ⟨hknown other (mem_stored_of_get hget hother), fun hsame => hsame ▸ rfl⟩
      · rw [if_neg hkey]
        cases hother : state.topics.get key with
        | none => rfl
        | some topicState =>
          show some topicState.messages = some (topicState.messages.filter _)
          have hkept : topicState.messages.filter (· ≠ m) = topicState.messages := by
            apply List.filter_eq_self.mpr
            intro other hmem
            apply decide_eq_true
            rintro rfl
            exact hkey (((hwell.queues key topicState hother).owned other hmem).symm.trans htopic)
          rw [hkept]
    refine ⟨rfl, ?_, hqueues⟩
    intro hstill
    obtain ⟨key, topicState, hafter, hmem⟩ := mem_stored_iff.mp hstill
    have hmessages := hqueues key
    rw [hafter] at hmessages
    obtain ⟨before, -, hfilter⟩ := Option.map_eq_some_iff.mp hmessages.symm
    have hleft : m ∈ before.messages.filter (· ≠ m) := by
      rw [hfilter]
      exact hmem
    exact absurd rfl (of_decide_eq_true (List.mem_filter.mp hleft).2)

/-! ## 3. The stream of an event type -/

theorem isAscii_of_lowered {s t : String} (h : toAsciiLowercase s = toAsciiLowercase t)
    (hs : isAscii s) : isAscii t := by
  intro c hc
  have hmem : c.toLower ∈ (toAsciiLowercase s).toList := by
    rw [h]
    unfold toAsciiLowercase
    rw [String.toList_ofList]
    exact List.mem_map_of_mem hc
  unfold toAsciiLowercase at hmem
  rw [String.toList_ofList] at hmem
  obtain ⟨d, hd, heq⟩ := List.mem_map.mp hmem
  -- lowering keeps ASCII characters ASCII, and all others as they are
  have hall : ∀ n < 128, (Char.ofNat n).toLower.toNat < 128 := by decide +kernel
  have hlow := hall d.toNat (hs d hd)
  rw [Char.ofNat_toNat, heq] at hlow
  by_contra hhigh
  rw [toLower_of_not_ascii hhigh] at hlow
  exact hhigh hlow

/-- Whatever a name with an alias is resolved to is ASCII. -/
theorem resolved_ascii {debugStrings : List String → String} {ecpds : Bool} {settings : Settings}
    (haccepted : settings.validate debugStrings ecpds = .ok ()) {name owner : String}
    {schema : EventSchema} (hschema : settings.schemaOf owner = some schema)
    (halias : settings.AliasOf name owner) : isAscii (schema.base name) := by
  have hbase := isTopicBase_ascii _ (schema_base_valid haccepted hschema)
  obtain ⟨_, _, hnames⟩ := halias
  unfold EventSchema.base at hbase ⊢
  cases htopic : schema.topic with
  | some topicConfig =>
    rw [htopic] at hbase
    exact hbase
  | none =>
    rw [htopic] at hbase
    cases hnames with
    | inl hname => exact hname ▸ hbase
    | inr hfolded => exact isAscii_of_lowered (eqIgnoreAsciiCase_iff.mp hfolded.2) hbase

/-- An event type that stands for its trimmed name has nothing to trim. -/
theorem trimStart_of_aliasOf {settings : Settings} {owner : String}
    (h : settings.AliasOf (trimStart owner) owner) : trimStart owner = owner := by
  obtain ⟨_, _, hnames⟩ := h
  cases hnames with
  | inl hname => exact hname.symm
  | inr hfolded =>
    have hlength : owner.toList.length = (trimStart owner).toList.length := by
      have hlowered := of_decide_eq_true hfolded.2
      rw [← List.length_map (f := Char.toLower), hlowered, List.length_map]
    exact String.toList_injective ((trimStart_suffix owner).eq_of_length hlength.symm)

/-- The trimmed event type leads to the stream of its base exactly when there is nothing to trim, or
it stands for no event type and is the base itself, in lower case. -/
theorem resolve_trimStart_iff {toLowercase : String → String} (laws : LowercaseLaws toLowercase)
    {debugStrings : List String → String} {ecpds : Bool} {settings : Settings}
    (haccepted : settings.validate debugStrings ecpds = .ok ()) {base owner : String}
    (howner : settings.TopicOwner base owner) :
    toLowercase (resolveStreamKeyAlias settings (trimStart owner)) = toAsciiLowercase base ↔
      trimStart owner = owner ∨
        ((∀ other, ¬ settings.AliasOf (trimStart owner) other) ∧
          toLowercase (trimStart owner) = toAsciiLowercase base) := by
  obtain ⟨schema, topicConfig, hschema, htopic, rfl⟩ := howner
  have hbase := EventSchema.base_of_topic htopic owner
  constructor
  · intro hlowered
    by_cases haliased : ∃ other, settings.AliasOf (trimStart owner) other
    -- an alias leads to its own stream, which no other event type has
    · left
      obtain ⟨other, hother⟩ := haliased
      obtain ⟨_, _, hentry⟩ := hother.exists_entry
      cases hfound : FoldedLookup.lookup toAsciiLowercase settings.schemas (trimStart owner) with
      | none => exact absurd hentry (FoldedLookup.lookup_none hfound)
      | some entry =>
        obtain ⟨hfoundSchema, halias⟩ := isAlias_iff.mp (FoldedLookup.lookup_isAlias hfound)
        rw [resolveStreamKeyAlias_of_lookup hfound,
          laws.ascii _ (resolved_ascii haccepted hfoundSchema halias)] at hlowered
        have hstream := toAsciiUppercase_of_lowered hlowered
        rw [halias.stream entry.2, ← hbase] at hstream
        have hsame := stream_owner_unique haccepted hfoundSchema hschema hstream
        exact trimStart_of_aliasOf (hsame ▸ halias)
    · right
      have hnone : ∀ other, ¬ settings.AliasOf (trimStart owner) other := fun other hother =>
        haliased ⟨other, hother⟩
      rw [resolveStreamKeyAlias_unaliased hnone] at hlowered
      exact ⟨hnone, hlowered⟩
  · intro h
    cases h with
    | inl htrim =>
      rw [htrim, resolveStreamKeyAlias_eventType hschema]
      rw [laws.ascii _ (isTopicBase_ascii _ (schema_base_valid haccepted hschema)), hbase]
    | inr hunaliased =>
      rw [resolveStreamKeyAlias_unaliased hunaliased.1]
      exact hunaliased.2

/-! ## 4. Events name their messages -/

/-- The deletion answers that it deleted the notification, and removes this message and no other. -/
structure DeletesOnly (settings : Settings) (toLowercase : String → String) (rawId : String)
    (state : BackendState) (m : NotificationMessage) : Prop where
  response : (deleteNotification settings toLowercase rawId state).2 =
    (200, { success := true, message := "Notification deleted", notificationId := rawId })
  removes : RemovesOnly state (deleteNotification settings toLowercase rawId state).1 m

/-- An event type that its ids lead back to: it has no separator, and the whitespace before it, if
any, leaves a name that is the base in lower case and stands for no event type. -/
structure NamedByIds (settings : Settings) (toLowercase : String → String) (base owner : String) :
    Prop where
  separator : '@' ∉ owner.toList
  named : trimStart owner ≠ ""
  stream : trimStart owner = owner ∨
    ((∀ other, ¬ settings.AliasOf (trimStart owner) other) ∧
      toLowercase (trimStart owner) = toAsciiLowercase base)

section Stored

variable {lib : Libraries} {events : CloudEventLibrary} {debugStrings : List String → String}
  {ecpds : Bool} {settings : Settings} {config : InMemoryConfig}
  {assigned : List NotificationMessage} {state : BackendState} {m : NotificationMessage}
  {now : DateTime} {baseUrl : String} {event : CloudEvent}

/-- What a deletion by the id of a stored message does. -/
theorem deletesOnly_iff (laws : LowercaseLaws lib.toLowercase)
    (haccepted : settings.validate debugStrings ecpds = .ok ())
    (hrun : StoreRun config lib.toLowercase assigned state) (hm : m ∈ state.stored)
    (hfits : isU64 m.sequence = true) {base owner : String} {values : List String}
    (hbase : isTopicBase base = true) (htopic : m.topic = encodeSubject (base :: values))
    (howner : settings.TopicOwner base owner) :
    DeletesOnly settings lib.toLowercase (eventId owner m.sequence) state m ↔
      NamedByIds settings lib.toLowercase base owner := by
  obtain ⟨hwell, hassigned⟩ := storeRun_wellFormed hrun
  have hpositive := storeRun_positive hrun m (hassigned.stored m hm)
  by_cases hparses : trimStart owner = "" ∨ '@' ∈ owner.toList
  -- a rejected id answers 400
  · obtain ⟨message, hparse⟩ := parseNotificationId_error m.sequence hparses
    constructor
    · intro h
      have hresponse := h.response
      unfold deleteNotification at hresponse
      rw [hparse] at hresponse
      have hstatus : 400 = 200 := congrArg Prod.fst hresponse
      cases hstatus
    · intro h
      exact absurd hparses (not_or.mpr ⟨h.named, h.separator⟩)
  · obtain ⟨hnamed, hseparator⟩ := not_or.mp hparses
    have hparse := parseNotificationId_ok hnamed hseparator hpositive hfits
    have hstream := topicInStream_iff laws (resolveStreamKeyAlias settings (trimStart owner)) base
      values hbase
    rw [← htopic, resolve_trimStart_iff laws haccepted howner] at hstream
    -- the id is parsed, so the deletion goes by the stream of the trimmed event type
    have hdelete : deleteNotification settings lib.toLowercase (eventId owner m.sequence) state =
        let deleted := deleteMessage lib.toLowercase
          (resolveStreamKeyAlias settings (trimStart owner)) m.sequence state
        (deleted.1, deleteNotificationResponse (eventId owner m.sequence) (.ok deleted.2)) := by
      unfold deleteNotification
      rw [hparse]
    constructor
    · intro h
      refine ⟨hseparator, hnamed, hstream.mp ?_⟩
      rw [← deleteMessage_stored_iff lib.toLowercase _ hwell hm]
      have hresponse := h.response
      rw [hdelete] at hresponse
      cases hresult : (deleteMessage lib.toLowercase
          (resolveStreamKeyAlias settings (trimStart owner)) m.sequence state).2 with
      | deleted => rfl
      | notFound =>
        simp only [hresult] at hresponse
        have hstatus : 404 = 200 := congrArg Prod.fst hresponse
        cases hstatus
    · intro h
      have hfound := hstream.mpr h.stream
      have hresult := (deleteMessage_stored_iff lib.toLowercase _ hwell hm).mpr hfound
      constructor
      · rw [hdelete]
        simp only [hresult]
        rfl
      · rw [hdelete]
        exact deleteMessage_removesOnly hwell hm hfound

/-- The id of the event of a stored notification leads the deletion to this notification, and to it
alone, exactly when its event type is one that ids lead back to. -/
theorem deletesById_iff (laws : LowercaseLaws lib.toLowercase)
    (haccepted : settings.validate debugStrings ecpds = .ok ())
    (hrun : StoreRun config lib.toLowercase assigned state)
    (hnotified : ∀ m ∈ assigned, IsNotifyTopic lib settings m.topic) (hm : m ∈ state.stored)
    (hfits : isU64 m.sequence = true)
    (hevent : createCloudEvent lib events settings now m baseUrl = .ok event) :
    ∃ base owner, decodeSubjectBase m.topic = .ok base ∧ settings.TopicOwner base owner ∧
      event.id = eventId owner m.sequence ∧
      (DeletesOnly settings lib.toLowercase event.id state m ↔
        NamedByIds settings lib.toLowercase base owner) := by
  have hassigned := (storeRun_wellFormed hrun).2
  obtain ⟨base, values, hbase, htopic⟩ := notifyTopic_eq (hnotified m (hassigned.stored m hm))
  have hdecode : decodeSubjectBase m.topic = .ok base := by
    rw [htopic]
    exact decodeSubjectBase_topic base values hbase
  obtain ⟨owner, data, howner, hmessage⟩ :=
    (cloudEventAttributes_base hdecode (createCloudEvent_eq_ok.mp hevent).1).2
  have hid : event.id = eventId owner m.sequence := by
    rw [hmessage]
    rfl
  refine ⟨base, owner, hdecode, howner, hid, ?_⟩
  rw [hid]
  exact deletesOnly_iff laws haccepted hrun hm hfits hbase htopic howner

end Stored

-- the store after one notification, and settings that name its event type with a separator
def storedOd : BackendState :=
  (storeMessage bareConfig ⟨5, fun _ => 5⟩ "mars.od" "null" none BackendState.initial).1

theorem storedOd_run : StoreRun bareConfig toAsciiLowercase [classMessage "mars" "od"] storedOd :=
  StoreRun.initial.step (.storeMessage _ ⟨5, fun _ => 5⟩ "mars.od" "null" none)

theorem storedOd_mem : classMessage "mars" "od" ∈ storedOd.stored := by
  decide +kernel

theorem StoredAs.notifyTopic {lib : Libraries} {settings : Settings} {request : NotificationRequest}
    {message : NotificationMessage} (h : StoredAs lib settings request message) :
    ∀ m ∈ [message], IsNotifyTopic lib settings m.topic := by
  intro m hm
  rw [List.mem_singleton.mp hm]
  obtain ⟨result, hnotify, hput⟩ := h
  exact ⟨none, request, result, hnotify, hput.topic.symm⟩

theorem deletesById_iff_mars : ∃ event base owner,
    createCloudEvent plainLibraries httpEvents feedSettings 7 (classMessage "mars" "od")
        "http://localhost" = .ok event ∧
      (DeletesOnly feedSettings toAsciiLowercase event.id storedOd (classMessage "mars" "od") ↔
        NamedByIds feedSettings toAsciiLowercase base owner) := by
  obtain ⟨event, hevent⟩ : ∃ event, createCloudEvent plainLibraries httpEvents feedSettings 7
      (classMessage "mars" "od") "http://localhost" = .ok event :=
    exists_of_isOk (by decide +kernel)
  obtain ⟨base, owner, -, -, -, hdeletes⟩ :=
    deletesById_iff toAsciiLowercase_laws feedSettings_accepted storedOd_run
      mars_stored.notifyTopic storedOd_mem (by decide) hevent
  exact ⟨event, base, owner, hevent, hdeletes⟩

def separatorSettings : Settings :=
  { feedSettings with notificationSchema := some (AList.singleton "mars@od" marsSchema) }

/-- The event of a message of the event type `mars@od` has an id that the deletion rejects. -/
theorem separator_rejected :
    separatorSettings.validate plainLibraries.debugStrings false = .ok () ∧
      StoredAs plainLibraries separatorSettings (classRequest "mars@od" "od")
        (classMessage "mars" "od") ∧
      classMessage "mars" "od" ∈ storedOd.stored ∧
      ∃ event, createCloudEvent plainLibraries httpEvents separatorSettings 7
          (classMessage "mars" "od") "http://localhost" = .ok event ∧
        ¬ DeletesOnly separatorSettings toAsciiLowercase event.id storedOd
          (classMessage "mars" "od") := by
  obtain ⟨event, hevent⟩ : ∃ event, createCloudEvent plainLibraries httpEvents separatorSettings 7
      (classMessage "mars" "od") "http://localhost" = .ok event :=
    exists_of_isOk (by decide +kernel)
  refine ⟨by decide +kernel, ⟨_, rfl, ⟨by decide +kernel, rfl, rfl⟩⟩, storedOd_mem, event, hevent, ?_⟩
  have hid : event.id = "mars@od@1" := by
    have hids : (createCloudEvent plainLibraries httpEvents separatorSettings 7
        (classMessage "mars" "od") "http://localhost").toOption.map (·.id) = some "mars@od@1" := by
      decide +kernel
    rw [hevent] at hids
    exact Option.some.inj hids
  intro hdeletes
  have hresponse := hdeletes.response
  rw [hid] at hresponse
  have hstatus : (deleteNotification separatorSettings toAsciiLowercase "mars@od@1" storedOd).2.1 =
      400 := by
    decide +kernel
  rw [hresponse] at hstatus
  cases hstatus

end AvisoServer
