import AvisoServer.Backend.JetStreamAdmin
import AvisoServer.Backend.StreamMembership
import AvisoServer.Lib.FoldedLookup
import AvisoServer.Notification.RoutingTotality

/-!
# Administration

Wiping one stream and deleting one notification. The stream is named by itself or by an event type,
so an event type hides another stream that has its name.
-/

namespace AvisoServer

/-! ## 1. Targets -/

structure ParsedNotificationId where
  streamKey : String
  sequence : Nat
  deriving DecidableEq, Repr

def parseNotificationId (value : String) : Except String ParsedNotificationId :=
  match splitOnce (trim value) '@' with
  | none => .error "notification_id must be in '<stream>@<sequence>' format"
  | some (rawStreamKey, rawSequence) =>
    if rawStreamKey = "" ∨ rawSequence = "" then
      .error "notification_id must be in '<stream>@<sequence>' format"
    else
      match parseInt u64 rawSequence with
      | .error _ => .error "notification_id sequence must be a positive integer"
      | .ok sequence =>
        if sequence = 0 then .error "notification_id sequence must be greater than zero"
        else .ok { streamKey := rawStreamKey, sequence := sequence.toNat }

section Endpoints

variable (settings : Settings)

def knownEventTypesSuffix : String :=
  match settings.notificationSchema with
  | some schemas =>
    if schemas.entries = [] then ""
    else ". Known event types: " ++ joinText (sortStrings schemas.keys) ", "
  | none => ""

def resolveStreamKeyAlias (streamOrEventType : String) : String :=
  match settings.notificationSchema with
  | none => streamOrEventType
  | some schemas =>
    let eventSchema := (schemas.get streamOrEventType).or
      (schemas.entries.findSome? fun entry =>
        if eqIgnoreAsciiCase entry.1 streamOrEventType then some entry.2 else none)
    match eventSchema with
    | none => streamOrEventType
    | some eventSchema => (eventSchema.topic.map (·.base)).getD streamOrEventType

/-! ## 2. Endpoints -/

structure DeleteNotificationResponse where
  success : Bool
  message : String
  notificationId : String
  deriving DecidableEq, Repr

def wipeStreamResponse (streamName : String) : Result WipeStreamResult → Nat × WipeResponse
  | .ok .wiped =>
    (200, { success := true, message := "Successfully wiped stream: " ++ streamName })
  | .ok .notFound =>
    (404,
      { success := false
        message := "Stream not found: " ++ streamName ++ knownEventTypesSuffix settings })
  | .error e => (500, { success := false, message := "Failed to wipe stream: " ++ e.toString })

def deleteNotificationResponse (rawId : String) :
    Result DeleteMessageResult → Nat × DeleteNotificationResponse
  | .ok .deleted =>
    (200, { success := true, message := "Notification deleted", notificationId := rawId })
  | .ok .notFound =>
    (404, { success := false, message := "Notification not found", notificationId := rawId })
  | .error e =>
    (500,
      { success := false
        message := "Failed to delete notification: " ++ e.toString
        notificationId := rawId })

/-- The endpoint over the in-memory store, whose operations do not fail. -/
def wipeStreamEndpoint (toLowercase : String → String) (streamName : String)
    (state : BackendState) : BackendState × Nat × WipeResponse :=
  let (next, result) := wipeStream toLowercase (resolveStreamKeyAlias settings streamName) state
  (next, wipeStreamResponse settings streamName (.ok result))

def deleteNotification (toLowercase : String → String) (rawId : String) (state : BackendState) :
    BackendState × Nat × DeleteNotificationResponse :=
  match parseNotificationId rawId with
  | .error message =>
    (state, 400, { success := false, message := message, notificationId := rawId })
  | .ok parsed =>
    let (next, result) := deleteMessage toLowercase
      (resolveStreamKeyAlias settings parsed.streamKey) parsed.sequence state
    (next, deleteNotificationResponse rawId (.ok result))

end Endpoints

/-! ## 3. Aliases -/

/-- The event types that a name may stand for: the one of this name, or else each that differs from
it only in the case of ASCII letters. -/
def Settings.AliasOf (settings : Settings) (name owner : String) : Prop :=
  ∃ schema, settings.schemaOf owner = some schema ∧
    (owner = name ∨ (settings.schemaOf name = none ∧ eqIgnoreAsciiCase owner name = true))

/-- The event types whose stream a name may be. -/
def Settings.StreamOf (settings : Settings) (name owner : String) : Prop :=
  ∃ schema, settings.schemaOf owner = some schema ∧
    eqIgnoreAsciiCase (schema.base owner) name = true

theorem schemaOf_eq_dlookup (settings : Settings) (name : String) :
    settings.schemas.dlookup name = settings.schemaOf name := by
  unfold Settings.schemas Settings.schemaOf
  cases settings.notificationSchema with
  | none => rfl
  | some schemas => rfl

theorem schemas_nodupKeys (settings : Settings) : settings.schemas.NodupKeys := by
  unfold Settings.schemas
  cases settings.notificationSchema with
  | none => exact List.nodupKeys_nil
  | some schemas => exact schemas.nodupKeys

theorem isAlias_iff {settings : Settings} {name : String}
    {entry : Sigma fun _ : String => EventSchema} :
    FoldedLookup.IsAlias toAsciiLowercase settings.schemas name entry ↔
      settings.schemaOf entry.1 = some entry.2 ∧ settings.AliasOf name entry.1 := by
  constructor
  · intro h
    have hschema := schemas_mem h.mem
    have hnames := h.names
    rw [schemaOf_eq_dlookup, ← eqIgnoreAsciiCase_iff] at hnames
    exact ⟨hschema, entry.2, hschema, hnames⟩
  · intro ⟨hschema, _, _, hnames⟩
    refine ⟨schemaOf_mem hschema, ?_⟩
    rw [schemaOf_eq_dlookup, ← eqIgnoreAsciiCase_iff]
    exact hnames

theorem findSome_eq_find (entries : List (Sigma fun _ : String => EventSchema)) (name : String) :
    (entries.findSome? fun entry =>
        if eqIgnoreAsciiCase entry.1 name then some entry.2 else none) =
      (entries.find? fun entry =>
        decide (toAsciiLowercase entry.1 = toAsciiLowercase name)).map (·.2) := by
  induction entries with
  | nil => rfl
  | cons entry entries ih =>
    rw [List.findSome?_cons, List.find?_cons]
    by_cases hfolded : eqIgnoreAsciiCase entry.1 name = true
    · rw [if_pos hfolded, decide_eq_true (eqIgnoreAsciiCase_iff.mp hfolded)]
      rfl
    · rw [if_neg hfolded, decide_eq_false fun h => hfolded (eqIgnoreAsciiCase_iff.mpr h)]
      exact ih

/-- A name stands for the base of the event type that is looked up, or else for itself. -/
theorem resolveStreamKeyAlias_lookup (settings : Settings) (name : String) :
    resolveStreamKeyAlias settings name =
      match FoldedLookup.lookup toAsciiLowercase settings.schemas name with
      | some entry => entry.2.base name
      | none => name := by
  have hbase : ∀ schema : EventSchema,
      (schema.topic.map (·.base)).getD name = schema.base name := by
    intro schema
    unfold EventSchema.base
    cases schema.topic with
    | none => rfl
    | some topicConfig => rfl
  unfold resolveStreamKeyAlias Settings.schemas FoldedLookup.lookup
  cases settings.notificationSchema with
  | none => rfl
  | some schemas =>
    simp only [findSome_eq_find, hbase]
    show (match (schemas.entries.dlookup name).or _ with
      | none => name
      | some schema => schema.base name) = _
    cases hexact : schemas.entries.dlookup name with
    | some schema => rfl
    | none =>
      rw [Option.none_or]
      cases schemas.entries.find? fun entry =>
          decide (toAsciiLowercase entry.1 = toAsciiLowercase name) with
      | none => rfl
      | some entry => rfl

theorem resolveStreamKeyAlias_of_lookup {settings : Settings} {name : String}
    {entry : Sigma fun _ : String => EventSchema}
    (h : FoldedLookup.lookup toAsciiLowercase settings.schemas name = some entry) :
    resolveStreamKeyAlias settings name = entry.2.base name := by
  rw [resolveStreamKeyAlias_lookup, h]

/-- Without an alias, a name stands for itself. -/
theorem resolveStreamKeyAlias_unaliased {settings : Settings} {name : String}
    (h : ∀ owner, ¬ settings.AliasOf name owner) : resolveStreamKeyAlias settings name = name := by
  rw [resolveStreamKeyAlias_lookup]
  cases hfound : FoldedLookup.lookup toAsciiLowercase settings.schemas name with
  | none => rfl
  | some entry => exact absurd (isAlias_iff.mp (FoldedLookup.lookup_isAlias hfound)).2 (h entry.1)

/-- An event type stands for its base. -/
theorem resolveStreamKeyAlias_eventType {settings : Settings} {name : String} {schema : EventSchema}
    (h : settings.schemaOf name = some schema) :
    resolveStreamKeyAlias settings name = schema.base name := by
  have hfound : FoldedLookup.lookup toAsciiLowercase settings.schemas name = some ⟨name, schema⟩ := by
    unfold FoldedLookup.lookup
    rw [schemaOf_eq_dlookup, h]
  exact resolveStreamKeyAlias_of_lookup hfound

/-- The base that an alias is resolved to is on the stream of the alias. -/
theorem Settings.AliasOf.stream {settings : Settings} {name owner : String}
    (h : settings.AliasOf name owner) (schema : EventSchema) :
    toAsciiUppercase (schema.base name) = toAsciiUppercase (schema.base owner) := by
  obtain ⟨_, _, hnames⟩ := h
  unfold EventSchema.base
  cases schema.topic with
  | some topicConfig => rfl
  | none =>
    -- the base of a schema without a topic section is the event type itself
    show toAsciiUppercase name = toAsciiUppercase owner
    cases hnames with
    | inl hname => rw [hname]
    | inr hfolded => rw [toAsciiUppercase_of_lowered (eqIgnoreAsciiCase_iff.mp hfolded.2)]

/-! ## 4. Names that act on their own stream -/

/-- Two keys that differ only in the case of ASCII letters. -/
def SameStream (left right : String) : Prop :=
  eqIgnoreAsciiCase left right = true

theorem SameStream.uppercase {left right : String} (h : SameStream left right) :
    toAsciiUppercase left = toAsciiUppercase right :=
  toAsciiUppercase_of_lowered (eqIgnoreAsciiCase_iff.mp h)

/-- The operations of both backends do the same for two keys of one stream. -/
theorem SameStream.operations {toLowercase : String → String} (laws : LowercaseLaws toLowercase)
    {left right : String} (h : SameStream left right) (hleft : isAscii left) (hright : isAscii right) :
    wipeStream toLowercase left = wipeStream toLowercase right ∧
      deleteMessage toLowercase left = deleteMessage toLowercase right ∧
      ∀ streams calls, (jetstreamWipeStream streams calls left).1 =
        (jetstreamWipeStream streams calls right).1 := by
  have hlowered : toLowercase left = toLowercase right := by
    rw [laws.ascii left hleft, laws.ascii right hright, eqIgnoreAsciiCase_iff.mp h]
  have hleading : streamPrefix toLowercase left = streamPrefix toLowercase right := by
    unfold streamPrefix
    rw [hlowered]
  have hholds : holdsSequence toLowercase left = holdsSequence toLowercase right := by
    funext sequence entry
    unfold holdsSequence topicInStream
    rw [hlowered, hleading]
  refine ⟨?_, ?_, ?_⟩
  · funext state
    unfold wipeStream
    rw [hleading]
  · funext sequence state
    unfold deleteMessage
    rw [hholds]
  · intro streams calls
    rw [jetstreamWipeStream_streams, jetstreamWipeStream_streams, h.uppercase]

/-- A name leads to one target in every order of the schemas: an event type to its own base, and
the name of a stream to that stream. -/
structure ResolvesTarget (same : String → String → Prop) (settings : Settings) (name : String) :
    Prop where
  ordered : ∀ reordered schemas, settings.Reordered reordered schemas →
    resolveStreamKeyAlias reordered name = resolveStreamKeyAlias settings name
  eventType : ∀ schema, settings.schemaOf name = some schema →
    resolveStreamKeyAlias settings name = schema.base name
  stream : ∀ owner schema, settings.schemaOf owner = some schema →
    SameStream (schema.base owner) name →
    same (resolveStreamKeyAlias settings name) (schema.base owner)

/-- The name stands for no two event types, and for none but the one whose stream it is. -/
structure Unambiguous (settings : Settings) (name : String) : Prop where
  aliases : ∀ left right, settings.AliasOf name left → settings.AliasOf name right → left = right
  streams : ∀ left right, settings.AliasOf name left → settings.StreamOf name right → left = right

/-- The name has the case of the base, unless it stands for an event type with this base. -/
def SpelledAsBase (settings : Settings) (name : String) : Prop :=
  ∀ owner schema, settings.schemaOf owner = some schema → SameStream (schema.base owner) name →
    (settings.AliasOf name owner ∧ schema.topic.isSome = true) ∨ schema.base owner = name

section Accepted

variable {debugStrings : List String → String} {ecpds : Bool} {settings : Settings} {name : String}

theorem Settings.AliasOf.exists_entry {owner : String} (h : settings.AliasOf name owner) :
    ∃ schema, settings.schemaOf owner = some schema ∧
      FoldedLookup.IsAlias toAsciiLowercase settings.schemas name ⟨owner, schema⟩ := by
  obtain ⟨schema, hschema, hnames⟩ := h
  exact ⟨schema, hschema, isAlias_iff.mpr ⟨hschema, schema, hschema, hnames⟩⟩

theorem isAlias_unique (haliases : ∀ left right, settings.AliasOf name left →
      settings.AliasOf name right → left = right) (left right : Sigma fun _ : String => EventSchema)
    (hleft : FoldedLookup.IsAlias toAsciiLowercase settings.schemas name left)
    (hright : FoldedLookup.IsAlias toAsciiLowercase settings.schemas name right) : left = right := by
  obtain ⟨leftType, leftSchema⟩ := left
  obtain ⟨rightType, rightSchema⟩ := right
  have hleftAlias := isAlias_iff.mp hleft
  have hrightAlias := isAlias_iff.mp hright
  have hsame : leftType = rightType := haliases _ _ hleftAlias.2 hrightAlias.2
  subst hsame
  have hschema := hleftAlias.1.symm.trans hrightAlias.1
  cases hschema
  rfl

/-- Some order of the schemas leads a name to each of its aliases. -/
theorem Settings.AliasOf.exists_order {owner : String} (h : settings.AliasOf name owner) :
    ∃ schema reordered schemas, settings.schemaOf owner = some schema ∧
      settings.Reordered reordered schemas ∧
      resolveStreamKeyAlias reordered name = schema.base name := by
  obtain ⟨schema, hschema, halias⟩ := h.exists_entry
  obtain ⟨entries, hperm, hfound⟩ := FoldedLookup.exists_order (schemas_nodupKeys settings) halias
  let schemas : HashMap EventSchema :=
    ⟨entries, (List.perm_nodupKeys hperm).mpr (schemas_nodupKeys settings)⟩
  let reordered : Settings := { settings with notificationSchema := some schemas }
  have hfound' : FoldedLookup.lookup toAsciiLowercase reordered.schemas name =
    some ⟨owner, schema⟩ := hfound
  exact ⟨schema, reordered, schemas, hschema, ⟨rfl, hperm⟩,
    resolveStreamKeyAlias_of_lookup hfound'⟩

theorem ordered_iff (haccepted : settings.validate debugStrings ecpds = .ok ()) :
    (∀ reordered schemas, settings.Reordered reordered schemas →
      resolveStreamKeyAlias reordered name = resolveStreamKeyAlias settings name) ↔
      ∀ left right, settings.AliasOf name left → settings.AliasOf name right → left = right := by
  constructor
  · intro hordered left right hleft hright
    obtain ⟨leftSchema, leftSettings, _, hleftSchema, hleftOrder, hleftBase⟩ := hleft.exists_order
    obtain ⟨rightSchema, rightSettings, _, hrightSchema, hrightOrder, hrightBase⟩ :=
      hright.exists_order
    have hbase : leftSchema.base name = rightSchema.base name := by
      rw [← hleftBase, ← hrightBase, hordered _ _ hleftOrder, hordered _ _ hrightOrder]
    apply stream_owner_unique haccepted hleftSchema hrightSchema
    rw [← hleft.stream leftSchema, hbase, hright.stream rightSchema]
  · intro haliases reordered schemas horder
    have hsame : reordered.schemas = schemas.entries := by
      rw [horder.same]
      rfl
    have hlookup := FoldedLookup.lookup_reorder horder.order (schemas_nodupKeys settings)
      (isAlias_unique haliases)
    rw [resolveStreamKeyAlias_lookup, resolveStreamKeyAlias_lookup, hsame, hlookup]

/-- An alias that is the only one is what the name leads to. -/
theorem Unambiguous.resolve (h : Unambiguous settings name) {owner : String} {schema : EventSchema}
    (halias : settings.AliasOf name owner) (hschema : settings.schemaOf owner = some schema) :
    resolveStreamKeyAlias settings name = schema.base name := by
  obtain ⟨schema', hschema', hentry⟩ := halias.exists_entry
  have hsame := hschema'.symm.trans hschema
  cases hsame
  have hfound := FoldedLookup.lookup_of_isAlias hentry fun other hother =>
    isAlias_unique h.aliases other _ hother hentry
  exact resolveStreamKeyAlias_of_lookup hfound

/-- A stream with an alias is the alias's own, as soon as the name leads to the stream. -/
theorem unambiguous_of_resolves (haccepted : settings.validate debugStrings ecpds = .ok ())
    {same : String → String → Prop} (hsame : ∀ left right, same left right → SameStream left right)
    (h : ResolvesTarget same settings name) : Unambiguous settings name where
  aliases := (ordered_iff haccepted).mp h.ordered
  streams := by
    intro left right halias hstream
    obtain ⟨leftSchema, hleft, hentry⟩ := halias.exists_entry
    obtain ⟨rightSchema, hright, hnamed⟩ := hstream
    have hresolve : resolveStreamKeyAlias settings name = leftSchema.base name := by
      have hfound := FoldedLookup.lookup_of_isAlias hentry fun other hother =>
        isAlias_unique ((ordered_iff haccepted).mp h.ordered) other _ hother hentry
      exact resolveStreamKeyAlias_of_lookup hfound
    have hbase := (hsame _ _ (h.stream right rightSchema hright hnamed)).uppercase
    apply stream_owner_unique haccepted hleft hright
    rw [← halias.stream leftSchema, ← hresolve, hbase]

theorem SameStream.symm {left right : String} (h : SameStream left right) :
    SameStream right left :=
  eqIgnoreAsciiCase_iff.mpr (eqIgnoreAsciiCase_iff.mp h).symm

/-- The target of an unambiguous name, for an event type whose stream it is. -/
theorem Unambiguous.stream_cases (h : Unambiguous settings name) {owner : String}
    {schema : EventSchema} (hschema : settings.schemaOf owner = some schema)
    (hnamed : SameStream (schema.base owner) name) :
    (settings.AliasOf name owner ∧ schema.topic.isSome = true ∧
        resolveStreamKeyAlias settings name = schema.base owner) ∨
      ((settings.AliasOf name owner → schema.topic = none) ∧
        resolveStreamKeyAlias settings name = name) := by
  by_cases haliased : ∃ other, settings.AliasOf name other
  · obtain ⟨other, halias⟩ := haliased
    have hsame := h.streams other owner halias ⟨schema, hschema, hnamed⟩
    subst hsame
    have hresolve := h.resolve halias hschema
    cases htopic : schema.topic with
    | some topicConfig =>
      left
      rw [hresolve, EventSchema.base_of_topic htopic, EventSchema.base_of_topic htopic]
      exact ⟨halias, rfl, rfl⟩
    | none =>
      right
      rw [hresolve]
      unfold EventSchema.base
      rw [htopic]
      exact ⟨fun _ => rfl, rfl⟩
  · right
    refine ⟨fun howner => absurd ⟨owner, howner⟩ haliased, ?_⟩
    exact resolveStreamKeyAlias_unaliased fun other hother => haliased ⟨other, hother⟩

/-- A name leads to its own stream, in every order of the schemas, exactly when it stands for no two
event types and for none but the one whose stream it is. It leads to the base itself exactly when,
moreover, it is the base to the letter where it does not stand for the event type. -/
theorem resolvesTarget_iff (haccepted : settings.validate debugStrings ecpds = .ok ())
    (name : String) :
    (ResolvesTarget (· = ·) settings name ↔
        Unambiguous settings name ∧ SpelledAsBase settings name) ∧
      (ResolvesTarget SameStream settings name ↔ Unambiguous settings name) := by
  have hrefl : ∀ left right : String, left = right → SameStream left right := by
    intro left right heq
    rw [heq]
    exact eqIgnoreAsciiCase_iff.mpr rfl
  have heventType : ∀ schema, settings.schemaOf name = some schema →
      resolveStreamKeyAlias settings name = schema.base name :=
    fun _ => resolveStreamKeyAlias_eventType
  constructor
  · constructor
    · intro h
      have hunambiguous := unambiguous_of_resolves haccepted hrefl h
      refine ⟨hunambiguous, ?_⟩
      intro owner schema hschema hnamed
      have hbase := h.stream owner schema hschema hnamed
      cases hunambiguous.stream_cases hschema hnamed with
      | inl htopic => exact Or.inl ⟨htopic.1, htopic.2.1⟩
      | inr hname => exact Or.inr (hbase.symm.trans hname.2)
    · intro ⟨hunambiguous, hspelled⟩
      refine ⟨(ordered_iff haccepted).mpr hunambiguous.aliases, heventType, ?_⟩
      intro owner schema hschema hnamed
      cases hunambiguous.stream_cases hschema hnamed with
      | inl htopic => exact htopic.2.2
      | inr hname =>
        rw [hname.2]
        cases hspelled owner schema hschema hnamed with
        | inl htopic =>
          have hnone := hname.1 htopic.1
          rw [hnone] at htopic
          exact absurd htopic.2 Bool.false_ne_true
        | inr hbase => exact hbase.symm
  · constructor
    · exact unambiguous_of_resolves haccepted fun _ _ hsame => hsame
    · intro hunambiguous
      refine ⟨(ordered_iff haccepted).mpr hunambiguous.aliases, heventType, ?_⟩
      intro owner schema hschema hnamed
      cases hunambiguous.stream_cases hschema hnamed with
      | inl htopic => exact hrefl _ _ htopic.2.2
      | inr hname =>
        rw [hname.2]
        exact hnamed.symm

end Accepted

-- the event type of one schema is the base of the other
def crossedSchema (base : String) : EventSchema :=
  { marsSchema with topic := some { base := base, keyOrder := ["class"] } }

def crossedSettings : Settings :=
  { feedSettings with
    notificationSchema :=
      some (AList.insert "mars" (crossedSchema "diss")
        (AList.singleton "dissemination" (crossedSchema "mars"))) }

theorem crossedSettings_accepted :
    crossedSettings.validate plainLibraries.debugStrings false = .ok () := by
  decide +kernel

theorem resolvesTarget_iff_diss :
    (ResolvesTarget (· = ·) crossedSettings "diss" ↔
        Unambiguous crossedSettings "diss" ∧ SpelledAsBase crossedSettings "diss") ∧
      (ResolvesTarget SameStream crossedSettings "diss" ↔ Unambiguous crossedSettings "diss") :=
  resolvesTarget_iff crossedSettings_accepted "diss"

/-- `mars` is a stream, and wiping `mars` wipes the stream `diss`. -/
theorem mars_crossed :
    crossedSettings.validate plainLibraries.debugStrings false = .ok () ∧
      resolveStreamKeyAlias crossedSettings "mars" = "diss" ∧
      ¬ ResolvesTarget (· = ·) crossedSettings "mars" ∧
      ¬ ResolvesTarget SameStream crossedSettings "mars" := by
  have hresolve : resolveStreamKeyAlias crossedSettings "mars" = "diss" := by decide +kernel
  have howner : crossedSettings.schemaOf "dissemination" = some (crossedSchema "mars") := rfl
  have hnamed : SameStream ((crossedSchema "mars").base "dissemination") "mars" := by
    unfold SameStream
    decide +kernel
  refine ⟨crossedSettings_accepted, hresolve, ?_, ?_⟩
  · intro h
    have hbase := h.stream _ _ howner hnamed
    rw [hresolve] at hbase
    exact absurd hbase (by decide +kernel)
  · intro h
    have hbase := h.stream _ _ howner hnamed
    rw [hresolve] at hbase
    unfold SameStream at hbase
    exact absurd hbase (by decide +kernel)

end AvisoServer
