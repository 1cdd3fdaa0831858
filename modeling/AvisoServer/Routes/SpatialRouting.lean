import AvisoServer.Notification.RoutingTotality
import AvisoServer.Notification.SubjectTokens
import AvisoServer.Routes.UnboxedFilters

/-!
# Spatial filters and routing

With a topic section, the polygon and the point of a stream stay out of its pattern. Without one,
every canonical parameter is a token: a polygon then matches the same polygon only, and a point
makes the pattern longer than every topic.
-/

namespace AvisoServer

/-! ## 1. Streams and notifications of an event type -/

/-- A notification that the server accepts. -/
structure AcceptedNotify (lib : Libraries) (settings : Settings) (eventType : String) where
  request : NotificationRequest
  sameType : request.eventType = eventType
  notifier : Option User
  stored : ProcessingResult
  notified : notify lib settings notifier request = .ok stored

/-- A watch or replay that the server accepts. -/
structure AcceptedStream (lib : Libraries) (settings : Settings) (eventType : String) where
  wanted : NotificationRequest
  sameType : wanted.eventType = eventType
  reader : Option User
  operation : OperationType
  reads : operation ≠ .notify
  context : StreamingRequestContext
  streamed : streamingContext lib settings reader wanted operation = .ok context

/-- The pattern of a stream matches a topic. -/
def PatternMatches (watchTopic notificationTopic : String) : Prop :=
  ∃ coarse pattern, analyzeWatchPattern watchTopic = .ok (coarse, pattern) ∧
    matchesWatchPattern notificationTopic pattern = true

/-- The pattern of the stream matches the topic of the notification. -/
def AcceptedStream.Matches {lib : Libraries} {settings : Settings} {eventType : String}
    (stream : AcceptedStream lib settings eventType)
    (notification : AcceptedNotify lib settings eventType) : Prop :=
  PatternMatches stream.context.result.topic notification.stored.topic

/-- Two streams match the same topics of accepted notifications. -/
def SamePatterns {lib : Libraries} {settings : Settings} {eventType : String}
    (left right : AcceptedStream lib settings eventType) : Prop :=
  ∀ notification : AcceptedNotify lib settings eventType,
    left.Matches notification ↔ right.Matches notification

/-- Two requests have the same for every key that is no spatial filter. -/
def AgreeOffSpatial (left right : HashMap Json) : Prop :=
  ∀ key, key ≠ "polygon" → key ≠ "point" → right.get key = left.get key

theorem patternMatches_encodeSubject (tokens parts : List String) (hparts : parts ≠ [])
    (htokens : tokens ≠ []) :
    PatternMatches (encodeSubject tokens) (encodeSubject parts) ↔
      partsMatch parts tokens = true := by
  unfold PatternMatches
  rw [analyzeWatchPattern_encodeSubject tokens htokens]
  constructor
  · rintro ⟨coarse, pattern, hpattern, hmatch⟩
    cases hpattern
    rwa [matchesWatchPattern_encodeSubject parts tokens hparts] at hmatch
  · intro hmatch
    refine ⟨_, _, rfl, ?_⟩
    rwa [matchesWatchPattern_encodeSubject parts tokens hparts]

/-! ## 2. What a field routes -/

/-- A field of a stream lets the topic of a notification through: it is omitted, it is a constraint,
or the canonical values are equal. -/
inductive FieldRouted (lib : Libraries) (wanted notified : HashMap Json)
    (field : Sigma fun _ : String => IdentifierFieldConfig) : Prop where
  | omitted : wanted.get field.1 = none → FieldRouted lib wanted notified field
  | constraint {value : Json} : wanted.get field.1 = some value → value.isObject = true →
      FieldRouted lib wanted notified field
  | scalar {value : Json} {text : String} : wanted.get field.1 = some value →
      validateAndCanonicalizeField lib field.1 value field.2.rule = .ok text →
      (text = "*" ∨ CanonicalText lib notified field (some text)) →
      FieldRouted lib wanted notified field

/-- The scalar fields of a stream let the topic of a notification through. -/
def ScalarsRouted (lib : Libraries) (schema : EventSchema) (wanted notified : HashMap Json) :
    Prop :=
  ∀ field ∈ schema.identifier.entries, field.2.rule.isSpatial = false →
    FieldRouted lib wanted notified field

theorem fieldRouted_iff {lib : Libraries} {wanted notified : HashMap Json}
    {field : Sigma fun _ : String => IdentifierFieldConfig}
    {entry : Option String × Option IdentifierConstraint} {stored : String}
    (hstreamed : StreamedValue lib wanted field entry)
    (hnotified : CanonicalText lib notified field (some stored)) :
    FieldRouted lib wanted notified field ↔
      entry.1.getD "" = "*" ∨ entry.1.getD "" = stored := by
  cases hstreamed with
  | omitted hnone => exact iff_of_true (.omitted hnone) (Or.inl rfl)
  | constraint hvalue hobject _ => exact iff_of_true (.constraint hvalue hobject) (Or.inl rfl)
  | @scalar value text hvalue hobject htext =>
    rw [Option.getD_some]
    constructor
    · intro hrouted
      cases hrouted with
      | omitted hnone =>
        rw [hvalue] at hnone
        cases hnone
      | constraint hvalue' hobject' =>
        rw [hvalue] at hvalue'
        cases hvalue'
        rw [hobject] at hobject'
        cases hobject'
      | scalar hvalue' htext' hmatches =>
        rw [hvalue] at hvalue'
        cases hvalue'
        rw [htext] at htext'
        cases htext'
        exact hmatches.imp_right fun hcanonical => Option.some.inj (hcanonical.unique hnotified)
    · intro hmatches
      apply FieldRouted.scalar hvalue htext
      apply hmatches.imp_right
      intro hsame
      rw [hsame]
      exact hnotified

/-- What a field routes follows from what both requests have for it. -/
theorem FieldRouted.congr {lib : Libraries} {wanted wanted' notified notified' : HashMap Json}
    {field : Sigma fun _ : String => IdentifierFieldConfig}
    (h : FieldRouted lib wanted notified field) (hwanted : wanted'.get field.1 = wanted.get field.1)
    (hnotified : notified'.get field.1 = notified.get field.1) :
    FieldRouted lib wanted' notified' field := by
  cases h with
  | omitted hnone => exact .omitted (hwanted.trans hnone)
  | constraint hvalue hobject => exact .constraint (hwanted.trans hvalue) hobject
  | scalar hvalue htext hmatches =>
    refine .scalar (hwanted.trans hvalue) htext (hmatches.imp_right ?_)
    intro hcanonical
    obtain ⟨value, text, hget, hcanonical, hsome⟩ := hcanonical
    exact ⟨value, text, hnotified.trans hget, hcanonical, hsome⟩

/-! ## 3. Topics without a topic section -/

section Untopiced

variable {lib : Libraries} {schema : EventSchema} {params : HashMap Json}
  {result : IdentifierProcessingResult}

theorem hasPointCloudSchema_eq_false
    (hcloud : ∀ field ∈ schema.identifier.entries, field.2.rule.isPointCloud = false) :
    hasPointCloudSchema schema = false := by
  unfold hasPointCloudSchema HashMap.values
  rw [List.any_eq_false]
  intro field hfield
  obtain ⟨entry, hentry, rfl⟩ := List.mem_map.mp hfield
  rw [hcloud entry hentry]
  decide

/-- Without point clouds, only a point is added to the fields. -/
theorem StreamedIdentifier.pointed (h : StreamedIdentifier lib schema params result)
    (hcloud : hasPointCloudSchema schema = false) :
    ∃ fields,
      (∀ field ∈ schema.identifier.entries,
        StreamedValue lib params field (streamedEntry fields field.1)) ∧
      (∀ key, schema.identifier.get key = none → streamedEntry fields key = (none, none)) ∧
      addPointFilter lib params fields = .ok result := by
  obtain ⟨fields, pointed, hfields, hothers, hpoint, hpolygon⟩ := h.filters
  refine ⟨fields, hfields, hothers, ?_⟩
  rcases addPolygonFilter_eq_ok hpolygon with ⟨-, rfl⟩ | ⟨_, _, hhas, -⟩
  · exact hpoint
  · rw [hcloud] at hhas
    cases hhas

theorem StreamedIdentifier.plainField (h : StreamedIdentifier lib schema params result)
    (hcloud : hasPointCloudSchema schema = false)
    (hundeclared : schema.identifier.get "point" = none)
    {field : Sigma fun _ : String => IdentifierFieldConfig}
    (hfield : field ∈ schema.identifier.entries) :
    StreamedValue lib params field (streamedEntry result field.1) := by
  obtain ⟨fields, hfields, -, hpoint⟩ := h.pointed hcloud
  have hname : field.1 ≠ "point" := fun heq => get_none_ne hundeclared field hfield heq.symm
  rcases addPointFilter_eq_ok hpoint with ⟨-, rfl⟩ | ⟨_, _, -, -, hadded⟩
  · exact hfields field hfield
  · rw [hadded.others field.1 hname]
    exact hfields field hfield

/-- The keys of a stream are the fields of the schema and, if it has one, its point. -/
theorem StreamedIdentifier.isSome_iff (h : StreamedIdentifier lib schema params result)
    (hcloud : hasPointCloudSchema schema = false) (key : String) :
    (result.canonicalized.get key).isSome = true ↔
      (schema.identifier.get key).isSome = true ∨
        key = "point" ∧ (params.get "point").isSome = true := by
  obtain ⟨fields, hfields, hothers, hpoint⟩ := h.pointed hcloud
  have hplain : (fields.canonicalized.get key).isSome = true ↔
      (schema.identifier.get key).isSome = true := by
    cases hget : schema.identifier.get key with
    | none =>
      have hentry := congrArg Prod.fst (hothers key hget)
      rw [show fields.canonicalized.get key = none from hentry]
      exact iff_of_false (by decide) (by decide)
    | some field =>
      exact iff_of_true (hfields ⟨key, field⟩ (AList.mem_lookup_iff.mp hget)).isSome rfl
  rcases addPointFilter_eq_ok hpoint with ⟨hnone, rfl⟩ | ⟨value, canonical, hvalue, -, hadded⟩
  · rw [hplain, hnone]
    simp
  · by_cases hkey : key = "point"
    · subst hkey
      rw [hadded.text, hvalue]
      simp
    · rw [hadded.get_other hkey, hplain]
      simp [hkey]

theorem routedValue_untopiced (htopic : schema.topic = none) (operation : OperationType)
    (canonicalized : HashMap String) (key : String) :
    routedValue schema operation canonicalized key = (canonicalized.get key).getD "" := by
  unfold routedValue routingParams
  rw [htopic]
  simp

theorem mem_topicKeys_untopiced (htopic : schema.topic = none) {canonicalized : HashMap String}
    {key : String} :
    key ∈ schema.topicKeys canonicalized ↔ (canonicalized.get key).isSome = true := by
  unfold EventSchema.topicKeys
  rw [htopic]
  exact mem_sortStrings_keys

/-- Identifiers with the same keys give topics the same keys. -/
theorem topicKeys_congr {left right : HashMap String}
    (hkeys : ∀ key, (left.get key).isSome = true ↔ (right.get key).isSome = true) :
    schema.topicKeys left = schema.topicKeys right := by
  unfold EventSchema.topicKeys
  cases schema.topic with
  | some topicConfig => rfl
  | none =>
    apply sortStrings_congr
    apply (List.perm_ext_iff_of_nodup left.nodupKeys right.nodupKeys).mpr
    intro key
    exact AList.lookup_isSome.symm.trans ((hkeys key).trans AList.lookup_isSome)

variable {settings : Settings} {eventType : String}

/-- What an accepted notification puts into a topic without a topic section: its declared fields. -/
theorem AcceptedNotify.identifier (notification : AcceptedNotify lib settings eventType)
    (hschema : settings.schemaOf eventType = some schema) :
    schema.identifier.get "point" = none ∧
      NotifiedTopic schema eventType notification.stored ∧
      ∀ field ∈ schema.identifier.entries, ∃ text,
        notification.stored.canonicalizedParams.get field.1 = some text ∧
          CanonicalText lib notification.request.identifier field (some text) := by
  have hprocess := (notify_eq_ok notification.notified).2
  rw [notification.sameType] at hprocess
  obtain ⟨identifier, hidentifier, -, hparams, -⟩ := processRequest_notify hschema hprocess
  refine ⟨notify_pointUndeclared notification.notified hidentifier, notifiedTopic hschema hprocess,
    ?_⟩
  intro field hfield
  have htext := hidentifier.fields field hfield
  obtain ⟨_, text, -, -, hsome⟩ := htext
  have hcanonical := hidentifier.fields field hfield
  rw [hsome] at hcanonical
  rw [hparams]
  exact ⟨text, hsome, hcanonical⟩

/-- What an accepted stream puts into its pattern. -/
theorem AcceptedStream.identifier (stream : AcceptedStream lib settings eventType)
    (hschema : settings.schemaOf eventType = some schema) :
    StreamedTopic schema eventType stream.operation stream.context.result ∧
      ∃ identifier, StreamedIdentifier lib schema stream.wanted.identifier identifier ∧
        stream.context.result.canonicalizedParams = identifier.canonicalized := by
  have hprocess := (streamingContext_eq_ok stream.streamed).2
  rw [stream.sameType] at hprocess
  obtain ⟨identifier, hidentifier, -, hparams, -⟩ :=
    processRequest_streaming stream.reads hschema hprocess
  exact ⟨streamedTopic stream.reads hschema hprocess, identifier, hidentifier, hparams⟩

/-- Without a topic section, a pattern matches when the stream has no point, and every field of it,
the polygon among them, lets the topic through. -/
theorem AcceptedStream.matches_iff (stream : AcceptedStream lib settings eventType)
    (notification : AcceptedNotify lib settings eventType)
    (hschema : settings.schemaOf eventType = some schema) (htopic : schema.topic = none)
    (hcloud : hasPointCloudSchema schema = false) :
    stream.Matches notification ↔ stream.wanted.identifier.get "point" = none ∧
      ∀ field ∈ schema.identifier.entries,
        FieldRouted lib stream.wanted.identifier notification.request.identifier field := by
  obtain ⟨hundeclared, hstored, hfields⟩ := notification.identifier hschema
  obtain ⟨hpattern, identifier, hidentifier, hparams⟩ := stream.identifier hschema
  have hkeys := hidentifier.isSome_iff hcloud
  have hdeclared : ∀ key, (notification.stored.canonicalizedParams.get key).isSome = true ↔
      (schema.identifier.get key).isSome = true := by
    intro key
    refine ⟨hstored.declared key, ?_⟩
    intro hsome
    obtain ⟨field, hfield⟩ := Option.isSome_iff_exists.mp hsome
    obtain ⟨text, htext, -⟩ := hfields ⟨key, field⟩ (AList.mem_lookup_iff.mp hfield)
    rw [show notification.stored.canonicalizedParams.get key = some text from htext]
    rfl
  unfold AcceptedStream.Matches
  rw [hstored.topic, hpattern.topic, hparams,
    patternMatches_encodeSubject _ _ (List.cons_ne_nil _ _) (List.cons_ne_nil _ _)]
  cases hpoint : stream.wanted.identifier.get "point" with
  | some point =>
    -- the point is a token that no topic has a place for
    refine iff_of_false ?_ (fun h => Option.some_ne_none _ h.1)
    intro hmatch
    have hlength := ((partsMatch_iff_forall₂ _ _).mp hmatch).length_eq
    have hsame := topicKeys_eq_of_length
      (fun key hsome => (hkeys key).mpr (Or.inl ((hdeclared key).mp hsome)))
      (by simpa using hlength)
    have hmem : "point" ∈ schema.topicKeys identifier.canonicalized :=
      (mem_topicKeys_untopiced htopic).mpr
        ((hkeys "point").mpr (Or.inr ⟨rfl, by rw [hpoint]; rfl⟩))
    rw [← hsame, mem_topicKeys_untopiced htopic, hdeclared, hundeclared] at hmem
    cases hmem
  | none =>
    have hsame : schema.topicKeys identifier.canonicalized =
        schema.topicKeys notification.stored.canonicalizedParams := by
      apply topicKeys_congr
      intro key
      rw [hkeys key, hdeclared key, hpoint]
      simp
    rw [hsame, partsMatch_map_iff]
    refine Iff.trans ?_ (and_iff_right rfl).symm
    have hroutes : ∀ field ∈ schema.identifier.entries,
        (routedValue schema stream.operation identifier.canonicalized field.1 = "*" ∨
          routedValue schema stream.operation identifier.canonicalized field.1 =
            (notification.stored.canonicalizedParams.get field.1).getD "") ↔
          FieldRouted lib stream.wanted.identifier notification.request.identifier field := by
      intro field hfield
      obtain ⟨text, htext, hcanonical⟩ := hfields field hfield
      rw [routedValue_untopiced htopic, htext, Option.getD_some]
      exact (fieldRouted_iff (hidentifier.plainField hcloud hundeclared hfield) hcanonical).symm
    constructor
    · intro hall field hfield
      apply (hroutes field hfield).mp
      apply hall
      apply (mem_topicKeys_untopiced htopic).mpr
      obtain ⟨text, htext, -⟩ := hfields field hfield
      rw [htext]
      rfl
    · intro hall key hkey
      have hsome := (hdeclared key).mp ((mem_topicKeys_untopiced htopic).mp hkey)
      obtain ⟨field, hfield⟩ := Option.isSome_iff_exists.mp hsome
      have hmem := AList.mem_lookup_iff.mp hfield
      exact (hroutes ⟨key, field⟩ hmem).mpr (hall ⟨key, field⟩ hmem)

end Untopiced

/-! ## 4. Another polygon -/

section Polygon

variable {lib : Libraries} {schema : EventSchema} {params : HashMap Json}

/-- A field is accepted whatever was accepted before it. -/
theorem processNotifyField_total {others : HashMap Json}
    {before after : IdentifierProcessingResult}
    {field : Sigma fun _ : String => IdentifierFieldConfig}
    (h : processNotifyField lib params before field = .ok after)
    (hsame : others.get field.1 = params.get field.1) (before' : IdentifierProcessingResult) :
    ∃ after', processNotifyField lib others before' field = .ok after' := by
  unfold processNotifyField at h ⊢
  rw [hsame]
  cases hvalue : params.get field.1 with
  | none =>
    rw [hvalue] at h
    cases h
  | some value =>
    rw [hvalue] at h
    simp only at h ⊢
    by_cases hobject : value.isObject = true
    · rw [if_pos hobject] at h
      cases h
    rw [if_neg hobject] at h ⊢
    -- only the two geometries leave metadata, and both read what the field has
    cases hrule : field.2.rule with
    | pointCloudHandler required maxPoints =>
      rw [hrule] at h
      obtain ⟨cloud, hcloud, h⟩ := bind_eq_ok.mp h
      obtain ⟨metadata, hmetadata, -⟩ := bind_eq_ok.mp h
      exact ⟨_, bind_eq_ok.mpr ⟨cloud, hcloud, bind_eq_ok.mpr ⟨metadata, hmetadata, rfl⟩⟩⟩
    | polygonHandler required =>
      rw [hrule] at h
      obtain ⟨text, htext, h⟩ := bind_eq_ok.mp h
      obtain ⟨coordinates, hcoordinates, h⟩ := bind_eq_ok.mp h
      obtain ⟨metadata, hmetadata, -⟩ := bind_eq_ok.mp h
      exact ⟨_, bind_eq_ok.mpr ⟨text, htext, bind_eq_ok.mpr ⟨coordinates, hcoordinates,
        bind_eq_ok.mpr ⟨metadata, hmetadata, rfl⟩⟩⟩⟩
    | _ =>
      rw [hrule] at h
      obtain ⟨text, htext, -⟩ := bind_eq_ok.mp h
      exact ⟨_, bind_eq_ok.mpr ⟨text, htext, rfl⟩⟩

/-- A polygon that reads back is accepted. -/
theorem processNotifyField_polygon {field : IdentifierFieldConfig}
    (hrule : field.rule.isPolygon = true) {ring : List Coordinate}
    (hring : HasPolygon lib params ring) (hreads : ReadsPolygon lib ring)
    (before : IdentifierProcessingResult) :
    ∃ after, processNotifyField lib params before ⟨"polygon", field⟩ = .ok after := by
  obtain ⟨value, hvalue, hcanonical⟩ := hring
  obtain ⟨coordinates, hne, hparse⟩ := hreads
  obtain ⟨first, rest, rfl⟩ := List.exists_cons_of_ne_nil hne
  -- a constraint object is no polygon
  have hobject : value.isObject = false := by
    cases value with
    | object fields => cases hcanonical
    | _ => rfl
  obtain ⟨rule⟩ := field
  cases rule with
  | polygonHandler required =>
    unfold processNotifyField
    rw [hvalue]
    simp only [hobject]
    have htext : validateAndCanonicalizeField lib "polygon" value (.polygonHandler required) =
        .ok (lib.jsonToString (coordinatesArray ring)) := map_eq_ok.mpr ⟨_, hcanonical, rfl⟩
    exact ⟨_, bind_eq_ok.mpr ⟨_, htext, bind_eq_ok.mpr ⟨_, hparse, bind_eq_ok.mpr ⟨_, rfl, rfl⟩⟩⟩⟩
  | _ => cases hrule

/-- The identifier of a request with another polygon. -/
def withPolygon (params : HashMap Json) (value : Json) : HashMap Json :=
  AList.insert "polygon" value params

theorem withPolygon_get (value : Json) : (withPolygon params value).get "polygon" = some value :=
  AList.lookup_insert params

theorem withPolygon_get_other (value : Json) {key : String} (hkey : key ≠ "polygon") :
    (withPolygon params value).get key = params.get key :=
  AList.lookup_insert_ne hkey

/-- A request is accepted with another polygon in the place of its own. -/
theorem processNotifyRequest_polygon {payload : Option Json} {result : IdentifierProcessingResult}
    (h : processNotifyRequest lib schema params payload = .ok result)
    {field : IdentifierFieldConfig} (hfield : schema.identifier.get "polygon" = some field)
    (hrule : field.rule.isPolygon = true) {value : Json} {ring : List Coordinate}
    (hcanonical : PolygonHandler.validateJsonAndCanonicalize lib value "polygon" =
      .ok (coordinatesArray ring)) (hreads : ReadsPolygon lib ring) :
    ∃ result', processNotifyRequest lib schema (withPolygon params value) payload =
      .ok result' := by
  unfold processNotifyRequest at h ⊢
  obtain ⟨_, hknown, h⟩ := bind_eq_ok.mp h
  obtain ⟨folded, hfold, h⟩ := bind_eq_ok.mp h
  obtain ⟨_, hpayload, -⟩ := bind_eq_ok.mp h
  -- the polygon is declared, and the other keys were known before
  have hknown' : (withPolygon params value).entries.forM (rejectUnknownNotifyField schema) =
      .ok () := by
    apply forM_eq_ok.mpr
    intro param hparam
    have hget := mem_entries_get hparam
    by_cases hkey : param.1 = "polygon"
    · unfold rejectUnknownNotifyField
      rw [hkey, hfield]
      rfl
    · rw [withPolygon_get_other value hkey] at hget
      exact forM_eq_ok.mp hknown _ (AList.mem_lookup_iff.mp hget)
  have hring : HasPolygon lib (withPolygon params value) ring :=
    ⟨value, withPolygon_get value, hcanonical⟩
  -- each field is accepted whatever the fold has collected
  have htotal : ∀ item ∈ schema.identifier.entries, ∀ before after,
      processNotifyField lib params before item = .ok after →
      ∀ before', ∃ after', processNotifyField lib (withPolygon params value) before' item =
        .ok after' := by
    intro item hitem before after hstep before'
    by_cases hkey : item.1 = "polygon"
    · have hget := mem_entries_get hitem
      rw [hkey, hfield] at hget
      have hsame : item = ⟨"polygon", field⟩ := by
        rw [Option.some.inj hget, ← hkey]
      rw [hsame]
      exact processNotifyField_polygon hrule hring hreads before'
    · exact processNotifyField_total hstep (withPolygon_get_other value hkey) before'
  obtain ⟨folded', hfold'⟩ := KeyedFold.foldlM_total hfold htotal .empty
  exact ⟨folded', bind_eq_ok.mpr ⟨(), hknown', bind_eq_ok.mpr ⟨folded', hfold',
    bind_eq_ok.mpr ⟨(), hpayload, rfl⟩⟩⟩⟩

/-- A notification is accepted with another polygon in the place of its own. -/
theorem AcceptedNotify.exists_polygon {settings : Settings} {eventType : String}
    (notification : AcceptedNotify lib settings eventType)
    (htopics : validateTopicSchemaSettings settings = .ok ())
    (hstorage : validateSchemaStoragePolicySupport settings = .ok ())
    (hschema : settings.schemaOf eventType = some schema) {field : IdentifierFieldConfig}
    (hfield : schema.identifier.get "polygon" = some field) (hrule : field.rule.isPolygon = true)
    {value : Json} {ring : List Coordinate}
    (hcanonical : PolygonHandler.validateJsonAndCanonicalize lib value "polygon" =
      .ok (coordinatesArray ring)) (hreads : ReadsPolygon lib ring) :
    ∃ other : AcceptedNotify lib settings eventType,
      other.request.identifier = withPolygon notification.request.identifier value := by
  obtain ⟨request, hsame, notifier, stored, hnotified⟩ := notification
  have hprocess := (notify_eq_ok hnotified).2
  rw [hsame] at hprocess
  obtain ⟨-, identifier, -, hidentifier, -⟩ := processRequest_schema hschema hprocess
  obtain ⟨identifier', hidentifier'⟩ :=
    processNotifyRequest_polygon hidentifier hfield hrule hcanonical hreads
  obtain ⟨stored', hstored'⟩ := processRequest_total htopics hstorage hschema
    (show processIdentifier lib schema _ request.payload .notify = .ok identifier'
      from hidentifier')
  let other : NotificationRequest :=
    { request with identifier := withPolygon request.identifier value }
  -- no check of the route before the processing reads the polygon
  have hnotified' : notify lib settings notifier other = .ok stored' := by
    unfold notify at hnotified ⊢
    obtain ⟨_, hknown, hnotified⟩ := bind_eq_ok.mp hnotified
    obtain ⟨_, hend, hnotified⟩ := bind_eq_ok.mp hnotified
    obtain ⟨_, hpoint, hnotified⟩ := bind_eq_ok.mp hnotified
    obtain ⟨_, hauth, -⟩ := bind_eq_ok.mp hnotified
    have hpoint' : rejectPoint other = .ok () := by
      unfold rejectPoint at hpoint ⊢
      rw [show other.identifier.get "point" = request.identifier.get "point" from
        withPolygon_get_other value (by decide)]
      exact hpoint
    have hprocess' : processNotificationRequest lib settings other .notify = .ok stored' := by
      unfold processNotificationRequest
      rw [show other.eventType = eventType from hsame, hstored']
      rfl
    exact bind_eq_ok.mpr ⟨(), hknown, bind_eq_ok.mpr ⟨(), hend, bind_eq_ok.mpr ⟨(), hpoint',
      bind_eq_ok.mpr ⟨(), hauth, by rw [hprocess']; rfl⟩⟩⟩⟩
  exact ⟨⟨other, hsame, notifier, stored', hnotified'⟩, rfl⟩

end Polygon

/-! ## 5. Spatial filters -/

/-- The canonical text of the polygon of a request. -/
def polygonText (lib : Libraries) (params : HashMap Json) : Option String :=
  (params.get "polygon").bind fun value =>
    (PolygonHandler.validateJsonAndCanonicalize lib value "polygon").toOption.map lib.jsonToString

/-- Both requests have a point, or neither has and their polygons are the same. -/
def SameSpatialFilter (lib : Libraries) (left right : HashMap Json) : Prop :=
  ((left.get "point").isSome = true ∧ (right.get "point").isSome = true) ∨
    (left.get "point" = none ∧ right.get "point" = none ∧
      polygonText lib left = polygonText lib right)

section Spatial

variable {lib : Libraries} {schema : EventSchema} {wanted notified : HashMap Json}

theorem HasPolygon.polygonText {params : HashMap Json} {ring : List Coordinate}
    (h : HasPolygon lib params ring) :
    polygonText lib params = some (lib.jsonToString (coordinatesArray ring)) := by
  obtain ⟨value, hvalue, hcanonical⟩ := h
  unfold AvisoServer.polygonText
  rw [hvalue, Option.bind_some, hcanonical]
  rfl

theorem polygonText_eq_none {params : HashMap Json} (h : params.get "polygon" = none) :
    polygonText lib params = none := by
  unfold polygonText
  rw [h]
  rfl

/-- The polygon field of a schema lets a notification through when the stream has none, or the one
of the notification. -/
theorem fieldRouted_polygon {field : IdentifierFieldConfig} (hrule : field.rule.isPolygon = true)
    {entry : Option String × Option IdentifierConstraint}
    (hstreamed : StreamedValue lib wanted ⟨"polygon", field⟩ entry)
    (hreads : ∀ ring, HasPolygon lib wanted ring → ReadsPolygon lib ring) {stored : String}
    (hnotified : CanonicalText lib notified ⟨"polygon", field⟩ (some stored)) :
    FieldRouted lib wanted notified ⟨"polygon", field⟩ ↔
      polygonText lib wanted = none ∨ polygonText lib wanted = polygonText lib notified := by
  have hstored : polygonText lib notified = some stored := by
    obtain ⟨value, text, hvalue, htext, hsome⟩ := hnotified
    obtain ⟨rule⟩ := field
    cases rule with
    | polygonHandler required =>
      obtain ⟨canonical, hcanonical, rfl⟩ := map_eq_ok.mp htext
      obtain ⟨ring, rfl, -, -⟩ := polygon_canonical_ring hcanonical
      rw [hsome]
      exact HasPolygon.polygonText ⟨value, hvalue, hcanonical⟩
    | _ => cases hrule
  rw [fieldRouted_iff hstreamed hnotified, hstored]
  rcases streamedPolygon hrule hstreamed with ⟨hnone, hstar⟩ | ⟨ring, hring, -, -, htext⟩
  · rw [hstar]
    exact iff_of_true (Or.inl rfl) (Or.inl (polygonText_eq_none hnone))
  · have hplain := (hreads ring hring).ne_wildcard
    rw [htext, hring.polygonText, Option.getD_some]
    simp [hplain]

end Spatial

/-! ## 6. Patterns of streams that differ in their spatial filters -/

section Streams

variable {lib : Libraries} {settings : Settings} {eventType : String} {ecpds : Bool}
  (haccepted : settings.validate lib.debugStrings ecpds = .ok ()) {schema : EventSchema}
  (hschema : settings.schemaOf eventType = some schema)

include haccepted hschema

/-- Without a topic section, the polygon of a stream is a part of its pattern, and a point makes the
pattern match nothing. -/
theorem AcceptedStream.matches_spatial (htopic : schema.topic = none)
    (stream : AcceptedStream lib settings eventType)
    (hreads : ∀ ring, HasPolygon lib stream.wanted.identifier ring → ReadsPolygon lib ring)
    (notification : AcceptedNotify lib settings eventType) :
    stream.Matches notification ↔ stream.wanted.identifier.get "point" = none ∧
      ScalarsRouted lib schema stream.wanted.identifier notification.request.identifier ∧
      (polygonText lib stream.wanted.identifier = none ∨
        polygonText lib stream.wanted.identifier =
          polygonText lib notification.request.identifier) := by
  have hspatial := validate_spatial haccepted hschema
  have hclouds := validate_noCloud haccepted hschema htopic
  have hcloud := hasPointCloudSchema_eq_false hclouds
  obtain ⟨hundeclared, -, hfields⟩ := notification.identifier hschema
  obtain ⟨-, identifier, hidentifier, -⟩ := stream.identifier hschema
  rw [stream.matches_iff notification hschema htopic hcloud]
  -- here the polygon is a field that is routed like the others
  have hpolygon : ∀ field, schema.identifier.get "polygon" = some field →
      (FieldRouted lib stream.wanted.identifier notification.request.identifier
          ⟨"polygon", field⟩ ↔
        polygonText lib stream.wanted.identifier = none ∨
          polygonText lib stream.wanted.identifier =
            polygonText lib notification.request.identifier) := by
    intro field hfield
    have hmem := AList.mem_lookup_iff.mp hfield
    obtain ⟨text, -, hcanonical⟩ := hfields ⟨"polygon", field⟩ hmem
    exact fieldRouted_polygon (hspatial.polygonRule field hfield)
      (hidentifier.plainField hcloud hundeclared hmem) hreads hcanonical
  apply and_congr_right
  intro _
  constructor
  · intro hall
    refine ⟨fun field hfield _ => hall field hfield, ?_⟩
    cases hfield : schema.identifier.get "polygon" with
    | some field =>
      exact (hpolygon field hfield).mp (hall ⟨"polygon", field⟩ (AList.mem_lookup_iff.mp hfield))
    | none =>
      -- no schema without point clouds knows an undeclared polygon
      apply Or.inl
      apply polygonText_eq_none
      cases hvalue : stream.wanted.identifier.get "polygon" with
      | none => rfl
      | some value =>
        have hknown := hidentifier.known "polygon" value hvalue
        unfold isSpatialFilter at hknown
        rw [hfield, hcloud] at hknown
        simp at hknown
  · intro hparts field hfield
    cases hrule : field.2.rule.isSpatial with
    | false => exact hparts.1 field hfield hrule
    | true =>
      unfold ValidationRules.isSpatial at hrule
      rw [hclouds field hfield, Bool.or_false] at hrule
      have hname := hspatial.polygonName field hfield hrule
      obtain ⟨name, config⟩ := field
      simp only at hname
      subst hname
      exact (hpolygon config (mem_entries_get hfield)).mpr hparts.2

/-- With a topic section, streams that differ in their spatial filters have one pattern. -/
theorem patterns_agree {topicConfig : TopicConfig} (htopic : schema.topic = some topicConfig)
    (hundeclared : schema.identifier.get "point" = none)
    (left right : AcceptedStream lib settings eventType)
    (hagree : AgreeOffSpatial left.wanted.identifier right.wanted.identifier) :
    left.context.result.topic = right.context.result.topic := by
  have hkeys := validate_keyOrder haccepted hschema htopic
  obtain ⟨hleft, leftIdentifier, hleftIdentifier, hleftParams⟩ := left.identifier hschema
  obtain ⟨hright, rightIdentifier, hrightIdentifier, hrightParams⟩ := right.identifier hschema
  have hvalues : ∀ key ∈ topicConfig.keyOrder,
      routedValue schema left.operation left.context.result.canonicalizedParams key =
        routedValue schema right.operation right.context.result.canonicalizedParams key := by
    intro key hkey
    have hdeclared := (hkeys.declared key hkey).2
    unfold routedValue
    -- a stream has a wildcard for the polygon; the point is not declared, so no key
    by_cases hpolygon : key = "polygon"
    · subst hpolygon
      rw [routingParams_polygon left.reads htopic hkey (hleft.declared "polygon" hdeclared),
        routingParams_polygon right.reads htopic hkey (hright.declared "polygon" hdeclared)]
    · have hpoint : key ≠ "point" := by
        rintro rfl
        rw [hundeclared] at hdeclared
        cases hdeclared
      rw [routingParams_get hpolygon, routingParams_get hpolygon, hleftParams, hrightParams]
      have hentry := hleftIdentifier.entry_unique hrightIdentifier (hagree key hpolygon hpoint).symm
      exact congrArg (fun entry => entry.1.getD "") hentry
  rw [hleft.topic, hright.topic]
  unfold EventSchema.topicKeys
  rw [htopic]
  exact congrArg (fun values => encodeSubject (schema.base eventType :: values))
    (List.map_congr_left hvalues)

/-- A notification whose scalar fields a stream routes, with any polygon that reads back. -/
theorem AcceptedNotify.exists_routed {wanted : HashMap Json} {field : IdentifierFieldConfig}
    (hfield : schema.identifier.get "polygon" = some field) (hrule : field.rule.isPolygon = true)
    (notification : AcceptedNotify lib settings eventType)
    (hrouted : ScalarsRouted lib schema wanted notification.request.identifier) {value : Json}
    {ring : List Coordinate}
    (hcanonical : PolygonHandler.validateJsonAndCanonicalize lib value "polygon" =
      .ok (coordinatesArray ring)) (hreads : ReadsPolygon lib ring) :
    ∃ other : AcceptedNotify lib settings eventType,
      ScalarsRouted lib schema wanted other.request.identifier ∧
        polygonText lib other.request.identifier =
          some (lib.jsonToString (coordinatesArray ring)) := by
  obtain ⟨hstorage, htopics⟩ := validate_schemas haccepted
  obtain ⟨other, hother⟩ := notification.exists_polygon htopics hstorage hschema hfield hrule
    hcanonical hreads
  refine ⟨other, ?_, ?_⟩
  · intro scalar hscalar hplain
    have hname := ((validate_spatial haccepted hschema).scalar_name hscalar hplain).1
    apply (hrouted scalar hscalar hplain).congr rfl
    rw [hother]
    exact withPolygon_get_other value hname
  · rw [hother]
    exact HasPolygon.polygonText ⟨value, withPolygon_get value, hcanonical⟩

end Streams

/-! ## 7. When routing leaves spatial filters out -/

-- another closed ring
def farSquare : List Coordinate :=
  [(.ofInt 8, .ofInt 8), (.ofInt 8, .ofInt 9), (.ofInt 9, .ofInt 9), (.ofInt 8, .ofInt 8)]

theorem farSquare_geometry : (∀ coordinate ∈ farSquare, ValidCoordinate coordinate) ∧
    PolygonHandler.validatePolygonGeometry farSquare = .ok () := by
  unfold ValidCoordinate
  decide +kernel

/-- `serde_json` prints the polygons of both requests so that they read back, and two small polygons
so that they differ. -/
structure PrintsPolygons (lib : Libraries) (left right : HashMap Json) : Prop where
  left : ∀ ring, HasPolygon lib left ring → ReadsPolygon lib ring
  right : ∀ ring, HasPolygon lib right ring → ReadsPolygon lib ring
  samples : ReadsPolygon lib square ∧ ReadsPolygon lib farSquare
  distinct : lib.jsonToString (coordinatesArray square) ≠
    lib.jsonToString (coordinatesArray farSquare)

section Untopiced

variable {lib : Libraries} {settings : Settings} {eventType : String} {ecpds : Bool}
  (haccepted : settings.validate lib.debugStrings ecpds = .ok ()) {schema : EventSchema}
  (hschema : settings.schemaOf eventType = some schema) (htopic : schema.topic = none)

include haccepted hschema htopic

/-- A stream with a polygon has it from the schema. -/
theorem AcceptedStream.declares_polygon (stream : AcceptedStream lib settings eventType)
    {value : Json} (hvalue : stream.wanted.identifier.get "polygon" = some value) :
    ∃ field, schema.identifier.get "polygon" = some field ∧ field.rule.isPolygon = true ∧
      ∃ ring, HasPolygon lib stream.wanted.identifier ring := by
  have hspatial := validate_spatial haccepted hschema
  have hcloud := hasPointCloudSchema_eq_false (validate_noCloud haccepted hschema htopic)
  obtain ⟨-, identifier, hidentifier, -⟩ := stream.identifier hschema
  have hknown := hidentifier.known "polygon" value hvalue
  unfold isSpatialFilter at hknown
  rw [hcloud] at hknown
  obtain ⟨field, hfield⟩ := Option.isSome_iff_exists.mp (by simpa using hknown)
  have hrule := hspatial.polygonRule field hfield
  refine ⟨field, hfield, hrule, ?_⟩
  obtain ⟨fields, hfields, -, -⟩ := hidentifier.pointed hcloud
  rcases streamedPolygon hrule (hfields ⟨"polygon", field⟩ (AList.mem_lookup_iff.mp hfield)) with
    ⟨hnone, -⟩ | ⟨ring, hring, -⟩
  · rw [hvalue] at hnone
    cases hnone
  · exact ⟨ring, hring⟩

/-- A stream without a point matches some notification, if its scalar fields route one. -/
theorem AcceptedStream.exists_matches (stream : AcceptedStream lib settings eventType)
    (hreads : ∀ ring, HasPolygon lib stream.wanted.identifier ring → ReadsPolygon lib ring)
    (hpoint : stream.wanted.identifier.get "point" = none)
    (notification : AcceptedNotify lib settings eventType)
    (hrouted : ScalarsRouted lib schema stream.wanted.identifier notification.request.identifier) :
    ∃ other : AcceptedNotify lib settings eventType, stream.Matches other ∧
      ∀ text, polygonText lib stream.wanted.identifier = some text →
        polygonText lib other.request.identifier = some text := by
  cases hvalue : stream.wanted.identifier.get "polygon" with
  | none =>
    have hnone : polygonText lib stream.wanted.identifier = none := polygonText_eq_none hvalue
    refine ⟨notification, ?_, fun text htext => by rw [hnone] at htext; cases htext⟩
    exact (stream.matches_spatial haccepted hschema htopic hreads notification).mpr
      ⟨hpoint, hrouted, Or.inl hnone⟩
  | some value =>
    obtain ⟨field, hfield, hrule, ring, hring⟩ :=
      stream.declares_polygon haccepted hschema htopic hvalue
    obtain ⟨_, _, hcanonical⟩ := id hring
    -- the notification with the polygon of the stream in the place of its own
    obtain ⟨other, hother, htext⟩ := notification.exists_routed haccepted hschema hfield hrule
      hrouted hcanonical (hreads ring hring)
    have hsame := hring.polygonText.trans htext.symm
    refine ⟨other, ?_, fun text hpolygon => by rw [← hsame, hpolygon]⟩
    exact (stream.matches_spatial haccepted hschema htopic hreads other).mpr
      ⟨hpoint, hother, Or.inr hsame⟩

variable {left right : AcceptedStream lib settings eventType}

/-- Streams without points that match the same topics have the same polygon: a notification of the
polygon of one is matched by the other, and a notification of another polygon is not. -/
theorem polygonText_of_samePatterns
    (hleft : ∀ ring, HasPolygon lib left.wanted.identifier ring → ReadsPolygon lib ring)
    (hright : ∀ ring, HasPolygon lib right.wanted.identifier ring → ReadsPolygon lib ring)
    (hsamples : ReadsPolygon lib square ∧ ReadsPolygon lib farSquare)
    (hdistinct : lib.jsonToString (coordinatesArray square) ≠
      lib.jsonToString (coordinatesArray farSquare))
    (hleftPoint : left.wanted.identifier.get "point" = none)
    (hrightPoint : right.wanted.identifier.get "point" = none)
    (notification : AcceptedNotify lib settings eventType)
    (hrouted : ScalarsRouted lib schema left.wanted.identifier notification.request.identifier)
    (hscalars : ∀ other : AcceptedNotify lib settings eventType,
      ScalarsRouted lib schema left.wanted.identifier other.request.identifier →
        ScalarsRouted lib schema right.wanted.identifier other.request.identifier)
    (hsame : SamePatterns left right) {text : String}
    (htext : polygonText lib left.wanted.identifier = some text) :
    polygonText lib right.wanted.identifier = some text := by
  obtain ⟨other, hmatches, hpolygon⟩ :=
    left.exists_matches haccepted hschema htopic hleft hleftPoint notification hrouted
  have hother := ((right.matches_spatial haccepted hschema htopic hright other).mp
    ((hsame other).mp hmatches)).2.2
  rw [hpolygon text htext] at hother
  refine hother.resolve_left ?_
  -- a stream without a polygon would also match a notification of another polygon
  intro hnone
  have hvalue : ∃ value, left.wanted.identifier.get "polygon" = some value := by
    cases hget : left.wanted.identifier.get "polygon" with
    | some value => exact ⟨value, rfl⟩
    | none =>
      rw [polygonText_eq_none hget] at htext
      cases htext
  obtain ⟨value, hvalue⟩ := hvalue
  obtain ⟨field, hfield, hrule, -⟩ := left.declares_polygon haccepted hschema htopic hvalue
  -- one of the two samples is not the polygon of the stream
  obtain ⟨ring, hring, hgeometry, hreads, hdiffers⟩ : ∃ ring : List Coordinate,
      (∀ coordinate ∈ ring, ValidCoordinate coordinate) ∧
        PolygonHandler.validatePolygonGeometry ring = .ok () ∧ ReadsPolygon lib ring ∧
        lib.jsonToString (coordinatesArray ring) ≠ text := by
    by_cases hsquare : lib.jsonToString (coordinatesArray square) = text
    · refine ⟨farSquare, farSquare_geometry.1, farSquare_geometry.2, hsamples.2, ?_⟩
      rw [← hsquare]
      exact hdistinct.symm
    · exact ⟨square, square_geometry.1, square_geometry.2, hsamples.1, hsquare⟩
  obtain ⟨sample, hsample, hsampleText⟩ := notification.exists_routed haccepted hschema hfield hrule
    hrouted (polygon_canonical_again lib "polygon" hring hgeometry) hreads
  have hmatched := (right.matches_spatial haccepted hschema htopic hright sample).mpr
    ⟨hrightPoint, hscalars sample hsample, Or.inl hnone⟩
  have hfollows := ((left.matches_spatial haccepted hschema htopic hleft sample).mp
    ((hsame sample).mpr hmatched)).2.2
  rw [htext, hsampleText] at hfollows
  rcases hfollows with hempty | hequal
  · cases hempty
  · exact hdiffers (Option.some.inj hequal).symm

/-- A stream with a point matches nothing. -/
theorem AcceptedStream.not_matches_point (stream : AcceptedStream lib settings eventType)
    (hreads : ∀ ring, HasPolygon lib stream.wanted.identifier ring → ReadsPolygon lib ring)
    (hpoint : (stream.wanted.identifier.get "point").isSome = true)
    (notification : AcceptedNotify lib settings eventType) : ¬ stream.Matches notification := by
  intro hmatches
  rw [((stream.matches_spatial haccepted hschema htopic hreads notification).mp hmatches).1]
    at hpoint
  cases hpoint

end Untopiced

section Routing

variable {lib : Libraries} {settings : Settings} {eventType : String} {ecpds : Bool}
  (haccepted : settings.validate lib.debugStrings ecpds = .ok ()) {schema : EventSchema}
  (hschema : settings.schemaOf eventType = some schema)
  {left right : AcceptedStream lib settings eventType}
  (hagree : AgreeOffSpatial left.wanted.identifier right.wanted.identifier)

include haccepted hschema hagree

/-- The scalar fields of both streams route the same. -/
theorem scalarsRouted_agree (notification : AcceptedNotify lib settings eventType) :
    ScalarsRouted lib schema left.wanted.identifier notification.request.identifier ↔
      ScalarsRouted lib schema right.wanted.identifier notification.request.identifier := by
  obtain ⟨hundeclared, -, -⟩ := notification.identifier hschema
  have hnames : ∀ field ∈ schema.identifier.entries, field.2.rule.isSpatial = false →
      right.wanted.identifier.get field.1 = left.wanted.identifier.get field.1 := by
    intro field hfield hscalar
    apply hagree
    · exact ((validate_spatial haccepted hschema).scalar_name hfield hscalar).1
    · exact fun hname => get_none_ne hundeclared field hfield hname.symm
  constructor
  · intro hrouted field hfield hscalar
    exact (hrouted field hfield hscalar).congr (hnames field hfield hscalar) rfl
  · intro hrouted field hfield hscalar
    exact (hrouted field hfield hscalar).congr (hnames field hfield hscalar).symm rfl

/-- Without a topic section, streams that match the same topics, and some topic at all, have the
same filter. -/
theorem sameFilter_of_samePatterns (htopic : schema.topic = none)
    (hprints : PrintsPolygons lib left.wanted.identifier right.wanted.identifier)
    (hsame : SamePatterns left right) (notification : AcceptedNotify lib settings eventType)
    (hrouted : ScalarsRouted lib schema left.wanted.identifier notification.request.identifier) :
    SameSpatialFilter lib left.wanted.identifier right.wanted.identifier := by
  have hscalars := scalarsRouted_agree haccepted hschema hagree
  have hrightRouted := (hscalars notification).mp hrouted
  -- a point matches nothing, and a stream without one matches some notification
  cases hleftPoint : left.wanted.identifier.get "point" with
  | some leftPoint =>
    have hleftSome : (left.wanted.identifier.get "point").isSome = true := by rw [hleftPoint]; rfl
    cases hrightPoint : right.wanted.identifier.get "point" with
    | some rightPoint => exact Or.inl ⟨hleftSome, by rw [hrightPoint]; rfl⟩
    | none =>
      obtain ⟨other, hmatches, -⟩ := right.exists_matches haccepted hschema htopic hprints.right
        hrightPoint notification hrightRouted
      exact absurd ((hsame other).mpr hmatches)
        (left.not_matches_point haccepted hschema htopic hprints.left hleftSome other)
  | none =>
    cases hrightPoint : right.wanted.identifier.get "point" with
    | some rightPoint =>
      have hrightSome : (right.wanted.identifier.get "point").isSome = true := by
        rw [hrightPoint]
        rfl
      obtain ⟨other, hmatches, -⟩ := left.exists_matches haccepted hschema htopic hprints.left
        hleftPoint notification hrouted
      exact absurd ((hsame other).mp hmatches)
        (right.not_matches_point haccepted hschema htopic hprints.right hrightSome other)
    | none =>
      refine Or.inr ⟨hleftPoint, hrightPoint, ?_⟩
      have hforward := @polygonText_of_samePatterns lib settings eventType ecpds haccepted schema
        hschema htopic left right hprints.left hprints.right hprints.samples hprints.distinct
        hleftPoint hrightPoint notification hrouted (fun other => (hscalars other).mp) hsame
      have hbackward := @polygonText_of_samePatterns lib settings eventType ecpds haccepted schema
        hschema htopic right left hprints.right hprints.left hprints.samples hprints.distinct
        hrightPoint hleftPoint notification hrightRouted (fun other => (hscalars other).mpr)
        (fun other => (hsame other).symm)
      cases hleftText : polygonText lib left.wanted.identifier with
      | some text => exact (hforward hleftText).symm
      | none =>
        cases hrightText : polygonText lib right.wanted.identifier with
        | none => rfl
        | some text =>
          have hleftSome := hbackward hrightText
          rw [hleftText] at hleftSome
          cases hleftSome

/-- Streams that differ in their spatial filters match the same topics exactly when the schema has a
topic section, or their filters are the same after all, or no notification has the scalar values
that they ask for. -/
theorem spatialFilter_iff
    (hprints : PrintsPolygons lib left.wanted.identifier right.wanted.identifier) :
    SamePatterns left right ↔
      schema.topic.isSome = true ∨
        SameSpatialFilter lib left.wanted.identifier right.wanted.identifier ∨
        ¬ ∃ notification : AcceptedNotify lib settings eventType,
          ScalarsRouted lib schema left.wanted.identifier notification.request.identifier := by
  have hscalars := scalarsRouted_agree haccepted hschema hagree
  cases htopic : schema.topic with
  | some topicConfig =>
    refine iff_of_true ?_ (Or.inl rfl)
    intro notification
    obtain ⟨hundeclared, -, -⟩ := notification.identifier hschema
    unfold AcceptedStream.Matches
    rw [patterns_agree haccepted hschema htopic hundeclared left right hagree]
  | none =>
    have hleft := left.matches_spatial haccepted hschema htopic hprints.left
    have hright := right.matches_spatial haccepted hschema htopic hprints.right
    constructor
    · intro hsame
      refine Or.inr (or_not_of_imp ?_)
      rintro ⟨notification, hrouted⟩
      exact sameFilter_of_samePatterns haccepted hschema hagree htopic hprints hsame notification
        hrouted
    · intro hcondition notification
      rw [hleft, hright, hscalars notification]
      rcases hcondition with hsome | hsame | hnone
      · cases hsome
      -- with a point on both sides neither matches, and without points the polygons decide
      · rcases hsame with ⟨hleftPoint, hrightPoint⟩ | ⟨hleftPoint, hrightPoint, htext⟩
        · refine iff_of_false ?_ ?_
          · intro h
            rw [h.1] at hleftPoint
            cases hleftPoint
          · intro h
            rw [h.1] at hrightPoint
            cases hrightPoint
        · rw [hleftPoint, hrightPoint, htext]
      · have hunrouted : ¬ ScalarsRouted lib schema right.wanted.identifier
            notification.request.identifier := fun hrouted =>
          hnone ⟨notification, (hscalars notification).mpr hrouted⟩
        exact iff_of_false (fun h => hunrouted h.2.1) (fun h => hunrouted h.2.1)

end Routing

/-! ## 8. A square and a point in it -/

def farSquareText : String :=
  "[[8.0,8.0],[8.0,9.0],[9.0,9.0],[8.0,8.0]]"

-- of JSON only the two rings are read
def areaLibraries : Libraries :=
  { wordLibraries with
    jsonFromStr := fun text =>
      if text = squareText then .ok (coordinatesArray square)
      else if text = farSquareText then .ok (coordinatesArray farSquare)
      else .error "expected value" }

theorem areaLibraries_text :
    areaLibraries.jsonToString (coordinatesArray square) = squareText ∧
      areaLibraries.jsonToString (coordinatesArray farSquare) = farSquareText := by
  decide +kernel

theorem areaLibraries_reads : ReadsPolygon areaLibraries square ∧
    ReadsPolygon areaLibraries farSquare := by
  obtain ⟨hsquare, hfar⟩ := areaLibraries_text
  constructor
  · refine PrintsAndReads.readsPolygon square_geometry.1 (by decide) ⟨?_, ?_, ?_⟩
    · rw [hsquare]
      show (if squareText = squareText then .ok (coordinatesArray square)
        else if squareText = farSquareText then .ok (coordinatesArray farSquare)
        else .error "expected value") = Except.ok (coordinatesArray square)
      exact if_pos rfl
    · rw [hsquare]
      decide
    · intro items _
      rw [hsquare]
      exact ⟨"[0.0,0.0],[0.0,1.0],[1.0,1.0],[0.0,0.0]", by decide⟩
  · refine PrintsAndReads.readsPolygon farSquare_geometry.1 (by decide) ⟨?_, ?_, ?_⟩
    · rw [hfar]
      show (if farSquareText = squareText then .ok (coordinatesArray square)
        else if farSquareText = farSquareText then .ok (coordinatesArray farSquare)
        else .error "expected value") = Except.ok (coordinatesArray farSquare)
      rw [if_neg (by decide)]
      exact if_pos rfl
    · rw [hfar]
      decide
    · intro items _
      rw [hfar]
      exact ⟨"[8.0,8.0],[8.0,9.0],[9.0,9.0],[8.0,8.0]", by decide⟩

def pointRequest : NotificationRequest :=
  areaRequest (AList.singleton "point" (.string "0.25,0.5"))

theorem area_agreeOffSpatial :
    AgreeOffSpatial squareRequest.identifier pointRequest.identifier := by
  intro key hpolygon hpoint
  have hnone : ∀ (name : String) (value : Json), key ≠ name →
      HashMap.get (AList.singleton name value) key = none := by
    intro name value hkey
    apply AList.lookup_eq_none.mpr
    rw [AList.mem_keys, AList.keys_singleton]
    simpa using hkey
  rw [show pointRequest.identifier.get key = none from hnone _ _ hpoint,
    show squareRequest.identifier.get key = none from hnone _ _ hpolygon]

theorem area_printsPolygons :
    PrintsPolygons areaLibraries squareRequest.identifier pointRequest.identifier where
  left ring hring := by
    have hsquare : HasPolygon areaLibraries squareRequest.identifier square :=
      ⟨coordinatesArray square, rfl,
        polygon_canonical_again areaLibraries "polygon" square_geometry.1 square_geometry.2⟩
    rw [hring.unique hsquare]
    exact areaLibraries_reads.1
  right ring hring := absurd rfl hring.ne_none
  samples := areaLibraries_reads
  distinct := by
    rw [areaLibraries_text.1, areaLibraries_text.2]
    decide

theorem areaSettings_untopiced :
    (areaSettings none).validate areaLibraries.debugStrings false = .ok () := by
  decide +kernel

/-- A watch of the area. -/
theorem exists_areaStream (wanted : NotificationRequest) (hwanted : wanted.eventType = "area")
    (hstreamed :
      (streamingContext areaLibraries (areaSettings none) none wanted .watch).isOk = true) :
    ∃ stream : AcceptedStream areaLibraries (areaSettings none) "area", stream.wanted = wanted := by
  obtain ⟨context, hcontext⟩ := exists_of_isOk hstreamed
  exact ⟨⟨wanted, hwanted, none, .watch, OperationType.noConfusion, context, hcontext⟩, rfl⟩

theorem area_streams :
    ∃ left right : AcceptedStream areaLibraries (areaSettings none) "area",
      left.wanted = squareRequest ∧ right.wanted = pointRequest := by
  obtain ⟨left, hleft⟩ := exists_areaStream squareRequest rfl (by decide +kernel)
  obtain ⟨right, hright⟩ := exists_areaStream pointRequest rfl (by decide +kernel)
  exact ⟨left, right, hleft, hright⟩

theorem spatialFilter_iff_area :
    ∃ left right : AcceptedStream areaLibraries (areaSettings none) "area",
    left.wanted = squareRequest ∧ right.wanted = pointRequest ∧
      (SamePatterns left right ↔
        (areaSchema none).topic.isSome = true ∨
          SameSpatialFilter areaLibraries left.wanted.identifier right.wanted.identifier ∨
          ¬ ∃ notification : AcceptedNotify areaLibraries (areaSettings none) "area",
            ScalarsRouted areaLibraries (areaSchema none) left.wanted.identifier
              notification.request.identifier) := by
  obtain ⟨left, right, hleft, hright⟩ := area_streams
  refine ⟨left, right, hleft, hright, ?_⟩
  have hagree : AgreeOffSpatial left.wanted.identifier right.wanted.identifier := by
    rw [hleft, hright]
    exact area_agreeOffSpatial
  have hprints : PrintsPolygons areaLibraries left.wanted.identifier right.wanted.identifier := by
    rw [hleft, hright]
    exact area_printsPolygons
  exact spatialFilter_iff areaSettings_untopiced rfl hagree hprints

/-- A watch of the square matches its notification, and a watch of a point in it does not. -/
theorem point_unrouted :
    (areaSettings none).validate areaLibraries.debugStrings false = .ok () ∧
      AgreeOffSpatial squareRequest.identifier pointRequest.identifier ∧
      ∃ left right : AcceptedStream areaLibraries (areaSettings none) "area",
        left.wanted = squareRequest ∧ right.wanted = pointRequest ∧
        ∃ notification : AcceptedNotify areaLibraries (areaSettings none) "area",
          notification.request = squareRequest ∧
            left.Matches notification ∧ ¬ right.Matches notification := by
  refine ⟨areaSettings_untopiced, area_agreeOffSpatial, ?_⟩
  obtain ⟨left, right, hleft, hright⟩ := area_streams
  obtain ⟨stored, hstored⟩ : ∃ stored,
      notify areaLibraries (areaSettings none) none squareRequest = .ok stored :=
    exists_of_isOk (by decide +kernel)
  let notification : AcceptedNotify areaLibraries (areaSettings none) "area" :=
    ⟨squareRequest, rfl, none, stored, hstored⟩
  refine ⟨left, right, hleft, hright, notification, rfl, ?_, ?_⟩
  · have hreads : ∀ ring, HasPolygon areaLibraries left.wanted.identifier ring →
        ReadsPolygon areaLibraries ring := by
      rw [hleft]
      exact area_printsPolygons.left
    apply (left.matches_spatial areaSettings_untopiced rfl rfl hreads notification).mpr
    rw [hleft]
    refine ⟨rfl, ?_, Or.inr rfl⟩
    intro field hfield hscalar
    cases List.mem_singleton.mp hfield
    cases hscalar
  · have hreads : ∀ ring, HasPolygon areaLibraries right.wanted.identifier ring →
        ReadsPolygon areaLibraries ring := by
      rw [hright]
      exact area_printsPolygons.right
    have hpoint : (right.wanted.identifier.get "point").isSome = true := by
      rw [hright]
      rfl
    exact right.not_matches_point areaSettings_untopiced rfl rfl hreads hpoint notification

end AvisoServer
