import AvisoServer.Lib.KeyedFold
import AvisoServer.Notification.Topics

/-!
# Canonical identifiers

What an accepted request makes of its identifier, field by field.
-/

namespace AvisoServer

/-! ## 1. Notify -/

/-- The canonical text of a field, from its value in the request. -/
def CanonicalText (lib : Libraries) (requestParams : HashMap Json)
    (field : Sigma fun _ : String => IdentifierFieldConfig) (canonical : Option String) : Prop :=
  ∃ value text, requestParams.get field.1 = some value ∧
    validateAndCanonicalizeField lib field.1 value field.2.rule = .ok text ∧ canonical = some text

/-- The metadata of a geometry, from its value in the request. -/
inductive NotifiedGeometry (lib : Libraries) (requestParams : HashMap Json) (fieldName : String) :
    ValidationRules → SpatialMetadata → Prop where
  | polygon {required : Bool} {value canonical : Json} {coordinates : List Coordinate}
      {metadata : SpatialMetadata} :
      requestParams.get fieldName = some value →
      PolygonHandler.validateJsonAndCanonicalize lib value fieldName = .ok canonical →
      PolygonHandler.parsePolygonCoordinates lib (lib.jsonToString canonical) = .ok coordinates →
      SpatialMetadata.fromPolygon coordinates (lib.jsonToString canonical) = .ok metadata →
      NotifiedGeometry lib requestParams fieldName (.polygonHandler required) metadata
  | pointCloud {required : Bool} {maxPoints : Nat} {value canonical : Json}
      {coordinates : List Coordinate} {metadata : SpatialMetadata} :
      requestParams.get fieldName = some value →
      PointCloudHandler.validate lib value maxPoints fieldName = .ok (coordinates, canonical) →
      SpatialMetadata.fromPointCloud coordinates (lib.jsonToString canonical) = .ok metadata →
      NotifiedGeometry lib requestParams fieldName (.pointCloudHandler required maxPoints) metadata

/-- What one field adds to the result. -/
structure NotifiedField (lib : Libraries) (requestParams : HashMap Json)
    (before after : IdentifierProcessingResult)
    (field : Sigma fun _ : String => IdentifierFieldConfig) : Prop where
  text : CanonicalText lib requestParams field (after.canonicalized.get field.1)
  others : ∀ key, key ≠ field.1 → after.canonicalized.get key = before.canonicalized.get key
  geometry : field.2.rule.isSpatial = true → ∃ metadata, after.spatialMetadata = some metadata ∧
    NotifiedGeometry lib requestParams field.1 field.2.rule metadata
  scalar : field.2.rule.isSpatial = false → after.spatialMetadata = before.spatialMetadata

theorem insert_get (result : IdentifierProcessingResult) (fieldName value key : String) :
    (result.insert fieldName value).canonicalized.get key =
      if key = fieldName then some value else result.canonicalized.get key := by
  unfold IdentifierProcessingResult.insert HashMap.get
  by_cases hkey : key = fieldName
  · rw [if_pos hkey, hkey, AList.lookup_insert]
  · rw [if_neg hkey, AList.lookup_insert_ne hkey]

theorem insert_notifiedField {lib : Libraries} {requestParams : HashMap Json}
    {before after : IdentifierProcessingResult}
    (field : Sigma fun _ : String => IdentifierFieldConfig) {value : Json} {text : String}
    (hvalue : requestParams.get field.1 = some value)
    (htext : validateAndCanonicalizeField lib field.1 value field.2.rule = .ok text)
    (hcanonical : after.canonicalized = (before.insert field.1 text).canonicalized)
    (hgeometry : field.2.rule.isSpatial = true → ∃ metadata,
      after.spatialMetadata = some metadata ∧
        NotifiedGeometry lib requestParams field.1 field.2.rule metadata)
    (hscalar : field.2.rule.isSpatial = false → after.spatialMetadata = before.spatialMetadata) :
    NotifiedField lib requestParams before after field where
  text := by
    refine ⟨value, text, hvalue, htext, ?_⟩
    rw [hcanonical, insert_get, if_pos rfl]
  others key hkey := by rw [hcanonical, insert_get, if_neg hkey]
  geometry := hgeometry
  scalar := hscalar

theorem processNotifyField_eq_ok {lib : Libraries} {requestParams : HashMap Json}
    {before after : IdentifierProcessingResult}
    {field : Sigma fun _ : String => IdentifierFieldConfig}
    (h : processNotifyField lib requestParams before field = .ok after) :
    NotifiedField lib requestParams before after field := by
  obtain ⟨name, rule⟩ := field
  obtain ⟨rule⟩ := rule
  unfold processNotifyField at h
  cases hvalue : requestParams.get name with
  | none =>
    simp only [hvalue] at h
    cases h
  | some value =>
    simp only [hvalue] at h
    split at h
    · cases h
    cases rule with
    | pointCloudHandler required maxPoints =>
      obtain ⟨⟨coordinates, canonical⟩, hvalidate, h⟩ := bind_eq_ok.mp h
      obtain ⟨metadata, hmetadata, h⟩ := bind_eq_ok.mp h
      cases h
      have htext : validateAndCanonicalizeField lib name value
          (.pointCloudHandler required maxPoints) = .ok (lib.jsonToString canonical) := by
        show lib.jsonToString <$>
          (PointCloudHandler.validate lib value maxPoints name >>= fun cloud => .ok cloud.2) = _
        rw [hvalidate]
        rfl
      exact insert_notifiedField ⟨name, ⟨.pointCloudHandler required maxPoints⟩⟩ hvalue
        htext rfl (fun _ => ⟨metadata, rfl, .pointCloud hvalue hvalidate hmetadata⟩)
        fun hscalar => by cases hscalar
    | polygonHandler required =>
      obtain ⟨text, htext, h⟩ := bind_eq_ok.mp h
      obtain ⟨coordinates, hcoordinates, h⟩ := bind_eq_ok.mp h
      obtain ⟨metadata, hmetadata, h⟩ := bind_eq_ok.mp h
      cases h
      have hprinted := htext
      unfold validateAndCanonicalizeField at hprinted
      obtain ⟨canonical, hcanonical, rfl⟩ := map_eq_ok.mp hprinted
      exact insert_notifiedField ⟨name, ⟨.polygonHandler required⟩⟩ hvalue htext rfl
        (fun _ => ⟨metadata, rfl, .polygon hvalue hcanonical hcoordinates hmetadata⟩)
        fun hscalar => by cases hscalar
    | _ =>
      obtain ⟨text, htext, h⟩ := bind_eq_ok.mp h
      cases h
      exact insert_notifiedField ⟨name, ⟨_⟩⟩ hvalue htext rfl
        (fun hspatial => by cases hspatial) fun _ => rfl

/-- What an accepted notification has. -/
structure NotifiedIdentifier (lib : Libraries) (schema : EventSchema) (requestParams : HashMap Json)
    (result : IdentifierProcessingResult) : Prop where
  fields : ∀ field ∈ schema.identifier.entries,
    CanonicalText lib requestParams field (result.canonicalized.get field.1)
  absent : ∀ key, schema.identifier.get key = none → result.canonicalized.get key = none
  geometry : ((∀ field ∈ schema.identifier.entries, field.2.rule.isSpatial = false) ∧
      result.spatialMetadata = none) ∨
    ∃ field ∈ schema.identifier.entries, field.2.rule.isSpatial = true ∧
      ∃ metadata, result.spatialMetadata = some metadata ∧
        NotifiedGeometry lib requestParams field.1 field.2.rule metadata

theorem mem_entries_get {α : Type} {m : HashMap α} {entry : Sigma fun _ : String => α}
    (hentry : entry ∈ m.entries) : m.get entry.1 = some entry.2 :=
  AList.mem_lookup_iff.mpr hentry

theorem get_none_ne {α : Type} {m : HashMap α} {key : String} (hnone : m.get key = none) :
    ∀ entry ∈ m.entries, key ≠ entry.1 := by
  intro entry hentry hkey
  rw [hkey, mem_entries_get hentry] at hnone
  cases hnone

theorem processNotifyRequest_eq_ok {lib : Libraries} {schema : EventSchema}
    {requestParams : HashMap Json} {payload : Option Json} {result : IdentifierProcessingResult}
    (h : processNotifyRequest lib schema requestParams payload = .ok result) :
    NotifiedIdentifier lib schema requestParams result := by
  unfold processNotifyRequest at h
  obtain ⟨_, -, h⟩ := bind_eq_ok.mp h
  obtain ⟨folded, hfold, h⟩ := bind_eq_ok.mp h
  obtain ⟨_, -, h⟩ := bind_eq_ok.mp h
  cases h
  have hsets : KeyedFold.SetsOwnKey Sigma.fst
      (fun (result : IdentifierProcessingResult) key => result.canonicalized.get key) none
      (CanonicalText lib requestParams) (processNotifyField lib requestParams)
      schema.identifier.entries :=
    { own := fun field _ before after hstep _ => (processNotifyField_eq_ok hstep).text
      others := fun field _ before after hstep => (processNotifyField_eq_ok hstep).others }
  constructor
  · exact KeyedFold.foldlM_own hsets schema.identifier.nodupKeys hfold fun _ _ => rfl
  · intro key hnone
    exact KeyedFold.foldlM_others hsets hfold key (get_none_ne hnone)
  · have hwritten := KeyedFold.foldlM_written IdentifierProcessingResult.spatialMetadata
      (fun field : Sigma fun _ : String => IdentifierFieldConfig => field.2.rule.isSpatial)
      (fun field spatial => ∃ metadata, spatial = some metadata ∧
        NotifiedGeometry lib requestParams field.1 field.2.rule metadata)
      (fun field _ before after hstep => (processNotifyField_eq_ok hstep).geometry)
      (fun field _ before after hstep => (processNotifyField_eq_ok hstep).scalar) hfold
    exact hwritten

theorem processRequest_notify {lib : Libraries} {settings : Settings} {eventType : String}
    {params : HashMap Json} {payload : Option Json} {result : ProcessingResult}
    {schema : EventSchema} (hschema : settings.schemaOf eventType = some schema)
    (h : processRequestWithValues lib settings.registry eventType params payload .notify =
      .ok result) :
    ∃ identifier, NotifiedIdentifier lib schema params identifier ∧
      TopicBuilder.buildTopicWithSchema eventType schema identifier.canonicalized =
        .ok result.topic ∧
      result.canonicalizedParams = identifier.canonicalized ∧
      result.spatialMetadata = identifier.spatialMetadata := by
  obtain ⟨-, identifier, topic, hidentifier, htopic, rfl⟩ := processRequest_schema hschema h
  exact ⟨identifier, processNotifyRequest_eq_ok hidentifier, htopic, rfl, rfl⟩

/-- A notification without a schema has no geometry. -/
theorem processRequest_generic {lib : Libraries} {settings : Settings} {eventType : String}
    {params : HashMap Json} {payload : Option Json} {operation : OperationType}
    {result : ProcessingResult} (hschema : settings.schemaOf eventType = none)
    (h : processRequestWithValues lib settings.registry eventType params payload operation =
      .ok result) : result.spatialMetadata = none := by
  unfold processRequestWithValues at h
  rw [registry_getSchema, hschema] at h
  obtain ⟨_, -, h⟩ := bind_eq_ok.mp h
  split at h
  · cases h
  unfold processWithoutSchema at h
  obtain ⟨canonical, -, h⟩ := bind_eq_ok.mp h
  cases h
  rfl

/-! ## 2. Watch and replay -/

/-- What a field is streamed with: its canonical value and its constraint. -/
def streamedEntry (result : IdentifierProcessingResult) (key : String) :
    Option String × Option IdentifierConstraint :=
  (result.canonicalized.get key, result.constraints.get key)

/-- A constraint and an omitted field are both wildcards in the topic. -/
inductive StreamedValue (lib : Libraries) (requestParams : HashMap Json)
    (field : Sigma fun _ : String => IdentifierFieldConfig) :
    Option String × Option IdentifierConstraint → Prop where
  | scalar {value : Json} {text : String} :
      requestParams.get field.1 = some value → value.isObject = false →
      validateAndCanonicalizeField lib field.1 value field.2.rule = .ok text →
      StreamedValue lib requestParams field (some text, none)
  | constraint {value : Json} {constraint : IdentifierConstraint} :
      requestParams.get field.1 = some value → value.isObject = true →
      parseIdentifierConstraint lib field.1 value field.2.rule = .ok constraint →
      StreamedValue lib requestParams field (some "*", some constraint)
  | omitted : requestParams.get field.1 = none →
      StreamedValue lib requestParams field (some "*", none)

theorem StreamedValue.isSome {lib : Libraries} {requestParams : HashMap Json}
    {field : Sigma fun _ : String => IdentifierFieldConfig}
    {entry : Option String × Option IdentifierConstraint}
    (h : StreamedValue lib requestParams field entry) : entry.1.isSome = true := by
  cases h <;> rfl

theorem streamedEntry_insert (result : IdentifierProcessingResult) (fieldName value key : String) :
    streamedEntry (result.insert fieldName value) key =
      if key = fieldName then (some value, result.constraints.get key)
      else streamedEntry result key := by
  unfold streamedEntry
  rw [insert_get]
  by_cases hkey : key = fieldName
  · rw [if_pos hkey, if_pos hkey]
    rfl
  · rw [if_neg hkey, if_neg hkey]
    rfl

/-- A wildcard or a scalar that one field adds. -/
theorem insert_streamed {lib : Libraries} {requestParams : HashMap Json}
    (before : IdentifierProcessingResult)
    (field : Sigma fun _ : String => IdentifierFieldConfig) (text : String)
    (hvalue : StreamedValue lib requestParams field (some text, none)) :
    (streamedEntry before field.1 = (none, none) →
        StreamedValue lib requestParams field
          (streamedEntry (before.insert field.1 text) field.1)) ∧
      ∀ key, key ≠ field.1 →
        streamedEntry (before.insert field.1 text) key = streamedEntry before key := by
  constructor
  · intro hunset
    have hnone : before.constraints.get field.1 = none := congrArg Prod.snd hunset
    rw [streamedEntry_insert, if_pos rfl, hnone]
    exact hvalue
  · intro key hkey
    rw [streamedEntry_insert, if_neg hkey]

theorem processStreamingField_eq_ok {lib : Libraries} {operationName : String}
    {requestParams : HashMap Json} {before after : IdentifierProcessingResult}
    {field : Sigma fun _ : String => IdentifierFieldConfig}
    (h : processStreamingField lib operationName requestParams before field = .ok after) :
    (streamedEntry before field.1 = (none, none) →
        StreamedValue lib requestParams field (streamedEntry after field.1)) ∧
      ∀ key, key ≠ field.1 → streamedEntry after key = streamedEntry before key := by
  unfold processStreamingField at h
  cases hvalue : requestParams.get field.1 with
  | none =>
    have hwildcard : StreamedValue lib requestParams field (some "*", none) := .omitted hvalue
    have homitted := insert_streamed before field "*" hwildcard
    simp only [hvalue] at h
    -- every branch that does not reject the field adds a wildcard
    split at h
    · split at h
      · cases h
        exact homitted
      split at h
      · cases h
        exact homitted
      · cases h
    · cases h
      exact homitted
  | some value =>
    simp only [hvalue] at h
    by_cases hobject : value.isObject = true
    · rw [if_pos hobject] at h
      obtain ⟨constraint, hparse, h⟩ := bind_eq_ok.mp h
      cases h
      constructor
      · intro _
        have hentry : streamedEntry { before.insert field.1 "*" with
            constraints := before.constraints.insert field.1 constraint } field.1 =
            (some "*", some constraint) :=
          Prod.ext ((insert_get before field.1 "*" field.1).trans (if_pos rfl))
            (AList.lookup_insert before.constraints)
        rw [hentry]
        exact .constraint hvalue hobject hparse
      · intro key hkey
        exact Prod.ext ((insert_get before field.1 "*" key).trans (if_neg hkey))
          (AList.lookup_insert_ne hkey)
    · rw [if_neg hobject] at h
      obtain ⟨text, htext, h⟩ := bind_eq_ok.mp h
      cases h
      exact insert_streamed before field text (.scalar hvalue (by simpa using hobject) htext)

/-- A spatial filter adds its canonical value under its own key. -/
structure FilterAdded (lib : Libraries) (before after : IdentifierProcessingResult) (key : String)
    (canonical : Json) : Prop where
  text : after.canonicalized.get key = some (lib.jsonToString canonical)
  others : ∀ other, other ≠ key → streamedEntry after other = streamedEntry before other
  constraints : after.constraints = before.constraints

theorem FilterAdded.get_other {lib : Libraries} {before after : IdentifierProcessingResult}
    {key : String} {canonical : Json} (h : FilterAdded lib before after key canonical)
    {other : String} (hother : other ≠ key) :
    after.canonicalized.get other = before.canonicalized.get other :=
  congrArg Prod.fst (h.others other hother)

theorem insert_filterAdded (lib : Libraries) (before : IdentifierProcessingResult) (key : String)
    (canonical : Json) :
    FilterAdded lib before (before.insert key (lib.jsonToString canonical)) key canonical where
  text := by rw [insert_get, if_pos rfl]
  others other hother := by rw [streamedEntry_insert, if_neg hother]
  constraints := rfl

theorem addPointFilter_eq_ok {lib : Libraries} {requestParams : HashMap Json}
    {before after : IdentifierProcessingResult}
    (h : addPointFilter lib requestParams before = .ok after) :
    (requestParams.get "point" = none ∧ after = before) ∨
      ∃ value canonical, requestParams.get "point" = some value ∧
        PointHandler.validateJsonAndCanonicalize lib value "point" = .ok canonical ∧
        FilterAdded lib before after "point" canonical := by
  unfold addPointFilter at h
  split at h
  · rename_i hnone
    cases h
    exact Or.inl ⟨hnone, rfl⟩
  · rename_i value hvalue
    split at h
    · cases h
    obtain ⟨canonical, hcanonical, h⟩ := bind_eq_ok.mp h
    cases h
    exact Or.inr ⟨value, canonical, hvalue, hcanonical, insert_filterAdded lib before _ canonical⟩

theorem addPolygonFilter_eq_ok {lib : Libraries} {schema : EventSchema}
    {requestParams : HashMap Json} {before after : IdentifierProcessingResult}
    (h : addPolygonFilter lib schema requestParams before = .ok after) :
    ((hasPointCloudSchema schema = true → requestParams.get "polygon" = none) ∧ after = before) ∨
      ∃ value canonical, hasPointCloudSchema schema = true ∧
        requestParams.get "polygon" = some value ∧
        PolygonHandler.validateJsonAndCanonicalize lib value "polygon" = .ok canonical ∧
        FilterAdded lib before after "polygon" canonical := by
  unfold addPolygonFilter at h
  split at h
  · rename_i hcloud
    split at h
    · rename_i hnone
      cases h
      exact Or.inl ⟨fun _ => hnone, rfl⟩
    · rename_i value hvalue
      obtain ⟨canonical, hcanonical, h⟩ := bind_eq_ok.mp h
      cases h
      exact Or.inr ⟨value, canonical, hcloud, hvalue, hcanonical,
        insert_filterAdded lib before _ canonical⟩
  · rename_i hcloud
    cases h
    exact Or.inl ⟨fun hyes => absurd hyes hcloud, rfl⟩

/-- What an accepted watch or replay has: the fields of the schema, and the spatial filters that
were added to them. -/
structure StreamedIdentifier (lib : Libraries) (schema : EventSchema)
    (requestParams : HashMap Json) (result : IdentifierProcessingResult) : Prop where
  known : ∀ key value, requestParams.get key = some value →
    (schema.identifier.get key).isSome = true ∨ isSpatialFilter schema key = true
  cloudPoint : hasPointCloudSchema schema = true → requestParams.get "point" = none
  filters : ∃ fields pointed,
    (∀ field ∈ schema.identifier.entries,
      StreamedValue lib requestParams field (streamedEntry fields field.1)) ∧
    (∀ key, schema.identifier.get key = none → streamedEntry fields key = (none, none)) ∧
    addPointFilter lib requestParams fields = .ok pointed ∧
    addPolygonFilter lib schema requestParams pointed = .ok result

theorem processStreamingRequest_eq_ok {lib : Libraries} {schema : EventSchema}
    {requestParams : HashMap Json} {operationName : String} {result : IdentifierProcessingResult}
    (h : processStreamingRequest lib schema requestParams operationName = .ok result) :
    StreamedIdentifier lib schema requestParams result := by
  unfold processStreamingRequest at h
  split at h
  · cases h
  split at h
  · cases h
  rename_i hcloudPoint
  obtain ⟨_, hknown, h⟩ := bind_eq_ok.mp h
  obtain ⟨fields, hfold, h⟩ := bind_eq_ok.mp h
  obtain ⟨pointed, hpoint, hpolygon⟩ := bind_eq_ok.mp h
  have hsets : KeyedFold.SetsOwnKey Sigma.fst streamedEntry (none, none)
      (StreamedValue lib requestParams) (processStreamingField lib operationName requestParams)
      schema.identifier.entries :=
    { own := fun field _ before after hstep => (processStreamingField_eq_ok hstep).1
      others := fun field _ before after hstep => (processStreamingField_eq_ok hstep).2 }
  constructor
  · intro key value hvalue
    have hcheck := forM_eq_ok.mp hknown ⟨key, value⟩ (AList.mem_lookup_iff.mp hvalue)
    unfold rejectUnknownStreamingField at hcheck
    split at hcheck
    · cases hcheck
    rename_i haccepted
    cases hdeclared : schema.identifier.get key with
    | some field => exact Or.inl rfl
    | none => exact Or.inr (by simpa [hdeclared] using haccepted)
  · intro hcloud
    rw [hcloud] at hcloudPoint
    simpa using hcloudPoint
  · refine ⟨fields, pointed, ?_, ?_, hpoint, hpolygon⟩
    · exact KeyedFold.foldlM_own hsets schema.identifier.nodupKeys hfold fun _ _ => rfl
    · intro key hnone
      exact KeyedFold.foldlM_others hsets hfold key (get_none_ne hnone)

/-- The value and the constraint of a field follow from what the request has for it. -/
theorem StreamedValue.unique {lib : Libraries} {params others : HashMap Json}
    {field : Sigma fun _ : String => IdentifierFieldConfig}
    {left right : Option String × Option IdentifierConstraint}
    (hleft : StreamedValue lib params field left) (hright : StreamedValue lib others field right)
    (hsame : params.get field.1 = others.get field.1) : left = right := by
  cases hleft with
  | omitted hnone =>
    rw [hsame] at hnone
    cases hright with
    | omitted _ => rfl
    | scalar hvalue _ _ => rw [hnone] at hvalue; cases hvalue
    | constraint hvalue _ _ => rw [hnone] at hvalue; cases hvalue
  | scalar hvalue hscalar htext =>
    rw [hsame] at hvalue
    cases hright with
    | omitted hnone => rw [hnone] at hvalue; cases hvalue
    | scalar hvalue' _ htext' =>
      rw [hvalue, Option.some.injEq] at hvalue'
      rw [← hvalue', htext, Except.ok.injEq] at htext'
      rw [htext']
    | constraint hvalue' hobject _ =>
      rw [hvalue, Option.some.injEq] at hvalue'
      rw [← hvalue', hscalar] at hobject
      cases hobject
  | constraint hvalue hobject hparse =>
    rw [hsame] at hvalue
    cases hright with
    | omitted hnone => rw [hnone] at hvalue; cases hvalue
    | scalar hvalue' hscalar _ =>
      rw [hvalue, Option.some.injEq] at hvalue'
      rw [← hvalue', hobject] at hscalar
      cases hscalar
    | constraint hvalue' _ hparse' =>
      rw [hvalue, Option.some.injEq] at hvalue'
      rw [← hvalue', hparse, Except.ok.injEq] at hparse'
      rw [hparse']

section Entries

variable {lib : Libraries} {schema : EventSchema} {params others : HashMap Json}
  {before after before' after' : IdentifierProcessingResult} {key : String}

theorem FilterAdded.entry {name : String} {canonical : Json}
    (h : FilterAdded lib before after name canonical) (key : String) :
    streamedEntry after key =
      if key = name then (some (lib.jsonToString canonical), (streamedEntry before key).2)
      else streamedEntry before key := by
  by_cases hkey : key = name
  · subst hkey
    rw [if_pos rfl]
    unfold streamedEntry
    rw [h.text, h.constraints]
  · rw [if_neg hkey]
    exact h.others key hkey

/-- Two filters of one name that are read from the same value make the same of an entry. -/
theorem filterAdded_entry {name : String} {read : Json → Result Json}
    {value value' : Option Json}
    (h : (value = none ∧ after = before) ∨ ∃ json canonical, value = some json ∧
      read json = .ok canonical ∧ FilterAdded lib before after name canonical)
    (h' : (value' = none ∧ after' = before') ∨ ∃ json canonical, value' = some json ∧
      read json = .ok canonical ∧ FilterAdded lib before' after' name canonical)
    (hsame : key = name → value = value')
    (hbefore : streamedEntry before key = streamedEntry before' key) :
    streamedEntry after key = streamedEntry after' key := by
  by_cases hkey : key = name
  · have hvalue := hsame hkey
    rcases h with ⟨hnone, rfl⟩ | ⟨json, canonical, hjson, hread, hadded⟩
    · rcases h' with ⟨-, rfl⟩ | ⟨_, _, hjson', -, -⟩
      · exact hbefore
      · rw [← hvalue, hnone] at hjson'
        cases hjson'
    · rcases h' with ⟨hnone', -⟩ | ⟨json', canonical', hjson', hread', hadded'⟩
      · rw [← hvalue, hjson] at hnone'
        cases hnone'
      · rw [← hvalue, hjson] at hjson'
        cases hjson'
        rw [hread] at hread'
        cases hread'
        rw [hadded.entry, hadded'.entry, if_pos hkey, if_pos hkey, hbefore]
  · -- the filter does not touch another entry
    have hkept : streamedEntry after key = streamedEntry before key := by
      rcases h with ⟨-, rfl⟩ | ⟨_, _, -, -, hadded⟩
      · rfl
      · exact hadded.others key hkey
    have hkept' : streamedEntry after' key = streamedEntry before' key := by
      rcases h' with ⟨-, rfl⟩ | ⟨_, _, -, -, hadded'⟩
      · rfl
      · exact hadded'.others key hkey
    rw [hkept, hkept', hbefore]

theorem addPointFilter_entry (h : addPointFilter lib params before = .ok after)
    (h' : addPointFilter lib others before' = .ok after') (hsame : params.get key = others.get key)
    (hbefore : streamedEntry before key = streamedEntry before' key) :
    streamedEntry after key = streamedEntry after' key :=
  filterAdded_entry (addPointFilter_eq_ok h) (addPointFilter_eq_ok h')
    (fun hkey => hkey ▸ hsame) hbefore

theorem addPolygonFilter_entry (h : addPolygonFilter lib schema params before = .ok after)
    (h' : addPolygonFilter lib schema others before' = .ok after')
    (hsame : params.get key = others.get key)
    (hbefore : streamedEntry before key = streamedEntry before' key) :
    streamedEntry after key = streamedEntry after' key := by
  by_cases hcloud : hasPointCloudSchema schema = true
  · have hread : ∀ {params : HashMap Json} {before after : IdentifierProcessingResult},
        addPolygonFilter lib schema params before = .ok after →
        (params.get "polygon" = none ∧ after = before) ∨
          ∃ json canonical, params.get "polygon" = some json ∧
            PolygonHandler.validateJsonAndCanonicalize lib json "polygon" = .ok canonical ∧
            FilterAdded lib before after "polygon" canonical := by
      intro params before after h
      rcases addPolygonFilter_eq_ok h with ⟨hnone, hafter⟩ | ⟨json, canonical, -, hadded⟩
      · exact Or.inl ⟨hnone hcloud, hafter⟩
      · exact Or.inr ⟨json, canonical, hadded⟩
    exact filterAdded_entry (hread h) (hread h') (fun hkey => hkey ▸ hsame) hbefore
  · unfold addPolygonFilter at h h'
    rw [if_neg hcloud] at h h'
    cases h
    cases h'
    exact hbefore

/-- Streams whose requests have the same for a key have the same entry under it. -/
theorem StreamedIdentifier.entry_unique {left right : IdentifierProcessingResult}
    (hleft : StreamedIdentifier lib schema params left)
    (hright : StreamedIdentifier lib schema others right)
    (hsame : params.get key = others.get key) :
    streamedEntry left key = streamedEntry right key := by
  obtain ⟨fields, pointed, hfields, hundeclared, hpoint, hpolygon⟩ := hleft.filters
  obtain ⟨fields', pointed', hfields', hundeclared', hpoint', hpolygon'⟩ := hright.filters
  apply addPolygonFilter_entry hpolygon hpolygon' hsame
  apply addPointFilter_entry hpoint hpoint' hsame
  cases hget : schema.identifier.get key with
  | none => rw [hundeclared key hget, hundeclared' key hget]
  | some field =>
    have hmem : ⟨key, field⟩ ∈ schema.identifier.entries := AList.mem_lookup_iff.mp hget
    exact (hfields _ hmem).unique (hfields' _ hmem) hsame

end Entries

/-- Filters do not remove what is there. -/
theorem FilterAdded.isSome {lib : Libraries} {before after : IdentifierProcessingResult}
    {key : String} {canonical : Json} (h : FilterAdded lib before after key canonical)
    {other : String} (hsome : (before.canonicalized.get other).isSome = true) :
    (after.canonicalized.get other).isSome = true := by
  by_cases hother : other = key
  · rw [hother, h.text]
    rfl
  · rw [h.get_other hother]
    exact hsome

theorem StreamedIdentifier.isSome {lib : Libraries} {schema : EventSchema}
    {requestParams : HashMap Json} {result : IdentifierProcessingResult}
    (h : StreamedIdentifier lib schema requestParams result) {key : String}
    (hdeclared : (schema.identifier.get key).isSome = true) :
    (result.canonicalized.get key).isSome = true := by
  obtain ⟨fields, pointed, hfields, -, hpoint, hpolygon⟩ := h.filters
  obtain ⟨field, hfield⟩ := Option.isSome_iff_exists.mp hdeclared
  have hfirst : (fields.canonicalized.get key).isSome = true :=
    (hfields ⟨key, field⟩ (AList.mem_lookup_iff.mp hfield)).isSome
  have hpointed : (pointed.canonicalized.get key).isSome = true := by
    rcases addPointFilter_eq_ok hpoint with ⟨-, rfl⟩ | ⟨_, _, -, -, hadded⟩
    · exact hfirst
    · exact hadded.isSome hfirst
  rcases addPolygonFilter_eq_ok hpolygon with ⟨-, rfl⟩ | ⟨_, _, -, -, -, hadded⟩
  · exact hpointed
  · exact hadded.isSome hpointed

theorem processRequest_streaming {lib : Libraries} {settings : Settings} {eventType : String}
    {params : HashMap Json} {payload : Option Json} {operation : OperationType}
    {result : ProcessingResult} {schema : EventSchema} (hoperation : operation ≠ .notify)
    (hschema : settings.schemaOf eventType = some schema)
    (h : processRequestWithValues lib settings.registry eventType params payload operation =
      .ok result) :
    ∃ identifier, StreamedIdentifier lib schema params identifier ∧
      TopicBuilder.buildTopicWithSchema eventType schema
        (routingParams schema operation identifier.canonicalized) = .ok result.topic ∧
      result.canonicalizedParams = identifier.canonicalized ∧
      result.identifierConstraints = identifier.constraints := by
  obtain ⟨-, identifier, topic, hidentifier, htopic, rfl⟩ := processRequest_schema hschema h
  refine ⟨identifier, ?_, htopic, rfl, rfl⟩
  cases operation with
  | notify => exact absurd rfl hoperation
  | watch => exact processStreamingRequest_eq_ok hidentifier
  | replay => exact processStreamingRequest_eq_ok hidentifier

/-! ## 3. Topics of canonical identifiers -/

theorem routingParams_get {schema : EventSchema} {operation : OperationType}
    {params : HashMap String} {key : String} (hkey : key ≠ "polygon") :
    (routingParams schema operation params).get key = params.get key := by
  unfold routingParams
  split
  · exact AList.lookup_insert_ne hkey
  · rfl

/-- A polygon has a wildcard wherever it has a place. -/
theorem routingParams_polygon {schema : EventSchema} {operation : OperationType}
    {params : HashMap String} (hoperation : operation ≠ .notify) {topicConfig : TopicConfig}
    (htopic : schema.topic = some topicConfig) (hkey : "polygon" ∈ topicConfig.keyOrder)
    (hsome : (params.get "polygon").isSome = true) :
    (routingParams schema operation params).get "polygon" = some "*" := by
  have hrouted : (schema.topic.any fun topic => topic.keyOrder.any (· = "polygon")) = true := by
    rw [htopic, Option.any_some, List.any_eq_true]
    exact ⟨"polygon", hkey, rfl⟩
  unfold routingParams
  rw [if_pos (by simp [hoperation, hrouted, hsome])]
  exact AList.lookup_insert params

/-- The wildcard for a polygon is only put into configured topics. -/
theorem routingParams_topicKeys (schema : EventSchema) (operation : OperationType)
    (params : HashMap String) :
    schema.topicKeys (routingParams schema operation params) = schema.topicKeys params := by
  unfold EventSchema.topicKeys
  cases htopic : schema.topic with
  | some topicConfig => rfl
  | none =>
    unfold routingParams
    rw [htopic]
    simp

/-- The topic of a notification has its canonical values, in the order of the keys. -/
structure NotifiedTopic (schema : EventSchema) (eventType : String) (result : ProcessingResult) :
    Prop where
  topic : result.topic = encodeSubject (schema.base eventType ::
    (schema.topicKeys result.canonicalizedParams).map fun key =>
      (result.canonicalizedParams.get key).getD "")
  present : ∀ key ∈ schema.topicKeys result.canonicalizedParams,
    (result.canonicalizedParams.get key).isSome = true
  declared : ∀ key, (result.canonicalizedParams.get key).isSome = true →
    (schema.identifier.get key).isSome = true

theorem processRequest_base {lib : Libraries} {settings : Settings} {eventType : String}
    {params : HashMap Json} {payload : Option Json} {operation : OperationType}
    {result : ProcessingResult} {schema : EventSchema}
    (hschema : settings.schemaOf eventType = some schema)
    (h : processRequestWithValues lib settings.registry eventType params payload operation =
      .ok result) : isTopicBase (schema.base eventType) = true := by
  have hbase := (processRequest_topic h).1
  rwa [routedBase_of_schema hschema] at hbase

theorem notifiedTopic {lib : Libraries} {settings : Settings} {eventType : String}
    {params : HashMap Json} {payload : Option Json} {result : ProcessingResult}
    {schema : EventSchema} (hschema : settings.schemaOf eventType = some schema)
    (h : processRequestWithValues lib settings.registry eventType params payload .notify =
      .ok result) : NotifiedTopic schema eventType result := by
  obtain ⟨identifier, hidentifier, htopic, hparams, -⟩ := processRequest_notify hschema h
  obtain ⟨htopic, hpresent⟩ := buildTopicWithSchema_keys (processRequest_base hschema h) htopic
  rw [← hparams] at htopic hpresent
  refine ⟨htopic, hpresent, ?_⟩
  intro key hsome
  by_contra hnone
  rw [Option.not_isSome_iff_eq_none] at hnone
  rw [hparams, hidentifier.absent key hnone] at hsome
  cases hsome

/-- The value that a watch or replay has under a key of its topic. -/
def routedValue (schema : EventSchema) (operation : OperationType) (params : HashMap String)
    (key : String) : String :=
  ((routingParams schema operation params).get key).getD ""

/-- The topic of a watch or replay has its routed values, in the order of the keys. -/
structure StreamedTopic (schema : EventSchema) (eventType : String) (operation : OperationType)
    (result : ProcessingResult) : Prop where
  base : isTopicBase (schema.base eventType) = true
  topic : result.topic = encodeSubject (schema.base eventType ::
    (schema.topicKeys result.canonicalizedParams).map
      (routedValue schema operation result.canonicalizedParams))
  declared : ∀ key, (schema.identifier.get key).isSome = true →
    (result.canonicalizedParams.get key).isSome = true

theorem streamedTopic {lib : Libraries} {settings : Settings} {eventType : String}
    {params : HashMap Json} {payload : Option Json} {operation : OperationType}
    {result : ProcessingResult} {schema : EventSchema} (hoperation : operation ≠ .notify)
    (hschema : settings.schemaOf eventType = some schema)
    (h : processRequestWithValues lib settings.registry eventType params payload operation =
      .ok result) : StreamedTopic schema eventType operation result := by
  have hbase := processRequest_base hschema h
  obtain ⟨identifier, hidentifier, htopic, hparams, -⟩ :=
    processRequest_streaming hoperation hschema h
  have htopic := (buildTopicWithSchema_keys hbase htopic).1
  rw [routingParams_topicKeys, ← hparams] at htopic
  refine ⟨hbase, htopic, ?_⟩
  intro key hdeclared
  rw [hparams]
  exact hidentifier.isSome hdeclared

end AvisoServer
