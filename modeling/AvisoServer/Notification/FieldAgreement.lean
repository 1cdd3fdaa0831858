import AvisoServer.Notification.Subscriptions

/-!
# The topic agrees with the fields of the request

A stored topic matches the topic of a watch or replay, and its values satisfy the constraints,
exactly when every scalar field is what the request asks for.
-/

namespace AvisoServer

/-! ## 1. Constraints on the values of a topic -/

theorem matchesTopicConstraint_keyed {lib : Libraries} {topicConfig : TopicConfig}
    (value : String → String) {entry : Sigma fun _ : String => IdentifierConstraint}
    (hkey : entry.1 ∈ topicConfig.keyOrder) :
    matchesTopicConstraint lib topicConfig (topicConfig.base :: topicConfig.keyOrder.map value)
        entry = true ↔ ConstraintHolds lib entry.2 (value entry.1) := by
  unfold matchesTopicConstraint
  cases hpos : topicConfig.keyOrder.findIdx? fun key => key = entry.1 with
  | none =>
    have habsent := List.findIdx?_eq_none_iff.mp hpos entry.1 hkey
    simp at habsent
  | some position =>
    obtain ⟨hlt, hfound, -⟩ := List.findIdx?_eq_some_iff_getElem.mp hpos
    have hname : topicConfig.keyOrder[position] = entry.1 := of_decide_eq_true hfound
    simp only [List.getElem?_cons_succ, List.getElem?_map, List.getElem?_eq_getElem hlt, hname,
      Option.map_some]
    unfold ConstraintHolds
    by_cases homitted : value entry.1 = "" ∨ value entry.1 = "*"
    · rw [if_pos homitted]
      refine iff_of_false Bool.false_ne_true ?_
      exact fun hholds => homitted.elim hholds.1 hholds.2.1
    · rw [if_neg homitted]
      rw [not_or] at homitted
      exact ⟨fun hmatches => ⟨homitted.1, homitted.2, hmatches⟩, fun hholds => hholds.2.2⟩

/-- In accepted settings, the constraints on a topic are checked on the values under their keys. -/
theorem matchesIdentifierConstraints_iff (lib : Libraries) {debugStrings : List String → String}
    {ecpds : Bool} {settings : Settings} (haccepted : settings.validate debugStrings ecpds = .ok ())
    {eventType : String} {schema : EventSchema} {topicConfig : TopicConfig}
    (hschema : settings.schemaOf eventType = some schema) (htopic : schema.topic = some topicConfig)
    (value : String → String) {constraints : HashMap IdentifierConstraint}
    (hrouted : ∀ entry ∈ constraints.entries, entry.1 ∈ topicConfig.keyOrder) :
    matchesIdentifierConstraints lib settings
        (encodeSubject (topicConfig.base :: topicConfig.keyOrder.map value)) constraints = true ↔
      ∀ entry ∈ constraints.entries, ConstraintHolds lib entry.2 (value entry.1) := by
  have hfind := find_schema_of_base haccepted hschema htopic
  unfold Settings.schemas at hfind
  unfold Settings.schemaOf at hschema
  obtain ⟨schemas, hschemas, hget⟩ := Option.bind_eq_some_iff.mp hschema
  simp only [hschemas] at hfind
  unfold matchesIdentifierConstraints resolveEventTypeFromTopicBase
    matchesIdentifierConstraintsFastPath
  rw [hschemas, decodeSubject_encodeSubject _ (List.cons_ne_nil _ _)]
  simp only [List.head?_cons, Option.bind_eq_bind, Option.bind_some, hfind, hget, htopic, ne_eq,
    not_true, if_false, List.all_eq_true]
  exact forall₂_congr fun entry hentry => matchesTopicConstraint_keyed value (hrouted entry hentry)

/-- The second stage on a topic: its constraints, then its geometry. -/
theorem matchesNotificationFiltersPrepared_iff (lib : Libraries)
    {debugStrings : List String → String} {ecpds : Bool} {settings : Settings}
    (haccepted : settings.validate debugStrings ecpds = .ok ()) {eventType : String}
    {schema : EventSchema} {topicConfig : TopicConfig}
    (hschema : settings.schemaOf eventType = some schema) (htopic : schema.topic = some topicConfig)
    (value : String → String) {constraints : HashMap IdentifierConstraint}
    (hrouted : ∀ entry ∈ constraints.entries, entry.1 ∈ topicConfig.keyOrder)
    (request : HashMap String) (prepared : Option PreparedSpatialFilter)
    (metadata : Option (HashMap String)) (payload : String) :
    matchesNotificationFiltersPrepared lib settings
        (encodeSubject (topicConfig.base :: topicConfig.keyOrder.map value)) request constraints
        prepared metadata payload = true ↔
      (∀ entry ∈ constraints.entries, ConstraintHolds lib entry.2 (value entry.1)) ∧
        matchesSpatialFilters lib request prepared metadata payload = true := by
  have hholds := matchesIdentifierConstraints_iff lib haccepted hschema htopic value hrouted
  unfold matchesNotificationFiltersPrepared
  by_cases hempty : constraints.entries = []
  · rw [if_neg (by simp [hempty])]
    refine (and_iff_right ?_).symm
    rw [hempty]
    exact fun entry hentry => absurd hentry List.not_mem_nil
  · by_cases hmatches : matchesIdentifierConstraints lib settings
        (encodeSubject (topicConfig.base :: topicConfig.keyOrder.map value)) constraints = true
    · rw [if_neg (by simp [hmatches])]
      exact (and_iff_right (hholds.mp hmatches)).symm
    · rw [if_pos (by simp [hempty, hmatches])]
      exact iff_of_false Bool.false_ne_true fun h => hmatches (hholds.mpr h.1)

/-! ## 2. The fields of a stream -/

section Streamed

variable {lib : Libraries} {schema : EventSchema} {params : HashMap Json}
  {result : IdentifierProcessingResult}

/-- The spatial filters of a stream leave its constraints and its other fields as they are. -/
theorem filters_kept {fields pointed : IdentifierProcessingResult}
    (hpoint : addPointFilter lib params fields = .ok pointed)
    (hpolygon : addPolygonFilter lib schema params pointed = .ok result) :
    result.constraints = fields.constraints ∧
      ∀ key, key ≠ "point" → key ≠ "polygon" →
        streamedEntry result key = streamedEntry fields key := by
  have hpointed : pointed.constraints = fields.constraints ∧
      ∀ key, key ≠ "point" → streamedEntry pointed key = streamedEntry fields key := by
    rcases addPointFilter_eq_ok hpoint with ⟨-, rfl⟩ | ⟨_, _, -, -, hadded⟩
    · exact ⟨rfl, fun _ _ => rfl⟩
    · exact ⟨hadded.constraints, hadded.others⟩
  have hresult : result.constraints = pointed.constraints ∧
      ∀ key, key ≠ "polygon" → streamedEntry result key = streamedEntry pointed key := by
    rcases addPolygonFilter_eq_ok hpolygon with ⟨-, rfl⟩ | ⟨_, _, -, -, -, hadded⟩
    · exact ⟨rfl, fun _ _ => rfl⟩
    · exact ⟨hadded.constraints, hadded.others⟩
  refine ⟨hresult.1.trans hpointed.1, ?_⟩
  intro key hnotPoint hnotPolygon
  exact (hresult.2 key hnotPolygon).trans (hpointed.2 key hnotPoint)

theorem StreamedIdentifier.field (h : StreamedIdentifier lib schema params result)
    (hspatial : SpatialValid schema) (hundeclared : schema.identifier.get "point" = none)
    {field : Sigma fun _ : String => IdentifierFieldConfig}
    (hfield : field ∈ schema.identifier.entries) (hscalar : field.2.rule.isSpatial = false) :
    StreamedValue lib params field (streamedEntry result field.1) := by
  obtain ⟨fields, pointed, hfields, -, hpoint, hpolygon⟩ := h.filters
  have hnotPoint : field.1 ≠ "point" := fun hname =>
    get_none_ne hundeclared field hfield hname.symm
  have hnotPolygon := (hspatial.scalar_name hfield hscalar).1
  rw [(filters_kept hpoint hpolygon).2 field.1 hnotPoint hnotPolygon]
  exact hfields field hfield

/-- No geometry takes a constraint. -/
theorem StreamedValue.scalar_rule {field : Sigma fun _ : String => IdentifierFieldConfig}
    {entry : Option String × Option IdentifierConstraint} {constraint : IdentifierConstraint}
    (h : StreamedValue lib params field entry) (hconstraint : entry.2 = some constraint) :
    field.2.rule.isSpatial = false := by
  obtain ⟨name, ⟨rule⟩⟩ := field
  cases h with
  | constraint _ _ hparse =>
    cases rule with
    | polygonHandler _ => cases hparse
    | pointCloudHandler _ _ => cases hparse
    | _ => rfl
  | _ => cases hconstraint

/-- A constraint is on a scalar field of the schema. -/
theorem StreamedIdentifier.constrained (h : StreamedIdentifier lib schema params result)
    {entry : Sigma fun _ : String => IdentifierConstraint}
    (hentry : entry ∈ result.constraints.entries) :
    ∃ field ∈ schema.identifier.entries, field.1 = entry.1 ∧ field.2.rule.isSpatial = false := by
  obtain ⟨fields, pointed, hfields, hothers, hpoint, hpolygon⟩ := h.filters
  rw [(filters_kept hpoint hpolygon).1] at hentry
  have hconstraint := mem_entries_get hentry
  cases hdeclared : schema.identifier.get entry.1 with
  | none =>
    have hnone : fields.constraints.get entry.1 = none :=
      congrArg Prod.snd (hothers entry.1 hdeclared)
    rw [hnone] at hconstraint
    cases hconstraint
  | some rule =>
    have hfield : (⟨entry.1, rule⟩ : Sigma fun _ : String => IdentifierFieldConfig) ∈
        schema.identifier.entries := AList.mem_lookup_iff.mp hdeclared
    refine ⟨⟨entry.1, rule⟩, hfield, rfl, ?_⟩
    exact (hfields _ hfield).scalar_rule hconstraint

end Streamed

/-! ## 3. One field -/

theorem CanonicalText.unique {lib : Libraries} {params : HashMap Json}
    {field : Sigma fun _ : String => IdentifierFieldConfig} {left right : Option String}
    (hleft : CanonicalText lib params field left) (hright : CanonicalText lib params field right) :
    left = right := by
  obtain ⟨value, text, hvalue, htext, rfl⟩ := hleft
  obtain ⟨value', text', hvalue', htext', rfl⟩ := hright
  rw [hvalue] at hvalue'
  cases hvalue'
  rw [htext] at htext'
  cases htext'
  rfl

/-- A field is what the request asks for when its stored value matches the streamed value and
satisfies the constraint. -/
theorem fieldWanted_iff {lib : Libraries} {wanted notified : HashMap Json}
    {field : Sigma fun _ : String => IdentifierFieldConfig}
    {entry : Option String × Option IdentifierConstraint} {stored : String}
    (hstreamed : StreamedValue lib wanted field entry)
    (hnotified : CanonicalText lib notified field (some stored)) :
    FieldWanted lib wanted notified field ↔
      (entry.1.getD "" = "*" ∨ entry.1.getD "" = stored) ∧
        ∀ constraint, entry.2 = some constraint → ConstraintHolds lib constraint stored := by
  -- a value that is asked for is a scalar or an object of a constraint, never both
  cases hstreamed with
  | @scalar value text hvalue hobject htext =>
    rw [Option.getD_some]
    constructor
    · intro hwanted
      refine ⟨?_, fun constraint hconstraint => by cases hconstraint⟩
      cases hwanted with
      | omitted hnone =>
        rw [hvalue] at hnone
        cases hnone
      | scalar hvalue' _ htext' hmatches =>
        rw [hvalue] at hvalue'
        cases hvalue'
        rw [htext] at htext'
        cases htext'
        apply hmatches.imp_right
        intro hcanonical
        exact Option.some.inj (hcanonical.unique hnotified)
      | constraint hvalue' hobject' _ _ _ =>
        rw [hvalue] at hvalue'
        cases hvalue'
        rw [hobject] at hobject'
        cases hobject'
    · intro hmatches
      apply FieldWanted.scalar hvalue hobject htext
      apply hmatches.1.imp_right
      intro hsame
      rw [hsame]
      exact hnotified
  | @constraint value constraint hvalue hobject hparse =>
    constructor
    · intro hwanted
      refine ⟨Or.inl rfl, ?_⟩
      intro other hother
      cases hother
      cases hwanted with
      | omitted hnone =>
        rw [hvalue] at hnone
        cases hnone
      | scalar hvalue' hobject' _ _ =>
        rw [hvalue] at hvalue'
        cases hvalue'
        rw [hobject] at hobject'
        cases hobject'
      | constraint hvalue' _ hparse' hcanonical hholds =>
        rw [hvalue] at hvalue'
        cases hvalue'
        rw [hparse] at hparse'
        cases hparse'
        rw [Option.some.inj (hnotified.unique hcanonical)]
        exact hholds
    · exact fun hholds => .constraint hvalue hobject hparse hnotified (hholds.2 constraint rfl)
  | omitted hnone =>
    exact iff_of_true (.omitted hnone) ⟨Or.inl rfl, fun constraint hconstraint => by cases hconstraint⟩

/-! ## 4. All fields -/

/-- The stored values match the routed values and satisfy the constraints exactly when every scalar
field is what the request asks for. -/
theorem fields_iff {lib : Libraries} {schema : EventSchema} {topicConfig : TopicConfig}
    {wanted notified : HashMap Json} {streamed stored : IdentifierProcessingResult}
    {operation : OperationType} (hoperation : operation ≠ .notify)
    (htopic : schema.topic = some topicConfig) (hkeys : KeyOrderValid schema topicConfig)
    (hspatial : SpatialValid schema) (hundeclared : schema.identifier.get "point" = none)
    (hstreamed : StreamedIdentifier lib schema wanted streamed)
    (hnotified : NotifiedIdentifier lib schema notified stored) :
    ((∀ key ∈ topicConfig.keyOrder,
        routedValue schema operation streamed.canonicalized key = "*" ∨
          routedValue schema operation streamed.canonicalized key =
            (stored.canonicalized.get key).getD "") ∧
      ∀ entry ∈ streamed.constraints.entries,
        ConstraintHolds lib entry.2 ((stored.canonicalized.get entry.1).getD "")) ↔
      ∀ field ∈ schema.identifier.entries, field.2.rule.isSpatial = false →
        FieldWanted lib wanted notified field := by
  -- what one scalar field asks for, in terms of what the topics have under its key
  have hfield : ∀ field ∈ schema.identifier.entries, field.2.rule.isSpatial = false →
      (FieldWanted lib wanted notified field ↔
        (routedValue schema operation streamed.canonicalized field.1 = "*" ∨
          routedValue schema operation streamed.canonicalized field.1 =
            (stored.canonicalized.get field.1).getD "") ∧
        ∀ constraint, streamed.constraints.get field.1 = some constraint →
          ConstraintHolds lib constraint ((stored.canonicalized.get field.1).getD "")) := by
    intro field hmem hscalar
    have hvalue := hstreamed.field hspatial hundeclared hmem hscalar
    have htext := hnotified.fields field hmem
    obtain ⟨-, text, -, -, htextEq⟩ := id htext
    rw [htextEq] at htext ⊢
    unfold routedValue
    rw [routingParams_get (hspatial.scalar_name hmem hscalar).1]
    exact fieldWanted_iff hvalue htext
  constructor
  · intro ⟨hrouted, hconstraints⟩ field hmem hscalar
    rw [hfield field hmem hscalar]
    refine ⟨hrouted field.1 (hkeys.routed field hmem hscalar), ?_⟩
    intro constraint hconstraint
    exact hconstraints ⟨field.1, constraint⟩ (AList.mem_lookup_iff.mp hconstraint)
  · intro hwanted
    constructor
    · intro key hkey
      obtain ⟨hnotCloud, hdeclared⟩ := hkeys.declared key hkey
      by_cases hpolygon : key = "polygon"
      · subst hpolygon
        exact Or.inl (congrArg (·.getD "")
          (routingParams_polygon hoperation htopic hkey (hstreamed.isSome hdeclared)))
      · obtain ⟨rule, hget⟩ := Option.isSome_iff_exists.mp hdeclared
        have hmem : (⟨key, rule⟩ : Sigma fun _ : String => IdentifierFieldConfig) ∈
            schema.identifier.entries := AList.mem_lookup_iff.mp hget
        have hscalar : rule.rule.isSpatial = false := by
          apply Bool.or_eq_false_iff.mpr
          constructor
          · by_contra hrule
            exact hpolygon (hspatial.polygonName _ hmem (by simpa using hrule))
          · by_contra hrule
            exact hnotCloud (hspatial.cloudName _ hmem (by simpa using hrule)).1
        exact ((hfield _ hmem hscalar).mp (hwanted _ hmem hscalar)).1
    · intro entry hentry
      obtain ⟨field, hmem, hname, hscalar⟩ := hstreamed.constrained hentry
      have hholds := ((hfield field hmem hscalar).mp (hwanted field hmem hscalar)).2
      rw [hname] at hholds
      exact hholds entry.2 (mem_entries_get hentry)

end AvisoServer
