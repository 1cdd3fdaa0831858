import AvisoServer.CloudEvents.Rendering
import AvisoServer.Notification.Filters

/-!
# The fast path of the constraints

Constraints are checked on the tokens in the places of their fields. That gives what reading the
identifier back from the topic and checking it would give, for every topic.
-/

namespace AvisoServer

section ConstraintPath

variable (lib : Libraries)

/-- The plain path: the identifier is read back from the topic, and every constraint is checked on
it. -/
def matchesIdentifierConstraintsPlain (settings : Settings) (notificationTopic : String)
    (constraints : HashMap IdentifierConstraint) : Bool :=
  match settings.notificationSchema, decodeSubject notificationTopic with
  | some schemas, .ok decodedTopic =>
    match resolveEventTypeFromTopicBase decodedTopic schemas with
    | none => false
    | some eventType =>
      match topicToRequest settings notificationTopic eventType with
      | .error _ => false
      | .ok identifier => constraints.entries.all (matchesParsedConstraint lib identifier)
  | _, _ => false

/-! ## 1. One constraint -/

/-- A constraint holds of the token in the place of its field exactly when it holds of the value that
is read back. -/
theorem matchesTopicConstraint_parsed {topicConfig : TopicConfig}
    (hnodup : topicConfig.keyOrder.Nodup) (base : String) (values : List String)
    (entry : Sigma fun _ : String => IdentifierConstraint) :
    matchesTopicConstraint lib topicConfig (base :: values) entry =
      matchesParsedConstraint lib (topicRequest topicConfig.keyOrder values ∅) entry := by
  unfold matchesTopicConstraint matchesParsedConstraint
  cases hposition : topicConfig.keyOrder.findIdx? fun key => key = entry.1 with
  | none =>
    -- a constraint on a field that has no place
    have habsent : entry.1 ∉ topicConfig.keyOrder := by
      intro hmem
      have hother := List.findIdx?_eq_none_iff.mp hposition entry.1 hmem
      exact absurd (decide_eq_true rfl) (Bool.eq_false_iff.mp hother)
    rw [topicRequest_get_other _ _ _ _ habsent]
    rfl
  | some position =>
    rw [topicRequest_get_position hnodup values ∅ hposition fun _ _ => rfl]
    simp only [List.getElem?_cons_succ]
    cases hvalue : values[position]? with
    | none => rfl
    | some value =>
      rw [Option.bind_some]
      unfold keptValue
      by_cases homitted : value = "" ∨ value = "*"
      · simp only [if_pos homitted]
        rw [if_neg (by tauto)]
        rfl
      · simp only [if_neg homitted]
        rw [if_pos (by tauto)]
        rfl

/-! ## 2. All constraints -/

/-- An event type that a base resolves to has a topic section with that base. -/
theorem resolveEventType_topic {base eventType : String} {values : List String}
    {schemas : HashMap EventSchema}
    (h : resolveEventTypeFromTopicBase (base :: values) schemas = some eventType) :
    ∃ schema topicConfig, schemas.get eventType = some schema ∧ schema.topic = some topicConfig ∧
      topicConfig.base = base := by
  unfold resolveEventTypeFromTopicBase at h
  simp only [List.head?_cons, Option.bind_eq_bind, Option.bind_some, Option.bind_eq_some_iff] at h
  obtain ⟨entry, hfind, hentry⟩ := h
  have htest := List.find?_some hfind
  cases htopic : entry.2.topic with
  | none =>
    rw [htopic] at htest
    cases htest
  | some topicConfig =>
    rw [htopic] at htest
    refine ⟨entry.2, topicConfig, ?_, htopic, of_decide_eq_true htest⟩
    rw [← Option.some.inj hentry]
    exact AList.mem_lookup_iff.mpr (List.mem_of_find?_eq_some hfind)

variable {settings : Settings} (htopics : validateTopicSchemaSettings settings = .ok ())

include htopics in
/-- The fast path decides for every base that resolves, and as the plain path does. -/
theorem fastPath_plain {schemas : HashMap EventSchema}
    (hschemas : settings.notificationSchema = some schemas) {topic eventType : String}
    {decodedTopic : List String} (hdecoded : decodeSubject topic = .ok decodedTopic)
    (hresolved : resolveEventTypeFromTopicBase decodedTopic schemas = some eventType)
    (constraints : HashMap IdentifierConstraint) :
    ∃ identifier, topicToRequest settings topic eventType = .ok identifier ∧
      matchesIdentifierConstraintsFastPath lib decodedTopic eventType constraints schemas =
        some (constraints.entries.all (matchesParsedConstraint lib identifier)) := by
  cases decodedTopic with
  | nil => cases hresolved
  | cons base values =>
    obtain ⟨schema, topicConfig, hget, htopic, hbase⟩ := resolveEventType_topic hresolved
    have hschema : settings.schemaOf eventType = some schema := by
      unfold Settings.schemaOf
      rw [hschemas]
      exact hget
    have hnodup := (topicSettings_keyOrder htopics hschema htopic).nodup
    refine ⟨topicRequest topicConfig.keyOrder values ∅, ?_, ?_⟩
    · unfold topicToRequest parseTopicWithSchema
      simp only [hschemas, hget, htopic, hdecoded, bind, Except.bind, hbase, if_true]
    · unfold matchesIdentifierConstraintsFastPath
      simp only [hget, htopic, Option.bind_eq_bind, Option.bind_some, List.head?_cons, hbase, ne_eq,
        not_true_eq_false, if_false]
      congr 2
      funext entry
      exact matchesTopicConstraint_parsed lib hnodup base values entry

include htopics in
/-- On every topic, decodable or not, the constraints match as on the plain path; and where the base
resolves to a schema, the fast path decides. -/
theorem matchesIdentifierConstraints_plain (topic : String)
    (constraints : HashMap IdentifierConstraint) :
    matchesIdentifierConstraints lib settings topic constraints =
        matchesIdentifierConstraintsPlain lib settings topic constraints ∧
      ∀ schemas decodedTopic eventType, settings.notificationSchema = some schemas →
        decodeSubject topic = .ok decodedTopic →
        resolveEventTypeFromTopicBase decodedTopic schemas = some eventType →
        (matchesIdentifierConstraintsFastPath lib decodedTopic eventType constraints
          schemas).isSome = true := by
  constructor
  · unfold matchesIdentifierConstraints matchesIdentifierConstraintsPlain
    cases hschemas : settings.notificationSchema with
    | none => rfl
    | some schemas =>
      cases hdecoded : decodeSubject topic with
      | error e => rfl
      | ok decodedTopic =>
        simp only
        cases hresolved : resolveEventTypeFromTopicBase decodedTopic schemas with
        | none => rfl
        | some eventType =>
          obtain ⟨identifier, hidentifier, hfast⟩ :=
            fastPath_plain lib htopics hschemas hdecoded hresolved constraints
          simp only [hfast, hidentifier]
  · intro schemas decodedTopic eventType hschemas hdecoded hresolved
    obtain ⟨identifier, -, hfast⟩ :=
      fastPath_plain lib htopics hschemas hdecoded hresolved constraints
    rw [hfast]
    rfl

end ConstraintPath

theorem matchesIdentifierConstraints_plain_mars :
    matchesIdentifierConstraints plainLibraries feedSettings "mars.od"
          (AList.singleton "class" (.enum (.eq "od"))) = true ∧
    matchesIdentifierConstraints plainLibraries feedSettings "mars.od"
          (AList.singleton "class" (.enum (.eq "od"))) =
        matchesIdentifierConstraintsPlain plainLibraries feedSettings "mars.od"
          (AList.singleton "class" (.enum (.eq "od"))) ∧
      ∀ schemas decodedTopic eventType, feedSettings.notificationSchema = some schemas →
        decodeSubject "mars.od" = .ok decodedTopic →
        resolveEventTypeFromTopicBase decodedTopic schemas = some eventType →
        (matchesIdentifierConstraintsFastPath plainLibraries decodedTopic eventType
          (AList.singleton "class" (.enum (.eq "od"))) schemas).isSome = true :=
  ⟨by decide +kernel,
    matchesIdentifierConstraints_plain plainLibraries (by decide +kernel) "mars.od" _⟩

end AvisoServer
