import AvisoServer.Notification.RoutingTotality
import AvisoServer.Notification.Subscriptions
import AvisoServer.Routes.Streaming
import AvisoServer.Validators.NamedErrors

/-!
# The kind of a rejected notification

A rejection is a client error if one of its texts looks like one. Nearly every rejection of a
notification does; unknown names, and digits of times that are no numbers, are reported in other
words and answered as errors of the server.
-/

namespace AvisoServer

open Rejections

/-! ## 1. Phrases -/

/-- The status of the answer to an error of each kind. -/
def NotificationErrorKind.statusCode : NotificationErrorKind → Nat
  | .validation => 400
  | .processing => 500

/-- The words that a text is recognised by at its start. -/
def openings : List (List Char) :=
  ["required field ".toList, "payload is required".toList, "field '".toList]

/-- The words that a text is recognised by at any place. -/
def phrases : List (List Char) := ["unknown event type".toList, "must be a valid".toList]

def startsWithOpening (chars : List Char) : Bool :=
  openings.any fun opening => opening.isPrefixOf (chars.map Char.toLower)

def containsPhrase (chars : List Char) : Bool :=
  phrases.any fun phrase => decide (phrase <:+: chars.map Char.toLower)

def hasOpening (text : String) : Bool := startsWithOpening text.toList

def hasPhrase (text : String) : Bool := containsPhrase text.toList

theorem isValidationMessage_eq (text : String) :
    isValidationMessage text = (hasOpening text || hasPhrase text) := by
  have hregroup : ∀ required payload field event valid : Bool,
      (required || payload || event || field || valid) =
        (required || (payload || field) || (event || valid)) := by
    decide
  unfold isValidationMessage hasOpening hasPhrase startsWithOpening containsPhrase openings phrases
  simp only [List.any_cons, List.any_nil, Bool.or_false, toList_toAsciiLowercase]
  exact hregroup _ _ _ _ _

theorem isValidationMessage_of_opening {opening : List Char} {text : String}
    (hopening : opening ∈ openings) (htext : opening <+: text.toList.map Char.toLower) :
    isValidationMessage text = true := by
  have hstarts : hasOpening text = true :=
    List.any_eq_true.mpr ⟨opening, hopening, List.isPrefixOf_iff_prefix.mpr htext⟩
  rw [isValidationMessage_eq, hstarts, Bool.true_or]

theorem isValidationMessage_append {start : String} (h : isValidationMessage start = true)
    (rest : String) : isValidationMessage (start ++ rest) = true := by
  have hprefix : start.toList.map Char.toLower <+: (start ++ rest).toList.map Char.toLower := by
    rw [String.toList_append, List.map_append]
    exact List.prefix_append _ _
  rw [isValidationMessage_eq, Bool.or_eq_true] at h ⊢
  cases h with
  | inl hstarts =>
    obtain ⟨opening, hopening, hstart⟩ := List.any_eq_true.mp hstarts
    have hfirst := (List.isPrefixOf_iff_prefix.mp hstart).trans hprefix
    exact .inl (List.any_eq_true.mpr ⟨opening, hopening, List.isPrefixOf_iff_prefix.mpr hfirst⟩)
  | inr hphrases =>
    obtain ⟨phrase, hphrase, hinfix⟩ := List.any_eq_true.mp hphrases
    have hlonger := (of_decide_eq_true hinfix).trans hprefix.isInfix
    exact .inr (List.any_eq_true.mpr ⟨phrase, hphrase, decide_eq_true hlonger⟩)

theorem phrases_plain : phrases.all fun phrase =>
    !phrase.contains '\'' && decide (2 < phrase.length) := by
  decide +kernel

/-- No phrase has a quote, so a phrase does not reach from one side of a quote to the other. -/
theorem hasPhrase_quote (before after : String) :
    hasPhrase (before ++ "'" ++ after) = (hasPhrase before || hasPhrase after) := by
  have hsplit : ∀ phrase ∈ phrases,
      decide (phrase <:+: (before ++ "'" ++ after).toList.map Char.toLower) =
        (decide (phrase <:+: before.toList.map Char.toLower) ||
          decide (phrase <:+: after.toList.map Char.toLower)) := by
    intro phrase hphrase
    have hquote : '\'' ∉ phrase := by
      have hplain := List.all_eq_true.mp phrases_plain phrase hphrase
      simpa using (Bool.and_eq_true_iff.mp hplain).1
    have hchars : (before ++ "'" ++ after).toList.map Char.toLower =
        before.toList.map Char.toLower ++ '\'' :: after.toList.map Char.toLower := by
      rw [String.toList_append, String.toList_append, List.map_append, List.map_append,
        List.append_assoc]
      rfl
    rw [hchars, ← Bool.decide_or]
    exact decide_eq_decide.mpr (infix_append_cons hquote)
  unfold hasPhrase containsPhrase
  rw [Bool.eq_iff_iff, Bool.or_eq_true, List.any_eq_true, List.any_eq_true, List.any_eq_true]
  constructor
  · rintro ⟨phrase, hphrase, hinfix⟩
    rw [hsplit phrase hphrase, Bool.or_eq_true] at hinfix
    exact hinfix.imp (fun h => ⟨phrase, hphrase, h⟩) fun h => ⟨phrase, hphrase, h⟩
  · intro hside
    cases hside with
    | inl hbefore =>
      obtain ⟨phrase, hphrase, hinfix⟩ := hbefore
      exact ⟨phrase, hphrase, by rw [hsplit phrase hphrase, hinfix, Bool.true_or]⟩
    | inr hafter =>
      obtain ⟨phrase, hphrase, hinfix⟩ := hafter
      exact ⟨phrase, hphrase, by rw [hsplit phrase hphrase, hinfix, Bool.or_true]⟩

/-- A text of two characters is too short for a phrase. -/
theorem hasPhrase_short {text : String} (h : text.toList.length ≤ 2) : hasPhrase text = false := by
  apply List.any_eq_false.mpr
  intro phrase hphrase hinfix
  have hplain := List.all_eq_true.mp phrases_plain phrase hphrase
  have hlong := of_decide_eq_true (Bool.and_eq_true_iff.mp hplain).2
  have hle := (of_decide_eq_true hinfix).length_le
  rw [List.length_map] at hle
  omega

/-- A text that starts with another letter than the openings do. -/
theorem hasOpening_eq_false {text : String} {c : Char} {cs : List Char}
    (htext : text.toList.map Char.toLower = c :: cs) (hc : c ∉ ['r', 'p', 'f']) :
    hasOpening text = false := by
  apply List.any_eq_false.mpr
  intro opening hopening hprefix
  rw [htext] at hprefix
  obtain ⟨rest, hrest⟩ := List.isPrefixOf_iff_prefix.mp hprefix
  have hall : openings.all fun opening =>
      opening.head?.any fun first => ['r', 'p', 'f'].contains first := by
    decide +kernel
  have hfirst := List.all_eq_true.mp hall opening hopening
  cases opening with
  | nil => cases hfirst
  | cons first others =>
    cases hrest
    exact hc (List.contains_iff_mem.mp hfirst)

/-! ## 2. Errors -/

theorem isNotificationValidationError_of_names {e : Error} (h : NamesField e) :
    isNotificationValidationError e = true := by
  obtain ⟨message, hmem, hstarts⟩ := h
  unfold StartsField at hstarts
  rw [toList_toAsciiLowercase] at hstarts
  have hmessage : isValidationMessage message = true :=
    isValidationMessage_of_opening (List.mem_cons_of_mem _ (List.mem_cons_of_mem _
      List.mem_cons_self)) hstarts
  unfold isNotificationValidationError
  rw [List.any_eq_true.mpr ⟨message, hmem, hmessage⟩, Bool.or_true]

/-- An error that is no more than its text. -/
theorem isNotificationValidationError_message (text : String) :
    isNotificationValidationError ⟨[], .message text⟩ = isValidationMessage text := by
  unfold isNotificationValidationError Error.chain ErrorSource.text
  simp

/-- The texts of the errors that the reading of an integer ends with. -/
def parseIntErrors : List String :=
  ["cannot parse integer from empty string", "invalid digit found in string",
    "number too large to fit in target type", "number too small to fit in target type"]

theorem parseDigits_error {type : IntType} {negative : Bool} {digits : List Char} {read : Int}
    {cause : String} (h : parseDigits type negative digits read = .error cause) :
    cause ∈ parseIntErrors := by
  induction digits generalizing read with
  | nil => cases h
  | cons c rest ih =>
    unfold parseDigits at h
    split at h
    · cases h
      simp [parseIntErrors]
    cases negative with
    | true =>
      simp only [if_true] at h
      split at h
      · exact ih h
      · cases h
        simp [parseIntErrors]
    | false =>
      simp only [Bool.false_eq_true, if_false] at h
      split at h
      · exact ih h
      · cases h
        simp [parseIntErrors]

theorem parseInt_error {type : IntType} {text cause : String}
    (h : parseInt type text = .error cause) : cause ∈ parseIntErrors := by
  unfold parseInt at h
  split at h
  · cases h
    simp [parseIntErrors]
  · cases h
    simp [parseIntErrors]
  · cases h
    simp [parseIntErrors]
  · exact parseDigits_error h
  · split at h
    · exact parseDigits_error h
    · cases h
      simp [parseIntErrors]
  · exact parseDigits_error h

/-- The texts in front of a quote, and the causes. -/
def silentLeads : List String :=
  ["Unknown field ", "Invalid hours ", "Invalid minutes "] ++ parseIntErrors

/-- The texts between quotes and behind them. -/
def silentRests : List String := [" provided for notify operation", " in field ", ""]

/-- The texts that a message is recognised by, whatever follows them. -/
def recognisedStarts : List String :=
  ["Required field '", "unknown event type '",
    "Payload is required for notify operation based on schema configuration"]

/-- The characters have no phrase, and start otherwise than the openings. -/
def silent (chars : List Char) : Bool :=
  !containsPhrase chars &&
    (chars.map Char.toLower).head?.any fun first => !(['r', 'p', 'f'].contains first)

theorem silentLeads_checked : silentLeads.all (fun text => silent text.toList) = true :=
  all_toList [_, _, _, _, _, _, _] rfl (by decide +kernel)

theorem silentRests_checked :
    silentRests.all (fun text => (!containsPhrase text.toList)) = true :=
  @all_toList (fun chars => !containsPhrase chars) _ [_, _, _] rfl (by decide +kernel)

theorem recognisedStarts_checked :
    recognisedStarts.all (fun text => startsWithOpening text.toList ||
      containsPhrase text.toList) = true :=
  @all_toList (fun chars => startsWithOpening chars || containsPhrase chars) _ [_, _, _] rfl
    (by decide +kernel)

theorem recognisedStart {start : String} (h : start ∈ recognisedStarts) :
    isValidationMessage start = true := by
  rw [isValidationMessage_eq]
  exact List.all_eq_true.mp recognisedStarts_checked start h

theorem isValidationMessage_start {start : String} (h : start ∈ recognisedStarts) (rest : String) :
    isValidationMessage (start ++ rest) = true :=
  isValidationMessage_append (recognisedStart h) rest

theorem silentRest_phrase {text : String} (h : text ∈ silentRests) : hasPhrase text = false := by
  have hchecked := List.all_eq_true.mp silentRests_checked text h
  rw [Bool.not_eq_true'] at hchecked
  exact hchecked

/-- The lead has no phrase, and starts otherwise than the openings. -/
theorem silentLead_eq {lead : String} (h : lead ∈ silentLeads) :
    hasPhrase lead = false ∧
      ∃ c cs, lead.toList.map Char.toLower = c :: cs ∧ c ∉ ['r', 'p', 'f'] := by
  have hchecked := List.all_eq_true.mp silentLeads_checked lead h
  obtain ⟨hphrase, hfirst⟩ := Bool.and_eq_true_iff.mp hchecked
  rw [Bool.not_eq_true'] at hphrase
  refine ⟨hphrase, ?_⟩
  cases hchars : lead.toList.map Char.toLower with
  | nil =>
    rw [hchars] at hfirst
    cases hfirst
  | cons c cs =>
    rw [hchars] at hfirst
    exact ⟨c, cs, rfl, by simpa using hfirst⟩

theorem parseInt_error_unrecognised {type : IntType} {text cause : String}
    (h : parseInt type text = .error cause) : isValidationMessage cause = false := by
  obtain ⟨hphrase, c, cs, hchars, hc⟩ :=
    silentLead_eq (List.mem_append_right _ (parseInt_error h))
  rw [isValidationMessage_eq, hphrase, hasOpening_eq_false hchars hc, Bool.or_false]

/-- After such a lead, only what stands behind the quote is recognised. -/
theorem isValidationMessage_quoted {lead : String} (hlead : lead ∈ silentLeads) (rest : String) :
    isValidationMessage (lead ++ "'" ++ rest) = hasPhrase rest := by
  obtain ⟨hphrase, c, cs, hchars, hc⟩ := silentLead_eq hlead
  have hstart : (lead ++ "'" ++ rest).toList.map Char.toLower =
      c :: (cs ++ ("'" ++ rest).toList.map Char.toLower) := by
    rw [String.append_assoc, String.toList_append, List.map_append, hchars, List.cons_append]
  rw [isValidationMessage_eq, hasOpening_eq_false hstart hc, hasPhrase_quote, hphrase,
    Bool.false_or, Bool.false_or]

/-- Of the message about an unknown name, only the name is recognised. -/
theorem unknownField_recognised (name : String) :
    isNotificationValidationError
        ⟨[], .message ("Unknown field '" ++ name ++ "' provided for notify operation")⟩ =
      hasPhrase name := by
  have hmessage : "Unknown field '" ++ name ++ "' provided for notify operation" =
      "Unknown field " ++ "'" ++ (name ++ "'" ++ " provided for notify operation") := by
    apply String.toList_injective
    simp [String.toList_append]
  have hrest : hasPhrase " provided for notify operation" = false :=
    silentRest_phrase (by simp [silentRests])
  rw [isNotificationValidationError_message, hmessage,
    isValidationMessage_quoted (by simp [silentLeads]), hasPhrase_quote, hrest, Bool.or_false]

/-- Of the message about digits that are no number, only the name of the field is recognised. -/
theorem unreadable_recognised {part text cause : String}
    (hpart : part ∈ ["Invalid hours ", "Invalid minutes "]) (htext : text.toList.length ≤ 2)
    (hcause : parseInt u32 text = .error cause) (fieldName : String) :
    isNotificationValidationError
        ⟨[part ++ "'" ++ text ++ "' in field '" ++ fieldName ++ "'"], .message cause⟩ =
      hasPhrase fieldName := by
  have hmessage : part ++ "'" ++ text ++ "' in field '" ++ fieldName ++ "'" =
      part ++ "'" ++ (text ++ "'" ++ (" in field " ++ "'" ++ (fieldName ++ "'" ++ ""))) := by
    apply String.toList_injective
    simp [String.toList_append]
  have hlead : part ∈ silentLeads :=
    List.mem_append_left _ (List.mem_cons_of_mem "Unknown field " hpart)
  have hinner : hasPhrase (text ++ "'" ++ (" in field " ++ "'" ++ (fieldName ++ "'" ++ ""))) =
      hasPhrase fieldName := by
    have hwords : hasPhrase " in field " = false := silentRest_phrase (by simp [silentRests])
    have hempty : hasPhrase "" = false := silentRest_phrase (by simp [silentRests])
    rw [hasPhrase_quote, hasPhrase_quote, hasPhrase_quote, hasPhrase_short htext, hwords, hempty,
      Bool.or_false, Bool.false_or, Bool.false_or]
  show (decide (ErrorSource.message cause = .invalidTopicBase) ||
    (isValidationMessage _ || (isValidationMessage cause || false))) = _
  rw [parseInt_error_unrecognised hcause, hmessage, isValidationMessage_quoted hlead, hinner]
  simp

/-! ## 3. Rejected fields -/

section Fields

variable (lib : Libraries) (schema : EventSchema) (requestParams : HashMap Json)
  (field : Sigma fun _ : String => IdentifierFieldConfig)

/-- The request has a value that the rule of the field takes. -/
def fieldAccepted : Bool :=
  (requestParams.get field.1).any fun value =>
    !value.isObject && (validateAndCanonicalizeField lib field.1 value field.2.rule).isOk

/-- The text of the value that the request has for the field. -/
def fieldText : Option String :=
  (requestParams.get field.1).bind fun value =>
    (NotificationRequest.scalarIdentifierValueAsString lib field.1 value).toOption

/-- The first name of the request that the schema does not have. -/
def unknownField : Option (Sigma fun _ : String => Json) :=
  requestParams.entries.find? fun param => (schema.identifier.get param.1).isNone

/-- The first field of the schema whose value is rejected. -/
def rejectedField : Option (Sigma fun _ : String => IdentifierFieldConfig) :=
  schema.identifier.entries.find? fun field => !fieldAccepted lib requestParams field

/-- The field is a time, and the pattern of times captures digits that are no number. -/
def unreadableTime : Bool :=
  match field.2.rule with
  | .timeHandler _ =>
    (fieldText lib requestParams field).any fun text =>
      (TimeHandler.captures lib text).any fun captured => !TimeHandler.readable captured
  | _ => false

/-- The field is a date that is read, and the schema wants it in a format that cannot be written. -/
def unwritableDate : Bool :=
  match field.2.rule with
  | .dateHandler canonicalFormat _ =>
    !DateHandler.writableFormats.contains canonicalFormat &&
      (fieldText lib requestParams field).any fun text =>
        (DateHandler.parseDate lib text field.1).isOk
  | _ => false

/-- The request fails on the format that the schema has for its dates, whatever date it has. -/
def failsOnDateFormat : Bool :=
  (unknownField schema requestParams).isNone &&
    (rejectedField lib schema requestParams).any (unwritableDate lib requestParams)

/-- The request is rejected in words that no opening and no phrase recognises. -/
def unrecognised : Bool :=
  match unknownField schema requestParams with
  | some param => !hasPhrase param.1
  | none =>
    (rejectedField lib schema requestParams).any fun field =>
      unreadableTime lib requestParams field && !hasPhrase field.1

variable (settings : Settings) (request : NotificationRequest)

/-- `failsOnDateFormat`, on the schema of the event type. -/
def rejectedForDateFormat : Bool :=
  (settings.schemaOf request.eventType).any fun schema =>
    failsOnDateFormat lib schema request.identifier

/-- `unrecognised`, on the schema of the event type. -/
def rejectedUnrecognised : Bool :=
  (settings.schemaOf request.eventType).any fun schema =>
    unrecognised lib schema request.identifier

end Fields

section Rejected

variable {lib : Libraries} {requestParams : HashMap Json}
  {field : Sigma fun _ : String => IdentifierFieldConfig}

/-- A value that is no time of other digits, and no date for an unknown format, is rejected with the
name of its field. -/
theorem validateAndCanonicalizeField_names {value : Json}
    (hvalue : requestParams.get field.1 = some value)
    (htime : unreadableTime lib requestParams field = false)
    (hdate : unwritableDate lib requestParams field = false) :
    Rejects NamesField (validateAndCanonicalizeField lib field.1 value field.2.rule) := by
  -- the text that the handler sees is the one that the two side conditions speak of
  have htext : ∀ text,
      NotificationRequest.scalarIdentifierValueAsString lib field.1 value = .ok text →
      fieldText lib requestParams field = some text := by
    intro text htext
    unfold fieldText
    rw [hvalue]
    show (NotificationRequest.scalarIdentifierValueAsString lib field.1 value).toOption = some text
    rw [htext]
    rfl
  obtain ⟨fieldName, ⟨rule⟩⟩ := field
  have hscalar := scalarIdentifierValueAsString_names lib fieldName value
  cases rule with
  | stringHandler maxLength required =>
    exact Rejects.bind hscalar fun text _ => StringHandler.names text maxLength fieldName
  | dateHandler canonicalFormat required =>
    apply Rejects.bind hscalar
    intro text hok
    show Rejects NamesField
      (DateHandler.validateAndCanonicalize lib text canonicalFormat fieldName)
    cases hread : DateHandler.parseDate lib text fieldName with
    | error e => exact DateHandler.names_unread (by rw [hread]; rfl) canonicalFormat
    | ok date =>
      rw [DateHandler.validateAndCanonicalize_read hread]
      by_cases hformat : canonicalFormat ∈ DateHandler.writableFormats
      · rw [if_pos hformat]
        exact Rejects.ok _
      · -- the date would be one that cannot be written
        unfold unwritableDate at hdate
        rw [htext text hok] at hdate
        simp [hformat, hread, Except.isOk, Except.toBool] at hdate
  | enumHandler values required =>
    exact Rejects.bind hscalar fun text _ =>
      EnumHandler.names lib.toLowercase text values fieldName
  | expverHandler default required =>
    exact Rejects.bind hscalar fun text _ =>
      ExpverHandler.names lib.toLowercase text default fieldName
  | intHandler range required =>
    exact Rejects.bind hscalar fun text _ => IntHandler.names text range fieldName
  | floatHandler range required =>
    exact Rejects.bind hscalar fun text _ => FloatHandler.names text range fieldName
  | timeHandler required =>
    apply Rejects.bind hscalar
    intro text hok
    show Rejects NamesField (TimeHandler.validateAndCanonicalize lib text fieldName)
    apply TimeHandler.names
    intro captured hcaptured
    -- a capture that was out of range would be a time that cannot be read
    unfold unreadableTime at htime
    rw [htext text hok] at htime
    simpa [hcaptured] using htime
  | polygonHandler required => exact Rejects.map _ (PolygonHandler.names lib value fieldName)
  | pointCloudHandler required maxPoints =>
    apply Rejects.map
    exact Rejects.bind (PointCloudHandler.names lib value maxPoints fieldName) fun _ _ =>
      Rejects.ok _

/-- A time of other digits is reported in words that its field's name alone can make known. -/
theorem validateAndCanonicalizeField_unreadable {value : Json} {e : Error}
    (hvalue : requestParams.get field.1 = some value)
    (htime : unreadableTime lib requestParams field = true)
    (h : validateAndCanonicalizeField lib field.1 value field.2.rule = .error e) :
    isNotificationValidationError e = hasPhrase field.1 := by
  obtain ⟨fieldName, ⟨rule⟩⟩ := field
  cases rule with
  | timeHandler required =>
    unfold unreadableTime fieldText at htime
    simp only [hvalue, Option.bind_some, Option.any_eq_true] at htime
    obtain ⟨text, htext, captured, hcaptured, hunreadable⟩ := htime
    obtain ⟨part, digits, cause, hpart, hshort, hcause, herror⟩ :=
      TimeHandler.unreadable_error hcaptured (by simpa using hunreadable) fieldName
    have hscalar : NotificationRequest.scalarIdentifierValueAsString lib fieldName value =
        .ok text := by
      cases hread : NotificationRequest.scalarIdentifierValueAsString lib fieldName value with
      | error e =>
        rw [hread] at htext
        cases htext
      | ok other =>
        rw [hread] at htext
        cases htext
        rfl
    unfold validateAndCanonicalizeField at h
    simp only [hscalar] at h
    have htimeError : TimeHandler.validateAndCanonicalize lib text fieldName = .error e := h
    rw [herror] at htimeError
    cases htimeError
    exact unreadable_recognised hpart hshort hcause fieldName
  | _ => cases htime

theorem unreadableTime_text (htime : unreadableTime lib requestParams field = true) :
    (fieldText lib requestParams field).isSome = true := by
  unfold unreadableTime at htime
  split at htime
  · rw [Option.any_eq_true] at htime
    obtain ⟨text, htext, -⟩ := htime
    exact Option.isSome_of_eq_some htext
  · cases htime

end Rejected

section Processed

variable {lib : Libraries} {schema : EventSchema} {requestParams : HashMap Json}
  {field : Sigma fun _ : String => IdentifierFieldConfig} (hspatial : SpatialValid schema)
  (hreads : ∀ ring, HasPolygon lib requestParams ring → ReadsPolygon lib ring)

include hspatial hreads

/-- After the check of its value, nothing fails in the processing of a field. -/
theorem processNotifyField_checked
    (hfield : field ∈ schema.identifier.entries) {value : Json}
    (hvalue : requestParams.get field.1 = some value) (hobject : value.isObject = false)
    (result : IdentifierProcessingResult) :
    (∀ e, validateAndCanonicalizeField lib field.1 value field.2.rule = .error e →
      processNotifyField lib requestParams result field = .error e) ∧
    ∀ text, validateAndCanonicalizeField lib field.1 value field.2.rule = .ok text →
      ∃ next, processNotifyField lib requestParams result field = .ok next := by
  have hname := hspatial.polygonName field hfield
  obtain ⟨fieldName, ⟨rule⟩⟩ := field
  unfold processNotifyField
  simp only [hvalue, hobject, Bool.false_eq_true, if_false]
  cases rule with
  | pointCloudHandler required maxPoints =>
    show (∀ e, (lib.jsonToString <$>
        PointCloudHandler.validateAndCanonicalize lib value maxPoints fieldName) = .error e → _) ∧
      ∀ text, (lib.jsonToString <$>
        PointCloudHandler.validateAndCanonicalize lib value maxPoints fieldName) = .ok text → _
    unfold PointCloudHandler.validateAndCanonicalize
    cases hvalidate : PointCloudHandler.validate lib value maxPoints fieldName with
    | error cause =>
      constructor
      · intro e he
        cases he
        simp only [hvalidate]
        rfl
      · intro text htext
        cases htext
    | ok checked =>
      obtain ⟨coordinates, canonical⟩ := checked
      constructor
      · intro e he
        cases he
      · intro text _
        -- an accepted cloud is not empty and has a bounding box
        obtain ⟨-, hnonempty, -⟩ := cloud_canonical hvalidate
        simp only [hvalidate]
        cases coordinates with
        | nil => exact absurd rfl hnonempty
        | cons first rest => exact ⟨_, rfl⟩
  | polygonHandler required =>
    cases hname rfl
    constructor
    · intro e he
      rw [he]
      rfl
    · intro text htext
      obtain ⟨canonical, hcanonical, rfl⟩ := map_eq_ok.mp htext
      obtain ⟨ring, rfl, -, -⟩ := polygon_canonical_ring hcanonical
      -- the bounding box is that of the coordinates as they read back
      obtain ⟨coordinates, hnonempty, hparse⟩ := hreads ring ⟨value, hvalue, hcanonical⟩
      rw [htext]
      simp only [bind, Except.bind, hparse]
      cases coordinates with
      | nil => exact absurd rfl hnonempty
      | cons first rest => exact ⟨_, rfl⟩
  | _ =>
    constructor
    · intro e he
      simp only [he]
      rfl
    · intro text htext
      simp only [htext]
      exact ⟨_, rfl⟩

theorem processNotifyField_isOk
    (hfield : field ∈ schema.identifier.entries) (result : IdentifierProcessingResult) :
    (processNotifyField lib requestParams result field).isOk =
      fieldAccepted lib requestParams field := by
  unfold fieldAccepted
  cases hvalue : requestParams.get field.1 with
  | none =>
    unfold processNotifyField
    rw [hvalue]
    rfl
  | some value =>
    cases hobject : value.isObject with
    | true =>
      unfold processNotifyField
      simp only [hvalue, hobject, if_true]
      simp [hobject, bail, Except.isOk, Except.toBool]
    | false =>
      obtain ⟨herror, hok⟩ :=
        processNotifyField_checked hspatial hreads hfield hvalue hobject result
      simp only [Option.any_some, hobject, Bool.not_false, Bool.true_and]
      cases hchecked : validateAndCanonicalizeField lib field.1 value field.2.rule with
      | error e =>
        rw [herror e hchecked]
        rfl
      | ok text =>
        obtain ⟨next, hnext⟩ := hok text hchecked
        rw [hnext]
        rfl

/-- The rejection of a field is recognised, apart from times of other digits and dates for an
unknown format. -/
theorem processNotifyField_recognised
    (hfield : field ∈ schema.identifier.entries) {result : IdentifierProcessingResult} {e : Error}
    (hdate : unwritableDate lib requestParams field = false)
    (h : processNotifyField lib requestParams result field = .error e) :
    isNotificationValidationError e =
      !(unreadableTime lib requestParams field && !hasPhrase field.1) := by
  have hnoText : fieldText lib requestParams field = none →
      unreadableTime lib requestParams field = false := by
    intro hnone
    cases htime : unreadableTime lib requestParams field with
    | false => rfl
    | true =>
      have hsome := unreadableTime_text htime
      rw [hnone] at hsome
      cases hsome
  cases hvalue : requestParams.get field.1 with
  | none =>
    have htime := hnoText (by unfold fieldText; rw [hvalue]; rfl)
    unfold processNotifyField at h
    rw [hvalue] at h
    cases h
    rw [htime, isNotificationValidationError_message]
    rw [String.append_assoc]
    exact isValidationMessage_start (by simp [recognisedStarts]) _
  | some value =>
    cases hobject : value.isObject with
    | true =>
      unfold processNotifyField at h
      simp only [hvalue, hobject, if_true] at h
      cases h
      -- an object has no text
      have htime := hnoText (by
        unfold fieldText
        rw [hvalue]
        cases value with
        | object entries => rfl
        | _ => cases hobject)
      rw [htime]
      apply isNotificationValidationError_of_names
      exact ⟨_, List.mem_singleton.mpr rfl, by simp [String.append_assoc, ErrorSource.text]⟩
    | false =>
      obtain ⟨herror, hok⟩ :=
        processNotifyField_checked hspatial hreads hfield hvalue hobject result
      cases hchecked : validateAndCanonicalizeField lib field.1 value field.2.rule with
      | ok text =>
        obtain ⟨next, hnext⟩ := hok text hchecked
        rw [hnext] at h
        cases h
      | error cause =>
        rw [herror cause hchecked] at h
        cases h
        cases htime : unreadableTime lib requestParams field with
        | false =>
          exact isNotificationValidationError_of_names
            (validateAndCanonicalizeField_names hvalue htime hdate e hchecked)
        | true =>
          rw [validateAndCanonicalizeField_unreadable hvalue htime hchecked, Bool.true_and,
            Bool.not_not]

/-- What follows the fields of a schema can only fail for a missing payload. -/
theorem processNotifyRequest_recognised {payload : Option Json} {e : Error}
    (hformat : failsOnDateFormat lib schema requestParams = false)
    (h : processNotifyRequest lib schema requestParams payload = .error e) :
    isNotificationValidationError e = !unrecognised lib schema requestParams := by
  have hsteps : ∀ field ∈ schema.identifier.entries, ∀ result,
      (processNotifyField lib requestParams result field).isOk =
        fieldAccepted lib requestParams field :=
    fun field hfield result => processNotifyField_isOk hspatial hreads hfield result
  -- names are checked first, then the fields one by one, then the payload
  have hunknownError : ∀ param, (!(rejectUnknownNotifyField schema param).isOk) =
      (schema.identifier.get param.1).isNone := by
    intro param
    unfold rejectUnknownNotifyField
    cases (schema.identifier.get param.1).isNone with
    | true => rfl
    | false => rfl
  unfold failsOnDateFormat at hformat
  unfold unrecognised
  unfold processNotifyRequest at h
  cases hnames : requestParams.entries.forM (rejectUnknownNotifyField schema) with
  | error first =>
    rw [hnames] at h
    cases h
    obtain ⟨param, hfind, hrejected⟩ := forM_error hnames
    have hunknown : unknownField schema requestParams = some param := by
      rw [← hfind]
      exact congrArg (fun p => requestParams.entries.find? p)
        (funext fun param => (hunknownError param).symm)
    unfold rejectUnknownNotifyField at hrejected
    split at hrejected
    · cases hrejected
      rw [hunknown, unknownField_recognised]
      exact (Bool.not_not _).symm
    · cases hrejected
  | ok known =>
    rw [hnames] at h
    have hunknown : unknownField schema requestParams = none := by
      apply List.find?_eq_none.mpr
      intro param hparam
      have hpassed := forM_eq_ok.mp hnames param hparam
      rw [← hunknownError param, hpassed]
      exact Bool.false_ne_true
    rw [hunknown] at hformat ⊢
    simp only [Option.isNone_none, Bool.true_and] at hformat
    cases hfields : schema.identifier.entries.foldlM (processNotifyField lib requestParams)
        .empty with
    | error first =>
      have herror : first = e := by
        simp only [bind, Except.bind, hfields] at h
        exact Except.error.inj h
      subst herror
      -- the first field that is not accepted gives the error
      obtain ⟨field, result, hfind, hrejected⟩ := foldlM_error hsteps hfields
      have hrejectedField : rejectedField lib schema requestParams = some field := hfind
      rw [hrejectedField] at hformat ⊢
      exact processNotifyField_recognised hspatial hreads (List.mem_of_find?_eq_some hfind)
        hformat hrejected
    | ok identifier =>
      -- what is left is a payload that is required and missing
      have hnone : rejectedField lib schema requestParams = none := find?_of_foldlM hsteps hfields
      rw [hnone]
      simp only [bind, Except.bind, hfields] at h
      unfold validatePayloadRequirement at h
      split at h
      · rename_i hpayload
        split at hpayload
        · cases hpayload
          cases h
          rw [isNotificationValidationError_message]
          exact recognisedStart (by simp [recognisedStarts])
        · cases hpayload
      · cases h

end Processed

/-! ## 4. Rejected requests -/

section Requests

variable {lib : Libraries}

/-- A date is no time, and the field that is rejected for its format is not unrecognised. -/
theorem unrecognised_of_failsOnDateFormat {schema : EventSchema} {requestParams : HashMap Json}
    (h : failsOnDateFormat lib schema requestParams = true) :
    unrecognised lib schema requestParams = false := by
  unfold failsOnDateFormat at h
  obtain ⟨hunknown, hdate⟩ := Bool.and_eq_true_iff.mp h
  rw [Option.any_eq_true] at hdate
  obtain ⟨field, hfield, hdate⟩ := hdate
  have htime : unreadableTime lib requestParams field = false := by
    obtain ⟨fieldName, ⟨rule⟩⟩ := field
    cases rule with
    | dateHandler canonicalFormat required => rfl
    | _ => cases hdate
  unfold unrecognised
  rw [Option.isNone_iff_eq_none.mp hunknown, hfield]
  show (unreadableTime lib requestParams field && !hasPhrase field.1) = false
  rw [htime, Bool.false_and]

/-- Without a schema, every rejection is recognised. -/
theorem processWithoutSchema_recognised {settings : Settings} {request : NotificationRequest}
    (hschema : settings.schemaOf request.eventType = none) {e : Error}
    (h : processRequestWithValues lib settings.registry request.eventType request.identifier
      request.payload .notify = .error e) : isNotificationValidationError e = true := by
  unfold processRequestWithValues at h
  rw [registry_getSchema, hschema] at h
  simp only [bind, Except.bind] at h
  unfold validateTopicBase at h
  by_cases hbase : isTopicBase request.eventType = true
  · rw [if_pos hbase] at h
    simp only at h
    by_cases hstrict : settings.registry.strict = true
    · rw [if_pos hstrict] at h
      cases h
      rw [isNotificationValidationError_message, String.append_assoc, String.append_assoc]
      exact isValidationMessage_start (by simp [recognisedStarts]) _
    · rw [if_neg hstrict] at h
      have hnames : Rejects NamesField (processWithoutSchema lib request.eventType
          request.identifier .notify) := by
        unfold processWithoutSchema processGenericRequest
        apply Rejects.bind
        · apply Rejects.foldlM
          intro canonicalized param
          unfold processGenericField
          apply Rejects.ite
          · exact fun _ => rejects_bail (by simp [String.append_assoc])
          · intro _
            apply Rejects.bind (scalarIdentifierValueAsString_names lib param.1 param.2)
            intro scalar _
            exact Rejects.ite (fun _ => rejects_bail (by simp [String.append_assoc])) fun _ =>
              Rejects.ok _
        · exact fun _ _ => Rejects.ok _
      exact isNotificationValidationError_of_names (hnames e h)
  · rw [if_neg hbase] at h
    cases h
    rfl

theorem processNotificationRequest_error {settings : Settings} {request : NotificationRequest}
    {kind : NotificationErrorKind} {e : Error}
    (h : processNotificationRequest lib settings request .notify = .error (kind, e)) :
    processRequestWithValues lib settings.registry request.eventType request.identifier
        request.payload .notify = .error e ∧
      (kind = .validation ↔ isNotificationValidationError e = true) := by
  unfold processNotificationRequest at h
  cases hprocess : processRequestWithValues lib settings.registry request.eventType
      request.identifier request.payload .notify with
  | ok result =>
    rw [hprocess] at h
    cases h
  | error cause =>
    rw [hprocess] at h
    cases h
    refine ⟨rfl, ?_⟩
    by_cases hrecognised : isNotificationValidationError e = true
    · rw [if_pos hrecognised]
      exact iff_of_true rfl hrecognised
    · rw [if_neg hrecognised]
      exact iff_of_false (by simp) hrecognised

/-- A rejected notification is answered as a client error, unless its words are not recognised. The
requests that fail on a date format of the configuration are left out. -/
theorem clientErrors {settings : Settings} {ecpds : Bool}
    (haccepted : settings.validate lib.debugStrings ecpds = .ok ()) {request : NotificationRequest}
    (hreads : ∀ ring, HasPolygon lib request.identifier ring → ReadsPolygon lib ring)
    {kind : NotificationErrorKind} {e : Error}
    (h : processNotificationRequest lib settings request .notify = .error (kind, e)) :
    (rejectedForDateFormat lib settings request = false →
        kind = .validation ∧ kind.statusCode = 400) ↔
      rejectedUnrecognised lib settings request = false := by
  obtain ⟨hprocess, hkind⟩ := processNotificationRequest_error h
  have hstatus : (kind = .validation ∧ kind.statusCode = 400) ↔
      isNotificationValidationError e = true := by
    rw [← hkind]
    constructor
    · exact fun hboth => hboth.1
    · rintro rfl
      exact ⟨rfl, rfl⟩
  rw [hstatus]
  unfold rejectedForDateFormat rejectedUnrecognised
  cases hschema : settings.schemaOf request.eventType with
  | none => exact iff_of_true (fun _ => processWithoutSchema_recognised hschema hprocess) rfl
  | some schema =>
    show (failsOnDateFormat lib schema request.identifier = false → _) ↔
      unrecognised lib schema request.identifier = false
    obtain ⟨hstorage, htopics⟩ := validate_schemas haccepted
    -- the topic of a processed identifier is always built, so the identifier was rejected
    have hrejected : processNotifyRequest lib schema request.identifier request.payload =
        .error e := by
      cases hidentifier : processIdentifier lib schema request.identifier request.payload
          .notify with
      | ok identifier =>
        obtain ⟨result, hresult⟩ := processRequest_total htopics hstorage hschema hidentifier
        rw [hresult] at hprocess
        cases hprocess
      | error cause =>
        have hbase := (validateTopicBase_eq_ok _).mpr (storagePolicy_baseValid hstorage hschema)
        unfold processRequestWithValues at hprocess
        rw [registry_getSchema, hschema] at hprocess
        simp only [hbase, bind, Except.bind, processWithSchema, hidentifier] at hprocess
        cases hprocess
        exact hidentifier
    cases hformat : failsOnDateFormat lib schema request.identifier with
    | true =>
      rw [unrecognised_of_failsOnDateFormat hformat]
      exact iff_of_true (fun habsurd => absurd habsurd (by simp)) rfl
    | false =>
      rw [processNotifyRequest_recognised (validate_spatial haccepted hschema) hreads hformat
        hrejected, Bool.not_eq_true']
      exact ⟨fun hrecognised => hrecognised rfl, fun hrecognised _ => hrecognised⟩

end Requests

/-! ## 5. Unknown names and times of other digits -/

def fieldRequest (eventType fieldName value : String) : NotificationRequest :=
  { bareRequest eventType with identifier := AList.singleton fieldName (.string value) }

theorem clientErrors_mars : ∃ kind e,
    processNotificationRequest plainLibraries feedSettings (classRequest "mars" "")
      .notify = .error (kind, e) ∧
    ((rejectedForDateFormat plainLibraries feedSettings (classRequest "mars" "") = false →
        kind = .validation ∧ kind.statusCode = 400) ↔
      rejectedUnrecognised plainLibraries feedSettings (classRequest "mars" "") = false) := by
  have hreads : ∀ ring, HasPolygon plainLibraries (classRequest "mars" "").identifier ring →
      ReadsPolygon plainLibraries ring :=
    fun ring hring => absurd rfl hring.ne_none
  have hrejected : processNotificationRequest plainLibraries feedSettings
      (classRequest "mars" "") .notify =
      .error (.validation, ⟨[], .message "Field 'class' cannot be empty"⟩) := by
    rfl
  exact ⟨_, _, hrejected, clientErrors feedSettings_accepted hreads hrejected⟩

/-- A misspelt name is answered as an error of the server. -/
theorem misspeltField_processing :
    feedSettings.validate plainLibraries.debugStrings false = .ok () ∧
      rejectedForDateFormat plainLibraries feedSettings (fieldRequest "mars" "clas" "od") = false ∧
      processNotificationRequest plainLibraries feedSettings (fieldRequest "mars" "clas" "od")
          .notify =
        .error (.processing,
          ⟨[], .message "Unknown field 'clas' provided for notify operation"⟩) ∧
      NotificationErrorKind.processing.statusCode = 500 :=
  ⟨feedSettings_accepted, rfl, rfl, rfl⟩

-- a time of Arabic-Indic digits, which the pattern takes and the reading of numbers does not
example :
    unreadableTime arabicLibraries (AList.singleton "time" (.string "\u0661\u0662:\u0660\u0660"))
      ⟨"time", ⟨.timeHandler true⟩⟩ = true := by
  decide +kernel

end AvisoServer
