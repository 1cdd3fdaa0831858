import AvisoServer.Notification.Identifier
import AvisoServer.TopicCodec.RoundTrip
import AvisoServer.Validators.CanonicalGeometry
import AvisoServer.Validators.CanonicalTexts

/-!
# The tokens of a notification's subject

A subject splits into the encoded base and the encoded values of its keys. The encoder escapes the
characters with a meaning in a subject and no others, so whitespace in a value stays in its token.
-/

namespace AvisoServer

/-! ## 1. Encoded tokens -/

theorem encodeChar_filter_blank (ch : Char) :
    (encodeChar ch).filter isBlankChar = [ch].filter isBlankChar := by
  by_cases hreserved : isReservedChar ch = true
  · have hcases := hreserved
    simp only [isReservedChar, Bool.or_eq_true, decide_eq_true_eq] at hcases
    rcases hcases with ((rfl | rfl) | rfl) | rfl <;> decide
  · rw [encodeChar, if_neg hreserved]

/-- Whitespace and control characters pass the encoder as they are. -/
theorem encodeToken_filter_blank (token : String) :
    (encodeToken token).toList.filter isBlankChar = token.toList.filter isBlankChar := by
  rw [encodeToken, String.toList_ofList]
  induction token.toList with
  | nil => rfl
  | cons ch chars ih =>
    rw [List.flatMap_cons, List.filter_append, ih, encodeChar_filter_blank, ← List.filter_append,
      List.singleton_append]

theorem encodeToken_eq_empty {token : String} (h : encodeToken token = "") : token = "" := by
  apply encodeToken_injective
  rw [h]
  rfl

theorem IsWord.encodeToken {value : String} (h : IsWord value) : IsWord (encodeToken value) where
  nonempty hempty := h.nonempty (encodeToken_eq_empty hempty)
  unblank := by
    intro c hc
    have hnone : value.toList.filter isBlankChar = [] := by
      apply List.filter_eq_nil_iff.mpr
      intro c hc
      rw [h.unblank c hc]
      decide
    rw [← encodeToken_filter_blank] at hnone
    simpa using List.filter_eq_nil_iff.mp hnone c hc

/-! ## 2. Values -/

/-- What the subject of a notification needs from the text functions it is built with: `serde_json`
prints arrays without spaces and finite doubles in visible characters, `chrono` writes a date with
digits and signs, and `str::to_lowercase` leaves something of each character. -/
structure PrintsWords (lib : Libraries) : Prop where
  array : ∀ items, lib.jsonToString (.array items) =
    "[" ++ joinText (items.map lib.jsonToString) "," ++ "]"
  float : ∀ x : F64, x.isFinite = true →
    ∀ c ∈ (lib.jsonToString (.number (.float x))).toList, isVisibleAscii c = true
  date : ∀ date format, format = "%Y%m%d" ∨ format = "%Y-%m-%d" →
    lib.formatDate date format ≠ "" ∧
      ∀ c ∈ (lib.formatDate date format).toList, c.isDigit = true ∨ c = '-' ∨ c = '+'
  lowercase : ∀ text, lib.toLowercase text = "" → text = ""

theorem mem_joinText {parts : List String} {sep : String} {c : Char}
    (h : c ∈ (joinText parts sep).toList) : c ∈ sep.toList ∨ ∃ part ∈ parts, c ∈ part.toList := by
  unfold joinText at h
  rw [String.toList_ofList] at h
  -- each step takes one part and the separator after it off the front
  induction parts with
  | nil => cases h
  | cons part parts ih =>
    cases parts with
    | nil =>
      rw [List.map_singleton, List.intercalate_singleton] at h
      exact Or.inr ⟨part, List.mem_singleton_self part, h⟩
    | cons next rest =>
      rw [List.map_cons, List.map_cons, List.intercalate_cons_cons, List.mem_append,
        List.mem_append] at h
      rcases h with (h | h) | h
      · exact Or.inr ⟨part, List.mem_cons_self, h⟩
      · exact Or.inl h
      · cases ih h with
        | inl hsep => exact Or.inl hsep
        | inr hpart =>
          obtain ⟨other, hother, hc⟩ := hpart
          exact Or.inr ⟨other, List.mem_cons_of_mem part hother, hc⟩

section Values

variable {lib : Libraries} (hwords : PrintsWords lib)

include hwords in
/-- An array of visible items is visible. -/
theorem PrintsWords.array_visible {items : List Json}
    (hitems : ∀ item ∈ items, ∀ c ∈ (lib.jsonToString item).toList, isVisibleAscii c = true) :
    ∀ c ∈ (lib.jsonToString (.array items)).toList, isVisibleAscii c = true := by
  intro c hc
  rw [hwords.array, String.toList_append, String.toList_append, List.mem_append,
    List.mem_append] at hc
  rcases hc with (hc | hc) | hc
  · rw [List.mem_singleton.mp hc]
    decide
  · cases mem_joinText hc with
    | inl hsep =>
      rw [List.mem_singleton.mp hsep]
      decide
    | inr hpart =>
      obtain ⟨part, hpart, hc⟩ := hpart
      obtain ⟨item, hitem, rfl⟩ := List.mem_map.mp hpart
      exact hitems item hitem c hc
  · rw [List.mem_singleton.mp hc]
    decide

include hwords in
/-- A canonical polygon is one word. -/
theorem PrintsWords.polygon {coordinates : List Coordinate}
    (hvalid : ∀ coordinate ∈ coordinates, ValidCoordinate coordinate) :
    IsWord (lib.jsonToString (coordinatesArray coordinates)) := by
  -- an array has at least its brackets, and each coordinate two finite doubles
  apply isWord_of_visible
  · intro hempty
    have hbrackets := hwords.array (coordinates.map coordinateArray)
    rw [show lib.jsonToString (.array (coordinates.map coordinateArray)) = "" from hempty]
      at hbrackets
    have hlength := congrArg (fun text => text.toList.length) hbrackets
    simp at hlength
  · apply hwords.array_visible
    intro item hitem
    obtain ⟨coordinate, hcoordinate, rfl⟩ := List.mem_map.mp hitem
    obtain ⟨-, hlat, hlon, -⟩ := validateCoordinate_eq_ok (hvalid coordinate hcoordinate)
    apply hwords.array_visible
    intro number hnumber
    rcases List.mem_pair.mp hnumber with rfl | rfl
    · exact hwords.float _ hlat
    · exact hwords.float _ hlon

/-- What the value of a field is, by its rule: a string is what the request has, an enumeration has
one of the values of the schema, an experiment version is read from the request or from its default,
and the other values are words. -/
def FieldWord (lib : Libraries) (requestParams : HashMap Json) (fieldName : String)
    (rule : ValidationRules) (value : String) : Prop :=
  match rule with
  | .stringHandler _ _ =>
    value ≠ "" ∧ ∃ json, requestParams.get fieldName = some json ∧
      NotificationRequest.scalarIdentifierValueAsString lib fieldName json = .ok value
  | .enumHandler values _ =>
    (∃ allowed ∈ values, value = lib.toLowercase allowed) ∧ ("" ∉ values → value ≠ "")
  | .expverHandler default _ =>
    (∃ json raw source, requestParams.get fieldName = some json ∧
      NotificationRequest.scalarIdentifierValueAsString lib fieldName json = .ok raw ∧
      (source = raw ∧ raw ≠ "" ∨ raw = "" ∧ default = some source) ∧
      value = ExpverHandler.canonicalizeExpver lib.toLowercase source) ∧
      (default ≠ some "" → value ≠ "")
  | _ => IsWord value

include hwords in
/-- One case for each rule. A point cloud has no place in a topic. -/
theorem CanonicalText.fieldWord {requestParams : HashMap Json}
    {field : Sigma fun _ : String => IdentifierFieldConfig} {value : String}
    (h : CanonicalText lib requestParams field (some value))
    (hcloud : field.2.rule.isPointCloud = false) :
    FieldWord lib requestParams field.1 field.2.rule value := by
  -- numbers, dates, times and polygons are words; what the other handlers return need not be one
  obtain ⟨json, text, hjson, htext, hsome⟩ := h
  cases Option.some.inj hsome
  cases hrule : field.2.rule with
  | stringHandler maxLength required =>
    rw [hrule] at htext
    obtain ⟨raw, hraw, htext⟩ := bind_eq_ok.mp htext
    obtain ⟨rfl, hne⟩ := StringHandler.canonical htext
    exact ⟨hne, json, hjson, hraw⟩
  | enumHandler values required =>
    rw [hrule] at htext
    obtain ⟨raw, -, htext⟩ := bind_eq_ok.mp htext
    obtain ⟨-, allowed, hallowed, rfl⟩ := EnumHandler.canonical htext
    refine ⟨⟨allowed, hallowed, rfl⟩, ?_⟩
    intro hnone hempty
    rw [hwords.lowercase allowed hempty] at hallowed
    exact hnone hallowed
  | expverHandler default required =>
    rw [hrule] at htext
    obtain ⟨raw, hraw, htext⟩ := bind_eq_ok.mp htext
    obtain ⟨source, hsource, rfl⟩ := ExpverHandler.canonical htext
    refine ⟨⟨json, raw, source, hjson, hraw, hsource, rfl⟩, ?_⟩
    intro hdefault
    apply ExpverHandler.canonicalizeExpver_ne_empty hwords.lowercase
    cases hsource with
    | inl hread => exact hread.1 ▸ hread.2
    | inr hread =>
      rintro rfl
      exact hdefault hread.2
  | dateHandler canonicalFormat required =>
    rw [hrule] at htext
    obtain ⟨raw, -, htext⟩ := bind_eq_ok.mp htext
    obtain ⟨date, rfl, hformat⟩ := DateHandler.canonical htext
    obtain ⟨hne, hchars⟩ := hwords.date date canonicalFormat hformat
    refine isWord_of_visible hne ?_
    intro c hc
    rcases hchars c hc with hdigit | rfl | rfl
    · exact digit_visible hdigit
    · decide
    · decide
  | timeHandler required =>
    rw [hrule] at htext
    obtain ⟨raw, -, htext⟩ := bind_eq_ok.mp htext
    exact TimeHandler.canonical_isWord htext
  | intHandler range required =>
    rw [hrule] at htext
    obtain ⟨raw, -, htext⟩ := bind_eq_ok.mp htext
    obtain ⟨n, -, rfl⟩ := IntHandler.canonical htext
    exact toString_int_isWord n
  | floatHandler range required =>
    rw [hrule] at htext
    obtain ⟨raw, -, htext⟩ := bind_eq_ok.mp htext
    obtain ⟨x, -, -, rfl⟩ := FloatHandler.canonical htext
    exact display_isWord x
  | polygonHandler required =>
    rw [hrule] at htext
    obtain ⟨canonical, hcanonical, rfl⟩ := map_eq_ok.mp htext
    obtain ⟨coordinates, -, hvalid, -, rfl⟩ := polygon_canonical hcanonical
    exact hwords.polygon hvalid
  | pointCloudHandler required maxPoints =>
    rw [hrule] at hcloud
    cases hcloud

end Values

/-! ## 3. Subjects -/

/-- The value that a notification has under a key of its topic. -/
def ProcessingResult.value (result : ProcessingResult) (key : String) : String :=
  (result.canonicalizedParams.get key).getD ""

/-- The subject of a notification: its tokens are the encodings of the base and of the values, with
nothing in them that splits or widens a subject, and with the whitespace and control characters of
their values only. -/
structure SubjectTokens (lib : Libraries) (schema : EventSchema) (topicConfig : TopicConfig)
    (requestParams : HashMap Json) (result : ProcessingResult) : Prop where
  split : splitChar result.topic subjectSeparator =
    (topicConfig.base :: topicConfig.keyOrder.map result.value).map encodeToken
  decoded : decodeSubject result.topic =
    .ok (topicConfig.base :: topicConfig.keyOrder.map result.value)
  escaped : ∀ token ∈ splitChar result.topic subjectSeparator,
    (∀ ch ∈ token.toList, ch ≠ '.' ∧ ch ≠ '*' ∧ ch ≠ '>') ∧
      PercentCodec.EscapesValid (asBytes token)
  blanks : ∀ key ∈ topicConfig.keyOrder,
    (encodeToken (result.value key)).toList.filter isBlankChar =
      (result.value key).toList.filter isBlankChar
  base : IsWord (encodeToken topicConfig.base)
  values : ∀ key ∈ topicConfig.keyOrder, ∃ field, schema.identifier.get key = some field ∧
    FieldWord lib requestParams key field.rule (result.value key)
  /-- A word is encoded as a word, and only an empty value as an empty token. -/
  words : ∀ key ∈ topicConfig.keyOrder,
    (IsWord (result.value key) → IsWord (encodeToken (result.value key))) ∧
      (encodeToken (result.value key) = "" ↔ result.value key = "")

theorem topicBase_isWord {base : String} (hbase : isTopicBase base = true) : IsWord base := by
  apply isWord_of_visible (isTopicBase_ne_empty base hbase)
  intro ch hch
  obtain ⟨hascii, hbyte⟩ := isTopicBase_bytes base hbase ch hch
  -- the bytes of a base are letters, digits, `_` and `-`
  have hall : ∀ n < 128, isTopicBaseByte (UInt8.ofNat n) = true → 33 ≤ n ∧ n ≤ 126 := by
    decide +kernel
  have hrange := hall ch.toNat hascii hbyte
  unfold isVisibleAscii
  simpa using hrange

theorem subject_tokens {lib : Libraries} (hwords : PrintsWords lib)
    {debugStrings : List String → String} {ecpds : Bool} {settings : Settings}
    (haccepted : settings.validate debugStrings ecpds = .ok ()) {eventType : String}
    {schema : EventSchema} {topicConfig : TopicConfig}
    (hschema : settings.schemaOf eventType = some schema) (htopic : schema.topic = some topicConfig)
    {requestParams : HashMap Json} {payload : Option Json} {result : ProcessingResult}
    (h : processRequestWithValues lib settings.registry eventType requestParams payload .notify =
      .ok result) : SubjectTokens lib schema topicConfig requestParams result := by
  have hkeys := validate_keyOrder haccepted hschema htopic
  have hspatial := validate_spatial haccepted hschema
  have hbase := processRequest_base hschema h
  have hsubject := (notifiedTopic hschema h).topic
  rw [EventSchema.base_of_topic htopic] at hbase hsubject
  have htokens : result.topic =
      encodeSubject (topicConfig.base :: topicConfig.keyOrder.map result.value) := by
    unfold EventSchema.topicKeys at hsubject
    rw [htopic] at hsubject
    exact hsubject
  have hsplit : splitChar result.topic subjectSeparator =
      (topicConfig.base :: topicConfig.keyOrder.map result.value).map encodeToken := by
    rw [htokens]
    exact splitChar_encodeSubject _ (List.cons_ne_nil _ _)
  obtain ⟨identifier, hnotified, -, hcanonicalized, -⟩ := processRequest_notify hschema h
  exact
    { split := hsplit
      decoded := by
        rw [htokens]
        exact decodeSubject_encodeSubject _ (List.cons_ne_nil _ _)
      escaped := by
        intro token htoken
        rw [hsplit] at htoken
        obtain ⟨text, -, rfl⟩ := List.mem_map.mp htoken
        refine ⟨?_, encodeToken_escapesValid text⟩
        intro ch hch
        have hplain := fun hreserved => notMem_encodeToken ch hreserved text hch
        exact ⟨fun hdot => hplain (Or.inl hdot), fun hstar => hplain (Or.inr (Or.inl hstar)),
          fun hmore => hplain (Or.inr (Or.inr hmore))⟩
      blanks := fun key _ => encodeToken_filter_blank (result.value key)
      base := (topicBase_isWord hbase).encodeToken
      values := by
        intro key hkey
        obtain ⟨hcloud, hdeclared⟩ := hkeys.declared key hkey
        obtain ⟨field, hfield⟩ := Option.isSome_iff_exists.mp hdeclared
        refine ⟨field, hfield, ?_⟩
        have hmem : ⟨key, field⟩ ∈ schema.identifier.entries := List.of_mem_dlookup hfield
        have htext := hnotified.fields _ hmem
        have hvalue : identifier.canonicalized.get key = some (result.value key) := by
          obtain ⟨_, text, -, -, hsome⟩ := htext
          unfold ProcessingResult.value
          rw [hcanonicalized, hsome]
          rfl
        rw [hvalue] at htext
        refine htext.fieldWord hwords ?_
        -- a point cloud is named "point_cloud", which is no key of a topic
        by_contra hrule
        exact hcloud (hspatial.cloudName _ hmem (by simpa using hrule)).1
      words := fun key _ =>
        ⟨IsWord.encodeToken, ⟨encodeToken_eq_empty, fun hempty => by rw [hempty]; rfl⟩⟩ }

/-! ## 4. A note -/

-- `serde_json` marks a double without a fraction as one
def floatText (value : F64) : String :=
  if '.' ∈ value.display.toList then value.display else value.display ++ ".0"

theorem floatText_visible (value : F64) :
    ∀ c ∈ (floatText value).toList, isVisibleAscii c = true := by
  intro c hc
  unfold floatText at hc
  split at hc
  · exact display_visible value c hc
  · rw [String.toList_append, List.mem_append] at hc
    cases hc with
    | inl hc => exact display_visible value c hc
    | inr hc =>
      have hmarks : ".0".toList.all isVisibleAscii = true := by decide
      exact List.all_eq_true.mp hmarks c hc

-- strings of the witness need no escapes, and no object is printed
mutual

def printJson : Json → String
  | .null => "null"
  | .bool value => if value then "true" else "false"
  | .number (.int value) => toString value
  | .number (.float value) => floatText value
  | .string value => "\"" ++ value ++ "\""
  | .array items => "[" ++ joinText (printItems items) "," ++ "]"
  | .object _ => "\x7b\x7d"

def printItems : List Json → List String
  | [] => []
  | item :: items => printJson item :: printItems items

end

theorem printItems_eq (items : List Json) : printItems items = items.map printJson := by
  induction items with
  | nil => rfl
  | cons item items ih => rw [printItems, ih, List.map_cons]

/-- The year with its sign, where it has more than four digits or is before the first. -/
def yearText (year : Int) : String :=
  (if year < 0 then "-" else if 9999 < year then "+" else "") ++ zeroPadded 4 year.natAbs

def wordLibraries : Libraries :=
  { plainLibraries with
    formatDate := fun date format =>
      if format = "%Y%m%d" then
        yearText date.year ++ zeroPadded 2 date.month ++ zeroPadded 2 date.day
      else yearText date.year ++ "-" ++ zeroPadded 2 date.month ++ "-" ++ zeroPadded 2 date.day
    jsonToString := printJson }

theorem dateText_chars {text : String} (date : NaiveDate) (separator : String)
    (hseparator : ∀ c ∈ separator.toList, c = '-')
    (htext : text = yearText date.year ++ separator ++ zeroPadded 2 date.month ++ separator ++
      zeroPadded 2 date.day) :
    text ≠ "" ∧ ∀ c ∈ text.toList, c.isDigit = true ∨ c = '-' ∨ c = '+' := by
  have hyear : ∀ c ∈ (yearText date.year).toList, c.isDigit = true ∨ c = '-' ∨ c = '+' := by
    intro c hc
    unfold yearText at hc
    rw [String.toList_append, List.mem_append] at hc
    cases hc with
    | inl hsign =>
      split at hsign
      · exact Or.inr (Or.inl (List.mem_singleton.mp hsign))
      split at hsign
      · exact Or.inr (Or.inr (List.mem_singleton.mp hsign))
      · cases hsign
    | inr hdigit => exact Or.inl ((zeroPadded_digits _ _).2 c hdigit)
  rw [htext]
  constructor
  · intro hempty
    have hlist := congrArg String.toList hempty
    rw [String.toList_append] at hlist
    have hday := String.toList_eq_nil_iff.mp (List.append_eq_nil_iff.mp hlist).2
    exact (zeroPadded_digits _ _).1 hday
  · intro c hc
    simp only [String.toList_append, List.mem_append] at hc
    rcases hc with (((hc | hc) | hc) | hc) | hc
    · exact hyear c hc
    · exact Or.inr (Or.inl (hseparator c hc))
    · exact Or.inl ((zeroPadded_digits _ _).2 c hc)
    · exact Or.inr (Or.inl (hseparator c hc))
    · exact Or.inl ((zeroPadded_digits _ _).2 c hc)

theorem wordLibraries_printsWords : PrintsWords wordLibraries where
  array items := by
    show "[" ++ joinText (printItems items) "," ++ "]" = _
    rw [printItems_eq]
    rfl
  float x _ := floatText_visible x
  date date format hformat := by
    cases hformat with
    | inl hbasic =>
      rw [hbasic]
      exact dateText_chars date "" (fun c hc => nomatch hc) (by simp [wordLibraries])
    | inr hextended =>
      rw [hextended]
      exact dateText_chars date "-" (fun c hc => List.mem_singleton.mp hc) (by simp [wordLibraries])
  lowercase text h := by
    have hlist := congrArg String.toList
      (show String.ofList (text.toList.map Char.toLower) = "" from h)
    rw [String.toList_ofList] at hlist
    exact String.toList_eq_nil_iff.mp (List.map_eq_nil_iff.mp hlist)

def noteSchema : EventSchema where
  payload := none
  topic := some { base := "mars", keyOrder := ["note", "kind"] }
  identifier := AList.insert "note" ⟨.stringHandler none true⟩
    (AList.singleton "kind" ⟨.enumHandler ["", "forecast"] true⟩)
  storagePolicy := none
  auth := none

def noteSettings : Settings where
  applicationPort := 8000
  notificationBackend := { kind := "in_memory", retentionPolicy := none }
  notificationSchema := some (AList.singleton "mars" noteSchema)
  notificationSchemaStrict := none
  auth := AuthSettings.default
  metrics := { enabled := false, port := none }

def noteParams (note kind : String) : HashMap Json :=
  AList.insert "note" (.string note) (AList.singleton "kind" (.string kind))

theorem noteSettings_accepted :
    noteSettings.validate wordLibraries.debugStrings false = .ok () := by
  decide +kernel

theorem subject_tokens_note : ∃ result,
    processRequestWithValues wordLibraries noteSettings.registry "mars"
        (noteParams "a b" "forecast") none .notify = .ok result ∧
      SubjectTokens wordLibraries noteSchema { base := "mars", keyOrder := ["note", "kind"] }
        (noteParams "a b" "forecast") result := by
  obtain ⟨result, hresult⟩ : ∃ result,
      processRequestWithValues wordLibraries noteSettings.registry "mars"
        (noteParams "a b" "forecast") none .notify = .ok result :=
    exists_of_isOk (by decide +kernel)
  exact ⟨result, hresult,
    subject_tokens wordLibraries_printsWords noteSettings_accepted rfl rfl hresult⟩

/-- A note with a space and an empty kind are stored under a subject with a space in one token and
nothing in the next. -/
theorem note_splits_subject :
    noteSettings.validate wordLibraries.debugStrings false = .ok () ∧
      ∃ result, processRequestWithValues wordLibraries noteSettings.registry "mars"
          (noteParams "a b" "") none .notify = .ok result ∧
        result.topic = "mars.a b." ∧
        splitChar result.topic subjectSeparator = ["mars", "a b", ""] ∧
        ∀ token ∈ ["a b", ""],
          token ∈ splitChar result.topic subjectSeparator ∧ ¬ IsWord token := by
  refine ⟨noteSettings_accepted, ?_⟩
  obtain ⟨result, hresult⟩ : ∃ result,
      processRequestWithValues wordLibraries noteSettings.registry "mars"
        (noteParams "a b" "") none .notify = .ok result :=
    exists_of_isOk (by decide +kernel)
  have htopic : (processRequestWithValues wordLibraries noteSettings.registry "mars"
      (noteParams "a b" "") none .notify).map ProcessingResult.topic = .ok "mars.a b." := by
    decide +kernel
  rw [hresult] at htopic
  have htext : result.topic = "mars.a b." := Except.ok.inj htopic
  have hsplit : splitChar result.topic subjectSeparator = ["mars", "a b", ""] := by
    rw [htext]
    decide +kernel
  refine ⟨result, hresult, htext, hsplit, ?_⟩
  intro token htoken
  rw [hsplit]
  refine ⟨List.mem_cons_of_mem _ htoken, ?_⟩
  intro hword
  rcases List.mem_pair.mp htoken with rfl | rfl
  · have hspace := hword.unblank ' ' (by decide)
    exact absurd hspace (by decide)
  · exact hword.nonempty rfl

end AvisoServer
