import AvisoServer.Lib.KeyedVariants
import AvisoServer.Telemetry.LogContext
import AvisoServer.Telemetry.UserinfoSecrecy

/-!
# Secrecy of the logs

Two runs whose events differ in nothing but secrets log the same. On standard output a secret is
redacted where it stands; the exporter withholds the whole record, and for both runs the same ones.
-/

namespace AvisoServer

open LastValue KeyedVariants

/-! ## 1. Secrets -/

/-- Texts that differ in user information before the first `@`, or, without any, inside the values
of passwords, tokens and bearers. -/
inductive LeafVariant : String → String → Prop
  | same (s : String) : LeafVariant s s
  | url {s t : String} {parts : List Char × List Char} (left : urlParts s.toList = some parts)
    (right : urlParts t.toList = some parts) : LeafVariant s t
  | message {s t : String} (left : urlParts s.toList = none) (right : urlParts t.toList = none)
    (outside : outsideValues s = outsideValues t) : LeafVariant s t

/-- What standard output hides of a field: the value of a sensitive key, the secrets of a text, and
both inside of the JSON text of the configuration. -/
inductive ShownVariant (lib : Libraries) (key : String) : Json → Json → Prop
  | same (value : Json) : ShownVariant lib key value value
  | sensitive (hidden : isSensitiveKey key = true) (value value' : Json) :
    ShownVariant lib key value value'
  | message (named : key = "message") {s t : String} (outside : outsideValues s = outsideValues t) :
    ShownVariant lib key (.string s) (.string t)
  | text (attr : key ≠ "message" ∧ key ≠ "config") {s t : String} (leaf : LeafVariant s t) :
    ShownVariant lib key (.string s) (.string t)
  | config (named : key = "config") {s t : String} {v w : Json} (left : lib.jsonFromStr s = .ok v)
    (right : lib.jsonFromStr t = .ok w) (leaves : v.related isSensitiveKey LeafVariant w) :
    ShownVariant lib key (.string s) (.string t)

/-- What the exporter hides of a field: the value of a sensitive key, a text with user information,
and the secrets of the message. -/
inductive ExportedVariant (key : String) : Json → Json → Prop
  | same (value : Json) : ExportedVariant key value value
  | sensitive (hidden : isSensitiveKey key = true) (value value' : Json) :
    ExportedVariant key value value'
  | message (named : key = "message") {s t : String} (outside : outsideValues s = outsideValues t) :
    ExportedVariant key (.string s) (.string t)
  | url (attr : key ≠ "message") {s t : String} (left : (redactUrlUserinfo s).isSome = true)
    (right : (redactUrlUserinfo t).isSome = true) : ExportedVariant key (.string s) (.string t)

/-- The fields of a span that are allowed on the events inside it. -/
def contextFields (recorded : RecordedFields) : RecordedFields :=
  recorded.filter fun field => decide (field.1 ∈ hydratableSpanFields)

/-- The same event, but for secrets in its fields and whatever else its spans have recorded. -/
structure LoggedEvent.Variant (R : String → Json → Json → Prop) (left right : LoggedEvent) : Prop
    where
  now : left.now = right.now
  metadata : left.event.metadata = right.event.metadata
  fields : Variants R left.event.fields right.event.fields
  spans : left.spans.map contextFields = right.spans.map contextFields

/-! ## 2. Values -/

theorem LeafVariant.redactString_eq {s t : String} (h : LeafVariant s t) :
    redactString s = redactString t := by
  cases h with
  | same => rfl
  | url hleft hright =>
    unfold redactString
    rw [redactUrlUserinfo_eq, redactUrlUserinfo_eq, hleft, hright, Option.map_some,
      Option.getD_some, Option.getD_some]
  | message hleft hright houtside =>
    unfold redactString
    rw [redactUrlUserinfo_eq, redactUrlUserinfo_eq, hleft, hright, Option.map_none,
      Option.getD_none, Option.getD_none]
    exact (redactMessage_eq_iff s t).mpr houtside

section Leaves

variable {R : String → String → Prop} {leaf : String → String}

mutual

/-- Nothing under a sensitive key is left of a value. -/
theorem redactLeaves_eq (hleaf : ∀ s t, R s t → leaf s = leaf t) :
    ∀ v w : Json, v.related isSensitiveKey R w → redactLeaves leaf v = redactLeaves leaf w
  | .object fields, .object fields', h =>
    congrArg Json.object (redactFields_eq hleaf fields fields' h)
  | .array items, .array items', h => congrArg Json.array (redactItems_eq hleaf items items' h)
  | .string s, .string t, h => congrArg Json.string (hleaf s t h)
  | .null, .null, _ => rfl
  | .bool _, .bool _, h => congrArg Json.bool h
  | .number _, .number _, h => congrArg Json.number h

theorem redactItems_eq (hleaf : ∀ s t, R s t → leaf s = leaf t) :
    ∀ items items' : List Json, Json.relatedItems isSensitiveKey R items items' →
      redactItems leaf items = redactItems leaf items'
  | [], [], _ => rfl
  | item :: items, item' :: items', h => by
    show redactLeaves leaf item :: redactItems leaf items = _
    rw [redactLeaves_eq hleaf item item' h.1, redactItems_eq hleaf items items' h.2]
    rfl

theorem redactFields_eq (hleaf : ∀ s t, R s t → leaf s = leaf t) :
    ∀ fields fields' : List (String × Json), Json.relatedFields isSensitiveKey R fields fields' →
      redactFields leaf fields = redactFields leaf fields'
  | [], [], _ => rfl
  | (key, child) :: fields, (key', child') :: fields', h => by
    obtain ⟨hkey, hchild, hfields⟩ := h
    subst hkey
    show (key, if isSensitiveKey key then _ else redactLeaves leaf child) ::
      redactFields leaf fields = _
    rw [redactFields_eq hleaf fields fields' hfields]
    -- of a child under a sensitive key nothing is known, and nothing is shown
    by_cases hsensitive : isSensitiveKey key = true
    · rw [if_pos hsensitive, redactFields, if_pos hsensitive]
    · rw [if_neg hsensitive, redactLeaves_eq hleaf child child' (hchild.resolve_left hsensitive),
        redactFields, if_neg hsensitive]

end

end Leaves

theorem ShownVariant.redactJsonValue_eq {lib : Libraries} {key : String} {v w : Json}
    (h : ShownVariant lib key v w) (hkey : key ≠ "message") :
    redactJsonValue lib key v = redactJsonValue lib key w := by
  by_cases hsensitive : isSensitiveKey key = true
  · unfold redactJsonValue
    rw [if_pos hsensitive, if_pos hsensitive]
  cases h with
  | same => rfl
  | sensitive hidden => exact absurd hidden hsensitive
  | message named => exact absurd named hkey
  | text hattr hleaf =>
    have hplain := Bool.eq_false_of_not_eq_true hsensitive
    rw [redactJsonValue_string lib hplain hattr.2, redactJsonValue_string lib hplain hattr.2,
      hleaf.redactString_eq]
  | config named hleft hright hleaves =>
    unfold redactJsonValue
    rw [if_neg hsensitive, if_neg hsensitive]
    simp only [if_pos named, hleft, hright]
    exact redactLeaves_eq (fun s t hleaf => hleaf.redactString_eq) _ _ hleaves

/-- The text of a message that is logged for an event with this name. -/
def messageText (name : String) (message : Option Json) : String :=
  redactMessage ((message.bind Json.asStr).getD name)

/-! ## 3. Standard output -/

theorem spanContext_eq (recorded : RecordedFields) :
    spanContext recorded = visitFields (contextFields recorded) := by
  unfold spanContext visitFields contextFields
  rw [List.foldl_filter]
  simp only [decide_eq_true_eq]

theorem contexts_eq {spans spans' : List RecordedFields}
    (h : spans.map contextFields = spans'.map contextFields) (field : String) :
    (spans.findSome? fun span => (spanContext span).get field) =
      spans'.findSome? fun span => (spanContext span).get field := by
  have hsplit : (fun span => (spanContext span).get field) =
      (fun context => (visitFields context).get field) ∘ contextFields :=
    funext fun span => by rw [spanContext_eq]; rfl
  rw [hsplit, ← List.findSome?_map, ← List.findSome?_map, h]

theorem populateAttributes_eq {spans spans' : List RecordedFields}
    (h : spans.map contextFields = spans'.map contextFields) (attributes : HashMap Json) :
    populateAttributesFromSpan spans attributes = populateAttributesFromSpan spans' attributes := by
  apply List.foldl_ext
  intro attributes field _
  unfold hydrateField
  rw [contexts_eq h field]

theorem visitFields_variant {R : String → Json → Json → Prop} {fields fields' : RecordedFields}
    (h : Variants R fields fields') : MapVariants R (visitFields fields) (visitFields fields') :=
  h.foldl_insert .nil

theorem ShownVariant.message_eq {lib : Libraries} {message message' : Option Json} (name : String)
    (h : Option.Rel (ShownVariant lib "message") message message') :
    messageText name message = messageText name message' := by
  cases h with
  | none => rfl
  | some hvalue =>
    cases hvalue with
    | same => rfl
    | sensitive hidden => exact absurd hidden (by decide)
    | message _ houtside => exact (redactMessage_eq_iff _ _).mpr houtside
    | text hattr => exact absurd rfl hattr.1
    | config named => exact absurd named (by decide)

/-- The record on standard output is the same. -/
theorem LoggedEvent.Variant.formatEvent_eq {lib : Libraries} (formatter : LogFormatter)
    {left right : LoggedEvent} (h : left.Variant (ShownVariant lib) right) :
    formatter.formatEvent lib left.now left.spans left.event =
      formatter.formatEvent lib right.now right.spans right.event := by
  have hvisited := visitFields_variant h.fields
  -- the message is taken out first, so its key never reaches the attributes
  have hattributes :
      normalizeAndRedactAttributes lib ((visitFields left.event.fields).erase "message") =
        normalizeAndRedactAttributes lib ((visitFields right.event.fields).erase "message") := by
    have herased := hvisited.erase "message"
    rw [normalizeAndRedactAttributes, normalizeAndRedactAttributes, ← herased.keys]
    refine (herased.lookups _).foldl_eq (fun attributes key value value' hmem hvalue => ?_) ∅
    have hne : key ≠ "message" := by
      rintro rfl
      have hlookup := lookup_of_mem_lookups hmem
      rw [AList.lookup_erase] at hlookup
      cases hlookup
    rw [hvalue.redactJsonValue_eq hne]
  have hbuilder : LogRecordBuilder.fromEvent lib left.event =
      LogRecordBuilder.fromEvent lib right.event := by
    show LogRecordBuilder.mk (messageText _ _) _ = LogRecordBuilder.mk (messageText _ _) _
    rw [h.metadata, ShownVariant.message_eq _ (hvisited.lookup "message"), hattributes]
  unfold LogFormatter.formatEvent
  simp only [hbuilder, h.now, h.metadata, populateAttributes_eq h.spans]

/-! ## 4. The exporter -/

/-- A field that withholds its record. -/
def carriesSecret (field : String × Json) : Bool :=
  recordCarriesSensitiveAttributes
    { eventName := none, target := none, timestamp := none, observedTimestamp := none,
      traceContext := none, severityText := none, severityNumber := none, body := none,
      attributes := [field] }

theorem recordCarries_eq (record : SdkLogRecord) :
    recordCarriesSensitiveAttributes record = record.attributes.any carriesSecret := by
  unfold recordCarriesSensitiveAttributes carriesSecret recordCarriesSensitiveAttributes
  simp only [List.any_cons, List.any_nil, Bool.or_false]

theorem ExportedVariant.carriesSecret_eq {key : String} {v w : Json}
    (h : ExportedVariant key v w) (hkey : key ≠ "message") :
    carriesSecret (key, v) = carriesSecret (key, w) ∧ (carriesSecret (key, v) = false → v = w) := by
  cases h with
  | same => exact ⟨rfl, fun _ => rfl⟩
  | message named => exact absurd named hkey
  | sensitive hidden =>
    have hcarries : ∀ value, carriesSecret (key, value) = true := by
      intro value
      simp only [carriesSecret, recordCarriesSensitiveAttributes, List.any_cons, hidden,
        Bool.true_or]
    refine ⟨(hcarries v).trans (hcarries w).symm, fun hfalse => ?_⟩
    rw [hcarries] at hfalse
    cases hfalse
  | url _ hleft hright =>
    have hcarries : ∀ u : String, (redactUrlUserinfo u).isSome = true →
        carriesSecret (key, .string u) = true := by
      intro u hu
      simp only [carriesSecret, recordCarriesSensitiveAttributes, List.any_cons, hu, Bool.or_true,
        Bool.true_or]
    refine ⟨(hcarries _ hleft).trans (hcarries _ hright).symm, fun hfalse => ?_⟩
    rw [hcarries _ hleft] at hfalse
    cases hfalse

theorem variants_carry {attributes attributes' : RecordedFields}
    (h : Variants ExportedVariant attributes attributes')
    (hplain : ∀ field ∈ attributes, field.1 ≠ "message") :
    attributes.any carriesSecret = attributes'.any carriesSecret ∧
      (attributes.any carriesSecret = false → attributes = attributes') := by
  induction h with
  | nil => exact ⟨rfl, fun _ => rfl⟩
  | @cons left right attributes attributes' hpair _ ih =>
    obtain ⟨key, v⟩ := left
    obtain ⟨other, w⟩ := right
    have hvalue : ExportedVariant key v w := hpair.2
    have hkey : key = other := hpair.1
    subst hkey
    obtain ⟨hcarries, hsame⟩ := hvalue.carriesSecret_eq (hplain _ List.mem_cons_self)
    obtain ⟨hrest, hequal⟩ := ih fun field hfield => hplain field (List.mem_cons_of_mem _ hfield)
    rw [List.any_cons, List.any_cons]
    refine ⟨by rw [hcarries, hrest], fun hclean => ?_⟩
    rw [Bool.or_eq_false_iff] at hclean
    rw [hsame hclean.1, hequal hclean.2]

theorem ExportedVariant.body_eq {message message' : Option Json}
    (h : Option.Rel (ExportedVariant "message") message message') :
    message.map redactedBody = message'.map redactedBody := by
  cases h with
  | none => rfl
  | some hvalue =>
    cases hvalue with
    | same => rfl
    | sensitive hidden => exact absurd hidden (by decide)
    | message _ houtside =>
      show some (Json.string _) = some (Json.string _)
      rw [(redactMessage_eq_iff _ _).mpr houtside]
    | url hattr => exact absurd rfl hattr

/-- The bridge reads nothing of a span but its context, and the message nowhere but in the body. -/
structure TracingBridge.Separates (bridge : TracingBridge) : Prop where
  spans : ∀ recorded, bridge.copySpan recorded = bridge.copySpan (contextFields recorded)
  context : ∀ recorded, ∀ field ∈ bridge.copySpan recorded, field.1 ∈ hydratableSpanFields
  message : ∀ metadata message,
    bridge.record metadata message = { bridge.record metadata none with body := message }

section Export

variable {bridge : TracingBridge}

theorem bridged_spans_eq (hbridge : bridge.Separates) {spans spans' : List RecordedFields}
    (h : spans.map contextFields = spans'.map contextFields) :
    spans.reverse.flatMap bridge.copySpan = spans'.reverse.flatMap bridge.copySpan := by
  have hsplit : ∀ spans : List RecordedFields, spans.reverse.flatMap bridge.copySpan =
      (spans.map contextFields).reverse.flatMap bridge.copySpan := by
    intro spans
    rw [← List.map_reverse, List.flatMap_map]
    exact congrArg (fun copy => List.flatMap copy spans.reverse) (funext hbridge.spans)
  rw [hsplit spans, hsplit spans', h]

/-- One event leaves the exporter in the same state. -/
theorem LoggedEvent.Variant.emit_eq (hbridge : bridge.Separates) {left right : LoggedEvent}
    (h : left.Variant ExportedVariant right) (state : ExportState) :
    state.emit left.now (bridge.bridge left.spans left.event) =
      state.emit right.now (bridge.bridge right.spans right.event) := by
  -- what the spans give is the same on both sides, and only the fields of the events differ
  set context := left.spans.reverse.flatMap bridge.copySpan with hcontext
  have hright : right.spans.reverse.flatMap bridge.copySpan = context :=
    (bridged_spans_eq hbridge h.spans).symm
  have hvariants : Variants ExportedVariant
      (keepLast (bridge.bridge left.spans left.event).attributes)
      (keepLast (bridge.bridge right.spans right.event).attributes) := by
    show Variants _ (keepLast (context ++ _)) (keepLast (right.spans.reverse.flatMap _ ++ _))
    rw [hright]
    exact ((Variants.refl (fun _ => .same) context).append
      (h.fields.filter fun key => decide (key ≠ "message"))).keepLast
  have hplain : ∀ field ∈ keepLast (bridge.bridge left.spans left.event).attributes,
      field.1 ≠ "message" := by
    intro field hfield
    rcases List.mem_append.mp (keepLast_subset _ hfield) with hspan | hevent
    · obtain ⟨span, -, hcopied⟩ := List.mem_flatMap.mp hspan
      exact (ne_of_not_hydratable (hbridge.context span field hcopied) (by decide)).symm
    · exact of_decide_eq_true (List.mem_filter.mp hevent).2
  obtain ⟨hcarries, hequal⟩ := variants_carry hvariants hplain
  rw [emit_step, emit_step, recordCarries_eq, recordCarries_eq]
  unfold LoggedEvent.guarded
  rw [uniqueAttributes_eq, uniqueAttributes_eq, backfillTimestamp_eq, backfillTimestamp_eq]
  show (if (keepLast (bridge.bridge left.spans left.event).attributes).any carriesSecret then _
      else _) =
    if (keepLast (bridge.bridge right.spans right.event).attributes).any carriesSecret then _ else _
  rw [← hcarries]
  -- both records are withheld, or neither is and their attributes agree
  by_cases hsecret : (keepLast (bridge.bridge left.spans left.event).attributes).any
      carriesSecret = true
  · rw [if_pos hsecret, if_pos hsecret]
  · rw [if_neg hsecret, if_neg hsecret, redactBody_eq, redactBody_eq,
      hequal (Bool.eq_false_of_not_eq_true hsecret)]
    unfold TracingBridge.bridge
    simp only
    rw [hbridge.message left.event.metadata, hbridge.message right.event.metadata, h.metadata,
      h.now]
    simp only
    rw [ExportedVariant.body_eq (h.fields.lastValue "message")]

/-! ## 5. Runs -/

/-- Runs that differ in nothing but what standard output hides are the same on standard output, and
runs that differ in nothing but what the exporter hides are exported the same, with as many records
withheld. -/
theorem logs_secret (formatter : LogFormatter) (lib : Libraries) (hbridge : bridge.Separates)
    (run run' : List LoggedEvent) :
    (List.Forall₂ (LoggedEvent.Variant (ShownVariant lib)) run run' →
      (run.map fun logged => formatter.formatEvent lib logged.now logged.spans logged.event) =
        run'.map fun logged => formatter.formatEvent lib logged.now logged.spans logged.event) ∧
    (List.Forall₂ (LoggedEvent.Variant ExportedVariant) run run' →
      exportRun bridge run = exportRun bridge run') := by
  constructor
  · intro h
    induction h with
    | nil => rfl
    | cons hevent _ ih => rw [List.map_cons, List.map_cons, hevent.formatEvent_eq formatter, ih]
  · intro h
    unfold exportRun
    -- by induction on the run, from any state of the exporter
    generalize (ExportState.mk [] 0) = state
    induction h generalizing state with
    | nil => rfl
    | cons hevent _ ih =>
      rw [List.foldl_cons, List.foldl_cons, hevent.emit_eq hbridge]
      exact ih _

end Export

theorem contextBridge_separates : contextBridge.Separates where
  spans recorded := by
    show recorded.filter _ = (recorded.filter _).filter _
    rw [List.filter_filter]
    simp only [Bool.and_self]
  context _ field hfield := of_decide_eq_true (List.mem_filter.mp hfield).2
  message _ _ := rfl

-- two events: the first carries the password wherever it may be, the second in its message
def loginEvent (password : String) (fields : RecordedFields) : LoggedEvent where
  now := 43200000
  spans := [[("username", .string "ann"), ("scratch", .string password)]]
  event :=
    { metadata := { name := "event", target := "aviso", level := .info, file := none, line := none }
      fields := fields }

def loginRun (password : String) : List LoggedEvent :=
  [loginEvent password
      [("message", .string "login"), ("password", .string password),
        ("backend", .string (natsUrl password))],
    loginEvent password [("message", .string (String.ofList ("token=".toList ++ password.toList)))]]

theorem logs_secret_login :
    ((loginRun "1").map fun logged =>
        LogFormatter.formatEvent ⟨"aviso", "1.0", none, none⟩ plainLibraries logged.now logged.spans
          logged.event) =
      ((loginRun "2").map fun logged =>
        LogFormatter.formatEvent ⟨"aviso", "1.0", none, none⟩ plainLibraries logged.now logged.spans
          logged.event) ∧
    exportRun contextBridge (loginRun "1") = exportRun contextBridge (loginRun "2") ∧
    (exportRun contextBridge (loginRun "1")).exported.length = 1 ∧
    (exportRun contextBridge (loginRun "1")).suppressed = 1 := by
  have hsecret := logs_secret ⟨"aviso", "1.0", none, none⟩ plainLibraries contextBridge_separates
    (loginRun "1") (loginRun "2")
  have hcounts : (exportRun contextBridge (loginRun "1")).exported.length = 1 ∧
      (exportRun contextBridge (loginRun "1")).suppressed = 1 := by
    decide +kernel
  refine ⟨hsecret.1 (.cons ⟨rfl, rfl, ?_, rfl⟩ (.cons ⟨rfl, rfl, ?_, rfl⟩ .nil)),
    hsecret.2 (.cons ⟨rfl, rfl, ?_, rfl⟩ (.cons ⟨rfl, rfl, ?_, rfl⟩ .nil)),
    hcounts⟩
  · exact .cons ⟨rfl, .same _⟩ (.cons ⟨rfl, .sensitive (by decide) _ _⟩
      (.cons ⟨rfl, .text (by decide) (@LeafVariant.url _ _ ("nats".toList, "a".toList)
        (by decide +kernel) (by decide +kernel))⟩ .nil))
  · exact .cons ⟨rfl, .message rfl (by decide +kernel)⟩ .nil
  · exact .cons ⟨rfl, .same _⟩ (.cons ⟨rfl, .sensitive (by decide) _ _⟩
      (.cons ⟨rfl, .url (by decide) (by decide +kernel) (by decide +kernel)⟩ .nil))
  · exact .cons ⟨rfl, .message rfl (by decide +kernel)⟩ .nil

end AvisoServer
