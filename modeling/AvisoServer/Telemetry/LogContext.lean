import AvisoServer.Telemetry.LogRecords

/-!
# Request context in both log records

For every request context field, the record on standard output and the exported one take the value
from the same place: the event, or else the innermost span that has it.
-/

namespace AvisoServer

open LastValue

/-! ## 1. Standard output -/

theorem ne_of_not_hydratable {field name : String} (hfield : field ∈ hydratableSpanFields)
    (hname : name ∉ hydratableSpanFields) : name ≠ field :=
  fun heq => hname (heq ▸ hfield)

theorem repeatsKey_eq_false {seen : List String} {attributes : RecordedFields} :
    repeatsKey seen attributes = false ↔
      (attributes.map Prod.fst).Nodup ∧ ∀ key ∈ attributes.map Prod.fst, key ∉ seen := by
  induction attributes generalizing seen with
  | nil => simp [repeatsKey]
  | cons field attributes ih =>
    rw [repeatsKey, List.map_cons, List.nodup_cons]
    by_cases hseen : field.1 ∈ seen
    · rw [if_pos hseen]
      constructor
      · intro h
        cases h
      · intro h
        exact absurd hseen (h.2 field.1 List.mem_cons_self)
    · rw [if_neg hseen, ih]
      constructor
      · intro h
        refine ⟨⟨fun hmem => h.2 field.1 hmem List.mem_cons_self, h.1⟩, fun key hkey => ?_⟩
        cases List.mem_cons.mp hkey with
        | inl heq => exact heq ▸ hseen
        | inr hlater => exact fun hmem => h.2 key hlater (List.mem_cons_of_mem _ hmem)
      · intro h
        refine ⟨h.1.2, fun key hkey hmem => ?_⟩
        cases List.mem_cons.mp hmem with
        | inl heq => exact h.1.1 (heq ▸ hkey)
        | inr hold => exact h.2 key (List.mem_cons_of_mem _ hkey) hold

theorem lastPositions_get (attributes : RecordedFields) (key : String) :
    (lastPositions attributes).get key = lastValue (positions attributes 0) key := by
  have hpositions : lastPositions attributes =
      (positions attributes 0).foldl (fun last pair => last.insert pair.1 pair.2) ∅ := by
    rw [lastPositions, positions, List.foldl_map]
  rw [hpositions]
  refine (lookup_foldl_insert _ ∅ key).trans ?_
  change (_ <|> none) = _
  cases lastValue (positions attributes 0) key <;> rfl

/-- The processor keeps what is not replaced, whether it rebuilds the record or not. -/
theorem uniqueAttributes_eq (record : SdkLogRecord) :
    uniqueAttributes record = { record with attributes := keepLast record.attributes } := by
  rw [uniqueAttributes]
  by_cases hrepeats : hasRepeatedKey record = true
  · rw [if_pos hrepeats, rebuilt, ← filter_lastPosition record.attributes 0]
    simp only [lastPositions_get]
  · have hnodup := (repeatsKey_eq_false.mp (Bool.eq_false_of_not_eq_true hrepeats)).1
    rw [if_neg hrepeats, keepLast_of_nodup hnodup]

/-- A text body is redacted, and any other is kept. -/
def redactedBody : Json → Json
  | .string s => .string (redactMessage s)
  | value => value

/-- Only the body of a record is rewritten. -/
theorem redactBody_eq (record : SdkLogRecord) :
    redactBody record = { record with body := record.body.map redactedBody } := by
  obtain ⟨eventName, target, timestamp, observed, trace, text, number, body, attributes⟩ := record
  cases body with
  | none => rfl
  | some body =>
    cases body with
    | string s =>
      rw [redactBody]
      by_cases hredacted : redactMessage s ≠ s
      · simp only [if_pos hredacted]
        rfl
      · simp only [if_neg hredacted]
        rw [Option.map_some, redactedBody, Decidable.not_not.mp hredacted]
    | null => rfl
    | bool value => rfl
    | number value => rfl
    | array items => rfl
    | object fields => rfl

theorem backfillTimestamp_eq (now : DateTime) (record : SdkLogRecord) :
    backfillTimestamp now record = { record with
      timestamp := record.timestamp <|> some (record.observedTimestamp.getD now) } := by
  obtain ⟨eventName, target, timestamp, observed, trace, text, number, body, attributes⟩ := record
  cases timestamp <;> rfl

/-- An event, the spans around it and the clock. -/
structure LoggedEvent where
  now : DateTime
  spans : List RecordedFields
  event : LogEvent

section Run

variable (bridge : TracingBridge) (formatter : LogFormatter) (lib : Libraries)

/-- The record that arrives at the redaction guard. -/
def LoggedEvent.guarded (logged : LoggedEvent) : SdkLogRecord :=
  uniqueAttributes (backfillTimestamp logged.now (bridge.bridge logged.spans logged.event))

def exportRun (run : List LoggedEvent) : ExportState :=
  run.foldl
    (fun state logged => state.emit logged.now (bridge.bridge logged.spans logged.event))
    { exported := [], suppressed := 0 }

variable {bridge}

/-- What one event adds. -/
theorem emit_step (state : ExportState) (logged : LoggedEvent) :
    state.emit logged.now (bridge.bridge logged.spans logged.event) =
      if recordCarriesSensitiveAttributes (logged.guarded bridge) then
        { state with suppressed := state.suppressed + 1 }
      else { state with exported := state.exported ++ [redactBody (logged.guarded bridge)] } :=
  rfl

end Run

/-! ## 4. Two events of one request -/

-- a bridge that copies nothing but the allow-listed fields
def contextBridge : TracingBridge where
  copySpan recorded := recorded.filter fun field => decide (field.1 ∈ hydratableSpanFields)
  record metadata message :=
    { eventName := none, target := some metadata.target, timestamp := none
      observedTimestamp := none, traceContext := none
      severityText := some metadata.level.asStr
      severityNumber := some metadata.level.severityNumber
      body := message, attributes := [] }

end AvisoServer
