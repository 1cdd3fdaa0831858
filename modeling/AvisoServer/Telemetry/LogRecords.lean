import AvisoServer.Lib.LastValue
import AvisoServer.Telemetry.Redaction

/-!
# Log records

An event is written to standard output as one JSON record, and may be exported as another. Both get
the request context that is recorded on the spans around the event; the first reads it from the
innermost span, the second copies it from all of them and drops what is replaced.
-/

namespace AvisoServer

open LastValue

/-! ## 1. Events and spans -/

inductive Level where
  | trace
  | debug
  | info
  | warn
  | error
  deriving DecidableEq, Repr

namespace Level

def asStr : Level → String
  | .trace => "TRACE"
  | .debug => "DEBUG"
  | .info => "INFO"
  | .warn => "WARN"
  | .error => "ERROR"

/-- OpenTelemetry severity buckets. -/
def severityNumber : Level → Nat
  | .trace => 1
  | .debug => 5
  | .info => 9
  | .warn => 13
  | .error => 17

end Level

structure EventMetadata where
  name : String
  target : String
  level : Level
  file : Option String
  line : Option Nat

/-- Recorded values in the order of their recording. -/
abbrev RecordedFields := List (String × Json)

structure LogEvent where
  metadata : EventMetadata
  fields : RecordedFields

/-- Span fields that are hydrated onto child events when the event itself does not set them. -/
def hydratableSpanFields : List String :=
  ["request_id", "event_type", "topic", "username", "auth_realm"]

/-- The request context values one span has recorded; a later one replaces an earlier one. -/
def spanContext (recorded : RecordedFields) : HashMap Json :=
  recorded.foldl
    (fun context field =>
      if field.1 ∈ hydratableSpanFields then context.insert field.1 field.2 else context) ∅

/-! ## 2. The record on standard output -/

/-- `JsonVisitor` -/
def visitFields (recorded : RecordedFields) : HashMap Json :=
  recorded.foldl (fun fields field => fields.insert field.1 field.2) ∅

def normalizeAttributeKey (raw : String) : String :=
  if raw = "event_name" then "event.name"
  else if raw = "service_name" then "service.name"
  else if raw = "service_version" then "service.version"
  else if raw = "error_type" then "error.type"
  else if raw = "error_message" then "exception.message"
  else raw

structure LogRecordBuilder where
  body : String
  attributes : HashMap Json

section Builder

variable (lib : Libraries)

-- a map of JSON values is read in the order of its keys, so the later of two keys that are
-- normalized to one wins
def normalizeAndRedactAttributes (fields : HashMap Json) : HashMap Json :=
  (lookups fields (sortStrings fields.keys)).foldl
    (fun attributes field =>
      attributes.insert (normalizeAttributeKey field.1) (redactJsonValue lib field.1 field.2)) ∅

def LogRecordBuilder.fromEvent (event : LogEvent) : LogRecordBuilder :=
  let fields := visitFields event.fields
  let body := ((fields.get "message").bind Json.asStr).getD event.metadata.name
  { body := redactMessage body
    attributes := normalizeAndRedactAttributes lib (fields.erase "message") }

end Builder

/-- `Map::insert`, if there is a value. -/
def insertSome (key : String) (value : Option Json) (attributes : HashMap Json) : HashMap Json :=
  match value with
  | some value => attributes.insert key value
  | none => attributes

/-- Event fields always win, and then the innermost span that has recorded the field. -/
def hydrateField (spans : List RecordedFields) (attributes : HashMap Json) (field : String) :
    HashMap Json :=
  if (attributes.get field).isSome then attributes
  else insertSome field (spans.findSome? fun span => (spanContext span).get field) attributes

/-- The spans are those around the event, the innermost first. -/
def populateAttributesFromSpan (spans : List RecordedFields) (attributes : HashMap Json) :
    HashMap Json :=
  hydratableSpanFields.foldl (hydrateField spans) attributes

def addCodeLocationAttributes (metadata : EventMetadata) (attributes : HashMap Json) :
    HashMap Json :=
  let attributes :=
    if (attributes.get "code.target").isSome then attributes
    else attributes.insert "code.target" (.string metadata.target)
  insertSome "code.lineno" (metadata.line.map .nat)
    (insertSome "code.filepath" (metadata.file.map .string) attributes)

/-- `otel.trace_id` and `otel.span_id` get the names of the record's own fields. -/
def promoteTraceCorrelation (attributes : HashMap Json) : HashMap Json :=
  let attributes :=
    insertSome "traceId" (attributes.get "otel.trace_id") (attributes.erase "otel.trace_id")
  insertSome "spanId" (attributes.get "otel.span_id") (attributes.erase "otel.span_id")

/-- Keep identity fields in the resource only. -/
def finalizeAttributes (attributes : HashMap Json) : HashMap Json :=
  ((((promoteTraceCorrelation attributes).erase "service.name").erase "service.version").erase
    "k8s.namespace.name").erase "k8s.pod.name"

structure StdoutRecord where
  timestamp : DateTime
  severityText : String
  severityNumber : Nat
  body : String
  resource : HashMap Json
  attributes : HashMap Json
  traceId : Option Json
  spanId : Option Json

def assembleLogJson (timestamp : DateTime) (level : Level) (body : String)
    (resource attributes : HashMap Json) : StdoutRecord where
  timestamp := timestamp
  severityText := level.asStr
  severityNumber := level.severityNumber
  body := body
  resource := resource
  attributes := (attributes.erase "traceId").erase "spanId"
  traceId := attributes.get "traceId"
  spanId := HashMap.get (attributes.erase "traceId") "spanId"

/-- `OTelLogFormatter`: the identity of the process. -/
structure LogFormatter where
  serviceName : String
  serviceVersion : String
  k8sNamespace : Option String
  k8sPodName : Option String

namespace LogFormatter

variable (formatter : LogFormatter)

def resourceJson : HashMap Json :=
  insertSome "k8s.pod.name" (formatter.k8sPodName.map .string)
    (insertSome "k8s.namespace.name" (formatter.k8sNamespace.map .string)
      (AList.insert "service.version" (.string formatter.serviceVersion)
        (AList.insert "service.name" (.string formatter.serviceName) (∅ : HashMap Json))))

/-- What is written for an event inside these spans, the innermost first. -/
def formatEvent (lib : Libraries) (now : DateTime) (spans : List RecordedFields)
    (event : LogEvent) : StdoutRecord :=
  let builder := LogRecordBuilder.fromEvent lib event
  let attributes := populateAttributesFromSpan spans builder.attributes
  let attributes := finalizeAttributes (addCodeLocationAttributes event.metadata attributes)
  assembleLogJson now event.metadata.level builder.body formatter.resourceJson attributes

end LogFormatter

/-! ## 3. The exported record -/

structure TraceContext where
  traceId : String
  spanId : String
  traceFlags : Option Nat
  deriving DecidableEq

/-- An OpenTelemetry record; its attributes may repeat a key. -/
structure SdkLogRecord where
  eventName : Option String
  target : Option String
  timestamp : Option DateTime
  observedTimestamp : Option DateTime
  traceContext : Option TraceContext
  severityText : Option String
  severityNumber : Option Nat
  body : Option Json
  attributes : RecordedFields

/-- The layer that makes a record of an event: what it copies from a span, and the rest of the record
from the event's metadata and message. -/
structure TracingBridge where
  copySpan : RecordedFields → RecordedFields
  record : EventMetadata → Option Json → SdkLogRecord

/-- The bridge copies from every span in scope, outermost first, and then adds the event's fields. -/
def TracingBridge.bridge (bridge : TracingBridge) (spans : List RecordedFields)
    (event : LogEvent) : SdkLogRecord :=
  { bridge.record event.metadata (lastValue event.fields "message") with
    attributes := spans.reverse.flatMap bridge.copySpan ++
      event.fields.filter fun field => decide (field.1 ≠ "message") }

/-- `EventTimestampProcessor`; `now` is the clock of this record. -/
def backfillTimestamp (now : DateTime) (record : SdkLogRecord) : SdkLogRecord :=
  if record.timestamp.isNone then
    { record with timestamp := some (record.observedTimestamp.getD now) }
  else record

/-- One pass over the attributes with the keys seen so far. -/
def repeatsKey : List String → RecordedFields → Bool
  | _, [] => false
  | seen, (key, _) :: attributes =>
    if key ∈ seen then true else repeatsKey (key :: seen) attributes

def hasRepeatedKey (record : SdkLogRecord) : Bool :=
  repeatsKey [] record.attributes

/-- Each key's last position, by insertion. -/
def lastPositions (attributes : RecordedFields) : HashMap Nat :=
  attributes.zipIdx.foldl (fun last indexed => last.insert indexed.1.1 indexed.2) ∅

def rebuilt (record : SdkLogRecord) : SdkLogRecord :=
  { record with
    attributes := (record.attributes.zipIdx.filter fun indexed =>
      decide ((lastPositions record.attributes).get indexed.1.1 = some indexed.2)).map Prod.fst }

/-- `UniqueAttributesProcessor` -/
def uniqueAttributes (record : SdkLogRecord) : SdkLogRecord :=
  if hasRepeatedKey record then rebuilt record else record

def recordCarriesSensitiveAttributes (record : SdkLogRecord) : Bool :=
  record.attributes.any fun field =>
    isSensitiveKey field.1 ||
      match field.2 with
      | .string s => (redactUrlUserinfo s).isSome
      | _ => false

def redactBody (record : SdkLogRecord) : SdkLogRecord :=
  match record.body with
  | some (.string s) =>
    if redactMessage s ≠ s then { record with body := some (.string (redactMessage s)) } else record
  | _ => record

/-- What has been handed to the exporter, and the counter of the records that were withheld. -/
structure ExportState where
  exported : List SdkLogRecord
  suppressed : Nat

/-- A record goes through the processors in the order of their registration. -/
def ExportState.emit (now : DateTime) (record : SdkLogRecord) (state : ExportState) :
    ExportState :=
  let record := uniqueAttributes (backfillTimestamp now record)
  if recordCarriesSensitiveAttributes record then { state with suppressed := state.suppressed + 1 }
  else { state with exported := state.exported ++ [redactBody record] }

end AvisoServer
