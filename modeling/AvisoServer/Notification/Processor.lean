import AvisoServer.Configuration.Validation
import AvisoServer.Notification.Spatial
import AvisoServer.Requests
import AvisoServer.Validators.Constraints

/-!
# Processing of requests

A request is checked against the schema of its event type, its identifier is canonicalised, and the
topic is built from the canonical values. An event type without a schema is processed generically,
unless strict mode is on.
-/

namespace AvisoServer

/-! ## 1. Registry and topics -/

structure NotificationRegistry where
  schemas : HashMap EventSchema
  strict : Bool

namespace NotificationRegistry

def fromConfig (notificationSchema : Option (HashMap EventSchema)) (strict : Bool) :
    NotificationRegistry where
  schemas := notificationSchema.getD ∅
  strict := strict

def getSchema (registry : NotificationRegistry) (eventType : String) : Option EventSchema :=
  registry.schemas.get eventType

def getSchemaNames (registry : NotificationRegistry) : List String :=
  sortStrings registry.schemas.keys

end NotificationRegistry

namespace TopicBuilder

/-- The event type and the values, in the order of their keys. -/
def buildGenericTopic (eventType : String) (canonicalizedParams : HashMap String) : String :=
  if canonicalizedParams.entries = [] then eventType
  else
    encodeSubject
      (eventType :: (sortStrings canonicalizedParams.keys).filterMap canonicalizedParams.get)

/-- The value of one key of a topic. -/
def topicValue (canonicalizedParams : HashMap String) (key : String) : Result String :=
  match canonicalizedParams.get key with
  | some value => .ok value
  | none => bail ("Missing key '" ++ key ++ "' for topic building")

def buildTopicWithSchema (eventType : String) (schema : EventSchema)
    (canonicalizedParams : HashMap String) : Result String :=
  match schema.topic with
  | some topicConfig => do
    let values ← topicConfig.keyOrder.mapM (topicValue canonicalizedParams)
    .ok (encodeSubject (topicConfig.base :: values))
  | none => .ok (buildGenericTopic eventType canonicalizedParams)

end TopicBuilder

/-! ## 2. Fields -/

inductive OperationType where
  | notify
  | watch
  | replay
  deriving DecidableEq, Repr

def OperationType.asStr : OperationType → String
  | .notify => "notify"
  | .watch => "watch"
  | .replay => "replay"

inductive IdentifierConstraint where
  | int (constraint : NumericConstraint Int)
  | enum (constraint : EnumConstraint)
  | float (constraint : NumericConstraint F64)
  deriving DecidableEq

structure IdentifierProcessingResult where
  canonicalized : HashMap String
  constraints : HashMap IdentifierConstraint
  spatialMetadata : Option SpatialMetadata

def IdentifierProcessingResult.empty : IdentifierProcessingResult where
  canonicalized := ∅
  constraints := ∅
  spatialMetadata := none

/-- Add the canonical value of a field. -/
def IdentifierProcessingResult.insert (result : IdentifierProcessingResult) (fieldName : String)
    (value : String) : IdentifierProcessingResult :=
  { result with canonicalized := result.canonicalized.insert fieldName value }

section Processor

variable (lib : Libraries)

def validateAndCanonicalizeScalar (fieldName : String) (value : String) :
    ValidationRules → Result String
  | .stringHandler maxLength _ =>
    StringHandler.validateAndCanonicalize value maxLength fieldName
  | .dateHandler canonicalFormat _ =>
    DateHandler.validateAndCanonicalize lib value canonicalFormat fieldName
  | .enumHandler values _ =>
    EnumHandler.validateAndCanonicalize lib.toLowercase value values fieldName
  | .expverHandler default _ =>
    ExpverHandler.validateAndCanonicalize lib.toLowercase value default fieldName
  | .intHandler range _ => IntHandler.validateAndCanonicalize value range fieldName
  | .floatHandler range _ => FloatHandler.validateAndCanonicalize value range fieldName
  | .timeHandler _ => TimeHandler.validateAndCanonicalize lib value fieldName
  | .polygonHandler _ => .ok value
  | .pointCloudHandler _ _ => .ok value

/-- Geometries are read as JSON, and every other value as its text. -/
def validateAndCanonicalizeField (fieldName : String) (value : Json) (rule : ValidationRules) :
    Result String :=
  match rule with
  | .polygonHandler _ =>
    lib.jsonToString <$> PolygonHandler.validateJsonAndCanonicalize lib value fieldName
  | .pointCloudHandler _ maxPoints =>
    lib.jsonToString <$> PointCloudHandler.validateAndCanonicalize lib value maxPoints fieldName
  | rule => do
    let text ← NotificationRequest.scalarIdentifierValueAsString lib fieldName value
    validateAndCanonicalizeScalar lib fieldName text rule

def parseIdentifierConstraint (fieldName : String) (value : Json) (rule : ValidationRules) :
    Result IdentifierConstraint :=
  match rule with
  | .intHandler range _ => .int <$> parseIntConstraint fieldName value range
  | .floatHandler range _ => .float <$> parseFloatConstraint fieldName value range
  | .enumHandler values _ => .enum <$> parseEnumConstraint lib.toLowercase fieldName value values
  | _ =>
    bail ("Field '" ++ fieldName ++
      "' does not support constraint filters; expected scalar value")

/-! ## 3. Notify -/

/-- A field of the schema, with the value of the request. -/
def processNotifyField (requestParams : HashMap Json) (result : IdentifierProcessingResult)
    (field : Sigma fun _ : String => IdentifierFieldConfig) : Result IdentifierProcessingResult :=
  match requestParams.get field.1 with
  | none => bail ("Required field '" ++ field.1 ++ "' missing for notify operation")
  | some value =>
    if value.isObject then
      bail ("Field '" ++ field.1 ++ "' constraint object is not supported for notify operation")
    else
      match field.2.rule with
      | .pointCloudHandler _ maxPoints => do
        let (coordinates, canonicalJson) ← PointCloudHandler.validate lib value maxPoints field.1
        let canonicalizedValue := lib.jsonToString canonicalJson
        let metadata ← SpatialMetadata.fromPointCloud coordinates canonicalizedValue
        .ok { result.insert field.1 canonicalizedValue with spatialMetadata := some metadata }
      | .polygonHandler _ => do
        let canonicalizedValue ←
          validateAndCanonicalizeField lib field.1 value field.2.rule
        let coordinates ← PolygonHandler.parsePolygonCoordinates lib canonicalizedValue
        let metadata ← SpatialMetadata.fromPolygon coordinates canonicalizedValue
        .ok { result.insert field.1 canonicalizedValue with spatialMetadata := some metadata }
      | rule => do
        let canonicalizedValue ← validateAndCanonicalizeField lib field.1 value rule
        .ok (result.insert field.1 canonicalizedValue)

def rejectUnknownNotifyField (schema : EventSchema) (param : Sigma fun _ : String => Json) :
    Result Unit :=
  if (schema.identifier.get param.1).isNone then
    bail ("Unknown field '" ++ param.1 ++ "' provided for notify operation")
  else .ok ()

def validatePayloadRequirement (schema : EventSchema) (payload : Option Json) : Result Unit :=
  if schema.payload.any (·.required) && payload.isNone then
    bail "Payload is required for notify operation based on schema configuration"
  else .ok ()

def processNotifyRequest (schema : EventSchema) (requestParams : HashMap Json)
    (payload : Option Json) : Result IdentifierProcessingResult := do
  requestParams.entries.forM (rejectUnknownNotifyField schema)
  let result ← schema.identifier.entries.foldlM (processNotifyField lib requestParams) .empty
  validatePayloadRequirement schema payload
  .ok result

/-! ## 4. Watch and replay -/

def hasPointCloudSchema (schema : EventSchema) : Bool :=
  schema.identifier.values.any fun field => field.rule.isPointCloud

/-- A spatial filter that is not a field of the schema. -/
def isSpatialFilter (schema : EventSchema) (fieldName : String) : Bool :=
  (fieldName = "polygon" && hasPointCloudSchema schema) ||
    (fieldName = "point" && (schema.identifier.get "polygon").any fun field => field.rule.isPolygon)

def rejectUnknownStreamingField (schema : EventSchema) (operationName : String)
    (param : Sigma fun _ : String => Json) : Result Unit :=
  if (schema.identifier.get param.1).isNone && !isSpatialFilter schema param.1 then
    bail ("Unknown field '" ++ param.1 ++ "' provided for " ++ operationName ++ " operation")
  else .ok ()

def processStreamingField (operationName : String) (requestParams : HashMap Json)
    (result : IdentifierProcessingResult)
    (field : Sigma fun _ : String => IdentifierFieldConfig) : Result IdentifierProcessingResult :=
  match requestParams.get field.1 with
  | some value =>
    if value.isObject then do
      let constraint ← parseIdentifierConstraint lib field.1 value field.2.rule
      .ok { result.insert field.1 "*" with
        constraints := result.constraints.insert field.1 constraint }
    else do
      let canonicalizedValue ← validateAndCanonicalizeField lib field.1 value field.2.rule
      .ok (result.insert field.1 canonicalizedValue)
  | none =>
    if field.2.isRequired then
      -- a spatial filter stands in for the geometry of the schema
      if field.1 = "polygon" && (requestParams.get "point").isSome then
        .ok (result.insert field.1 "*")
      else if field.2.rule.isPointCloud && (requestParams.get "polygon").isSome then
        .ok (result.insert field.1 "*")
      else
        bail ("Required field '" ++ field.1 ++ "' missing for " ++ operationName ++ " operation")
    else .ok (result.insert field.1 "*")

/-- The point of the request. -/
def addPointFilter (requestParams : HashMap Json) (result : IdentifierProcessingResult) :
    Result IdentifierProcessingResult :=
  match requestParams.get "point" with
  | none => .ok result
  | some point =>
    if point.isObject then bail "Field 'point' constraint object is not supported"
    else do
      let pointValue ← PointHandler.validateJsonAndCanonicalize lib point "point"
      .ok (result.insert "point" (lib.jsonToString pointValue))

/-- The polygon of a request on a point-cloud schema. -/
def addPolygonFilter (schema : EventSchema) (requestParams : HashMap Json)
    (result : IdentifierProcessingResult) : Result IdentifierProcessingResult :=
  if hasPointCloudSchema schema then
    match requestParams.get "polygon" with
    | none => .ok result
    | some polygon => do
      let polygon ← PolygonHandler.validateJsonAndCanonicalize lib polygon "polygon"
      .ok (result.insert "polygon" (lib.jsonToString polygon))
  else .ok result

def processStreamingRequest (schema : EventSchema) (requestParams : HashMap Json)
    (operationName : String) : Result IdentifierProcessingResult :=
  if (requestParams.get "point_cloud").isSome then
    bail "identifier.point_cloud is only supported for notify operations"
  else if hasPointCloudSchema schema && (requestParams.get "point").isSome then
    bail "identifier.point is not supported for point-cloud schemas; use identifier.polygon"
  else do
    requestParams.entries.forM (rejectUnknownStreamingField schema operationName)
    let result ← schema.identifier.entries.foldlM
      (processStreamingField lib operationName requestParams) .empty
    let result ← addPointFilter lib requestParams result
    addPolygonFilter lib schema requestParams result

/-! ## 5. Event types without a schema -/

def processGenericField (operation : OperationType) (canonicalized : HashMap String)
    (param : Sigma fun _ : String => Json) : Result (HashMap String) :=
  if param.2.isObject then
    bail ("Field '" ++ param.1 ++ "' constraint object is not supported " ++
      if operation = .notify then "for notify operation" else "without schema")
  else do
    let scalar ← NotificationRequest.scalarIdentifierValueAsString lib param.1 param.2
    if operation = .notify && scalar = "" then bail ("Field '" ++ param.1 ++ "' cannot be empty")
    else .ok (canonicalized.insert param.1 scalar)

def processGenericRequest (requestParams : HashMap Json) (operation : OperationType) :
    Result (HashMap String) :=
  requestParams.entries.foldlM (processGenericField lib operation) ∅

/-! ## 6. Requests -/

structure ProcessingResult where
  eventType : String
  topic : String
  canonicalizedParams : HashMap String
  identifierConstraints : HashMap IdentifierConstraint
  spatialMetadata : Option SpatialMetadata
  fromSchema : Bool

/-- The parameters that the topic is built from: the polygon of a streaming request filters
messages, and has a wildcard in the topic. -/
def routingParams (schema : EventSchema) (operation : OperationType)
    (canonicalizedParams : HashMap String) : HashMap String :=
  if operation ≠ .notify && (schema.topic.any fun topic => topic.keyOrder.any (· = "polygon")) &&
      (canonicalizedParams.get "polygon").isSome then
    canonicalizedParams.insert "polygon" "*"
  else canonicalizedParams

/-- The identifier of a request on a schema. -/
def processIdentifier (schema : EventSchema) (requestParams : HashMap Json)
    (payload : Option Json) (operation : OperationType) : Result IdentifierProcessingResult :=
  match operation with
  | .notify => processNotifyRequest lib schema requestParams payload
  | .watch => processStreamingRequest lib schema requestParams "watch"
  | .replay => processStreamingRequest lib schema requestParams "replay"

def processWithSchema (eventType : String) (schema : EventSchema) (requestParams : HashMap Json)
    (payload : Option Json) (operation : OperationType) : Result ProcessingResult := do
  let identifier ← processIdentifier lib schema requestParams payload operation
  let topic ← TopicBuilder.buildTopicWithSchema eventType schema
    (routingParams schema operation identifier.canonicalized)
  .ok
    { eventType := eventType
      topic := topic
      canonicalizedParams := identifier.canonicalized
      identifierConstraints := identifier.constraints
      spatialMetadata := identifier.spatialMetadata
      fromSchema := true }

def processWithoutSchema (eventType : String) (requestParams : HashMap Json)
    (operation : OperationType) : Result ProcessingResult := do
  let canonicalizedParams ← processGenericRequest lib requestParams operation
  .ok
    { eventType := eventType
      topic := TopicBuilder.buildGenericTopic eventType canonicalizedParams
      canonicalizedParams := canonicalizedParams
      identifierConstraints := ∅
      spatialMetadata := none
      fromSchema := false }

def processRequestWithValues (registry : NotificationRegistry) (eventType : String)
    (requestParams : HashMap Json) (payload : Option Json) (operation : OperationType) :
    Result ProcessingResult :=
  match registry.getSchema eventType with
  | some schema => do
    validateTopicBase (schema.base eventType)
    processWithSchema lib eventType schema requestParams payload operation
  | none => do
    validateTopicBase eventType
    if registry.strict then
      bail ("unknown event type '" ++ eventType ++ "'. Configured event types: " ++
        lib.debugStrings registry.getSchemaNames)
    else processWithoutSchema lib eventType requestParams operation

/-- The registry that a request handler builds from the global settings. -/
def Settings.registry (settings : Settings) : NotificationRegistry :=
  .fromConfig settings.notificationSchema settings.resolveNotificationSchemaStrict

end Processor

end AvisoServer
