import AvisoServer.Json
import AvisoServer.Rust

/-!
# Validation rules

The rule of an identifier field: the handler that checks and canonicalises its values, with the
parameters of the handler.
-/

namespace AvisoServer

inductive ValidationRules where
  | stringHandler (maxLength : Option Nat) (required : Bool)
  | dateHandler (canonicalFormat : String) (required : Bool)
  | enumHandler (values : List String) (required : Bool)
  | expverHandler (default : Option String) (required : Bool)
  | intHandler (range : Option (Int × Int)) (required : Bool)
  | floatHandler (range : Option (F64 × F64)) (required : Bool)
  | timeHandler (required : Bool)
  | polygonHandler (required : Bool)
  | pointCloudHandler (required : Bool) (maxPoints : Nat)
  deriving DecidableEq

namespace ValidationRules

def isRequired : ValidationRules → Bool
  | .stringHandler _ required => required
  | .dateHandler _ required => required
  | .enumHandler _ required => required
  | .expverHandler _ required => required
  | .intHandler _ required => required
  | .floatHandler _ required => required
  | .timeHandler required => required
  | .polygonHandler required => required
  | .pointCloudHandler required _ => required

def isPolygon : ValidationRules → Bool
  | .polygonHandler _ => true
  | _ => false

def isPointCloud : ValidationRules → Bool
  | .pointCloudHandler _ _ => true
  | _ => false

/-- The rules whose values are geometries, which are kept out of subjects. -/
def isSpatial (rule : ValidationRules) : Bool :=
  rule.isPolygon || rule.isPointCloud

end ValidationRules

end AvisoServer
