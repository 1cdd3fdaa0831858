import AvisoServer.Validators.Geometry

/-!
# Spatial metadata

A stored geometry is kept as canonical JSON in the metadata of its message, next to the bounding
box of its coordinates.
-/

namespace AvisoServer

def spatialGeometryMetadataKey : String := "spatial_geometry"

def spatialBboxMetadataKey : String := "spatial_bbox"

def spatialPointCloudMetadataKey : String := "spatial_point_cloud"

/-- Canonical JSON of a polygon or of a point cloud. -/
inductive SpatialGeometry where
  | polygon (canonical : String)
  | pointCloud (canonical : String)
  deriving DecidableEq, Repr

structure SpatialMetadata where
  boundingBox : String
  geometry : SpatialGeometry
  deriving DecidableEq, Repr

/-- The least and the greatest latitude and longitude. -/
structure Bounds where
  minLat : F64
  minLon : F64
  maxLat : F64
  maxLon : F64

def Bounds.ofCoordinate (coordinate : Coordinate) : Bounds :=
  ⟨coordinate.1, coordinate.2, coordinate.1, coordinate.2⟩

def Bounds.add (bounds : Bounds) (coordinate : Coordinate) : Bounds where
  minLat := bounds.minLat.min coordinate.1
  minLon := bounds.minLon.min coordinate.2
  maxLat := bounds.maxLat.max coordinate.1
  maxLon := bounds.maxLon.max coordinate.2

/-- `min_lat,min_lon,max_lat,max_lon`. -/
def Bounds.text (bounds : Bounds) : String :=
  joinChar [bounds.minLat.display, bounds.minLon.display, bounds.maxLat.display,
    bounds.maxLon.display] ','

def calculateBoundingBoxString (coordinates : List Coordinate) : Result String :=
  match coordinates with
  | [] => bail "Cannot calculate bounding box for empty coordinates"
  | first :: rest => .ok (rest.foldl Bounds.add (.ofCoordinate first)).text

def SpatialMetadata.fromPolygon (coordinates : List Coordinate) (canonical : String) :
    Result SpatialMetadata := do
  let boundingBox ← calculateBoundingBoxString coordinates
  .ok { boundingBox := boundingBox, geometry := .polygon canonical }

def SpatialMetadata.fromPointCloud (coordinates : List Coordinate) (canonical : String) :
    Result SpatialMetadata := do
  let boundingBox ← calculateBoundingBoxString coordinates
  .ok { boundingBox := boundingBox, geometry := .pointCloud canonical }

end AvisoServer
