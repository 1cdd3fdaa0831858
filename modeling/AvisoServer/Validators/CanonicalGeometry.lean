import AvisoServer.Validators.Geometry

/-!
# Canonical geometries

The canonical JSON of a geometry reads back as its coordinates, so canonicalising it again changes
nothing.
-/

namespace AvisoServer

/-! ## 1. Coordinates -/

theorem coordinateError_eq_ok {α : Type} {r : Except CoordinateError α} {a : α} :
    coordinateError r = .ok a ↔ r = .ok a :=
  mapError_eq_ok

theorem prefixError_eq_ok {α : Type} {text : String} {r : Result α} {a : α} :
    prefixError text r = .ok a ↔ r = .ok a :=
  mapError_eq_ok

/-- A coordinate that validation accepts: two finite numbers in their ranges. -/
def ValidCoordinate (coordinate : Coordinate) : Prop :=
  validateCoordinate coordinate.1 coordinate.2 = .ok coordinate

theorem validateCoordinate_eq_ok {lat lon : F64} {coordinate : Coordinate}
    (h : validateCoordinate lat lon = .ok coordinate) :
    coordinate = (lat, lon) ∧ lat.isFinite = true ∧ lon.isFinite = true ∧
      validLatitude lat = true ∧ validLongitude lon = true := by
  unfold validateCoordinate at h
  split at h
  · cases h
  rename_i hlat
  split at h
  · cases h
  rename_i hlon
  split at h
  · cases h
  rename_i hlatRange
  split at h
  · cases h
  rename_i hlonRange
  cases h
  exact ⟨rfl, by simpa using hlat, by simpa using hlon, by simpa using hlatRange,
    by simpa using hlonRange⟩

theorem validateCoordinate_valid {lat lon : F64} {coordinate : Coordinate}
    (h : validateCoordinate lat lon = .ok coordinate) : ValidCoordinate coordinate := by
  obtain ⟨rfl, -⟩ := validateCoordinate_eq_ok h
  exact h

/-- The JSON of a coordinate. -/
def coordinateArray (coordinate : Coordinate) : Json :=
  .array [.number (.float coordinate.1), .number (.float coordinate.2)]

theorem coordinateToJson_valid {coordinate : Coordinate} (hvalid : ValidCoordinate coordinate) :
    coordinateToJson coordinate = .ok (coordinateArray coordinate) := by
  obtain ⟨-, hlat, hlon, -⟩ := validateCoordinate_eq_ok hvalid
  have hlatJson : Json.ofF64 coordinate.1 = some (.number (.float coordinate.1)) := if_pos hlat
  have hlonJson : Json.ofF64 coordinate.2 = some (.number (.float coordinate.2)) := if_pos hlon
  unfold ValidCoordinate at hvalid
  unfold coordinateToJson
  rw [hvalid]
  simp only [bind, Except.bind, hlatJson, hlonJson]
  rfl

theorem parseCoordinate_coordinateArray {coordinate : Coordinate}
    (hvalid : ValidCoordinate coordinate) :
    parseCoordinate (coordinateArray coordinate) = .ok coordinate := by
  obtain ⟨-, hlat, hlon, -⟩ := validateCoordinate_eq_ok hvalid
  have hcomponent : ∀ (value : F64) (component : String), value.isFinite = true →
      parseComponent (.number (.float value)) component = .ok value := by
    intro value component hfinite
    unfold parseComponent
    show (if value.isFinite then _ else _) = _
    rw [if_pos hfinite]
  show (parseComponent (.number (.float coordinate.1)) "latitude" >>= fun lat =>
    parseComponent (.number (.float coordinate.2)) "longitude" >>= fun lon =>
      validateCoordinate lat lon) = _
  rw [hcomponent _ _ hlat, hcomponent _ _ hlon]
  exact hvalid

theorem parseCoordinate_valid {value : Json} {coordinate : Coordinate}
    (h : parseCoordinate value = .ok coordinate) : ValidCoordinate coordinate := by
  unfold parseCoordinate at h
  split at h
  · obtain ⟨lat, -, h⟩ := bind_eq_ok.mp h
    obtain ⟨lon, -, h⟩ := bind_eq_ok.mp h
    exact validateCoordinate_valid h
  · cases h

/-- The JSON of a list of coordinates. -/
def coordinatesArray (coordinates : List Coordinate) : Json :=
  .array (coordinates.map coordinateArray)

theorem coordinateArray_injective {a b : Coordinate} (h : coordinateArray a = coordinateArray b) :
    a = b := by
  unfold coordinateArray at h
  simp only [Json.array.injEq, List.cons.injEq, Json.number.injEq, JsonNumber.float.injEq] at h
  exact Prod.ext h.1 h.2.1

theorem coordinatesArray_injective {a b : List Coordinate}
    (h : coordinatesArray a = coordinatesArray b) : a = b := by
  unfold coordinatesArray at h
  rw [Json.array.injEq] at h
  exact (List.map_injective_iff.mpr fun _ _ => coordinateArray_injective) h

theorem coordinatesToJson_valid {coordinates : List Coordinate}
    (hvalid : ∀ coordinate ∈ coordinates, ValidCoordinate coordinate) :
    coordinatesToJson coordinates = .ok (coordinatesArray coordinates) := by
  have hitems : (coordinates.mapM fun coordinate => do
      coordinateToJson (← validateCoordinate coordinate.1 coordinate.2)) =
      Except.ok (coordinates.map coordinateArray) := by
    induction coordinates with
    | nil => rfl
    | cons coordinate coordinates ih =>
      obtain ⟨hhead, htail⟩ := List.forall_mem_cons.mp hvalid
      have hcoordinate := coordinateToJson_valid hhead
      unfold ValidCoordinate at hhead
      rw [List.mapM_cons, ih htail, hhead]
      show (coordinateToJson coordinate >>= _) = _
      rw [hcoordinate]
      rfl
  unfold coordinatesToJson
  rw [hitems]
  rfl

/-! ## 2. Polygons -/

theorem polygon_parsePoints_valid {index : Nat} {points : List Json}
    {coordinates : List Coordinate}
    (h : PolygonHandler.parsePoints index points = .ok coordinates) :
    ∀ coordinate ∈ coordinates, ValidCoordinate coordinate := by
  induction points generalizing index coordinates with
  | nil =>
    cases h
    exact fun coordinate hmem => absurd hmem List.not_mem_nil
  | cons point points ih =>
    unfold PolygonHandler.parsePoints at h
    split at h
    · cases h
    rename_i coordinate hcoordinate
    obtain ⟨rest, hrest, rfl⟩ := map_eq_ok.mp h
    exact List.forall_mem_cons.mpr ⟨parseCoordinate_valid hcoordinate, ih hrest⟩

theorem polygon_parsePoints_canonical (index : Nat) {coordinates : List Coordinate}
    (hvalid : ∀ coordinate ∈ coordinates, ValidCoordinate coordinate) :
    PolygonHandler.parsePoints index (coordinates.map coordinateArray) = .ok coordinates := by
  induction coordinates generalizing index with
  | nil => rfl
  | cons coordinate coordinates ih =>
    obtain ⟨hhead, htail⟩ := List.forall_mem_cons.mp hvalid
    rw [List.map_cons]
    unfold PolygonHandler.parsePoints
    rw [parseCoordinate_coordinateArray hhead, ih (index + 1) htail]
    rfl

theorem bounds_finite :
    ∀ bound ∈ [-180, -90, 90, 180], (Binary64.ofInt bound).isFinite = true := by
  decide +kernel

theorem inRange_finite {low high : Int} {value : F64} (hlow : low ∈ [-180, -90, 90, 180])
    (hhigh : high ∈ [-180, -90, 90, 180]) (h : inRange low high value = true) :
    value.isFinite = true := by
  obtain ⟨hbelow, habove⟩ := Bool.and_eq_true_iff.mp h
  exact Binary64.isFinite_of_le (bounds_finite low hlow) (bounds_finite high hhigh) hbelow habove

/-- A pair of the text form is a valid coordinate, as numbers in range are finite. -/
theorem parsePair_valid {latStr lonStr : String} {coordinate : Coordinate}
    (h : PolygonHandler.parsePair latStr lonStr = .ok coordinate) : ValidCoordinate coordinate := by
  unfold PolygonHandler.parsePair at h
  obtain ⟨lat, -, h⟩ := bind_eq_ok.mp h
  obtain ⟨lon, -, h⟩ := bind_eq_ok.mp h
  split at h
  · cases h
  rename_i hlat
  split at h
  · cases h
  rename_i hlon
  cases h
  rw [Bool.not_eq_true', Bool.not_eq_false] at hlat hlon
  have hlatFinite : lat.isFinite = true := inRange_finite (by decide) (by decide) hlat
  have hlonFinite : lon.isFinite = true := inRange_finite (by decide) (by decide) hlon
  unfold ValidCoordinate validateCoordinate
  simp [hlat, hlon, hlatFinite, hlonFinite]

theorem parsePairs_valid {parts : List String} {coordinates : List Coordinate}
    (h : PolygonHandler.parsePairs parts = .ok coordinates) :
    ∀ coordinate ∈ coordinates, ValidCoordinate coordinate := by
  induction parts using PolygonHandler.parsePairs.induct generalizing coordinates with
  | case1 latStr lonStr rest ih =>
    unfold PolygonHandler.parsePairs at h
    obtain ⟨coordinate, hcoordinate, h⟩ := bind_eq_ok.mp h
    obtain ⟨later, hlater, h⟩ := bind_eq_ok.mp h
    cases h
    exact List.forall_mem_cons.mpr ⟨parsePair_valid hcoordinate, ih hlater⟩
  | case2 =>
    cases h
    exact fun coordinate hmem => absurd hmem List.not_mem_nil
  | case3 => cases h

theorem parsePolygonCoordinates_valid {lib : Libraries} {text : String}
    {coordinates : List Coordinate}
    (h : PolygonHandler.parsePolygonCoordinates lib text = .ok coordinates) :
    ∀ coordinate ∈ coordinates, ValidCoordinate coordinate := by
  unfold PolygonHandler.parsePolygonCoordinates at h
  simp only at h
  split at h
  · cases h
  split at h
  · split at h
    · cases h
    · exact polygon_parsePoints_valid h
    · cases h
  · unfold PolygonHandler.parsePolygonText at h
    obtain ⟨inner, -, h⟩ := bind_eq_ok.mp h
    split at h
    · cases h
    split at h
    · cases h
    simp only at h
    split at h
    · cases h
    · exact parsePairs_valid h

theorem parsePolygonValue_valid {lib : Libraries} {value : Json} {coordinates : List Coordinate}
    (h : PolygonHandler.parsePolygonValue lib value = .ok coordinates) :
    ∀ coordinate ∈ coordinates, ValidCoordinate coordinate := by
  unfold PolygonHandler.parsePolygonValue at h
  split at h
  · exact polygon_parsePoints_valid h
  · exact parsePolygonCoordinates_valid h
  · cases h

/-- The canonical JSON of a polygon is that of its coordinates. -/
theorem polygon_canonical {lib : Libraries} {value canonical : Json} {fieldName : String}
    (h : PolygonHandler.validateJsonAndCanonicalize lib value fieldName = .ok canonical) :
    ∃ coordinates, PolygonHandler.parsePolygonValue lib value = .ok coordinates ∧
      (∀ coordinate ∈ coordinates, ValidCoordinate coordinate) ∧
      PolygonHandler.validatePolygonGeometry coordinates = .ok () ∧
      canonical = coordinatesArray coordinates := by
  unfold PolygonHandler.validateJsonAndCanonicalize at h
  obtain ⟨coordinates, hparse, h⟩ := bind_eq_ok.mp h
  obtain ⟨_, hgeometry, h⟩ := bind_eq_ok.mp h
  have hparse := prefixError_eq_ok.mp hparse
  have hvalid := parsePolygonValue_valid hparse
  rw [coordinateError_eq_ok, coordinatesToJson_valid hvalid] at h
  cases h
  exact ⟨coordinates, hparse, hvalid, prefixError_eq_ok.mp hgeometry, rfl⟩

/-- A polygon in canonical form is its own canonical form. -/
theorem polygon_canonical_again (lib : Libraries) {coordinates : List Coordinate} (fieldName : String)
    (hvalid : ∀ coordinate ∈ coordinates, ValidCoordinate coordinate)
    (hgeometry : PolygonHandler.validatePolygonGeometry coordinates = .ok ()) :
    PolygonHandler.validateJsonAndCanonicalize lib (coordinatesArray coordinates) fieldName =
      .ok (coordinatesArray coordinates) := by
  have hparse : PolygonHandler.parsePolygonValue lib (coordinatesArray coordinates) =
      .ok coordinates := polygon_parsePoints_canonical 0 hvalid
  unfold PolygonHandler.validateJsonAndCanonicalize
  exact bind_eq_ok.mpr ⟨coordinates, prefixError_eq_ok.mpr hparse, bind_eq_ok.mpr
    ⟨(), prefixError_eq_ok.mpr hgeometry,
      coordinateError_eq_ok.mpr (coordinatesToJson_valid hvalid)⟩⟩

/-! ## 3. Printed geometries -/

/-- `serde_json` reads back what it printed, which is not empty, and it prints an array between
brackets. -/
structure PrintsAndReads (lib : Libraries) (value : Json) : Prop where
  reads : lib.jsonFromStr (lib.jsonToString value) = .ok value
  nonempty : lib.jsonToString value ≠ ""
  brackets : ∀ items, value = .array items →
    ∃ inner, lib.jsonToString value = "[" ++ inner ++ "]"

theorem trim_brackets (inner : String) : trim ("[" ++ inner ++ "]") = "[" ++ inner ++ "]" := by
  unfold trim
  apply String.toList_injective
  have hchars : ("[" ++ inner ++ "]").toList = '[' :: (inner.toList ++ [']']) := by
    simp [String.toList_append]
  rw [String.toList_ofList, hchars, List.dropWhile_cons_of_neg (by decide),
    List.reverse_cons, List.reverse_append, List.reverse_singleton, List.singleton_append,
    List.cons_append, List.dropWhile_cons_of_neg (by decide)]
  simp

theorem head_brackets (inner : String) : ("[" ++ inner ++ "]").toList.head? = some '[' := by
  simp [String.toList_append]

theorem brackets_ne_empty (inner : String) : "[" ++ inner ++ "]" ≠ "" := by
  intro hempty
  have hhead := head_brackets inner
  rw [hempty] at hhead
  cases hhead

/-- The stored text of a polygon reads back as the coordinates it was printed from. -/
theorem parsePolygonCoordinates_printed {lib : Libraries} {coordinates : List Coordinate}
    (hvalid : ∀ coordinate ∈ coordinates, ValidCoordinate coordinate)
    (hlib : PrintsAndReads lib (coordinatesArray coordinates)) :
    PolygonHandler.parsePolygonCoordinates lib (lib.jsonToString (coordinatesArray coordinates)) =
      .ok coordinates := by
  obtain ⟨inner, hinner⟩ := hlib.brackets _ rfl
  have hreads := hlib.reads
  unfold PolygonHandler.parsePolygonCoordinates
  rw [hinner] at hreads ⊢
  simp only [trim_brackets, if_neg (brackets_ne_empty inner), if_pos (head_brackets inner), hreads]
  exact polygon_parsePoints_canonical 0 hvalid

/-- The printed polygon reads back as some coordinates. -/
def ReadsPolygon (lib : Libraries) (ring : List Coordinate) : Prop :=
  ∃ coordinates, coordinates ≠ [] ∧
    PolygonHandler.parsePolygonCoordinates lib (lib.jsonToString (coordinatesArray ring)) =
      .ok coordinates

theorem PrintsAndReads.readsPolygon {lib : Libraries} {ring : List Coordinate}
    (hvalid : ∀ coordinate ∈ ring, ValidCoordinate coordinate) (hne : ring ≠ [])
    (h : PrintsAndReads lib (coordinatesArray ring)) : ReadsPolygon lib ring :=
  ⟨ring, hne, parsePolygonCoordinates_printed hvalid h⟩

/-- A text that reads as a polygon is no wildcard. -/
theorem ReadsPolygon.ne_wildcard {lib : Libraries} {ring : List Coordinate}
    (h : ReadsPolygon lib ring) : lib.jsonToString (coordinatesArray ring) ≠ "*" := by
  intro hstar
  obtain ⟨coordinates, -, hparse⟩ := h
  rw [hstar] at hparse
  have hraw : trim "*" = "*" := by decide
  unfold PolygonHandler.parsePolygonCoordinates at hparse
  simp only [hraw] at hparse
  rw [if_neg (by decide), if_neg (by decide)] at hparse
  cases hparse

theorem parsePointText_valid {text : String} {coordinate : Coordinate}
    (h : PointHandler.parsePointText text = .ok coordinate) : ValidCoordinate coordinate := by
  unfold PointHandler.parsePointText at h
  split at h
  · obtain ⟨lat, -, h⟩ := bind_eq_ok.mp h
    obtain ⟨lon, -, h⟩ := bind_eq_ok.mp h
    exact validateCoordinate_valid (coordinateError_eq_ok.mp h)
  · cases h
  · cases h

theorem parsePointCoordinates_valid {lib : Libraries} {text : String} {coordinate : Coordinate}
    (h : PointHandler.parsePointCoordinates lib text = .ok coordinate) :
    ValidCoordinate coordinate := by
  unfold PointHandler.parsePointCoordinates at h
  simp only at h
  split at h
  · cases h
  split at h
  · split at h
    · cases h
    · exact parseCoordinate_valid (coordinateError_eq_ok.mp h)
    · cases h
  · exact parsePointText_valid h

/-- The canonical JSON of a point is that of its coordinate. -/
theorem point_canonical {lib : Libraries} {value canonical : Json} {fieldName : String}
    (h : PointHandler.validateJsonAndCanonicalize lib value fieldName = .ok canonical) :
    ∃ coordinate, ValidCoordinate coordinate ∧ canonical = coordinateArray coordinate := by
  unfold PointHandler.validateJsonAndCanonicalize at h
  obtain ⟨coordinate, -, h⟩ := bind_eq_ok.mp h
  have hjson := coordinateError_eq_ok.mp h
  -- printing a coordinate validates it again
  have hvalid : ValidCoordinate coordinate := by
    unfold coordinateToJson at hjson
    obtain ⟨checked, hchecked, -⟩ := bind_eq_ok.mp hjson
    obtain ⟨rfl, -⟩ := validateCoordinate_eq_ok hchecked
    exact hchecked
  rw [coordinateToJson_valid hvalid] at hjson
  cases hjson
  exact ⟨coordinate, hvalid, rfl⟩

/-- The canonical text of a point reads back as its coordinate. -/
theorem parsePointCoordinates_printed {lib : Libraries} {coordinate : Coordinate}
    (hvalid : ValidCoordinate coordinate)
    (hlib : PrintsAndReads lib (coordinateArray coordinate)) :
    PointHandler.parsePointCoordinates lib (lib.jsonToString (coordinateArray coordinate)) =
      .ok coordinate := by
  obtain ⟨inner, hinner⟩ := hlib.brackets _ rfl
  have hreads := hlib.reads
  unfold PointHandler.parsePointCoordinates
  rw [hinner] at hreads ⊢
  simp only [trim_brackets, if_neg (brackets_ne_empty inner), if_pos (head_brackets inner), hreads]
  exact coordinateError_eq_ok.mpr (parseCoordinate_coordinateArray hvalid)

/-! ## 4. Point clouds -/

theorem cloud_parsePoints_valid {fieldName : String} {index : Nat} {points : List Json}
    {coordinates : List Coordinate}
    (h : PointCloudHandler.parsePoints fieldName index points = .ok coordinates) :
    (∀ coordinate ∈ coordinates, ValidCoordinate coordinate) ∧
      coordinates.length = points.length := by
  induction points generalizing index coordinates with
  | nil =>
    cases h
    exact ⟨fun coordinate hmem => absurd hmem List.not_mem_nil, rfl⟩
  | cons point points ih =>
    unfold PointCloudHandler.parsePoints at h
    split at h
    · cases h
    rename_i coordinate hcoordinate
    obtain ⟨rest, hrest, rfl⟩ := map_eq_ok.mp h
    obtain ⟨hvalid, hlength⟩ := ih hrest
    exact ⟨List.forall_mem_cons.mpr ⟨parseCoordinate_valid hcoordinate, hvalid⟩, by
      rw [List.length_cons, List.length_cons, hlength]⟩

theorem cloud_parsePoints_canonical (fieldName : String) (index : Nat)
    {coordinates : List Coordinate}
    (hvalid : ∀ coordinate ∈ coordinates, ValidCoordinate coordinate) :
    PointCloudHandler.parsePoints fieldName index (coordinates.map coordinateArray) =
      .ok coordinates := by
  induction coordinates generalizing index with
  | nil => rfl
  | cons coordinate coordinates ih =>
    obtain ⟨hhead, htail⟩ := List.forall_mem_cons.mp hvalid
    rw [List.map_cons]
    unfold PointCloudHandler.parsePoints
    rw [parseCoordinate_coordinateArray hhead, ih (index + 1) htail]
    rfl

/-- The points that are read of a value, within the limits on their number. -/
theorem parseCoordinates_eq_ok {value : Json} {maxPoints : Nat} {fieldName : String}
    {coordinates : List Coordinate}
    (h : PointCloudHandler.parseCoordinates value maxPoints fieldName = .ok coordinates) :
    ∃ points, value.asArray = some points ∧
      PointCloudHandler.parsePoints fieldName 0 points = .ok coordinates ∧
      (∀ coordinate ∈ coordinates, ValidCoordinate coordinate) ∧ coordinates ≠ [] ∧
      coordinates.length ≤ hardMaxPoints := by
  unfold PointCloudHandler.parseCoordinates at h
  split at h
  · cases h
  rename_i hmax
  split at h
  · cases h
  rename_i points hpoints
  split at h
  · cases h
  rename_i hnonempty
  split at h
  · cases h
  rename_i hcount
  obtain ⟨hvalid, hlength⟩ := cloud_parsePoints_valid h
  refine ⟨points, hpoints, h, hvalid, ?_, by omega⟩
  rintro rfl
  exact hnonempty (List.eq_nil_of_length_eq_zero hlength.symm)

/-- An accepted point cloud has valid coordinates, few enough and short enough to print. -/
theorem cloud_canonical {lib : Libraries} {value canonical : Json} {maxPoints : Nat}
    {fieldName : String} {coordinates : List Coordinate}
    (h : PointCloudHandler.validate lib value maxPoints fieldName = .ok (coordinates, canonical)) :
    (∀ coordinate ∈ coordinates, ValidCoordinate coordinate) ∧ coordinates ≠ [] ∧
      coordinates.length ≤ hardMaxPoints ∧ canonical = coordinatesArray coordinates ∧
      byteLength (lib.jsonToString canonical) ≤ maxSerializedPointCloudBytes := by
  unfold PointCloudHandler.validate at h
  obtain ⟨parsed, hparse, h⟩ := bind_eq_ok.mp h
  obtain ⟨printed, hprinted, h⟩ := bind_eq_ok.mp h
  obtain ⟨_, hsize, h⟩ := bind_eq_ok.mp h
  cases h
  obtain ⟨_, -, -, hvalid, hnonempty, hcount⟩ := parseCoordinates_eq_ok hparse
  rw [coordinatesToJson_valid hvalid] at hprinted
  cases hprinted
  unfold PointCloudHandler.validateSerializedSize at hsize
  split at hsize
  · cases hsize
  rename_i hbytes
  exact ⟨hvalid, hnonempty, hcount, rfl, by omega⟩

/-- The coordinates of an accepted point cloud do not depend on how many are allowed. -/
theorem cloud_unique {lib : Libraries} {value canonical other : Json} {maxPoints maxPoints' : Nat}
    {fieldName : String} {coordinates coordinates' : List Coordinate}
    (h : PointCloudHandler.validate lib value maxPoints fieldName = .ok (coordinates, canonical))
    (h' : PointCloudHandler.validate lib value maxPoints' fieldName = .ok (coordinates', other)) :
    coordinates = coordinates' := by
  have hread : ∀ {maxPoints : Nat} {coordinates : List Coordinate} {canonical : Json},
      PointCloudHandler.validate lib value maxPoints fieldName = .ok (coordinates, canonical) →
      ∃ points, value.asArray = some points ∧
        PointCloudHandler.parsePoints fieldName 0 points = .ok coordinates := by
    intro maxPoints coordinates canonical h
    unfold PointCloudHandler.validate at h
    obtain ⟨parsed, hparse, h⟩ := bind_eq_ok.mp h
    obtain ⟨_, -, h⟩ := bind_eq_ok.mp h
    obtain ⟨_, -, h⟩ := bind_eq_ok.mp h
    cases h
    obtain ⟨points, hpoints, hparsed, -⟩ := parseCoordinates_eq_ok hparse
    exact ⟨points, hpoints, hparsed⟩
  obtain ⟨points, hpoints, hparse⟩ := hread h
  obtain ⟨points', hpoints', hparse'⟩ := hread h'
  rw [hpoints] at hpoints'
  cases hpoints'
  rw [hparse] at hparse'
  cases hparse'
  rfl

/-- A canonical point cloud reads as its coordinates. -/
theorem cloud_parseCoordinates_canonical {coordinates : List Coordinate} (fieldName : String)
    (hvalid : ∀ coordinate ∈ coordinates, ValidCoordinate coordinate) (hnonempty : coordinates ≠ [])
    (hcount : coordinates.length ≤ hardMaxPoints) :
    PointCloudHandler.parseCoordinates (coordinatesArray coordinates) hardMaxPoints fieldName =
      .ok coordinates := by
  have hpoints : coordinates.map coordinateArray ≠ [] := by simpa using hnonempty
  have hlength : ¬ (coordinates.map coordinateArray).length > hardMaxPoints := by
    rw [List.length_map]
    omega
  unfold PointCloudHandler.parseCoordinates coordinatesArray
  rw [if_neg (by decide)]
  simp only [Json.asArray, if_neg hpoints, if_neg hlength]
  exact cloud_parsePoints_canonical fieldName 0 hvalid

/-- The coordinates that the stored text of a point cloud is read as. -/
def readPointCloud (lib : Libraries) (text : String) : Option (List Coordinate) :=
  (lib.jsonFromStr text).toOption.bind fun value =>
    (PointCloudHandler.parseCoordinates value hardMaxPoints "point_cloud").toOption

/-- The stored text of a point cloud reads back as the points it was printed from. -/
theorem readPointCloud_printed {lib : Libraries} {points : List Coordinate}
    (hvalid : ∀ coordinate ∈ points, ValidCoordinate coordinate) (hnonempty : points ≠ [])
    (hcount : points.length ≤ hardMaxPoints)
    (hlib : PrintsAndReads lib (coordinatesArray points)) :
    readPointCloud lib (lib.jsonToString (coordinatesArray points)) = some points := by
  unfold readPointCloud
  rw [hlib.reads]
  simp only [Except.toOption, Option.bind_some,
    cloud_parseCoordinates_canonical "point_cloud" hvalid hnonempty hcount]

/-- A canonical point cloud is accepted as its coordinates. -/
theorem cloud_validate_canonical {lib : Libraries} {coordinates : List Coordinate}
    (fieldName : String) (hvalid : ∀ coordinate ∈ coordinates, ValidCoordinate coordinate)
    (hnonempty : coordinates ≠ []) (hcount : coordinates.length ≤ hardMaxPoints)
    (hsize : byteLength (lib.jsonToString (coordinatesArray coordinates)) ≤
      maxSerializedPointCloudBytes) :
    PointCloudHandler.validate lib (coordinatesArray coordinates) hardMaxPoints fieldName =
      .ok (coordinates, coordinatesArray coordinates) := by
  have hparse := cloud_parseCoordinates_canonical fieldName hvalid hnonempty hcount
  have hfits : PointCloudHandler.validateSerializedSize fieldName
      (byteLength (lib.jsonToString (coordinatesArray coordinates))) = .ok () := by
    unfold PointCloudHandler.validateSerializedSize
    rw [if_neg (by omega)]
  unfold PointCloudHandler.validate
  simp only [hparse, coordinatesToJson_valid hvalid, bind, Except.bind, Except.mapError, hfits]

/-- Canonicalising a canonical point cloud again changes nothing. -/
theorem cloud_canonical_again {lib : Libraries} {coordinates : List Coordinate} (fieldName : String)
    (hvalid : ∀ coordinate ∈ coordinates, ValidCoordinate coordinate) (hnonempty : coordinates ≠ [])
    (hcount : coordinates.length ≤ hardMaxPoints)
    (hsize : byteLength (lib.jsonToString (coordinatesArray coordinates)) ≤
      maxSerializedPointCloudBytes) :
    PointCloudHandler.validateAndCanonicalize lib (coordinatesArray coordinates) hardMaxPoints
      fieldName = .ok (coordinatesArray coordinates) := by
  unfold PointCloudHandler.validateAndCanonicalize
  rw [cloud_validate_canonical fieldName hvalid hnonempty hcount hsize]
  rfl

end AvisoServer
