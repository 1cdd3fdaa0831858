import AvisoServer.Notification.Filters
import AvisoServer.Validators.CanonicalGeometry

/-!
# Bounding boxes

The box of a stored geometry is read back from its text, and covers the geometry. So a message whose
geometry the filter hits is not dropped by its box.
-/

namespace AvisoServer

/-! ## 1. Rectangles -/

/-- The point lies in the rectangle, edges included. -/
structure Rect.Covers (rect : Rect) (point : Coord) : Prop where
  left : Binary64.le rect.min.x point.x = true
  right : Binary64.le point.x rect.max.x = true
  bottom : Binary64.le rect.min.y point.y = true
  top : Binary64.le point.y rect.max.y = true

/-- What the `geo` crate promises of rectangles: the one of two corners covers what is between them,
and two that share a point intersect. -/
structure RectLaws (geo : Geo) : Prop where
  rectNew : ∀ a b point : Coord, a.x.le point.x = true → point.x.le b.x = true →
    a.y.le point.y = true → point.y.le b.y = true → (geo.rectNew a b).Covers point
  rectIntersects : ∀ (a b : Rect) (point : Coord), a.Covers point → b.Covers point →
    geo.rectIntersects a b = true

def Coord.Finite (point : Coord) : Prop :=
  point.x.isFinite = true ∧ point.y.isFinite = true

/-- What the predicates of the `geo` crate have to do with boxes, for polygons of finite
coordinates: the bounding rectangle covers the exterior, and whatever meets a polygon meets every
rectangle that covers it. -/
structure GeoLaws (geo : Geo) : Prop extends RectLaws geo where
  boundingRect : ∀ polygon : Polygon, polygon ≠ [] → (∀ point ∈ polygon, point.Finite) →
    ∃ rect, geo.boundingRect polygon = some rect ∧ ∀ point ∈ polygon, rect.Covers point
  intersects : ∀ (p q : Polygon) (a b : Rect), p ≠ [] → q ≠ [] → (∀ point ∈ p, point.Finite) →
    (∀ point ∈ q, point.Finite) → geo.intersects p q = true → (∀ point ∈ p, a.Covers point) →
    (∀ point ∈ q, b.Covers point) → geo.rectIntersects a b = true
  intersectsPoint : ∀ (p : Polygon) (a : Rect) (point : Coord), p ≠ [] →
    (∀ point ∈ p, point.Finite) → point.Finite → geo.intersectsPoint p point = true →
    (∀ point ∈ p, a.Covers point) → a.Covers point
  contains : ∀ (p : Polygon) (a : Rect) (point : Coord), p ≠ [] →
    (∀ point ∈ p, point.Finite) → point.Finite → geo.contains p point = true →
    (∀ point ∈ p, a.Covers point) → a.Covers point

theorem bboxContainsPoint_iff (bbox : Rect) (lon lat : F64) :
    bboxContainsPoint bbox lon lat = true ↔ bbox.Covers ⟨lon, lat⟩ := by
  unfold bboxContainsPoint
  rw [Bool.and_eq_true, Bool.and_eq_true, Bool.and_eq_true]
  constructor
  · rintro ⟨⟨⟨hleft, hright⟩, hbottom⟩, htop⟩
    exact ⟨hleft, hright, hbottom, htop⟩
  · exact fun h => ⟨⟨⟨h.left, h.right⟩, h.bottom⟩, h.top⟩

/-- One axis of a new rectangle: between the corners is between the smaller and the larger of them. -/
theorem between_sorted {a b x : F64} (hax : a.le x = true) (hxb : x.le b = true) :
    Binary64.le (if Binary64.lt a b then a else b) x = true ∧
      Binary64.le x (if Binary64.lt a b then b else a) = true := by
  cases hlt : Binary64.lt a b with
  | true => exact ⟨hax, hxb⟩
  | false =>
    have hba := Binary64.le_of_not_lt hax hxb hlt
    exact ⟨Binary64.le_trans _ _ _ hba hax, Binary64.le_trans _ _ _ hxb hba⟩

theorem plainGeo_rectLaws : RectLaws plainGeo where
  rectNew a b point hleft hright hbottom htop :=
    { left := (between_sorted hleft hright).1
      right := (between_sorted hleft hright).2
      bottom := (between_sorted hbottom htop).1
      top := (between_sorted hbottom htop).2 }
  rectIntersects a b point ha hb := by
    unfold plainGeo
    simp only [Binary64.le_trans _ _ _ hb.left ha.right, Binary64.le_trans _ _ _ ha.left hb.right,
      Binary64.le_trans _ _ _ hb.bottom ha.top, Binary64.le_trans _ _ _ ha.bottom hb.top,
      Bool.and_self]

/-! ## 2. Bounds of coordinates -/

/-- Both numbers of a coordinate are finite. -/
def FiniteCoordinate (coordinate : Coordinate) : Prop :=
  coordinate.1.isFinite = true ∧ coordinate.2.isFinite = true

theorem ValidCoordinate.finite {coordinate : Coordinate} (h : ValidCoordinate coordinate) :
    FiniteCoordinate coordinate := by
  obtain ⟨-, hlat, hlon, -⟩ := validateCoordinate_eq_ok h
  exact ⟨hlat, hlon⟩

/-- The bounds are numbers, and the coordinate is between them. -/
structure Bounds.Covers (bounds : Bounds) (coordinate : Coordinate) : Prop where
  minLat : bounds.minLat.le coordinate.1 = true
  minLon : bounds.minLon.le coordinate.2 = true
  maxLat : coordinate.1.le bounds.maxLat = true
  maxLon : coordinate.2.le bounds.maxLon = true

theorem Bounds.Covers.ne_nan {bounds : Bounds} {coordinate : Coordinate}
    (h : bounds.Covers coordinate) :
    bounds.minLat ≠ .nan ∧ bounds.minLon ≠ .nan ∧ bounds.maxLat ≠ .nan ∧ bounds.maxLon ≠ .nan := by
  have hleft : ∀ x y : F64, x.le y = true → x ≠ .nan := by
    intro x y hle hnan
    rw [hnan] at hle
    cases hle
  have hright : ∀ x y : F64, x.le y = true → y ≠ .nan := by
    intro x y hle hnan
    obtain ⟨_, _, -, hy, -⟩ := (Binary64.le_iff x y).mp hle
    rw [hnan] at hy
    cases hy
  exact ⟨hleft _ _ h.minLat, hleft _ _ h.minLon, hright _ _ h.maxLat, hright _ _ h.maxLon⟩

theorem Bounds.ofCoordinate_covers {coordinate : Coordinate} (h : FiniteCoordinate coordinate) :
    (Bounds.ofCoordinate coordinate).Covers coordinate := by
  have hlat := Binary64.le_refl _ (Binary64.ne_nan_of_isFinite h.1)
  have hlon := Binary64.le_refl _ (Binary64.ne_nan_of_isFinite h.2)
  exact ⟨hlat, hlon, hlat, hlon⟩

/-- A further coordinate widens the bounds just enough. -/
theorem Bounds.add_covers {bounds : Bounds} {before coordinate : Coordinate}
    (hbefore : bounds.Covers before) (h : FiniteCoordinate coordinate) :
    (bounds.add coordinate).Covers coordinate ∧
      ∀ other, bounds.Covers other → (bounds.add coordinate).Covers other := by
  obtain ⟨hminLat, hminLon, hmaxLat, hmaxLon⟩ := hbefore.ne_nan
  have hlat := Binary64.ne_nan_of_isFinite h.1
  have hlon := Binary64.ne_nan_of_isFinite h.2
  obtain ⟨-, hlowLat, hlowLat'⟩ := Binary64.min_spec bounds.minLat coordinate.1 hminLat hlat
  obtain ⟨-, hlowLon, hlowLon'⟩ := Binary64.min_spec bounds.minLon coordinate.2 hminLon hlon
  obtain ⟨-, hhighLat, hhighLat'⟩ := Binary64.max_spec bounds.maxLat coordinate.1 hmaxLat hlat
  obtain ⟨-, hhighLon, hhighLon'⟩ := Binary64.max_spec bounds.maxLon coordinate.2 hmaxLon hlon
  refine ⟨⟨hlowLat', hlowLon', hhighLat', hhighLon'⟩, ?_⟩
  intro other hother
  exact
    { minLat := Binary64.le_trans _ _ _ hlowLat hother.minLat
      minLon := Binary64.le_trans _ _ _ hlowLon hother.minLon
      maxLat := Binary64.le_trans _ _ _ hother.maxLat hhighLat
      maxLon := Binary64.le_trans _ _ _ hother.maxLon hhighLon }

/-- The bounds of some coordinates cover them all. -/
theorem Bounds.foldl_covers (rest : List Coordinate) (bounds : Bounds) {before : Coordinate}
    (hbefore : bounds.Covers before)
    (hfinite : ∀ coordinate ∈ rest, FiniteCoordinate coordinate) :
    (∀ other, bounds.Covers other → (rest.foldl Bounds.add bounds).Covers other) ∧
      ∀ coordinate ∈ rest, (rest.foldl Bounds.add bounds).Covers coordinate := by
  induction rest generalizing bounds before with
  | nil => exact ⟨fun other hother => hother, fun coordinate hmem => absurd hmem List.not_mem_nil⟩
  | cons first rest ih =>
    obtain ⟨hfirst, hrest⟩ := List.forall_mem_cons.mp hfinite
    obtain ⟨hadded, hkept⟩ := Bounds.add_covers hbefore hfirst
    obtain ⟨hold, hnew⟩ := ih (bounds.add first) hadded hrest
    rw [List.foldl_cons]
    exact ⟨fun other hother => hold other (hkept other hother),
      List.forall_mem_cons.mpr ⟨hold first hadded, hnew⟩⟩

/-! ## 3. The box of a geometry -/

def Bounds.rect (geo : Geo) (bounds : Bounds) : Rect :=
  geo.rectNew ⟨bounds.minLon, bounds.minLat⟩ ⟨bounds.maxLon, bounds.maxLat⟩

theorem Bounds.rect_covers {geo : Geo} (hlaws : RectLaws geo) {bounds : Bounds}
    {coordinate : Coordinate} (h : bounds.Covers coordinate) :
    (bounds.rect geo).Covers (geoCoord coordinate) :=
  hlaws.rectNew _ _ _ h.minLon h.maxLon h.minLat h.maxLat

theorem display_plain (x : F64) :
    (∀ c ∈ x.display.toList, isWhitespaceChar c = false) ∧ ',' ∉ x.display.toList := by
  have hfew : ∀ c ∈ ['-', '.', 'N', 'a', 'i', 'n', 'f'],
      isWhitespaceChar c = false ∧ c ≠ ',' := by
    intro c hc
    simp only [List.mem_cons, List.not_mem_nil, or_false] at hc
    rcases hc with rfl | rfl | rfl | rfl | rfl | rfl | rfl <;> decide
  have hplain : ∀ c ∈ x.display.toList, isWhitespaceChar c = false ∧ c ≠ ',' := by
    intro c hc
    cases Binary64.display_chars x c hc with
    | inl hdigit =>
      refine ⟨digit_no_whitespace hdigit, ?_⟩
      intro hcomma
      rw [hcomma] at hdigit
      cases hdigit
    | inr hother => exact hfew c hother
  exact ⟨fun c hc => (hplain c hc).1, fun hc => (hplain ',' hc).2 rfl⟩

/-- A box reads back from its text. -/
theorem parseBbox_text (geo : Geo) (bounds : Bounds) :
    parseBbox geo bounds.text = some (bounds.rect geo) := by
  have hsplit : splitChar bounds.text ',' = [bounds.minLat.display, bounds.minLon.display,
      bounds.maxLat.display, bounds.maxLon.display] := by
    apply splitChar_joinChar
    · intro part hpart
      simp only [List.mem_cons, List.not_mem_nil, or_false] at hpart
      rcases hpart with rfl | rfl | rfl | rfl <;> exact (display_plain _).2
    · exact List.cons_ne_nil _ _
  have hread : ∀ x : F64, Binary64.parse (trim x.display) = some x := by
    intro x
    rw [trim_plain (display_plain x).1]
    exact Binary64.parse_display x
  unfold parseBbox
  rw [hsplit]
  simp only [List.mapM_cons, List.mapM_nil, hread]
  rfl

/-- The box stored with some coordinates, as the filters read it. -/
def storedBox (geo : Geo) (coordinates : List Coordinate) : Option Rect :=
  (calculateBoundingBoxString coordinates).toOption.bind (parseBbox geo)

theorem storedBox_cons (geo : Geo) (first : Coordinate) (rest : List Coordinate) :
    storedBox geo (first :: rest) =
      some ((rest.foldl Bounds.add (.ofCoordinate first)).rect geo) := by
  unfold storedBox calculateBoundingBoxString
  simp only [Except.toOption, Option.bind_some, parseBbox_text]

/-- The stored box of some coordinates is read back as a rectangle that covers them. -/
theorem storedBox_covers {geo : Geo} (hlaws : RectLaws geo) {coordinates : List Coordinate}
    (hnonempty : coordinates ≠ [])
    (hfinite : ∀ coordinate ∈ coordinates, FiniteCoordinate coordinate) :
    ∃ bbox, storedBox geo coordinates = some bbox ∧
      ∀ coordinate ∈ coordinates, bbox.Covers (geoCoord coordinate) := by
  cases coordinates with
  | nil => exact absurd rfl hnonempty
  | cons first rest =>
    obtain ⟨hfirst, hrest⟩ := List.forall_mem_cons.mp hfinite
    have hstart := Bounds.ofCoordinate_covers hfirst
    obtain ⟨hold, hnew⟩ := Bounds.foldl_covers rest (.ofCoordinate first) hstart hrest
    refine ⟨_, storedBox_cons geo first rest, ?_⟩
    intro coordinate hmem
    apply Bounds.rect_covers hlaws
    exact List.forall_mem_cons.mpr ⟨hold first hstart, hnew⟩ coordinate hmem

end AvisoServer
