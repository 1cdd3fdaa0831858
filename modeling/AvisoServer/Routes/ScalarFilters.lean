import AvisoServer.Routes.RequestedMessages
import AvisoServer.Validators.CanonicalTexts

/-!
# Scalar filters and equality

A scalar filter compares texts in the topic, and a constraint reads the text again and compares
values. The two disagree on zeros of opposite sign, and on the two values of an enumeration that the
topic cannot tell from an omitted field.
-/

namespace AvisoServer

/-! ## 1. Constraints that ask for one value -/

inductive EqualityForm where
  | eq
  | isIn
  | between

/-- The constraint object that asks for the value. -/
def EqualityForm.object (value : Json) : EqualityForm → Json
  | .eq => .object [("eq", value)]
  | .isIn => .object [("in", .array [value])]
  | .between => .object [("between", .array [value, value])]

section Numeric

variable {α : Type} {type : NumericType α}

/-- Equality is symmetric, and a value between two equal bounds is equal to them. -/
structure NumericLaws (type : NumericType α) : Prop where
  symm : ∀ a b, type.eq a b = type.eq b a
  between : ∀ a b, (type.le a b && type.le b a) = type.eq b a

theorem intType_laws : NumericLaws intType where
  symm a b := decide_eq_decide.mpr eq_comm
  between a b := by
    show (decide (a ≤ b) && decide (b ≤ a)) = decide (b = a)
    rw [← Bool.decide_and]
    exact decide_eq_decide.mpr (by omega)

theorem floatType_laws : NumericLaws floatType where
  symm := Binary64.eq_comm
  between := Binary64.le_and_le

/-- Each form of a numeric constraint compares with the operand that the value is. -/
theorem parseNumericConstraint_form (laws : NumericLaws type) {form : EqualityForm}
    {fieldName : String} {value : Json} {range : Option (α × α)} {constraint : NumericConstraint α}
    (h : parseNumericConstraint type fieldName (form.object value) range = .ok constraint) :
    ∃ operator operand, type.parseOperand fieldName operator value = .ok operand ∧
      ∀ stored, matchesNumeric type constraint stored = type.eq stored operand := by
  unfold parseNumericConstraint at h
  obtain ⟨⟨operator, json⟩, hsingle, h⟩ := bind_eq_ok.mp h
  obtain ⟨parsed, hparse, h⟩ := bind_eq_ok.mp h
  obtain ⟨_, -, h⟩ := bind_eq_ok.mp h
  cases h
  cases form with
  | eq =>
    cases hsingle
    obtain ⟨operand, hoperand, rfl⟩ := map_eq_ok.mp hparse
    exact ⟨_, operand, hoperand, fun stored => rfl⟩
  -- the list has the value as its only operand
  | isIn =>
    cases hsingle
    obtain ⟨operands, hoperands, rfl⟩ := map_eq_ok.mp hparse
    obtain ⟨operand, hoperand, hrest⟩ := bind_eq_ok.mp
      (show type.parseOperand fieldName "in" value >>= _ = .ok operands from hoperands)
    cases hrest
    refine ⟨_, operand, hoperand, ?_⟩
    intro stored
    show (type.eq operand stored || false) = _
    rw [Bool.or_false, laws.symm]
  -- both bounds are read from the value, and bounds out of order are refused
  | between =>
    cases hsingle
    obtain ⟨bounds, hbounds, rfl⟩ := map_eq_ok.mp hparse
    obtain ⟨min, hmin, hrest⟩ := bind_eq_ok.mp
      (show type.parseOperand fieldName "between" value >>= _ = .ok bounds from hbounds)
    obtain ⟨max, hmax, hrest⟩ := bind_eq_ok.mp hrest
    rw [hmin] at hmax
    cases hmax
    split at hrest
    · cases hrest
    · cases hrest
      exact ⟨_, min, hmin, fun stored => laws.between min stored⟩

end Numeric

/-- An enumeration has two of the forms, and both compare lower-case texts. -/
theorem parseEnumConstraint_form {toLowercase : String → String} {form : EqualityForm}
    {fieldName : String} {value : Json} {allowedValues : List String} {constraint : EnumConstraint}
    (h : parseEnumConstraint toLowercase fieldName (form.object value) allowedValues =
      .ok constraint) :
    ∃ text, value = .string text ∧ ∀ stored,
      constraint.matches toLowercase stored = decide (toLowercase stored = toLowercase text) := by
  have hoperand : ∀ operator parsed, parseEnumOperand toLowercase fieldName operator value =
      .ok parsed → ∃ text, value = .string text ∧ parsed = toLowercase text := by
    intro operator parsed hparse
    unfold parseEnumOperand at hparse
    cases value with
    | string text =>
      cases hparse
      exact ⟨text, rfl, rfl⟩
    | _ => cases hparse
  unfold parseEnumConstraint at h
  obtain ⟨⟨operator, json⟩, hsingle, h⟩ := bind_eq_ok.mp h
  cases form with
  | eq =>
    cases hsingle
    obtain ⟨parsed, hparse, h⟩ := bind_eq_ok.mp h
    obtain ⟨_, -, h⟩ := bind_eq_ok.mp h
    cases h
    obtain ⟨text, rfl, rfl⟩ := hoperand _ _ hparse
    exact ⟨text, rfl, fun stored => rfl⟩
  | isIn =>
    cases hsingle
    obtain ⟨parsed, hparse, h⟩ := bind_eq_ok.mp h
    obtain ⟨_, -, h⟩ := bind_eq_ok.mp h
    cases h
    obtain ⟨operand, hvalue, hrest⟩ := bind_eq_ok.mp
      (show parseEnumOperand toLowercase fieldName "in" value >>= _ = .ok parsed from hparse)
    cases hrest
    obtain ⟨text, rfl, rfl⟩ := hoperand _ _ hvalue
    refine ⟨text, rfl, ?_⟩
    intro stored
    show (decide (toLowercase text = toLowercase stored) || false) = _
    rw [Bool.or_false]
    exact decide_eq_decide.mpr eq_comm
  -- an enumeration takes no range
  | between =>
    cases hsingle
    cases h

/-! ## 2. Canonical texts -/

section Canonical

variable {lib : Libraries} {fieldName : String} {value : Json} {text : String}

theorem canonicalInt {range : Option (Int × Int)} {required : Bool}
    (h : validateAndCanonicalizeField lib fieldName value (.intHandler range required) = .ok text) :
    ∃ raw n, NotificationRequest.scalarIdentifierValueAsString lib fieldName value = .ok raw ∧
      parseInt i64 raw = .ok n ∧ text = toString n := by
  obtain ⟨raw, hraw, h⟩ := bind_eq_ok.mp h
  obtain ⟨n, hn, htext⟩ := IntHandler.canonical h
  exact ⟨raw, n, hraw, hn, htext⟩

theorem canonicalFloat {range : Option (F64 × F64)} {required : Bool}
    (h : validateAndCanonicalizeField lib fieldName value (.floatHandler range required) = .ok text) :
    ∃ raw x, NotificationRequest.scalarIdentifierValueAsString lib fieldName value = .ok raw ∧
      Binary64.parse raw = some x ∧ x.isFinite = true ∧ text = x.display := by
  obtain ⟨raw, hraw, h⟩ := bind_eq_ok.mp h
  obtain ⟨x, hx, hfinite, htext⟩ := FloatHandler.canonical h
  exact ⟨raw, x, hraw, hx, hfinite, htext⟩

theorem canonicalEnum {values : List String} {required : Bool}
    (h : validateAndCanonicalizeField lib fieldName value (.enumHandler values required) = .ok text) :
    ∃ raw, NotificationRequest.scalarIdentifierValueAsString lib fieldName value = .ok raw ∧
      text = lib.toLowercase raw := by
  obtain ⟨raw, hraw, h⟩ := bind_eq_ok.mp h
  exact ⟨raw, hraw, (EnumHandler.canonical h).1⟩

/-! ## 3. One value in both forms -/

/-- `serde_json` prints an integer in decimal, and a finite double so that it reads back. -/
structure PrintsNumbers (lib : Libraries) : Prop where
  int : ∀ n : Int, lib.jsonToString (.number (.int n)) = toString n
  float : ∀ x : F64, x.isFinite = true →
    Binary64.parse (lib.jsonToString (.number (.float x))) = some x

/-- The texts on which a scalar filter and an equality differ: zeros of opposite sign, and the values
of an enumeration that stand for an omitted field in a topic. -/
def FormsDiffer (scalarText storedText : String) : ValidationRules → Prop
  | .floatHandler _ _ =>
    (scalarText = "0" ∧ storedText = "-0") ∨ (scalarText = "-0" ∧ storedText = "0")
  | .enumHandler _ _ => scalarText = "*" ∨ (scalarText = "" ∧ storedText = "")
  | _ => False

theorem display_zero : (Binary64.zero false).display = "0" ∧ (Binary64.zero true).display = "-0" := by
  decide +kernel

theorem display_injective {x y : F64} (h : x.display = y.display) : x = y := by
  have hx := Binary64.parse_display x
  rw [h, Binary64.parse_display y] at hx
  exact (Option.some.inj hx).symm

/-- A text that a number reads from stands for no omitted field. -/
theorem text_of_float {text : String} {x : F64} (h : Binary64.parse text = some x) :
    text ≠ "" ∧ text ≠ "*" := by
  constructor
  · rintro rfl
    have hnone : Binary64.parse "" = none := by decide
    rw [hnone] at h
    cases h
  · rintro rfl
    have hnone : Binary64.parse "*" = none := by decide
    rw [hnone] at h
    cases h

theorem text_of_int {text : String} {n : Int} (h : parseInt i64 text = .ok n) :
    text ≠ "" ∧ text ≠ "*" := by
  constructor
  · rintro rfl
    cases h
  · rintro rfl
    have hchars := parseInt_digits h '*' (by decide)
    exact absurd hchars (by decide)

/-- The operand of an integer constraint is the integer that the same scalar reads as. -/
theorem parseIntOperand_scalar (hnumbers : PrintsNumbers lib) {operator raw : String} {n : Int}
    (hoperand : parseIntOperand fieldName operator value = .ok n)
    (hraw : NotificationRequest.scalarIdentifierValueAsString lib fieldName value = .ok raw) :
    parseInt i64 raw = .ok n := by
  unfold parseIntOperand at hoperand
  split at hoperand
  · rename_i parsed hparsed
    cases hoperand
    unfold Json.asI64 at hparsed
    split at hparsed
    · split at hparsed
      -- the scalar is the text that `serde_json` prints, which reads back
      · rename_i hfits
        cases hparsed
        cases hraw
        rw [hnumbers.int]
        exact parseInt_toString (by decide) hfits
      · cases hparsed
    · cases hparsed
  · cases hoperand

theorem parseFloatOperand_scalar (hnumbers : PrintsNumbers lib) {operator raw : String} {x : F64}
    (hoperand : parseFloatOperand fieldName operator value = .ok x)
    (hraw : NotificationRequest.scalarIdentifierValueAsString lib fieldName value = .ok raw) :
    Binary64.parse raw = some x := by
  unfold parseFloatOperand at hoperand
  split at hoperand
  · cases hoperand
  rename_i parsed hparsed
  split at hoperand
  · rename_i hfinite
    cases hoperand
    unfold Json.asF64 at hparsed
    split at hparsed
    · cases hraw
      rw [hnumbers.int, ← Option.some.inj hparsed]
      exact Binary64.parse_int _
    · cases hraw
      rw [Option.some.inj hparsed]
      exact hnumbers.float _ hfinite
    · cases hparsed
  · cases hoperand

variable {storedText : String} {storedValue : Json} {form : EqualityForm}
  {constraint : IdentifierConstraint}

theorem forms_agree_int (hnumbers : PrintsNumbers lib) {range : Option (Int × Int)} {required : Bool}
    (hscalar : validateAndCanonicalizeField lib fieldName value (.intHandler range required) = .ok text)
    (hparse : parseIdentifierConstraint lib fieldName (form.object value)
      (.intHandler range required) = .ok constraint)
    (hstored : validateAndCanonicalizeField lib fieldName storedValue (.intHandler range required) =
      .ok storedText) :
    (text = "*" ∨ text = storedText) ↔ ConstraintHolds lib constraint storedText := by
  obtain ⟨raw, n, hraw, hn, rfl⟩ := canonicalInt hscalar
  obtain ⟨storedRaw, m, -, hm, rfl⟩ := canonicalInt hstored
  obtain ⟨parsed, hform, rfl⟩ := map_eq_ok.mp hparse
  obtain ⟨operator, operand, hoperand, hmatches⟩ := parseNumericConstraint_form intType_laws hform
  have hsame : operand = n := by
    have hread := parseIntOperand_scalar hnumbers hoperand hraw
    rw [hn, Except.ok.injEq] at hread
    exact hread.symm
  subst hsame
  -- decimal texts determine the integers they are read as
  have hreadN := parseInt_toString (by decide) (parseInt_fits (by decide) hn)
  have hreadM := parseInt_toString (by decide) (parseInt_fits (by decide) hm)
  have hvalue : matchesConstraintValue lib (toString m) (.int parsed) = decide (m = operand) := by
    show (parseInt i64 (toString m)).toOption.any parsed.matchesInt = _
    rw [hreadM]
    exact hmatches m
  constructor
  · intro h
    have htext : toString operand = toString m := h.resolve_left (text_of_int hreadN).2
    rw [htext, hreadM, Except.ok.injEq] at hreadN
    exact ⟨(text_of_int hreadM).1, (text_of_int hreadM).2, by rw [hvalue]; exact decide_eq_true hreadN⟩
  · intro h
    have hequal := h.2.2
    rw [hvalue] at hequal
    exact Or.inr (by rw [of_decide_eq_true hequal])

theorem forms_agree_float (hnumbers : PrintsNumbers lib) {range : Option (F64 × F64)}
    {required : Bool}
    (hscalar : validateAndCanonicalizeField lib fieldName value (.floatHandler range required) =
      .ok text)
    (hparse : parseIdentifierConstraint lib fieldName (form.object value)
      (.floatHandler range required) = .ok constraint)
    (hstored : validateAndCanonicalizeField lib fieldName storedValue
      (.floatHandler range required) = .ok storedText) :
    ((text = "*" ∨ text = storedText) ↔ ConstraintHolds lib constraint storedText) ↔
      ¬ FormsDiffer text storedText (.floatHandler range required) := by
  obtain ⟨raw, x, hraw, hx, hxFinite, rfl⟩ := canonicalFloat hscalar
  obtain ⟨storedRaw, y, -, -, hyFinite, rfl⟩ := canonicalFloat hstored
  obtain ⟨parsed, hform, rfl⟩ := map_eq_ok.mp hparse
  obtain ⟨operator, operand, hoperand, hmatches⟩ := parseNumericConstraint_form floatType_laws hform
  -- the scalar and the operand are read from the same text
  have hsame : operand = x := by
    have hread := parseFloatOperand_scalar hnumbers hoperand hraw
    rw [hx, Option.some.injEq] at hread
    exact hread.symm
  subst hsame
  have hscalarText := text_of_float (Binary64.parse_display operand)
  have hstoredText := text_of_float (Binary64.parse_display y)
  have hholds : ConstraintHolds lib (.float parsed) y.display ↔ Binary64.eq y operand = true := by
    have hvalue : matchesConstraintValue lib y.display (.float parsed) = Binary64.eq y operand := by
      show (Binary64.parse y.display).any parsed.matchesFloat = _
      rw [Binary64.parse_display]
      show (y.isFinite && matchesNumeric floatType parsed y) = _
      rw [hyFinite, Bool.true_and]
      exact hmatches y
    unfold ConstraintHolds
    rw [hvalue]
    exact ⟨fun h => h.2.2, fun h => ⟨hstoredText.1, hstoredText.2, h⟩⟩
  have htext : (operand.display = "*" ∨ operand.display = y.display) ↔ y = operand :=
    ⟨fun h => (display_injective (h.resolve_left hscalarText.2)).symm, fun h => Or.inr (by rw [h])⟩
  -- the comparison of numbers identifies the two zeros, and the texts do not
  rw [hholds, htext, Binary64.eq_iff hyFinite hxFinite]
  unfold FormsDiffer
  rw [← display_zero.1, ← display_zero.2]
  constructor
  · intro h hzeros
    cases hzeros with
    | inl hzeros =>
      have hx := display_injective hzeros.1
      have hy := display_injective hzeros.2
      have hequal := h.mpr (Or.inr ⟨true, false, hy, hx⟩)
      rw [hx, hy] at hequal
      cases hequal
    | inr hzeros =>
      have hx := display_injective hzeros.1
      have hy := display_injective hzeros.2
      have hequal := h.mpr (Or.inr ⟨false, true, hy, hx⟩)
      rw [hx, hy] at hequal
      cases hequal
  · intro hnot
    constructor
    · exact Or.inl
    · intro h
      cases h with
      | inl hequal => exact hequal
      | inr hzeros =>
        obtain ⟨a, b, rfl, rfl⟩ := hzeros
        cases a <;> cases b
        · rfl
        · exact absurd (Or.inr ⟨rfl, rfl⟩) hnot
        · exact absurd (Or.inl ⟨rfl, rfl⟩) hnot
        · rfl

/-- In a topic, an empty text and a wildcard stand for an omitted field. -/
theorem enumTexts_iff (scalarText stored : String) :
    ((scalarText = "*" ∨ scalarText = stored) ↔
        stored ≠ "" ∧ stored ≠ "*" ∧ stored = scalarText) ↔
      ¬ (scalarText = "*" ∨ (scalarText = "" ∧ stored = "")) := by
  by_cases hstar : scalarText = "*"
  · subst hstar
    constructor
    · intro h
      have hstored := h.mp (Or.inl rfl)
      exact absurd hstored.2.2 hstored.2.1
    · intro hnot
      exact absurd (Or.inl rfl) hnot
  · by_cases hsame : scalarText = stored
    · subst hsame
      by_cases hempty : scalarText = ""
      · simp [hempty]
      · simp [hempty, hstar]
    · have hother : stored ≠ scalarText := Ne.symm hsame
      have hneither : ¬ (scalarText = "" ∧ stored = "") := fun h => hsame (h.1.trans h.2.symm)
      simp [hstar, hsame, hother, hneither]

theorem forms_agree_enum (hlower : ∀ s, lib.toLowercase (lib.toLowercase s) = lib.toLowercase s)
    {values : List String} {required : Bool}
    (hscalar : validateAndCanonicalizeField lib fieldName value (.enumHandler values required) =
      .ok text)
    (hparse : parseIdentifierConstraint lib fieldName (form.object value)
      (.enumHandler values required) = .ok constraint)
    (hstored : validateAndCanonicalizeField lib fieldName storedValue
      (.enumHandler values required) = .ok storedText) :
    ((text = "*" ∨ text = storedText) ↔ ConstraintHolds lib constraint storedText) ↔
      ¬ FormsDiffer text storedText (.enumHandler values required) := by
  -- both texts are lower case already, so lowering them again changes nothing
  obtain ⟨raw, hraw, rfl⟩ := canonicalEnum hscalar
  obtain ⟨storedRaw, -, rfl⟩ := canonicalEnum hstored
  obtain ⟨parsed, hform, rfl⟩ := map_eq_ok.mp hparse
  obtain ⟨operand, rfl, hmatches⟩ := parseEnumConstraint_form hform
  have hoperandText : operand = raw := Except.ok.inj hraw
  subst hoperandText
  have hholds : ConstraintHolds lib (.enum parsed) (lib.toLowercase storedRaw) ↔
      lib.toLowercase storedRaw ≠ "" ∧ lib.toLowercase storedRaw ≠ "*" ∧
        lib.toLowercase storedRaw = lib.toLowercase operand := by
    unfold ConstraintHolds
    show _ ∧ _ ∧ parsed.matches lib.toLowercase (lib.toLowercase storedRaw) = true ↔ _
    rw [hmatches, hlower, decide_eq_true_iff]
  rw [hholds]
  exact enumTexts_iff _ _

/-- The two forms of a value select the same stored values, unless the texts differ in spite of it. -/
theorem forms_agree_iff (hnumbers : PrintsNumbers lib)
    (hlower : ∀ s, lib.toLowercase (lib.toLowercase s) = lib.toLowercase s) {rule : ValidationRules}
    (hscalar : validateAndCanonicalizeField lib fieldName value rule = .ok text)
    (hparse : parseIdentifierConstraint lib fieldName (form.object value) rule = .ok constraint)
    (hstored : validateAndCanonicalizeField lib fieldName storedValue rule = .ok storedText) :
    ((text = "*" ∨ text = storedText) ↔ ConstraintHolds lib constraint storedText) ↔
      ¬ FormsDiffer text storedText rule := by
  cases rule with
  | intHandler range required =>
    exact iff_of_true (forms_agree_int hnumbers hscalar hparse hstored) fun h => h
  | floatHandler range required => exact forms_agree_float hnumbers hscalar hparse hstored
  | enumHandler values required => exact forms_agree_enum hlower hscalar hparse hstored
  -- no other field takes a constraint
  | _ => cases hparse

end Canonical

/-! ## 4. Two streams -/

/-- The streams ask for the same, one by the scalar value of a field and one by a constraint that
asks for the value, and read the same message. -/
structure SameFilter {lib : Libraries} (form : EqualityForm) (key : String) (value : Json)
    (field : IdentifierFieldConfig) (left right : Exchange lib) : Prop where
  settings : right.settings = left.settings
  notification : right.notification = left.notification
  message : right.message = left.message
  field : left.schema.identifier.get key = some field
  plain : value.isObject = false
  scalar : left.wanted.identifier.get key = some value
  constraint : right.wanted.identifier.get key = some (form.object value)
  others : ∀ other, other ≠ key →
    right.wanted.identifier.get other = left.wanted.identifier.get other

/-- The rest of the stream, apart from one field, lets the notification through. -/
def Exchange.OthersPass {lib : Libraries} (exchange : Exchange lib) (key : String) : Prop :=
  (∀ field ∈ exchange.schema.identifier.entries, field.1 ≠ key → field.2.rule.isSpatial = false →
      FieldWanted lib exchange.wanted.identifier exchange.notification.identifier field) ∧
    exchange.SpatialPasses

section Streams

variable {lib : Libraries}

/-- What is asked of a field follows from what the request has for it. -/
theorem FieldWanted.of_get_eq {wanted others notified : HashMap Json}
    {field : Sigma fun _ : String => IdentifierFieldConfig}
    (h : FieldWanted lib wanted notified field) (hsame : others.get field.1 = wanted.get field.1) :
    FieldWanted lib others notified field := by
  cases h with
  | omitted hnone => exact .omitted (hsame.trans hnone)
  | scalar hvalue hplain htext hmatches => exact .scalar (hsame.trans hvalue) hplain htext hmatches
  | constraint hvalue hobject hparse hstored hholds =>
    exact .constraint (hsame.trans hvalue) hobject hparse hstored hholds

/-- The spatial filters of a stream follow from its point and its polygon. -/
theorem matchesSpatialFilters_congr {left right : HashMap String}
    (hpoint : right.get "point" = left.get "point")
    (hpolygon : right.get "polygon" = left.get "polygon") (metadata : Option (HashMap String))
    (payload : String) :
    matchesSpatialFilters lib right (prepareSpatialFilter lib right) metadata payload =
      matchesSpatialFilters lib left (prepareSpatialFilter lib left) metadata payload := by
  unfold matchesSpatialFilters prepareSpatialFilter
  rw [hpoint, hpolygon]

/-- A stream passes when one of its fields does and the others do. -/
theorem Exchange.passes_field (exchange : Exchange lib)
    (hpasses : exchange.Passes ↔ exchange.FieldsWanted ∧ exchange.SpatialPasses)
    {key : String} {field : IdentifierFieldConfig}
    (hfield : exchange.schema.identifier.get key = some field)
    (hscalar : field.rule.isSpatial = false) :
    exchange.Passes ↔
      FieldWanted lib exchange.wanted.identifier exchange.notification.identifier ⟨key, field⟩ ∧
        exchange.OthersPass key := by
  rw [hpasses]
  unfold Exchange.FieldsWanted Exchange.OthersPass
  constructor
  · intro ⟨hfields, hspatial⟩
    exact ⟨hfields ⟨key, field⟩ (AList.mem_lookup_iff.mp hfield) hscalar,
      fun other hother _ => hfields other hother, hspatial⟩
  · intro ⟨hwanted, hothers, hspatial⟩
    refine ⟨?_, hspatial⟩
    intro other hother hotherScalar
    by_cases hkey : other.1 = key
    · have hget := mem_entries_get hother
      rw [hkey, hfield, Option.some.injEq] at hget
      have hsame : other = ⟨key, field⟩ := Sigma.ext hkey (heq_of_eq hget.symm)
      rw [hsame]
      exact hwanted
    · exact hothers other hother hkey hotherScalar

theorem SameFilter.schema {form : EqualityForm} {key : String} {value : Json}
    {field : IdentifierFieldConfig} {left right : Exchange lib}
    (h : SameFilter form key value field left right) : right.schema = left.schema := by
  have hdeclared := right.declared
  rw [h.settings, h.notification, left.declared, Option.some.injEq] at hdeclared
  exact hdeclared.symm

/-- The rest of both streams is the same. -/
theorem SameFilter.othersPass {form : EqualityForm} {key : String} {value : Json}
    {field : IdentifierFieldConfig} {left right : Exchange lib}
    (h : SameFilter form key value field left right) (hscalar : field.rule.isSpatial = false) :
    right.OthersPass key ↔ left.OthersPass key := by
  obtain ⟨stored, streamed, hnotified, hasked, -, hparams, -⟩ := left.exists_identifiers
  obtain ⟨_, streamed', _, hasked', -, hparams', -⟩ := right.exists_identifiers
  have hmem : ⟨key, field⟩ ∈ left.schema.identifier.entries := AList.mem_lookup_iff.mp h.field
  have hpolygonKey : "polygon" ≠ key := (Ne.symm
    ((validate_spatial left.accepted left.declared).scalar_name hmem hscalar).1)
  have hpointKey : "point" ≠ key := by
    rintro rfl
    have hundeclared := notify_pointUndeclared left.notified hnotified
    rw [h.field] at hundeclared
    cases hundeclared
  rw [h.schema] at hasked'
  -- what a stream has for the other keys does not depend on the field
  have hentry : ∀ other, other ≠ key →
      right.context.result.canonicalizedParams.get other =
        left.context.result.canonicalizedParams.get other := by
    intro other hother
    rw [hparams, hparams']
    exact congrArg Prod.fst (hasked'.entry_unique hasked (h.others other hother))
  have hspatial : right.SpatialPasses ↔ left.SpatialPasses := by
    unfold Exchange.SpatialPasses
    rw [h.message]
    simp only [matchesSpatialFilters_congr (hentry "point" hpointKey) (hentry "polygon" hpolygonKey)]
  unfold Exchange.OthersPass
  rw [hspatial, h.schema, h.notification]
  constructor
  · intro ⟨hfields, hpasses⟩
    refine ⟨?_, hpasses⟩
    intro other hother hkey hotherScalar
    exact (hfields other hother hkey hotherScalar).of_get_eq (h.others other.1 hkey).symm
  · intro ⟨hfields, hpasses⟩
    refine ⟨?_, hpasses⟩
    intro other hother hkey hotherScalar
    exact (hfields other hother hkey hotherScalar).of_get_eq (h.others other.1 hkey)

theorem EqualityForm.object_isObject (form : EqualityForm) (value : Json) :
    (form.object value).isObject = true := by
  cases form <;> rfl

/-- What both streams ask of the field, in terms of its canonical texts. -/
theorem SameFilter.texts {form : EqualityForm} {key : String} {value : Json}
    {field : IdentifierFieldConfig} {left right : Exchange lib}
    (h : SameFilter form key value field left right) :
    ∃ storedValue scalarText storedText constraint,
      left.notification.identifier.get key = some storedValue ∧
      validateAndCanonicalizeField lib key value field.rule = .ok scalarText ∧
      validateAndCanonicalizeField lib key storedValue field.rule = .ok storedText ∧
      parseIdentifierConstraint lib key (form.object value) field.rule = .ok constraint ∧
      (left.Passes ↔ (scalarText = "*" ∨ scalarText = storedText) ∧ left.OthersPass key) ∧
      (right.Passes ↔ ConstraintHolds lib constraint storedText ∧ left.OthersPass key) := by
  obtain ⟨stored, streamed, hnotified, hasked, -, -, hpasses⟩ := left.exists_identifiers
  obtain ⟨_, streamed', _, hasked', -, -, hpasses'⟩ := right.exists_identifiers
  have hmem : ⟨key, field⟩ ∈ left.schema.identifier.entries := AList.mem_lookup_iff.mp h.field
  have hfield' : right.schema.identifier.get key = some field := by
    rw [h.schema]
    exact h.field
  obtain ⟨storedValue, storedText, hstoredValue, hstoredText, hcanonical⟩ :=
    hnotified.fields ⟨key, field⟩ hmem
  have hnotifiedText : CanonicalText lib left.notification.identifier ⟨key, field⟩
      (some storedText) := ⟨storedValue, storedText, hstoredValue, hstoredText, rfl⟩
  obtain ⟨fields, _, hfields, -⟩ := hasked.filters
  obtain ⟨fields', _, hfields', -⟩ := hasked'.filters
  have hleft := hfields ⟨key, field⟩ hmem
  have hright := hfields' ⟨key, field⟩ (AList.mem_lookup_iff.mp hfield')
  generalize streamedEntry fields key = leftEntry at hleft
  generalize streamedEntry fields' key = rightEntry at hright
  have hconstrained := hright
  -- the right stream has a constraint object, so its field is neither omitted nor a scalar
  cases hright with
  | scalar hvalue hplain _ =>
    rw [h.constraint, Option.some.injEq] at hvalue
    rw [← hvalue, form.object_isObject] at hplain
    cases hplain
  | omitted hnone =>
    rw [h.constraint] at hnone
    cases hnone
  | @constraint object constraint hvalue hobject hparse =>
    rw [h.constraint, Option.some.injEq] at hvalue
    subst hvalue
    have hscalarRule : field.rule.isSpatial = false := hconstrained.scalar_rule rfl
    have hscalarStream := hleft
    -- the left stream has the scalar
    cases hleft with
    | constraint hvalue hobject _ =>
      rw [h.scalar, Option.some.injEq] at hvalue
      rw [← hvalue, h.plain] at hobject
      cases hobject
    | omitted hnone =>
      rw [h.scalar] at hnone
      cases hnone
    | @scalar scalarValue scalarText hvalue _ htext =>
      rw [h.scalar, Option.some.injEq] at hvalue
      subst hvalue
      refine ⟨storedValue, scalarText, storedText, constraint, hstoredValue, htext, hstoredText,
        hparse, ?_, ?_⟩
      · rw [left.passes_field hpasses h.field hscalarRule,
          fieldWanted_iff hscalarStream hnotifiedText]
        simp
      · rw [← h.notification] at hnotifiedText
        rw [right.passes_field hpasses' hfield' hscalarRule,
          fieldWanted_iff hconstrained hnotifiedText, h.othersPass hscalarRule]
        simp

/-- A scalar filter and a constraint that asks for its value select the same notifications exactly
when the rest of the stream rejects the notification, or the texts do not differ in spite of their
values: an integer never does, a number only where both are zeros, and an enumeration where it has
an empty value or a wildcard. -/
theorem scalarFilter_iff (hnumbers : PrintsNumbers lib)
    (hlower : ∀ s, lib.toLowercase (lib.toLowercase s) = lib.toLowercase s) {form : EqualityForm}
    {key : String} {value : Json} {field : IdentifierFieldConfig} {left right : Exchange lib}
    (h : SameFilter form key value field left right) :
    ∃ storedValue scalarText storedText,
      left.notification.identifier.get key = some storedValue ∧
      validateAndCanonicalizeField lib key value field.rule = .ok scalarText ∧
      validateAndCanonicalizeField lib key storedValue field.rule = .ok storedText ∧
      ((left.Passes ↔ right.Passes) ↔
        (left.OthersPass key → ¬ FormsDiffer scalarText storedText field.rule)) := by
  obtain ⟨storedValue, scalarText, storedText, constraint, hstoredValue, hscalar, hstored, hparse,
    hleft, hright⟩ := h.texts
  refine ⟨storedValue, scalarText, storedText, hstoredValue, hscalar, hstored, ?_⟩
  rw [hleft, hright, and_congr_left_iff, forms_agree_iff hnumbers hlower hscalar hparse hstored]

end Streams

/-! ## 5. A level of zero -/

-- `serde_json` prints a double with a fraction
def numberLibraries : Libraries :=
  { boxLibraries with
    jsonToString := fun value =>
      match value with
      | .number (.int n) => toString n
      | .number (.float x) =>
        if x = Binary64.zero false then "0.0"
        else if x = Binary64.zero true then "-0.0"
        else x.display
      | _ => "null" }

theorem numberLibraries_prints : PrintsNumbers numberLibraries where
  int _ := rfl
  float x _ := by
    show Binary64.parse (if x = Binary64.zero false then "0.0"
      else if x = Binary64.zero true then "-0.0" else x.display) = some x
    by_cases hplus : x = Binary64.zero false
    · rw [if_pos hplus, hplus]
      decide +kernel
    · rw [if_neg hplus]
      by_cases hminus : x = Binary64.zero true
      · rw [if_pos hminus, hminus]
        decide +kernel
      · rw [if_neg hminus]
        exact Binary64.parse_display x

def levelField : IdentifierFieldConfig :=
  ⟨.floatHandler none false⟩

def levelSchema : EventSchema where
  payload := none
  topic := some { base := "mars", keyOrder := ["level"] }
  identifier := AList.singleton "level" levelField
  storagePolicy := none
  auth := none

def levelSettings : Settings :=
  { enumerationSettings with notificationSchema := some (AList.singleton "mars" levelSchema) }

def levelRequest (value : Json) : NotificationRequest :=
  { bareRequest "mars" with identifier := AList.singleton "level" value }

def zeroJson (negative : Bool) : Json :=
  .number (.float (Binary64.zero negative))

theorem levelSettings_accepted :
    levelSettings.validate numberLibraries.debugStrings false = .ok () := by
  decide +kernel

/-- A level, and a watch of levels. -/
def levelExchange (notified wanted : Json) {stored : ProcessingResult}
    {context : StreamingRequestContext}
    (hnotified : notify numberLibraries levelSettings none (levelRequest notified) = .ok stored)
    (hstreamed : watch numberLibraries levelSettings none (levelRequest wanted) = .ok context) :
    Exchange numberLibraries where
  settings := levelSettings
  ecpds := false
  accepted := levelSettings_accepted
  notification := levelRequest notified
  notifier := none
  stored := stored
  notified := hnotified
  message :=
    let put := notificationPut numberLibraries (levelRequest notified) stored
    { sequence := 1
      topic := put.topic
      payload := put.payload
      timestamp := some 5
      metadata := put.headers }
  put := ⟨rfl, rfl, rfl⟩
  schema := levelSchema
  declared := rfl
  topicConfig := { base := "mars", keyOrder := ["level"] }
  topic := rfl
  wanted := levelRequest wanted
  sameType := rfl
  reader := none
  operation := .watch
  reads := OperationType.noConfusion
  context := context
  streamed := hstreamed

section Levels

variable {notified scalar : Json} {stored : ProcessingResult}
  {context context' : StreamingRequestContext}
  (hnotified : notify numberLibraries levelSettings none (levelRequest notified) = .ok stored)
  (hscalar : watch numberLibraries levelSettings none (levelRequest scalar) = .ok context)
  (hequality : watch numberLibraries levelSettings none
    (levelRequest (EqualityForm.eq.object scalar)) = .ok context')

theorem levelExchange_same (hplain : scalar.isObject = false) :
    SameFilter .eq "level" scalar levelField (levelExchange notified scalar hnotified hscalar)
      (levelExchange notified (EqualityForm.eq.object scalar) hnotified hequality) where
  settings := rfl
  notification := rfl
  message := rfl
  field := AList.lookup_insert ∅
  plain := hplain
  scalar := AList.lookup_insert ∅
  constraint := AList.lookup_insert ∅
  others other hother := by
    have habsent : ∀ value : Json, HashMap.get (AList.singleton "level" value) other = none := by
      intro value
      apply AList.lookup_eq_none.mpr
      intro hmem
      exact hother (List.mem_singleton.mp (AList.mem_keys.mp hmem))
    exact (habsent _).trans (habsent _).symm

theorem levelExchange_others
    (hfilters : (context.result.canonicalizedParams.get "point",
        context.result.canonicalizedParams.get "polygon") = (none, none)) :
    (levelExchange notified scalar hnotified hscalar).OthersPass "level" := by
  have hnone := Prod.mk.inj hfilters
  constructor
  · intro field hfield hother
    exact absurd (congrArg Sigma.fst (List.mem_singleton.mp hfield)) hother
  · unfold Exchange.SpatialPasses
    show matchesSpatialFilters numberLibraries context.result.canonicalizedParams _ _ _ = true
    unfold matchesSpatialFilters
    rw [hnone.1, hnone.2]
    rfl

end Levels

/-- A positive zero, watched for by a negative one as a scalar and as an equality. -/
theorem zero_exchanges : ∃ left right : Exchange numberLibraries,
    SameFilter .eq "level" (zeroJson true) levelField left right ∧
      left.notification.identifier.get "level" = some (zeroJson false) ∧
      left.OthersPass "level" := by
  obtain ⟨stored, hstored⟩ : ∃ stored, notify numberLibraries levelSettings none
      (levelRequest (zeroJson false)) = .ok stored := exists_of_isOk (by decide +kernel)
  obtain ⟨scalar, hscalar⟩ : ∃ context, watch numberLibraries levelSettings none
      (levelRequest (zeroJson true)) = .ok context := exists_of_isOk (by decide +kernel)
  obtain ⟨equality, hequality⟩ : ∃ context, watch numberLibraries levelSettings none
      (levelRequest (EqualityForm.eq.object (zeroJson true))) = .ok context :=
    exists_of_isOk (by decide +kernel)
  have hfilters : (watch numberLibraries levelSettings none (levelRequest (zeroJson true))).toOption.map
      (fun context => (context.result.canonicalizedParams.get "point",
        context.result.canonicalizedParams.get "polygon")) = some (none, none) := by
    decide +kernel
  rw [hscalar] at hfilters
  exact ⟨_, _, levelExchange_same hstored hscalar hequality rfl, rfl,
    levelExchange_others hstored hscalar (Option.some.inj hfilters)⟩

theorem scalarFilter_iff_zero : ∃ (left right : Exchange numberLibraries)
    (scalarText storedText : String),
    SameFilter .eq "level" (zeroJson true) levelField left right ∧
      ((left.Passes ↔ right.Passes) ↔
        (left.OthersPass "level" → ¬ FormsDiffer scalarText storedText levelField.rule)) := by
  obtain ⟨left, right, hsame, -, -⟩ := zero_exchanges
  obtain ⟨_, scalarText, storedText, -, -, -, hiff⟩ :=
    scalarFilter_iff numberLibraries_prints toAsciiLowercase_idem hsame
  exact ⟨left, right, scalarText, storedText, hsame, hiff⟩

/-- The scalar filter does not select the zero that the equality selects. -/
theorem zero_scalar_dropped : ∃ left right : Exchange numberLibraries,
    SameFilter .eq "level" (zeroJson true) levelField left right ∧
      ¬ left.Passes ∧ right.Passes := by
  obtain ⟨left, right, hsame, hnotified, hothers⟩ := zero_exchanges
  refine ⟨left, right, hsame, ?_⟩
  obtain ⟨storedValue, scalarText, storedText, constraint, hstoredValue, hscalar, hstored, hparse,
    hleft, hright⟩ := hsame.texts
  rw [hnotified, Option.some.injEq] at hstoredValue
  subst hstoredValue
  have hscalarText : validateAndCanonicalizeField numberLibraries "level" (zeroJson true)
      levelField.rule = .ok "-0" := by decide +kernel
  have hstoredText : validateAndCanonicalizeField numberLibraries "level" (zeroJson false)
      levelField.rule = .ok "0" := by decide +kernel
  have hconstraint : parseIdentifierConstraint numberLibraries "level"
      (EqualityForm.eq.object (zeroJson true)) levelField.rule =
        .ok (.float (.eq (Binary64.zero true))) := by
    rfl
  rw [hscalarText, Except.ok.injEq] at hscalar
  rw [hstoredText, Except.ok.injEq] at hstored
  rw [hconstraint, Except.ok.injEq] at hparse
  subst hscalar hstored hparse
  rw [hleft, hright]
  constructor
  · intro h
    exact absurd h.1 (by decide)
  · exact ⟨⟨by decide, by decide, by decide +kernel⟩, hothers⟩

end AvisoServer
