import AvisoServer.Configuration.Units

/-!
# The grammar of units

Durations and sizes are ASCII digits and a listed unit. Such a text is accepted exactly where the
product fits, and it is accepted with that product.
-/

namespace AvisoServer

/-! ## 1. Digits and a unit -/

/-- A text that is ASCII digits and a unit, between whitespace. -/
structure UnitText (input : String) (digits unit : List Char) : Prop where
  trimmed : (trim input).toList = digits ++ unit
  nonempty : digits ≠ []
  ascii : ∀ c ∈ digits, c.isDigit = true

/-- The unit starts where the digits end. -/
def StartsUnit (unit : List Char) : Prop :=
  ∃ c rest, unit = c :: rest ∧ c.isDigit = false

theorem takeWhile_digits {digits unit : List Char} (hdigits : ∀ c ∈ digits, c.isDigit = true)
    (hunit : StartsUnit unit) :
    (digits ++ unit).takeWhile Char.isDigit = digits ∧
      (digits ++ unit).dropWhile Char.isDigit = unit := by
  obtain ⟨c, rest, rfl, hc⟩ := hunit
  have hc' : ¬ c.isDigit = true := by
    rw [hc]
    decide
  constructor
  · rw [List.takeWhile_append_of_pos hdigits, List.takeWhile_cons_of_neg hc', List.append_nil]
  · rw [List.dropWhile_append_of_pos hdigits, List.dropWhile_cons_of_neg hc']

theorem splitUnit_unitText (subject : String) {input : String} {digits unit : List Char}
    (h : UnitText input digits unit) (hunit : StartsUnit unit) :
    splitUnit subject input = .ok (String.ofList digits, String.ofList unit) := by
  obtain ⟨htake, hdrop⟩ := takeWhile_digits h.ascii hunit
  have hne : trim input ≠ "" := by
    intro hempty
    have htrimmed := h.trimmed
    rw [hempty] at htrimmed
    exact h.nonempty (List.append_eq_nil_iff.mp htrimmed.symm).1
  unfold splitUnit
  simp only
  rw [if_neg hne, h.trimmed, htake, hdrop, if_neg]
  obtain ⟨c, rest, rfl, -⟩ := hunit
  exact List.cons_ne_nil c rest

/-- What is split was digits and the rest of the text. -/
theorem splitUnit_eq_ok {subject input value unit : String}
    (h : splitUnit subject input = .ok (value, unit)) :
    (trim input).toList = value.toList ++ unit.toList ∧
      (∀ c ∈ value.toList, c.isDigit = true) := by
  unfold splitUnit at h
  simp only at h
  by_cases hempty : trim input = ""
  · rw [if_pos hempty] at h
    cases h
  by_cases hunit : (trim input).toList.dropWhile Char.isDigit = []
  · rw [if_neg hempty, if_pos hunit] at h
    cases h
  rw [if_neg hempty, if_neg hunit] at h
  obtain ⟨rfl, rfl⟩ := Prod.mk.inj (Except.ok.inj h)
  rw [String.toList_ofList, String.toList_ofList]
  constructor
  · exact List.takeWhile_append_dropWhile.symm
  · exact List.all_eq_true.mp List.all_takeWhile

/-- A value is read from its digits, which are not empty. -/
theorem unitText_of_split {type : IntType} (hzero : type.fits 0 = true)
    {subject input value unit : String} {n : Int}
    (hsplit : splitUnit subject input = .ok (value, unit)) (hread : parseInt type value = .ok n) :
    UnitText input value.toList unit.toList ∧ n = wordValue value.toList := by
  obtain ⟨htrimmed, hdigits⟩ := splitUnit_eq_ok hsplit
  have hne : value.toList ≠ [] := by
    intro hempty
    rw [String.toList_eq_nil_iff.mp hempty] at hread
    cases hread
  rw [← String.ofList_toList (s := value)] at hread
  exact ⟨⟨htrimmed, hne, hdigits⟩, ((parseInt_word type hzero hne hdigits n).mp hread).2⟩

/-- A table is a chain of comparisons with its keys. -/
theorem lookup_cons_ite {β : Type} (key name : String) (value : β) (rest : List (String × β)) :
    ((name, value) :: rest).lookup key = if key = name then some value else rest.lookup key := by
  by_cases hkey : key = name
  · rw [if_pos hkey, hkey, List.lookup_cons_self]
  · rw [if_neg hkey, List.lookup_cons, beq_eq_false_iff_ne.mpr hkey]

theorem lookup_iff_mem {β : Type} {table : List (String × β)}
    (hnodup : (table.map Prod.fst).Nodup) (key : String) (value : β) :
    table.lookup key = some value ↔ (key, value) ∈ table := by
  induction table with
  | nil => simp
  | cons entry rest ih =>
    obtain ⟨name, other⟩ := entry
    rw [List.map_cons, List.nodup_cons] at hnodup
    rw [lookup_cons_ite, List.mem_cons, Prod.mk.injEq]
    by_cases hkey : key = name
    · -- the rest of the table has no second entry of the key
      have hfresh : (key, value) ∉ rest := fun hmem =>
        hnodup.1 (List.mem_map.mpr ⟨_, hmem, hkey⟩)
      rw [if_pos hkey, Option.some.injEq]
      constructor
      · intro h
        exact Or.inl ⟨hkey, h.symm⟩
      · rintro (⟨-, hvalue⟩ | hmem)
        · exact hvalue.symm
        · exact absurd hmem hfresh
    · rw [if_neg hkey, ih hnodup.2]
      constructor
      · exact Or.inr
      · rintro (⟨hname, -⟩ | hmem)
        · exact absurd hname hkey
        · exact hmem

/-! ## 2. Durations -/

/-- The units of a duration, in seconds. -/
def durationUnits : List (String × Int) :=
  [("s", 1), ("m", 60), ("h", 3600), ("d", 86400), ("w", 604800)]

/-- The seconds that a text is a duration of; the case of the unit does not matter. -/
inductive DurationText (input : String) : Int → Prop where
  | intro {digits unit : List Char} {name : String} {factor : Int}
      (htext : UnitText input digits unit) (hknown : (name, factor) ∈ durationUnits)
      (hunit : eqIgnoreAsciiCase (String.ofList unit) name = true)
      (hfits : u64.fits (wordValue digits * factor) = true) :
      DurationText input (wordValue digits * factor)

theorem durationUnit_eq_lookup (unit : String) :
    durationUnit unit = durationUnits.lookup unit := by
  unfold durationUnit durationUnits
  simp only [lookup_cons_ite, List.lookup_nil]

theorem durationUnit_eq_some {unit : String} {factor : Int} :
    durationUnit unit = some factor ↔ (unit, factor) ∈ durationUnits := by
  rw [durationUnit_eq_lookup]
  exact lookup_iff_mem (by decide) unit factor

/-- The listed units are in lower case. -/
theorem durationUnits_lower {name : String} {factor : Int}
    (h : (name, factor) ∈ durationUnits) : toAsciiLowercase name = name ∧ 1 ≤ factor := by
  have hall : ∀ entry ∈ durationUnits, toAsciiLowercase entry.1 = entry.1 ∧ 1 ≤ entry.2 := by
    decide +kernel
  exact hall (name, factor) h

theorem durationUnits_letter {name : String} {factor : Int}
    (h : (name, factor) ∈ durationUnits) :
    name.toList.head?.any (fun c => !c.isDigit) = true := by
  have hall : ∀ entry ∈ durationUnits, entry.1.toList.head?.any (fun c => !c.isDigit) = true := by
    decide
  exact hall (name, factor) h

theorem lowercase_eq_iff {unit name : String} (hname : toAsciiLowercase name = name) :
    toAsciiLowercase unit = name ↔ eqIgnoreAsciiCase unit name = true := by
  rw [eqIgnoreAsciiCase_iff, hname]

theorem toLower_digit_self {c : Char} (h : c.isDigit = true) : c.toLower = c := by
  have hrange : 48 ≤ c.toNat ∧ c.toNat ≤ 57 := Char.isDigit_iff_toNat.mp h
  unfold Char.toLower
  rw [dif_neg]
  intro hupper
  have hbound : 65 ≤ c.toNat := hupper.1
  omega

/-- A unit that starts with a letter in lower case starts with no digit. -/
theorem startsUnit_of_lowercase {unit : List Char} {name : String}
    (hname : name.toList.head?.any (fun c => !c.isDigit) = true)
    (hunit : toAsciiLowercase (String.ofList unit) = name) : StartsUnit unit := by
  rw [← hunit, toList_toAsciiLowercase, String.toList_ofList] at hname
  cases unit with
  | nil => cases hname
  | cons c rest =>
    refine ⟨c, rest, rfl, ?_⟩
    by_contra hdigit
    rw [Bool.not_eq_false] at hdigit
    rw [List.map_cons, List.head?_cons, toLower_digit_self hdigit, Option.any_some, hdigit] at hname
    cases hname

theorem checkedMul_eq_ok {type : IntType} {a b n : Int} {overflow : String} :
    checkedMul type a b overflow = .ok n ↔ type.fits (a * b) = true ∧ n = a * b := by
  unfold checkedMul
  by_cases hfits : type.fits (a * b) = true
  · rw [if_pos hfits, Except.ok.injEq, and_iff_right hfits]
    exact eq_comm
  · rw [if_neg hfits]
    constructor
    · intro h
      cases h
    · intro h
      exact absurd h.1 hfits

/-- A factor of at least one takes no value out of a type and back into it. -/
theorem value_le_max {type : IntType} {value factor : Int} (hvalue : 0 ≤ value)
    (hfactor : 1 ≤ factor) (hfits : type.fits (value * factor) = true) : value ≤ type.max := by
  have hbound := (IntType.fits_iff.mp hfits).2
  have hle : value * 1 ≤ value * factor := Int.mul_le_mul_of_nonneg_left hfactor hvalue
  omega

theorem parseDurationSpec_iff (input : String) (seconds : Int) :
    parseDurationSpec input = .ok seconds ↔ DurationText input seconds := by
  constructor
  · intro h
    unfold parseDurationSpec at h
    obtain ⟨⟨valueStr, unit⟩, hsplit, h⟩ := bind_eq_ok.mp h
    obtain ⟨value, hvalue, h⟩ := bind_eq_ok.mp h
    obtain ⟨htext, rfl⟩ := unitText_of_split (by decide) hsplit (mapError_eq_ok.mp hvalue)
    cases hunit : durationUnit (toAsciiLowercase unit) with
    | none =>
      simp only [hunit] at h
      cases h
    | some factor =>
      simp only [hunit] at h
      obtain ⟨hfits, rfl⟩ := checkedMul_eq_ok.mp h
      have hknown := durationUnit_eq_some.mp hunit
      -- the code compares the lower case of the unit, the grammar leaves the case open
      refine .intro htext hknown ?_ hfits
      rw [String.ofList_toList]
      exact (lowercase_eq_iff (durationUnits_lower hknown).1).mp rfl
  · rintro ⟨htext, hknown, hunit, hfits⟩
    rename_i digits unit name factor
    obtain ⟨hlower, hfactor⟩ := durationUnits_lower hknown
    have hname := (lowercase_eq_iff hlower).mpr hunit
    have hstart : StartsUnit unit := startsUnit_of_lowercase (durationUnits_letter hknown) hname
    -- the product fits, so the value was read without overflow
    have hle := value_le_max (Int.natCast_nonneg _) hfactor hfits
    have hread := (parseInt_word u64 (by decide) htext.nonempty htext.ascii _).mpr ⟨hle, rfl⟩
    unfold parseDurationSpec
    rw [splitUnit_unitText "duration" htext hstart]
    simp only [bind, Except.bind, hread, Except.mapError]
    rw [hname, durationUnit_eq_some.mpr hknown]
    exact checkedMul_eq_ok.mpr ⟨hfits, rfl⟩

theorem DurationText.bounds {input : String} {seconds : Int} (h : DurationText input seconds) :
    0 ≤ seconds ∧ seconds ≤ u64.max := by
  obtain ⟨-, -, -, hfits⟩ := h
  exact IntType.fits_iff.mp hfits

theorem parseRetentionTimeSpec_iff (input : String) (seconds : Int) :
    parseRetentionTimeSpec input = .ok seconds ↔
      DurationText input seconds ∧ seconds * 1000000000 ≤ i64.max := by
  have hfits : 0 ≤ seconds → (i64.fits (seconds * 1000000000) = true ↔
      seconds * 1000000000 ≤ i64.max) := by
    intro hnonneg
    rw [IntType.fits_iff]
    apply and_iff_right
    show (-9223372036854775808 : Int) ≤ seconds * 1000000000
    omega
  unfold parseRetentionTimeSpec
  rw [bind_eq_ok]
  constructor
  · rintro ⟨read, hread, h⟩
    by_cases hread' : i64.fits (read * 1000000000) = true
    · rw [if_pos hread'] at h
      cases h
      have hduration := (parseDurationSpec_iff input seconds).mp hread
      exact ⟨hduration, (hfits hduration.bounds.1).mp hread'⟩
    · rw [if_neg hread'] at h
      cases h
  · rintro ⟨hduration, hle⟩
    refine ⟨seconds, (parseDurationSpec_iff input seconds).mpr hduration, ?_⟩
    exact if_pos ((hfits hduration.bounds.1).mpr hle)

/-- `Duration::as_nanos` of whole seconds, in an integer of 128 bits that wraps. -/
def asNanosMachine (seconds : BitVec 64) : BitVec 128 :=
  seconds.setWidth 128 * 1000000000

theorem asNanosMachine_exact (seconds : BitVec 64) :
    (asNanosMachine seconds).toNat = seconds.toNat * 1000000000 := by
  have hlt := seconds.isLt
  unfold asNanosMachine
  rw [BitVec.toNat_mul, BitVec.toNat_setWidth]
  show seconds.toNat % 2 ^ 128 * 1000000000 % 2 ^ 128 = _
  omega

/-! ## 3. Sizes -/

/-- The units of a size, in bytes. -/
def sizeUnits : List (String × Int) :=
  [("K", 1000), ("M", 1000000), ("G", 1000000000), ("T", 1000000000000), ("Ki", 1024),
    ("Mi", 1048576), ("Gi", 1073741824), ("Ti", 1099511627776)]

/-- The bytes that a text is a size of; the unit is written as it is listed. -/
inductive SizeText (input : String) : Int → Prop where
  | intro {digits unit : List Char} {factor : Int} (htext : UnitText input digits unit)
      (hknown : (String.ofList unit, factor) ∈ sizeUnits) (hpos : 0 < wordValue digits)
      (hfits : i64.fits (wordValue digits * factor) = true) :
      SizeText input (wordValue digits * factor)

theorem sizeUnit_eq_some {unit : String} {factor : Int} :
    sizeUnit unit = some factor ↔ (unit, factor) ∈ sizeUnits := by
  have hlookup : sizeUnit unit = sizeUnits.lookup unit := by
    unfold sizeUnit sizeUnits
    simp only [lookup_cons_ite, List.lookup_nil]
  rw [hlookup]
  exact lookup_iff_mem (by decide) unit factor

theorem sizeUnits_letter {name : String} {factor : Int} (h : (name, factor) ∈ sizeUnits) :
    name.toList.head?.any (fun c => !c.isDigit) = true ∧ 1 ≤ factor := by
  have hall : ∀ entry ∈ sizeUnits,
      entry.1.toList.head?.any (fun c => !c.isDigit) = true ∧ 1 ≤ entry.2 := by
    decide
  exact hall (name, factor) h

theorem startsUnit_of_letter {unit : List Char}
    (h : (String.ofList unit).toList.head?.any (fun c => !c.isDigit) = true) : StartsUnit unit := by
  rw [String.toList_ofList] at h
  cases unit with
  | nil => cases h
  | cons c rest => exact ⟨c, rest, rfl, by simpa using h⟩

theorem parseSizeSpec_iff (input : String) (bytes : Int) :
    parseSizeSpec input = .ok bytes ↔ SizeText input bytes := by
  constructor
  · intro h
    unfold parseSizeSpec at h
    obtain ⟨⟨valueStr, unit⟩, hsplit, h⟩ := bind_eq_ok.mp h
    obtain ⟨value, hvalue, h⟩ := bind_eq_ok.mp h
    obtain ⟨htext, rfl⟩ := unitText_of_split (by decide) hsplit (mapError_eq_ok.mp hvalue)
    -- a size of zero is refused before its unit is looked up
    by_cases hpos : (wordValue valueStr.toList : Int) ≤ 0
    · rw [if_pos hpos] at h
      cases h
    rw [if_neg hpos] at h
    cases hunit : sizeUnit unit with
    | none =>
      simp only [hunit] at h
      cases h
    | some factor =>
      simp only [hunit] at h
      obtain ⟨hfits, rfl⟩ := checkedMul_eq_ok.mp h
      refine .intro htext ?_ (by omega) hfits
      rw [String.ofList_toList]
      exact sizeUnit_eq_some.mp hunit
  · rintro ⟨htext, hknown, hpos, hfits⟩
    rename_i digits unit factor
    obtain ⟨hletter, hfactor⟩ := sizeUnits_letter hknown
    have hle := value_le_max (Int.natCast_nonneg _) hfactor hfits
    have hread := (parseInt_word i64 (by decide) htext.nonempty htext.ascii _).mpr ⟨hle, rfl⟩
    unfold parseSizeSpec
    rw [splitUnit_unitText "size" htext (startsUnit_of_letter hletter)]
    simp only [bind, Except.bind, hread, Except.mapError]
    rw [if_neg (by omega), sizeUnit_eq_some.mpr hknown]
    exact checkedMul_eq_ok.mpr ⟨hfits, rfl⟩

theorem SizeText.bounds {input : String} {bytes : Int} (h : SizeText input bytes) :
    0 < bytes ∧ bytes ≤ i64.max := by
  obtain ⟨-, hknown, hpos, hfits⟩ := h
  obtain ⟨-, hfactor⟩ := sizeUnits_letter hknown
  exact ⟨Int.mul_pos (by omega) (by omega), (IntType.fits_iff.mp hfits).2⟩

end AvisoServer
