import AvisoServer.Requests
import AvisoServer.Validators.TimeGrammar

/-!
# Numeric dates

A date may be a number of seconds or of milliseconds since the epoch. The number is told apart by
its significant digits, and the instant is the exact one.
-/

namespace AvisoServer

namespace NotificationRequest

/-! ## 1. Numbers -/

/-- A text that is a sign and ASCII digits, between whitespace. -/
structure NumericText (sign : List Char) (text : String) (digits : List Char) : Prop where
  trimmed : (trim text).toList = sign ++ digits
  nonempty : digits ≠ []
  ascii : ∀ c ∈ digits, c.isDigit = true

/-- The sign that a date may have. -/
def OptionalPlus (sign : List Char) : Prop := sign = [] ∨ sign = ['+']

def significantDigits (digits : List Char) : List Char :=
  digits.dropWhile (· = '0')

/-- The nanoseconds since the epoch: seconds up to 11 significant digits, milliseconds above. -/
def unixInstant (digits : List Char) : DateTime :=
  if (significantDigits digits).length ≤ 11 then wordValue digits * 1000000000
  else wordValue digits * 1000000

/-- The instants of `DateTime<Utc>`, to the last nanosecond of the last second. -/
def Representable (instant : DateTime) : Prop :=
  minTimestamp * 1000000000 ≤ instant ∧ instant < (maxTimestamp + 1) * 1000000000

theorem isNumeric_iff (chars : List Char) :
    isNumeric chars = true ↔ chars ≠ [] ∧ ∀ c ∈ chars, c.isDigit = true := by
  unfold isNumeric
  rw [Bool.and_eq_true, decide_eq_true_iff, List.all_eq_true]

theorem NumericText.numeric {sign digits : List Char} {text : String}
    (h : NumericText sign text digits) : isNumeric digits = true :=
  (isNumeric_iff digits).mpr ⟨h.nonempty, h.ascii⟩

/-- A word of digits starts with a digit, not with a sign. -/
theorem NumericText.cons {sign digits : List Char} {text : String}
    (h : NumericText sign text digits) :
    ∃ c rest, digits = c :: rest ∧ c ≠ '+' ∧ c ≠ '-' := by
  cases hdigits : digits with
  | nil => exact absurd hdigits h.nonempty
  | cons c rest =>
    have hc : c.isDigit = true := by
      apply h.ascii
      rw [hdigits]
      exact List.mem_cons_self
    exact ⟨c, rest, rfl, digit_no_sign hc⟩

/-- Zeros before the first other digit add nothing to the value. -/
theorem wordValue_significantDigits (digits : List Char) :
    wordValue (significantDigits digits) = wordValue digits := by
  unfold significantDigits wordValue
  induction digits with
  | nil => rfl
  | cons c rest ih =>
    by_cases hc : c = '0'
    · rw [List.dropWhile_cons_of_pos (by rw [hc]; rfl), ih, Nat.ofDigitChars_cons, hc]
      rfl
    · rw [List.dropWhile_cons_of_neg (by rw [decide_eq_true_iff]; exact hc)]

theorem unixInstant_congr {digits digits' : List Char}
    (h : significantDigits digits = significantDigits digits') :
    unixInstant digits = unixInstant digits' := by
  have hvalue : wordValue digits = wordValue digits' := by
    rw [← wordValue_significantDigits, h, wordValue_significantDigits]
  unfold unixInstant
  rw [h, hvalue]

/-! ## 2. The machine's integers -/

/-- The seconds and the nanoseconds of a number of milliseconds, in integers of 64 and 32 bits: the
cast truncates and the product wraps. -/
def millisParts (value : Int64) : Int64 × UInt32 :=
  (value / 1000, (value % 1000).toUInt64.toUInt32 * 1000000)

/-- `parseUnixTimestamp` in the machine's integers. -/
def parseUnixTimestampMachine (lib : Libraries) (digits : List Char) : Result DateTime := do
  let text := String.ofList digits
  let digitCount :=
    if significantDigits digits = [] then 1 else (significantDigits digits).length
  let value ← (parseInt i64 text).mapError fun e =>
    (⟨[], .message ("failed to parse unix timestamp '" ++ text ++ "': " ++ e)⟩ : Error)
  if digitCount ≤ 11 then
    match lib.fromTimestamp (Int64.ofInt value).toInt 0 with
    | some date => .ok date
    | none => bail ("invalid unix seconds timestamp '" ++ text ++ "'")
  else
    let parts := millisParts (Int64.ofInt value)
    match lib.fromTimestamp parts.1.toInt parts.2.toNat with
    | some date => .ok date
    | none => bail ("invalid unix milliseconds timestamp '" ++ text ++ "'")

/-- Of a value that is not negative, nothing is truncated and nothing wraps. -/
theorem millisParts_exact {value : Int64} (h : 0 ≤ value.toInt) :
    (millisParts value).1.toInt = value.toInt / 1000 ∧
      ((millisParts value).2.toNat : Int) = value.toInt % 1000 * 1000000 := by
  have hlt : value.toInt < 2 ^ 63 := value.toInt_lt
  have hrem : (value % 1000).toInt = value.toInt % 1000 := by
    rw [Int64.toInt_mod]
    exact Int.tmod_eq_emod_of_nonneg h
  have hremLe : 0 ≤ value % 1000 := by
    rw [Int64.le_iff_toInt_le, hrem]
    exact Int.emod_nonneg _ (by decide)
  have hremLt : value.toInt % 1000 < 1000 := Int.emod_lt_of_pos _ (by decide)
  -- each step stays inside its type: the quotient in 64 bits, the nanoseconds in 32
  constructor
  · show (value / 1000).toInt = _
    rw [Int64.toInt_div, show (1000 : Int64).toInt = 1000 from rfl, Int.tdiv_eq_ediv_of_nonneg h]
    apply Int.bmod_eq_of_le <;> omega
  · have hnat : ((value % 1000).toUInt64.toNat : Int) = value.toInt % 1000 := by
      rw [Int64.toNat_toUInt64_of_le hremLe, Int64.cast_toNatClampNeg _ hremLe, hrem]
    show (((value % 1000).toUInt64.toUInt32 * 1000000).toNat : Int) = _
    rw [UInt32.toNat_mul, UInt64.toNat_toUInt32, show (1000000 : UInt32).toNat = 1000000 from rfl]
    omega

/-- The number is read where it fits in 64 bits, and nowhere else. -/
theorem parseInt_numeric {sign digits : List Char} {text : String}
    (h : NumericText sign text digits) :
    ((wordValue digits : Int) ≤ i64.max ∧
        parseInt i64 (String.ofList digits) = .ok (wordValue digits : Int)) ∨
      (¬ (wordValue digits : Int) ≤ i64.max ∧
        ∃ e, parseInt i64 (String.ofList digits) = .error e) := by
  have hread := parseInt_word i64 (by decide) h.nonempty h.ascii
  by_cases hle : (wordValue digits : Int) ≤ i64.max
  · left
    exact ⟨hle, (hread _).mpr ⟨hle, rfl⟩⟩
  · right
    refine ⟨hle, ?_⟩
    cases hresult : parseInt i64 (String.ofList digits) with
    | error e => exact ⟨e, rfl⟩
    | ok n => exact absurd ((hread n).mp hresult).1 hle

/-- What `DateTime::from_timestamp` documents: of nanoseconds below one second, the instant, where
`DateTime<Utc>` has one in that second. -/
structure ChronoLaws (lib : Libraries) : Prop where
  fromTimestamp : ∀ seconds nanos, 0 ≤ nanos → nanos < 1000000000 →
    lib.fromTimestamp seconds nanos =
      if minTimestamp ≤ seconds ∧ seconds ≤ maxTimestamp then some (seconds * 1000000000 + nanos)
      else none

theorem plainLibraries_chrono : ChronoLaws plainLibraries where
  fromTimestamp _ _ _ _ := rfl

variable {lib : Libraries}

theorem fromTimestamp_exact (hchrono : ChronoLaws lib) (seconds : Int) {nanos : Int}
    (hlow : 0 ≤ nanos) (hhigh : nanos < 1000000000) :
    lib.fromTimestamp seconds nanos =
      if minTimestamp * 1000000000 ≤ seconds * 1000000000 + nanos ∧
          seconds * 1000000000 + nanos < (maxTimestamp + 1) * 1000000000 then
        some (seconds * 1000000000 + nanos)
      else none := by
  rw [hchrono.fromTimestamp seconds nanos hlow hhigh]
  by_cases hrange : minTimestamp ≤ seconds ∧ seconds ≤ maxTimestamp
  · rw [if_pos hrange, if_pos (by omega)]
  · rw [if_neg hrange, if_neg (by omega)]

theorem digitCount_le (digits : List Char) :
    (if significantDigits digits = [] then 1 else (significantDigits digits).length) ≤ 11 ↔
      (significantDigits digits).length ≤ 11 := by
  by_cases hzero : significantDigits digits = []
  · rw [if_pos hzero, hzero]
    decide
  · rw [if_neg hzero]

theorem parseUnixTimestamp_ok {digits : List Char} {value : Int}
    (hread : parseInt i64 (String.ofList digits) = .ok value) :
    parseUnixTimestamp lib digits =
      if (significantDigits digits).length ≤ 11 then
        (lib.fromTimestamp value 0).elim
          (bail ("invalid unix seconds timestamp '" ++ String.ofList digits ++ "'")) .ok
      else
        (lib.fromTimestamp (value / 1000) (value % 1000 * 1000000)).elim
          (bail ("invalid unix milliseconds timestamp '" ++ String.ofList digits ++ "'")) .ok := by
  -- a text of zeros has one digit for the code and no significant one, which is below 12 too
  have hcount := digitCount_le digits
  unfold significantDigits at hcount
  unfold parseUnixTimestamp significantDigits
  simp only [hread]
  show (if _ then _ else _) = _
  by_cases hseconds : (digits.dropWhile (· = '0')).length ≤ 11
  · rw [if_pos (hcount.mpr hseconds), if_pos hseconds]
    cases lib.fromTimestamp value 0 <;> rfl
  · rw [if_neg (fun hle => hseconds (hcount.mp hle)), if_neg hseconds]
    cases lib.fromTimestamp (value / 1000) (value % 1000 * 1000000) <;> rfl

theorem parseUnixTimestamp_error {digits : List Char} {e : String}
    (hread : parseInt i64 (String.ofList digits) = .error e) :
    ∃ e', parseUnixTimestamp lib digits = .error e' := by
  unfold parseUnixTimestamp
  simp only [hread]
  exact ⟨_, rfl⟩

/-- An instant that chrono has is the result, and there is no other result. -/
theorem elim_bail_eq_ok {instant date : DateTime} {text : String} :
    (if minTimestamp * 1000000000 ≤ instant ∧ instant < (maxTimestamp + 1) * 1000000000 then
        some instant else none).elim (bail text) Except.ok = .ok date ↔
      Representable instant ∧ date = instant := by
  unfold Representable
  by_cases hrange : minTimestamp * 1000000000 ≤ instant ∧ instant < (maxTimestamp + 1) * 1000000000
  · rw [if_pos hrange]
    show Except.ok instant = Except.ok date ↔ _
    rw [Except.ok.injEq, and_iff_right hrange]
    exact eq_comm
  · rw [if_neg hrange]
    show (bail text : Result DateTime) = _ ↔ _
    constructor
    · intro h
      cases h
    · intro h
      exact absurd h.1 hrange

theorem parseUnixTimestamp_exact (hchrono : ChronoLaws lib) {sign digits : List Char}
    {text : String} (h : NumericText sign text digits) (date : DateTime) :
    parseUnixTimestamp lib digits = .ok date ↔
      (wordValue digits : Int) ≤ i64.max ∧ Representable (unixInstant digits) ∧
        date = unixInstant digits := by
  rcases parseInt_numeric h with ⟨hfits, hread⟩ | ⟨hfits, e, hread⟩
  · rw [parseUnixTimestamp_ok hread, and_iff_right hfits]
    unfold unixInstant
    by_cases hseconds : (significantDigits digits).length ≤ 11
    · rw [if_pos hseconds, if_pos hseconds, fromTimestamp_exact hchrono _ (by decide) (by decide),
        Int.add_zero]
      exact elim_bail_eq_ok
    · -- the whole seconds and the rest are the milliseconds again
      have hsplit : (wordValue digits : Int) / 1000 * 1000000000 +
          (wordValue digits : Int) % 1000 * 1000000 = (wordValue digits : Int) * 1000000 := by
        omega
      rw [if_neg hseconds, if_neg hseconds, fromTimestamp_exact hchrono _ (by omega) (by omega), hsplit]
      exact elim_bail_eq_ok
  · obtain ⟨e', herror⟩ := @parseUnixTimestamp_error lib _ _ hread
    rw [herror]
    constructor
    · intro hok
      cases hok
    · intro hok
      exact absurd hok.1 hfits

theorem parseUnixTimestampMachine_eq {sign digits : List Char} {text : String}
    (h : NumericText sign text digits) :
    parseUnixTimestampMachine lib digits = parseUnixTimestamp lib digits := by
  unfold parseUnixTimestampMachine parseUnixTimestamp
  rcases parseInt_numeric h with ⟨hfits, hread⟩ | ⟨hfits, e, hread⟩
  · have hvalue : (Int64.ofInt (wordValue digits : Int)).toInt = wordValue digits := by
      have hmax : (wordValue digits : Int) ≤ 9223372036854775807 := hfits
      apply Int64.toInt_ofInt_of_le <;> omega
    have hnonneg : 0 ≤ (Int64.ofInt (wordValue digits : Int)).toInt := by
      rw [hvalue]
      omega
    obtain ⟨hseconds, hnanos⟩ := millisParts_exact hnonneg
    rw [hvalue] at hseconds hnanos
    simp only [hread]
    show (if _ then _ else _) = _
    rw [hvalue, hseconds, hnanos]
    rfl
  · simp only [hread]
    rfl

/-! ## 3. Texts -/

theorem parseDateFlexible_plus {sign digits : List Char} {text : String}
    (hsign : OptionalPlus sign) (h : NumericText sign text digits) :
    parseDateFlexible lib text = parseUnixTimestamp lib digits := by
  obtain ⟨c, rest, hdigits, hplus, hminus⟩ := h.cons
  have hnumeric := h.numeric
  have htrimmed := h.trimmed
  rw [hdigits] at hnumeric htrimmed ⊢
  unfold parseDateFlexible
  -- a digit is neither sign, so a number without one goes to the same branch as one with a plus
  rcases hsign with rfl | rfl
  · rw [List.nil_append] at htrimmed
    simp only [htrimmed, List.head?_cons, Option.some.injEq, hminus, decide_false,
      Bool.false_and, Bool.false_eq_true, if_false]
    split
    · rename_i heq
      exact absurd (List.cons.inj heq).1 hplus
    · rw [if_pos hnumeric]
  · rw [List.singleton_append] at htrimmed
    simp only [htrimmed, List.head?_cons]
    rw [if_neg (by simp)]
    exact if_pos hnumeric

theorem parseDateFlexible_minus {digits : List Char} {text : String}
    (h : NumericText ['-'] text digits) : ∃ e, parseDateFlexible lib text = .error e := by
  have htrimmed := h.trimmed
  rw [List.singleton_append] at htrimmed
  unfold parseDateFlexible
  simp only [htrimmed, List.head?_cons, List.tail_cons, h.numeric]
  exact ⟨_, if_pos rfl⟩

theorem parseDateField_some (field : String) {sign digits : List Char}
    {text : String} (h : NumericText sign text digits) (date : Option DateTime) :
    parseDateField lib field (some text) = .ok date ↔
      ∃ instant, date = some instant ∧ parseDateFlexible lib text = .ok instant := by
  have hne : trim text ≠ "" := by
    intro hempty
    have htrimmed := h.trimmed
    rw [hempty] at htrimmed
    exact h.nonempty (List.append_eq_nil_iff.mp htrimmed.symm).2
  unfold parseDateField
  simp only
  rw [if_neg hne]
  cases parseDateFlexible lib text with
  | ok instant =>
    show Except.ok (some instant) = Except.ok date ↔ _
    simp [eq_comm]
  | error e =>
    constructor
    · intro hok
      cases hok
    · rintro ⟨instant, -, hok⟩
      cases hok

/-- The date of a number is its exact instant, or it is out of range. -/
structure ExactDate (lib : Libraries) (text : String) (digits : List Char) : Prop where
  exact : ∀ date, parseDateFlexible lib text = .ok date → date = unixInstant digits
  outOfRange : (∃ e, parseDateFlexible lib text = .error e) ↔
    i64.max < wordValue digits ∨ ¬ Representable (unixInstant digits)
  signless : ∀ {sign : List Char} {other : String}, OptionalPlus sign →
    NumericText sign other digits → parseDateFlexible lib other = parseDateFlexible lib text
  zeroless : ∀ {sign digits' : List Char} {other : String}, OptionalPlus sign →
    NumericText sign other digits' → significantDigits digits' = significantDigits digits →
    ∀ date, parseDateFlexible lib other = .ok date ↔ parseDateFlexible lib text = .ok date
  machine : parseDateFlexible lib text = parseUnixTimestampMachine lib digits
  field : ∀ field date, parseDateField lib field (some text) = .ok date ↔
    ∃ instant, date = some instant ∧ parseDateFlexible lib text = .ok instant

/-- Up to 11 significant digits are exact seconds and more are exact milliseconds, with or without a
plus sign; a number with a minus sign is no date. -/
theorem parseDateFlexible_numeric (hchrono : ChronoLaws lib) {sign digits : List Char}
    {text : String} (hsign : OptionalPlus sign) (h : NumericText sign text digits) :
    ExactDate lib text digits ∧
      ∀ {digits' : List Char} {other : String}, NumericText ['-'] other digits' →
        ∃ e, parseDateFlexible lib other = .error e := by
  have htext := @parseDateFlexible_plus lib _ _ _ hsign h
  have hexact := parseUnixTimestamp_exact hchrono h
  refine ⟨⟨?_, ?_, ?_, ?_, ?_, ?_⟩, fun hminus => parseDateFlexible_minus hminus⟩
  · intro date hok
    rw [htext, hexact] at hok
    exact hok.2.2
  · rw [htext]
    constructor
    · rintro ⟨e, herror⟩
      -- in range, the number would be its instant
      by_contra hrange
      rw [not_or, not_lt, not_not] at hrange
      have hok := (hexact (unixInstant digits)).mpr ⟨hrange.1, hrange.2, rfl⟩
      rw [herror] at hok
      cases hok
    · intro hrange
      cases hresult : parseUnixTimestamp lib digits with
      | error e => exact ⟨e, rfl⟩
      | ok date =>
        obtain ⟨hfits, hrepresentable, -⟩ := (hexact date).mp hresult
        rcases hrange with hlarge | hinstant
        · omega
        · exact absurd hrepresentable hinstant
  · intro sign' other hsign' hother
    rw [htext, parseDateFlexible_plus hsign' hother]
  · intro sign' digits' other hsign' hother hdigits date
    -- leading zeros change neither the value nor the unit
    have hvalue : wordValue digits' = wordValue digits := by
      rw [← wordValue_significantDigits, hdigits, wordValue_significantDigits]
    rw [htext, parseDateFlexible_plus hsign' hother, hexact, parseUnixTimestamp_exact hchrono hother,
      hvalue, unixInstant_congr hdigits]
  · rw [htext, parseUnixTimestampMachine_eq h]
  · intro field date
    exact parseDateField_some field h date

/-- Twelve significant digits, after a sign and a zero. -/
theorem parseDateFlexible_numeric_millis :
    ExactDate plainLibraries " +0946684800000\n" "0946684800000".toList ∧
      ∀ {digits' : List Char} {other : String}, NumericText ['-'] other digits' →
        ∃ e, parseDateFlexible plainLibraries other = .error e :=
  parseDateFlexible_numeric plainLibraries_chrono (Or.inr rfl)
    ⟨by decide +kernel, by decide, List.all_eq_true.mp (by decide)⟩

end NotificationRequest

end AvisoServer
