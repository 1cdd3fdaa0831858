import AvisoServer.Validators.CanonicalTexts

/-!
# The grammar of times

A time is written as its hour, as hour and minutes with a colon between them, or as four digits.
Three handlers try these formats one after the other; together they accept the grammar and
nothing else.
-/

namespace AvisoServer

/-! ## 1. Words of digits -/

/-- A word of ASCII digits with a value of at most `bound`. -/
structure NumberUpTo (bound : Nat) (word : List Char) : Prop where
  digits : ∀ c ∈ word, c.isDigit = true
  atMost : wordValue word ≤ bound

/-- What is relied on of the class `\d`: of the ASCII characters it has the ten digits. -/
def AsciiDigitClass (isDecimalDigit : Char → Bool) : Prop :=
  ∀ c : Char, c.toNat < 128 → isDecimalDigit c = c.isDigit

theorem isDigit_ascii {c : Char} (h : c.isDigit = true) : c.toNat < 128 := by
  have hrange : 48 ≤ c.toNat ∧ c.toNat ≤ 57 := Char.isDigit_iff_toNat.mp h
  omega

theorem AsciiDigitClass.digit {isDecimalDigit : Char → Bool} (hclass : AsciiDigitClass isDecimalDigit)
    {c : Char} (h : c.isDigit = true) : isDecimalDigit c = true := by
  rw [hclass c (isDigit_ascii h)]
  exact h

/-- A digit is the digit of its value. -/
theorem digitChar_of_isDigit {c : Char} (h : c.isDigit = true) :
    Nat.digitChar (c.toNat - '0'.toNat) = c ∧ c.toNat - '0'.toNat < 10 := by
  have hrange : 48 ≤ c.toNat ∧ c.toNat ≤ 57 := Char.isDigit_iff_toNat.mp h
  have hall : ∀ k < 10, Nat.digitChar k = Char.ofNat (48 + k) := by decide
  show Nat.digitChar (c.toNat - 48) = c ∧ c.toNat - 48 < 10
  have hlt : c.toNat - 48 < 10 := by omega
  refine ⟨?_, hlt⟩
  rw [hall _ hlt, show 48 + (c.toNat - 48) = c.toNat by omega]
  exact Char.ofNat_toNat c

theorem wordValue_pair (c d : Char) :
    wordValue [c, d] = 10 * (c.toNat - '0'.toNat) + (d.toNat - '0'.toNat) := by
  unfold wordValue
  rw [Nat.ofDigitChars_cons, Nat.ofDigitChars_cons, Nat.ofDigitChars_nil]
  omega

/-- Two digits are the tens and the units of their value. -/
theorem pair_of_wordValue {c d : Char} (hc : c.isDigit = true) (hd : d.isDigit = true) :
    [c, d] = [Nat.digitChar (wordValue [c, d] / 10), Nat.digitChar (wordValue [c, d] % 10)] := by
  obtain ⟨hchar, hlt⟩ := digitChar_of_isDigit hc
  obtain ⟨hchar', hlt'⟩ := digitChar_of_isDigit hd
  have htens : wordValue [c, d] / 10 = c.toNat - '0'.toNat := by
    rw [wordValue_pair]
    omega
  have hunits : wordValue [c, d] % 10 = d.toNat - '0'.toNat := by
    rw [wordValue_pair]
    omega
  rw [htens, hunits, hchar, hchar']

theorem zeroPadded_pair {n : Nat} (h : n < 100) :
    zeroPadded 2 n = String.ofList [Nat.digitChar (n / 10), Nat.digitChar (n % 10)] := by
  have hall : ∀ n < 100,
      (Nat.toDigits 10 n).leftpad 2 '0' = [Nat.digitChar (n / 10), Nat.digitChar (n % 10)] := by
    decide +kernel
  exact congrArg String.ofList (hall n h)

/-- A number that the range check lets pass is read from its digits. -/
theorem parseInt_number {bound : Nat} {word : List Char} (hne : word ≠ []) (hbound : bound ≤ 99)
    (hnumber : NumberUpTo bound word) :
    parseInt u32 (String.ofList word) = .ok (wordValue word) := by
  apply (parseInt_word u32 (by decide) hne hnumber.digits _).mpr
  refine ⟨?_, rfl⟩
  have hvalue := hnumber.atMost
  show (wordValue word : Int) ≤ 4294967295
  omega

/-- What is read from decimal digits was written with ASCII digits: the reading knows no other
digits, and the class knows no signs. -/
theorem number_of_parseInt {isDecimalDigit : Char → Bool} (hclass : AsciiDigitClass isDecimalDigit)
    {word : List Char} {n : Int} (hdecimal : ∀ c ∈ word, isDecimalDigit c = true)
    (hread : parseInt u32 (String.ofList word) = .ok n) :
    (∀ c ∈ word, c.isDigit = true) ∧ n = wordValue word := by
  have htext : (String.ofList word).toList = word := String.toList_ofList
  have hdigits : ∀ c ∈ word, c.isDigit = true := by
    intro c hc
    have hchars := parseInt_digits hread c (by rw [htext]; exact hc)
    rcases hchars with hdigit | rfl | rfl
    · exact hdigit
    · exact (hclass '+' (by decide)).symm.trans (hdecimal '+' hc)
    · exact (hclass '-' (by decide)).symm.trans (hdecimal '-' hc)
  refine ⟨hdigits, ?_⟩
  have hne : String.ofList word ≠ "" := by
    intro hempty
    rw [hempty] at hread
    cases hread
  rw [parseInt_of_digits u32 hne (by rw [htext]; exact hdigits), htext] at hread
  exact parseDigits_value false 0 hread

/-! ## 2. The grammar -/

/-- The hour and the minute that a text is written for. -/
inductive TimeText : List Char → Nat → Nat → Prop where
  | hourOnly {hours : List Char} (hhours : NumberUpTo 23 hours)
      (hwidth : hours.length = 1 ∨ hours.length = 2) :
      TimeText hours (wordValue hours) 0
  | colon {hours minutes : List Char} (hhours : NumberUpTo 23 hours)
      (hwidth : hours.length = 1 ∨ hours.length = 2) (hminutes : NumberUpTo 59 minutes)
      (hpair : minutes.length = 2) :
      TimeText (hours ++ ':' :: minutes) (wordValue hours) (wordValue minutes)
  | compact {hours minutes : List Char} (hhours : NumberUpTo 23 hours) (hwidth : hours.length = 2)
      (hminutes : NumberUpTo 59 minutes) (hpair : minutes.length = 2) :
      TimeText (hours ++ minutes) (wordValue hours) (wordValue minutes)

/-- The four digits of an hour and a minute. -/
def clockText (hour minute : Nat) : String :=
  String.ofList [Nat.digitChar (hour / 10), Nat.digitChar (hour % 10),
    Nat.digitChar (minute / 10), Nat.digitChar (minute % 10)]

theorem zeroPadded_clockText {hour minute : Nat} (hhour : hour ≤ 23) (hminute : minute ≤ 59) :
    zeroPadded 2 hour ++ zeroPadded 2 minute = clockText hour minute := by
  rw [zeroPadded_pair (by omega), zeroPadded_pair (by omega), ← String.ofList_append]
  rfl

theorem pair_exists {word : List Char} (h : word.length = 2) : ∃ c d, word = [c, d] := by
  cases word with
  | nil => cases h
  | cons c rest =>
    cases rest with
    | nil => cases h
    | cons d rest =>
      cases rest with
      | nil => exact ⟨c, d, rfl⟩
      | cons e rest =>
        simp only [List.length_cons] at h
        omega

/-- The compact form is its own canonical text. -/
theorem compact_clockText {hours minutes : List Char} (hhours : NumberUpTo 23 hours)
    (hwidth : hours.length = 2) (hminutes : NumberUpTo 59 minutes) (hpair : minutes.length = 2) :
    String.ofList (hours ++ minutes) = clockText (wordValue hours) (wordValue minutes) := by
  obtain ⟨g, h, rfl⟩ := pair_exists hwidth
  obtain ⟨m, n, rfl⟩ := pair_exists hpair
  have hleft := pair_of_wordValue (hhours.digits g (by simp)) (hhours.digits h (by simp))
  have hright := pair_of_wordValue (hminutes.digits m (by simp)) (hminutes.digits n (by simp))
  show String.ofList ([g, h] ++ [m, n]) = String.ofList ([_, _] ++ [_, _])
  rw [← hleft, ← hright]

/-- The hour and the minute of a text are in range. -/
theorem TimeText.range {chars : List Char} {hour minute : Nat} (h : TimeText chars hour minute) :
    hour ≤ 23 ∧ minute ≤ 59 := by
  cases h with
  | hourOnly hhours hwidth => exact ⟨hhours.atMost, by decide⟩
  | colon hhours hwidth hminutes hpair => exact ⟨hhours.atMost, hminutes.atMost⟩
  | compact hhours hwidth hminutes hpair => exact ⟨hhours.atMost, hminutes.atMost⟩

/-- Two digits of a number below one hundred. -/
theorem numberUpTo_pair {bound n : Nat} (hn : n ≤ bound) (hbound : bound ≤ 99) :
    NumberUpTo bound [Nat.digitChar (n / 10), Nat.digitChar (n % 10)] ∧
      wordValue [Nat.digitChar (n / 10), Nat.digitChar (n % 10)] = n := by
  have hvalue : wordValue [Nat.digitChar (n / 10), Nat.digitChar (n % 10)] = n := by
    unfold wordValue
    rw [Nat.ofDigitChars_cons_digitChar_of_lt_ten (by omega),
      Nat.ofDigitChars_cons_digitChar_of_lt_ten (by omega), Nat.ofDigitChars_nil]
    omega
  refine ⟨⟨?_, by omega⟩, hvalue⟩
  have htens : (Nat.digitChar (n / 10)).isDigit = true := by
    rw [Nat.isDigit_digitChar]
    exact decide_eq_true (by omega)
  have hunits : (Nat.digitChar (n % 10)).isDigit = true := by
    rw [Nat.isDigit_digitChar]
    exact decide_eq_true (by omega)
  simp [htens, hunits]

/-- The four digits of a time are a text of it. -/
theorem clockText_timeText {hour minute : Nat} (hhour : hour ≤ 23) (hminute : minute ≤ 59) :
    TimeText (clockText hour minute).toList hour minute := by
  obtain ⟨hhours, hhoursValue⟩ := numberUpTo_pair hhour (by decide)
  obtain ⟨hminutes, hminutesValue⟩ := numberUpTo_pair hminute (by decide)
  have htime := TimeText.compact hhours rfl hminutes rfl
  rw [hhoursValue, hminutesValue] at htime
  unfold clockText
  rw [String.toList_ofList]
  exact htime

/-! ## 3. The handlers -/

namespace TimeHandler

theorem validateHours_eq_ok {hours : Int} {fieldName : String} :
    validateHours hours fieldName = .ok () ↔ hours ≤ 23 := by
  unfold validateHours
  by_cases h : hours > 23
  · rw [if_pos h]
    constructor
    · intro hok
      cases hok
    · intro hle
      omega
  · rw [if_neg h]
    exact ⟨fun _ => by omega, fun _ => rfl⟩

theorem validateMinutes_eq_ok {minutes : Int} {fieldName : String} :
    validateMinutes minutes fieldName = .ok () ↔ minutes ≤ 59 := by
  unfold validateMinutes
  by_cases h : minutes > 59
  · rw [if_pos h]
    constructor
    · intro hok
      cases hok
    · intro hle
      omega
  · rw [if_neg h]
    exact ⟨fun _ => by omega, fun _ => rfl⟩

theorem parseCaptures_numbers {hours minutes : List Char} (hhours : NumberUpTo 23 hours)
    (hwidth : hours.length = 1 ∨ hours.length = 2) (hminutes : NumberUpTo 59 minutes)
    (hpair : minutes.length = 2) (fieldName : String) :
    parseCaptures (String.ofList hours) (String.ofList minutes) fieldName =
      .ok (wordValue hours, wordValue minutes) := by
  have hne : hours ≠ [] := by
    rintro rfl
    simp at hwidth
  have hne' : minutes ≠ [] := by
    rintro rfl
    simp at hpair
  have hhour : (wordValue hours : Int) ≤ 23 := by
    have h := hhours.atMost
    omega
  have hminute : (wordValue minutes : Int) ≤ 59 := by
    have h := hminutes.atMost
    omega
  unfold parseCaptures
  rw [parseInt_number hne (by decide) hhours, parseInt_number hne' (by decide) hminutes]
  show (do
    validateHours (wordValue hours) fieldName
    validateMinutes (wordValue minutes) fieldName
    Except.ok ((wordValue hours : Int), (wordValue minutes : Int))) = _
  rw [validateHours_eq_ok.mpr hhour, validateMinutes_eq_ok.mpr hminute]
  rfl

/-- Captures that are read and pass the range checks are an hour and a minute. -/
theorem numbers_of_parseCaptures {isDecimalDigit : Char → Bool}
    (hclass : AsciiDigitClass isDecimalDigit) {hours minutes : List Char} {fieldName : String}
    {time : Int × Int} (hdecimal : ∀ c ∈ hours ++ minutes, isDecimalDigit c = true)
    (h : parseCaptures (String.ofList hours) (String.ofList minutes) fieldName = .ok time) :
    NumberUpTo 23 hours ∧ NumberUpTo 59 minutes ∧
      time = (↑(wordValue hours), ↑(wordValue minutes)) := by
  obtain ⟨hour, hhour, h⟩ := bind_eq_ok.mp h
  obtain ⟨minute, hminute, h⟩ := bind_eq_ok.mp h
  obtain ⟨passed, hrange, h⟩ := bind_eq_ok.mp h
  obtain ⟨passed', hrange', h⟩ := bind_eq_ok.mp h
  cases h
  obtain ⟨hdigits, rfl⟩ := number_of_parseInt hclass
    (fun c hc => hdecimal c (List.mem_append_left minutes hc))
    (mapError_eq_ok.mp ((withContext_eq_ok _ _ _).mp hhour))
  obtain ⟨hdigits', rfl⟩ := number_of_parseInt hclass
    (fun c hc => hdecimal c (List.mem_append_right hours hc))
    (mapError_eq_ok.mp ((withContext_eq_ok _ _ _).mp hminute))
  have hle := validateHours_eq_ok.mp hrange
  have hle' := validateMinutes_eq_ok.mp hrange'
  exact ⟨⟨hdigits, by omega⟩, ⟨hdigits', by omega⟩, rfl⟩

theorem captureColon_iff {isDecimalDigit : Char → Bool} {chars : List Char}
    {captures : String × String} :
    captureColon isDecimalDigit chars = some captures ↔
      ∃ hours minutes, chars = hours ++ ':' :: minutes ∧
        (hours.length = 1 ∨ hours.length = 2) ∧ minutes.length = 2 ∧
        (∀ c ∈ hours ++ minutes, isDecimalDigit c = true) ∧
        captures = (String.ofList hours, String.ofList minutes) := by
  constructor
  · intro h
    unfold captureColon at h
    split at h
    · rename_i h₁ m n
      split at h
      · rename_i hall
        cases h
        exact ⟨[h₁], [m, n], rfl, Or.inl rfl, rfl, List.all_eq_true.mp hall, rfl⟩
      · cases h
    · rename_i g h₁ m n
      split at h
      · rename_i hall
        cases h
        exact ⟨[g, h₁], [m, n], rfl, Or.inr rfl, rfl, List.all_eq_true.mp hall, rfl⟩
      · cases h
    · cases h
  · rintro ⟨hours, minutes, rfl, hwidth, hpair, hdecimal, rfl⟩
    obtain ⟨m, n, rfl⟩ := pair_exists hpair
    have hall := List.all_eq_true.mpr hdecimal
    cases hwidth with
    | inl hwidth =>
      obtain ⟨h₁, rfl⟩ := List.length_eq_one_iff.mp hwidth
      exact if_pos hall
    | inr hwidth =>
      obtain ⟨g, h₁, rfl⟩ := pair_exists hwidth
      show captureColon isDecimalDigit [g, h₁, ':', m, n] = _
      -- five characters, so only the second form of the pattern is left
      unfold captureColon
      split
      · rename_i heq
        cases heq
      · rename_i heq
        cases heq
        exact if_pos hall
      · rename_i hother
        exact absurd rfl (hother g h₁ m n)

theorem captureCompact_iff {isDecimalDigit : Char → Bool} {chars : List Char}
    {captures : String × String} :
    captureCompact isDecimalDigit chars = some captures ↔
      ∃ hours minutes, chars = hours ++ minutes ∧ hours.length = 2 ∧ minutes.length = 2 ∧
        (∀ c ∈ hours ++ minutes, isDecimalDigit c = true) ∧
        captures = (String.ofList hours, String.ofList minutes) := by
  constructor
  · intro h
    unfold captureCompact at h
    split at h
    · rename_i g h₁ m n
      split at h
      · rename_i hall
        cases h
        exact ⟨[g, h₁], [m, n], rfl, rfl, rfl, List.all_eq_true.mp hall, rfl⟩
      · cases h
    · cases h
  · rintro ⟨hours, minutes, rfl, hwidth, hpair, hdecimal, rfl⟩
    obtain ⟨g, h₁, rfl⟩ := pair_exists hwidth
    obtain ⟨m, n, rfl⟩ := pair_exists hpair
    exact if_pos (List.all_eq_true.mpr hdecimal)

/-- The first handler takes the words of one or two digits, and no other text. -/
theorem handleHourOnlyFormat_none {value : String} (fieldName : String)
    (h : ¬ ((∀ c ∈ value.toList, c.isDigit = true) ∧
      (value.toList.length = 1 ∨ value.toList.length = 2))) :
    handleHourOnlyFormat value fieldName = .ok none := by
  unfold handleHourOnlyFormat
  rw [if_neg]
  intro hcondition
  simp only [Bool.and_eq_true, decide_eq_true_eq] at hcondition
  obtain ⟨⟨hne, hlength⟩, hdigits⟩ := hcondition
  have hdigits := List.all_eq_true.mp hdigits
  rw [byteLength_ascii fun c hc => isDigit_ascii (hdigits c hc)] at hlength
  have hpositive : 0 < value.toList.length :=
    List.length_pos_iff.mpr fun hnil => hne (String.toList_eq_nil_iff.mp hnil)
  exact h ⟨hdigits, by omega⟩

theorem handleHourOnlyFormat_digits {value : String} (fieldName : String)
    (hdigits : ∀ c ∈ value.toList, c.isDigit = true)
    (hwidth : value.toList.length = 1 ∨ value.toList.length = 2) :
    handleHourOnlyFormat value fieldName =
      (validateHours (wordValue value.toList) fieldName >>= fun _ =>
        .ok (some (zeroPadded 2 (wordValue value.toList) ++ "00"))) := by
  have hne : value.toList ≠ [] := by
    intro hnil
    rw [hnil] at hwidth
    simp at hwidth
  have hnumber : NumberUpTo 99 value.toList := by
    refine ⟨hdigits, ?_⟩
    cases hwidth with
    | inl hone =>
      obtain ⟨c, hc⟩ := List.length_eq_one_iff.mp hone
      have hlt := (digitChar_of_isDigit (hdigits c (by simp [hc]))).2
      rw [hc, wordValue, Nat.ofDigitChars_cons, Nat.ofDigitChars_nil]
      omega
    | inr htwo =>
      obtain ⟨c, d, hcd⟩ := pair_exists htwo
      have hlt := (digitChar_of_isDigit (hdigits c (by simp [hcd]))).2
      have hlt' := (digitChar_of_isDigit (hdigits d (by simp [hcd]))).2
      rw [hcd, wordValue_pair]
      omega
  have hread := parseInt_number hne (by decide) hnumber
  rw [String.ofList_toList] at hread
  unfold handleHourOnlyFormat
  rw [if_pos, hread]
  · rfl
  · simp only [Bool.and_eq_true, decide_eq_true_eq]
    rw [byteLength_ascii fun c hc => isDigit_ascii (hdigits c hc)]
    exact ⟨⟨fun hempty => hne (String.toList_eq_nil_iff.mpr hempty), by omega⟩,
      List.all_eq_true.mpr hdigits⟩

/-- A colon keeps the first handler away. -/
theorem validateAndCanonicalize_colon (lib : Libraries) {value : String}
    (hcolon : ':' ∈ value.toList) (fieldName : String) :
    validateAndCanonicalize lib value fieldName = handleColonFormat lib value fieldName := by
  have hnone : handleHourOnlyFormat value fieldName = .ok none := by
    apply handleHourOnlyFormat_none fieldName
    intro hword
    exact absurd (hword.1 ':' hcolon) (by decide)
  unfold validateAndCanonicalize
  rw [hnone]
  show (if ':' ∈ value.toList then handleColonFormat lib value fieldName else _) = _
  rw [if_pos hcolon]

/-- Four bytes are too long for the first handler. -/
theorem validateAndCanonicalize_compact (lib : Libraries) {value : String}
    (hcolon : ':' ∉ value.toList) (hbytes : byteLength value = 4) (fieldName : String) :
    validateAndCanonicalize lib value fieldName = handleCompactFormat lib value fieldName := by
  have hnone : handleHourOnlyFormat value fieldName = .ok none := by
    apply handleHourOnlyFormat_none fieldName
    intro hword
    rw [byteLength_ascii fun c hc => isDigit_ascii (hword.1 c hc)] at hbytes
    omega
  unfold validateAndCanonicalize
  rw [hnone]
  show (if ':' ∈ value.toList then _ else if byteLength value = 4 then
    handleCompactFormat lib value fieldName else _) = _
  rw [if_neg hcolon, if_pos hbytes]

/-! ## 4. The grammar is what is accepted -/

variable {lib : Libraries} (hclass : AsciiDigitClass lib.isDecimalDigit)

include hclass

/-- The class takes every number of the grammar. -/
theorem numbers_decimal {hours minutes : List Char} (hhours : NumberUpTo 23 hours)
    (hminutes : NumberUpTo 59 minutes) :
    ∀ c ∈ hours ++ minutes, lib.isDecimalDigit c = true := by
  intro c hc
  cases List.mem_append.mp hc with
  | inl hc => exact hclass.digit (hhours.digits c hc)
  | inr hc => exact hclass.digit (hminutes.digits c hc)

theorem handleColonFormat_numbers {value : String} {hours minutes : List Char}
    (hchars : value.toList = hours ++ ':' :: minutes) (hhours : NumberUpTo 23 hours)
    (hwidth : hours.length = 1 ∨ hours.length = 2) (hminutes : NumberUpTo 59 minutes)
    (hpair : minutes.length = 2) (fieldName : String) :
    handleColonFormat lib value fieldName =
      .ok (clockText (wordValue hours) (wordValue minutes)) := by
  have hcapture : captureColon lib.isDecimalDigit value.toList =
      some (String.ofList hours, String.ofList minutes) :=
    captureColon_iff.mpr
      ⟨hours, minutes, hchars, hwidth, hpair, numbers_decimal hclass hhours hminutes, rfl⟩
  have hread := parseCaptures_numbers hhours hwidth hminutes hpair fieldName
  unfold handleColonFormat
  rw [hcapture]
  simp only [hread]
  exact congrArg Except.ok (zeroPadded_clockText hhours.atMost hminutes.atMost)

theorem handleCompactFormat_numbers {value : String} {hours minutes : List Char}
    (hchars : value.toList = hours ++ minutes) (hhours : NumberUpTo 23 hours)
    (hwidth : hours.length = 2) (hminutes : NumberUpTo 59 minutes) (hpair : minutes.length = 2)
    (fieldName : String) :
    handleCompactFormat lib value fieldName =
      .ok (clockText (wordValue hours) (wordValue minutes)) := by
  have hcapture : captureCompact lib.isDecimalDigit value.toList =
      some (String.ofList hours, String.ofList minutes) :=
    captureCompact_iff.mpr
      ⟨hours, minutes, hchars, hwidth, hpair, numbers_decimal hclass hhours hminutes, rfl⟩
  have hread := parseCaptures_numbers hhours (Or.inr hwidth) hminutes hpair fieldName
  unfold handleCompactFormat
  rw [hcapture]
  simp only [hread]
  show Except.ok value = _
  rw [← compact_clockText hhours hwidth hminutes hpair, ← hchars, String.ofList_toList]

/-- A text of the grammar is accepted by the handler of its format. -/
theorem accepts_timeText {value : String} (fieldName : String) {hour minute : Nat}
    (h : TimeText value.toList hour minute) :
    validateAndCanonicalize lib value fieldName = .ok (clockText hour minute) := by
  generalize hchars : value.toList = chars at h
  cases h with
  | hourOnly hhours hwidth =>
    subst hchars
    unfold validateAndCanonicalize
    have hle : (wordValue value.toList : Int) ≤ 23 := by
      have hatMost := hhours.atMost
      omega
    rw [handleHourOnlyFormat_digits fieldName hhours.digits hwidth,
      validateHours_eq_ok.mpr hle]
    have hminute : zeroPadded 2 0 = "00" := by decide +kernel
    have htext := zeroPadded_clockText hhours.atMost (show 0 ≤ 59 by decide)
    rw [hminute] at htext
    rw [← htext]
    rfl
  | @colon hours minutes hhours hwidth hminutes hpair =>
    have hcolon : ':' ∈ value.toList := by
      rw [hchars]
      exact List.mem_append_right _ List.mem_cons_self
    rw [validateAndCanonicalize_colon lib hcolon]
    exact handleColonFormat_numbers hclass hchars hhours hwidth hminutes hpair fieldName
  | @compact hours minutes hhours hwidth hminutes hpair =>
    have hdigits : ∀ c ∈ value.toList, c.isDigit = true := by
      rw [hchars]
      intro c hc
      cases List.mem_append.mp hc with
      | inl hc => exact hhours.digits c hc
      | inr hc => exact hminutes.digits c hc
    have hlength : value.toList.length = 4 := by
      rw [hchars, List.length_append, hwidth, hpair]
    -- four digits hold no colon for the second handler
    have hcolon : ':' ∉ value.toList := fun hmem => absurd (hdigits ':' hmem) (by decide)
    have hbytes : byteLength value = 4 := by
      rw [byteLength_ascii fun c hc => isDigit_ascii (hdigits c hc), hlength]
    rw [validateAndCanonicalize_compact lib hcolon hbytes]
    exact handleCompactFormat_numbers hclass hchars hhours hwidth hminutes hpair fieldName

/-- Each handler returns only for a text of its format. -/
theorem timeText_of_ok {value fieldName text : String}
    (h : validateAndCanonicalize lib value fieldName = .ok text) :
    ∃ hour minute, TimeText value.toList hour minute := by
  obtain ⟨hourOnly, hhour, h⟩ := bind_eq_ok.mp h
  cases hourOnly with
  | some canonicalTime =>
    by_cases hword : (∀ c ∈ value.toList, c.isDigit = true) ∧
        (value.toList.length = 1 ∨ value.toList.length = 2)
    · rw [handleHourOnlyFormat_digits fieldName hword.1 hword.2] at hhour
      obtain ⟨passed, hrange, -⟩ := bind_eq_ok.mp hhour
      have hle := validateHours_eq_ok.mp hrange
      exact ⟨_, _, .hourOnly ⟨hword.1, by omega⟩ hword.2⟩
    -- the branch is not taken by any other text
    · rw [handleHourOnlyFormat_none fieldName hword] at hhour
      cases hhour
  | none =>
    simp only at h
    split at h
    · unfold handleColonFormat at h
      split at h
      · rename_i hcapture
        obtain ⟨time, htime, -⟩ := bind_eq_ok.mp h
        obtain ⟨hours, minutes, hchars, hwidth, hpair, hdecimal, hcaptures⟩ :=
          captureColon_iff.mp hcapture
        cases hcaptures
        obtain ⟨hhours, hminutes, -⟩ := numbers_of_parseCaptures hclass hdecimal htime
        rw [hchars]
        exact ⟨_, _, .colon hhours hwidth hminutes hpair⟩
      · cases h
    split at h
    · unfold handleCompactFormat at h
      split at h
      · rename_i hcapture
        obtain ⟨time, htime, -⟩ := bind_eq_ok.mp h
        obtain ⟨hours, minutes, hchars, hwidth, hpair, hdecimal, hcaptures⟩ :=
          captureCompact_iff.mp hcapture
        cases hcaptures
        obtain ⟨hhours, hminutes, -⟩ := numbers_of_parseCaptures hclass hdecimal htime
        rw [hchars]
        exact ⟨_, _, .compact hhours hwidth hminutes hpair⟩
      · cases h
    · cases h

/-- The handler accepts the texts of the grammar and returns the four digits of their time. -/
theorem accepts_grammar (value fieldName : String) :
    ((∃ text, validateAndCanonicalize lib value fieldName = .ok text) ↔
      ∃ hour minute, TimeText value.toList hour minute) ∧
    ∀ hour minute, TimeText value.toList hour minute →
      validateAndCanonicalize lib value fieldName = .ok (clockText hour minute) := by
  have haccepts : ∀ hour minute, TimeText value.toList hour minute →
      validateAndCanonicalize lib value fieldName = .ok (clockText hour minute) :=
    fun _ _ htime => accepts_timeText hclass fieldName htime
  refine ⟨?_, haccepts⟩
  constructor
  · rintro ⟨text, htext⟩
    exact timeText_of_ok hclass htext
  · rintro ⟨hour, minute, htime⟩
    exact ⟨clockText hour minute, haccepts hour minute htime⟩

end TimeHandler

-- a class that has the Arabic-Indic digits as well
def arabicLibraries : Libraries :=
  { plainLibraries with
    isDecimalDigit := fun c => c.isDigit || (0x660 ≤ c.toNat && c.toNat ≤ 0x669) }

theorem arabicLibraries_class : AsciiDigitClass arabicLibraries.isDecimalDigit := by
  intro c hc
  have hrange : ¬ (0x660 ≤ c.toNat) := by omega
  show (c.isDigit || (decide (0x660 ≤ c.toNat) && decide (c.toNat ≤ 0x669))) = c.isDigit
  simp [hrange]

theorem accepts_grammar_colon :
    TimeHandler.validateAndCanonicalize arabicLibraries "9:05" "time" = .ok "0905" :=
  (TimeHandler.accepts_grammar arabicLibraries_class "9:05" "time").2 9 5
    (@TimeText.colon ['9'] ['0', '5'] ⟨by simp, by decide⟩ (Or.inl rfl) ⟨by simp, by decide⟩ rfl)

end AvisoServer
