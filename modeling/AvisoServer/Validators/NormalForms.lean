import AvisoServer.Notification.Processor
import AvisoServer.Validators.TimeGrammar

/-!
# Canonical texts are normal forms

A canonical text is its own canonical text, and two spellings of one value have the same canonical
text, so that a publisher and a subscriber who spell it differently meet on one subject.
-/

namespace AvisoServer

/-! ## 1. Spellings of one value -/

/-- The characters that an integer is written with. -/
def IsNumeral (text : String) : Prop :=
  ∀ c ∈ text.toList, c.isDigit = true ∨ c = '+' ∨ c = '-'

/-- What is relied on of `str::to_lowercase`. Lower-case texts stay as they are, no text vanishes,
and digits and signs have no case. -/
structure LowercaseNormal (toLowercase : String → String) : Prop where
  idempotent : ∀ text, toLowercase (toLowercase text) = toLowercase text
  nonempty : ∀ text, toLowercase text = "" → text = ""
  numeral : ∀ text, IsNumeral text → toLowercase text = text
  /-- Nothing else has a lower case of digits and signs. -/
  ofNumeral : ∀ text, IsNumeral (toLowercase text) → toLowercase text = text

/-- The integer that a word with a sign or without one stands for. -/
def writtenInt : List Char → Int
  | '+' :: digits => wordValue digits
  | '-' :: digits => -wordValue digits
  | digits => wordValue digits

/-- A text of ASCII digits only. -/
structure IsDigitText (text : String) : Prop where
  nonempty : text ≠ ""
  digits : ∀ c ∈ text.toList, c.isDigit = true

/-- The rules whose values may be spelt in several ways, and strings, which have one spelling. -/
def ValidationRules.hasNormalForm : ValidationRules → Bool
  | .stringHandler _ _ => true
  | .enumHandler _ _ => true
  | .expverHandler _ _ => true
  | .intHandler _ _ => true
  | .timeHandler _ => true
  | _ => false

/-- Two texts denote the same value of a rule. Experiment versions are compared as numbers where
both are numbers of 32 bits. -/
def SameValue (toLowercase : String → String) : ValidationRules → String → String → Prop
  | .stringHandler _ _, a, b => a = b
  | .enumHandler _ _, a, b => toLowercase a = toLowercase b
  | .expverHandler _ _, a, b =>
    (IsDigitText a ∧ IsDigitText b ∧ wordValue a.toList = wordValue b.toList ∧
      wordValue a.toList < 2 ^ 32) ∨
    toLowercase a = toLowercase b
  | .intHandler _ _, a, b => writtenInt a.toList = writtenInt b.toList
  | .timeHandler _, a, b =>
    ∃ hour minute, TimeText a.toList hour minute ∧ TimeText b.toList hour minute
  | _, _, _ => False

/-! ## 2. Numbers -/

/-- A padded number is read back. -/
theorem parseInt_zeroPadded (type : IntType) (hzero : type.fits 0 = true) (width : Nat) {n : Nat}
    (hfits : type.fits n = true) : parseInt type (zeroPadded width n) = .ok n := by
  obtain ⟨hne, hdigits⟩ := zeroPadded_digits width n
  have htext : (zeroPadded width n).toList = (Nat.toDigits 10 n).leftpad width '0' :=
    String.toList_ofList
  have hvalue : Nat.ofDigitChars 10 (zeroPadded width n).toList 0 = n := by
    rw [htext, List.leftpad, Nat.ofDigitChars_append, Nat.ofDigitChars_replicate_zero, Nat.mul_zero]
    exact Nat.ofDigitChars_ten_toDigits
  exact parseInt_digitWord type hzero hne hdigits hvalue hfits

/-- An integer that is read is the one that is written. -/
theorem parseInt_writtenInt {type : IntType} {text : String} {n : Int}
    (h : parseInt type text = .ok n) : n = writtenInt text.toList := by
  unfold parseInt at h
  split at h
  · cases h
  · cases h
  · cases h
  · rename_i digits _ htext
    rw [htext]
    exact parseDigits_value false 0 h
  · rename_i digits _ htext
    rw [htext]
    split at h
    · exact parseDigits_value true 0 h
    · cases h
  · rename_i hplus hminus
    unfold writtenInt
    -- no sign comes first, so the whole word is read
    split
    · rename_i heq
      exact absurd heq (hplus _)
    · rename_i heq
      exact absurd heq (hminus _)
    · exact parseDigits_value false 0 h

/-! ## 3. Canonical texts of the rules -/

section Rules

variable {value text fieldName : String}

theorem IntHandler.eq_ok_iff {range : Option (Int × Int)} :
    IntHandler.validateAndCanonicalize value range fieldName = .ok text ↔
      ∃ n, parseInt i64 value = .ok n ∧
        (∀ bounds, range = some bounds → bounds.1 ≤ n ∧ n ≤ bounds.2) ∧ text = toString n := by
  constructor
  · intro h
    obtain ⟨n, hparse, htext⟩ := IntHandler.canonical h
    refine ⟨n, hparse, ?_, htext⟩
    rintro bounds rfl
    unfold IntHandler.validateAndCanonicalize at h
    rw [hparse] at h
    by_contra hout
    have houtside : (n < bounds.1 || n > bounds.2) = true := by
      simp only [Bool.or_eq_true, decide_eq_true_eq]
      omega
    have hbail : (if (n < bounds.1 || n > bounds.2) = true then bail _ else Except.ok (toString n)) =
        Except.ok text := h
    rw [if_pos houtside] at hbail
    cases hbail
  · rintro ⟨n, hparse, hrange, rfl⟩
    unfold IntHandler.validateAndCanonicalize
    rw [hparse]
    cases range with
    | none => rfl
    | some bounds =>
      have hinside : ¬ (n < bounds.1 || n > bounds.2) = true := by
        have hbounds := hrange bounds rfl
        simp only [Bool.or_eq_true, decide_eq_true_eq]
        omega
      exact if_neg hinside

theorem EnumHandler.eq_ok_iff {toLowercase : String → String} {allowedValues : List String} :
    EnumHandler.validateAndCanonicalize toLowercase value allowedValues fieldName = .ok text ↔
      text = toLowercase value ∧ ∃ allowed ∈ allowedValues, text = toLowercase allowed := by
  refine ⟨EnumHandler.canonical, ?_⟩
  rintro ⟨rfl, allowed, hmem, hsame⟩
  unfold EnumHandler.validateAndCanonicalize
  exact if_pos (List.any_eq_true.mpr ⟨allowed, hmem, decide_eq_true hsame.symm⟩)

theorem IntHandler.canonical_again {range : Option (Int × Int)}
    (h : IntHandler.validateAndCanonicalize value range fieldName = .ok text) :
    IntHandler.validateAndCanonicalize text range fieldName = .ok text := by
  obtain ⟨n, hparse, hrange, rfl⟩ := IntHandler.eq_ok_iff.mp h
  have hagain := parseInt_toString (by decide) (parseInt_fits (by decide) hparse)
  exact IntHandler.eq_ok_iff.mpr ⟨n, hagain, hrange, rfl⟩

theorem EnumHandler.canonical_again {toLowercase : String → String}
    (hlower : LowercaseNormal toLowercase) {allowedValues : List String}
    (h : EnumHandler.validateAndCanonicalize toLowercase value allowedValues fieldName = .ok text) :
    EnumHandler.validateAndCanonicalize toLowercase text allowedValues fieldName = .ok text := by
  obtain ⟨htext, hallowed⟩ := EnumHandler.eq_ok_iff.mp h
  refine EnumHandler.eq_ok_iff.mpr ⟨?_, hallowed⟩
  rw [htext]
  exact (hlower.idempotent value).symm

namespace ExpverHandler

variable {toLowercase : String → String}

theorem canonical_nonempty {default : Option String} (hne : value ≠ "")
    (h : validateAndCanonicalize toLowercase value default fieldName = .ok text) :
    text = canonicalizeExpver toLowercase value := by
  unfold validateAndCanonicalize at h
  rw [if_neg hne] at h
  exact (Except.ok.inj h).symm

/-- A word of digits of 32 bits is stored as its number. -/
theorem canonicalizeExpver_number (hdigits : IsDigitText value)
    (hbound : wordValue value.toList < 2 ^ 32) :
    canonicalizeExpver toLowercase value = zeroPadded 4 (wordValue value.toList) := by
  have hfits : u32.fits (wordValue value.toList) = true := by
    rw [IntType.fits_iff]
    show (0 : Int) ≤ wordValue value.toList ∧ (wordValue value.toList : Int) ≤ 4294967295
    omega
  have hread := parseInt_digitWord u32 (by decide) hdigits.nonempty hdigits.digits rfl hfits
  unfold canonicalizeExpver
  rw [hread]
  rfl

variable (hlower : LowercaseNormal toLowercase)

include hlower

/-- A number is padded once, and the lower case of a text that is no number is none either. -/
theorem canonicalizeExpver_idem (value : String) :
    canonicalizeExpver toLowercase (canonicalizeExpver toLowercase value) =
      canonicalizeExpver toLowercase value := by
  cases hparse : parseInt u32 value with
  | ok n =>
    have hfits := parseInt_fits (by decide) hparse
    have hnat : (n.toNat : Int) = n := by
      have hnonneg : (0 : Int) ≤ n := (IntType.fits_iff.mp hfits).1
      omega
    have hvalue : canonicalizeExpver toLowercase value = zeroPadded 4 n.toNat := by
      unfold canonicalizeExpver
      rw [hparse]
    have hagain := parseInt_zeroPadded u32 (by decide) 4 (n := n.toNat)
      (by rw [hnat]; exact hfits)
    rw [hvalue]
    unfold canonicalizeExpver
    rw [hagain]
    rfl
  | error e =>
    have hvalue : canonicalizeExpver toLowercase value = toLowercase value := by
      unfold canonicalizeExpver
      rw [hparse]
    rw [hvalue]
    unfold canonicalizeExpver
    cases hagain : parseInt u32 (toLowercase value) with
    | error e' => exact hlower.idempotent value
    | ok n =>
      -- a lower-case text that is read as a number is the text itself
      have hsame := hlower.ofNumeral value (parseInt_digits hagain)
      rw [hsame, hparse] at hagain
      cases hagain

theorem canonical_again {default : Option String}
    (h : validateAndCanonicalize toLowercase value default fieldName = .ok text) :
    validateAndCanonicalize toLowercase text default fieldName = .ok text := by
  obtain ⟨source, hsource, htext⟩ := ExpverHandler.canonical h
  by_cases hempty : text = ""
  · -- only an empty default has an empty canonical text
    have hsourceEmpty : source = "" := by
      by_contra hne
      exact canonicalizeExpver_ne_empty hlower.nonempty hne (htext.symm.trans hempty)
    cases hsource with
    | inl hvalue => exact absurd (hvalue.1.symm.trans hsourceEmpty) hvalue.2
    | inr hdefault =>
      rw [hdefault.1] at h
      rw [hempty] at h ⊢
      exact h
  · unfold validateAndCanonicalize
    rw [if_neg hempty, htext, canonicalizeExpver_idem hlower]

/-- A text that is read as a number has no case, so there is no other text like it. -/
theorem eq_of_read {a b : String} {n : Int} (hcase : toLowercase a = toLowercase b)
    (hread : parseInt u32 a = .ok n) : a = b := by
  have hlowerA := hlower.numeral a (parseInt_digits hread)
  have hlowerB := hlower.ofNumeral b (by rw [← hcase, hlowerA]; exact parseInt_digits hread)
  rw [← hlowerA, hcase, hlowerB]

theorem canonicalizeExpver_lowercase {a b : String} (hcase : toLowercase a = toLowercase b) :
    canonicalizeExpver toLowercase a = canonicalizeExpver toLowercase b := by
  cases hread : parseInt u32 a with
  | ok n => rw [eq_of_read hlower hcase hread]
  | error e =>
    cases hread' : parseInt u32 b with
    | ok n => rw [eq_of_read hlower hcase.symm hread']
    | error e' =>
      unfold canonicalizeExpver
      rw [hread, hread']
      exact hcase

/-- Lower case keeps an empty text empty, so two texts alike are both replaced by the default. -/
theorem canonical_lowercase {a b textA textB : String} {default : Option String}
    (hcase : toLowercase a = toLowercase b)
    (ha : validateAndCanonicalize toLowercase a default fieldName = .ok textA)
    (hb : validateAndCanonicalize toLowercase b default fieldName = .ok textB) : textA = textB := by
  have hnil : toLowercase "" = "" := hlower.numeral "" (by intro c hc; cases hc)
  by_cases hempty : a = ""
  · have hempty' : b = "" := by
      apply hlower.nonempty
      rw [← hcase, hempty, hnil]
    rw [hempty] at ha
    rw [hempty'] at hb
    exact Except.ok.inj (ha.symm.trans hb)
  · have hempty' : b ≠ "" := by
      rintro rfl
      exact hempty (hlower.nonempty a (hcase.trans hnil))
    rw [canonical_nonempty hempty ha, canonical_nonempty hempty' hb]
    exact canonicalizeExpver_lowercase hlower hcase

end ExpverHandler

end Rules

/-! ## 4. All rules -/

section Fields

variable {lib : Libraries} {rule : ValidationRules} (hrule : rule.hasNormalForm = true)

include hrule

/-- The text of a string is handed to the handler of the rule. -/
theorem validateAndCanonicalizeField_string (fieldName value : String) :
    validateAndCanonicalizeField lib fieldName (.string value) rule =
      validateAndCanonicalizeScalar lib fieldName value rule := by
  cases rule with
  | polygonHandler _ => cases hrule
  | pointCloudHandler _ _ => cases hrule
  | _ => rfl

variable (hlower : LowercaseNormal lib.toLowercase) (hclass : AsciiDigitClass lib.isDecimalDigit)
  {fieldName : String}

include hclass hlower

theorem canonicalizeScalar_again {value text : String}
    (h : validateAndCanonicalizeScalar lib fieldName value rule = .ok text) :
    validateAndCanonicalizeScalar lib fieldName text rule = .ok text := by
  cases rule with
  | stringHandler maxLength required =>
    have htext := (StringHandler.canonical h).1
    subst htext
    exact h
  | enumHandler values required => exact EnumHandler.canonical_again hlower h
  | expverHandler default required => exact ExpverHandler.canonical_again hlower h
  | intHandler range required => exact IntHandler.canonical_again h
  | timeHandler required =>
    obtain ⟨hour, minute, htime⟩ := TimeHandler.timeText_of_ok hclass h
    have hclock := TimeHandler.accepts_timeText hclass fieldName htime
    have htext : text = clockText hour minute := Except.ok.inj (h.symm.trans hclock)
    rw [htext]
    exact TimeHandler.accepts_timeText hclass fieldName
      (clockText_timeText htime.range.1 htime.range.2)
  | dateHandler _ _ => cases hrule
  | floatHandler _ _ => cases hrule
  | polygonHandler _ => cases hrule
  | pointCloudHandler _ _ => cases hrule

theorem canonicalizeScalar_congr {a b textA textB : String}
    (ha : validateAndCanonicalizeScalar lib fieldName a rule = .ok textA)
    (hb : validateAndCanonicalizeScalar lib fieldName b rule = .ok textB)
    (hsame : SameValue lib.toLowercase rule a b) : textA = textB := by
  cases rule with
  | stringHandler maxLength required =>
    rw [(StringHandler.canonical ha).1, (StringHandler.canonical hb).1]
    exact hsame
  | enumHandler values required =>
    rw [(EnumHandler.eq_ok_iff.mp ha).1, (EnumHandler.eq_ok_iff.mp hb).1]
    exact hsame
  | expverHandler default required =>
    cases hsame with
    | inl hnumber =>
      obtain ⟨hdigitsA, hdigitsB, hvalue, hbound⟩ := hnumber
      rw [ExpverHandler.canonical_nonempty hdigitsA.nonempty ha,
        ExpverHandler.canonical_nonempty hdigitsB.nonempty hb,
        ExpverHandler.canonicalizeExpver_number hdigitsA hbound,
        ExpverHandler.canonicalizeExpver_number hdigitsB (by omega), hvalue]
    | inr hcase => exact ExpverHandler.canonical_lowercase hlower hcase ha hb
  | intHandler range required =>
    obtain ⟨n, hreadA, -, rfl⟩ := IntHandler.eq_ok_iff.mp ha
    obtain ⟨m, hreadB, -, rfl⟩ := IntHandler.eq_ok_iff.mp hb
    have hvalue : writtenInt a.toList = writtenInt b.toList := hsame
    rw [parseInt_writtenInt hreadA, parseInt_writtenInt hreadB, hvalue]
  | timeHandler required =>
    obtain ⟨hour, minute, htimeA, htimeB⟩ := hsame
    have hclockA := TimeHandler.accepts_timeText hclass fieldName htimeA
    have hclockB := TimeHandler.accepts_timeText hclass fieldName htimeB
    exact Except.ok.inj (ha.symm.trans (hclockA.trans (hclockB.symm.trans hb)))
  | dateHandler _ _ => cases hrule
  | floatHandler _ _ => cases hrule
  | polygonHandler _ => cases hrule
  | pointCloudHandler _ _ => cases hrule

/-- Canonical texts are normal forms of the values of a rule. -/
theorem canonical_normalForm :
    (∀ value text,
      validateAndCanonicalizeField lib fieldName (.string value) rule = .ok text →
        validateAndCanonicalizeField lib fieldName (.string text) rule = .ok text) ∧
    ∀ a b textA textB,
      validateAndCanonicalizeField lib fieldName (.string a) rule = .ok textA →
      validateAndCanonicalizeField lib fieldName (.string b) rule = .ok textB →
      SameValue lib.toLowercase rule a b → textA = textB := by
  constructor
  · intro value text h
    rw [validateAndCanonicalizeField_string hrule] at h ⊢
    exact canonicalizeScalar_again hrule hlower hclass h
  · intro a b textA textB ha hb hsame
    rw [validateAndCanonicalizeField_string hrule] at ha hb
    exact canonicalizeScalar_congr hrule hlower hclass ha hb hsame

end Fields

/-- The letters of ASCII have letters as their lower case. -/
theorem toLower_numeral {c : Char}
    (h : (c.isDigit = true ∨ c = '+' ∨ c = '-') ∨
      (c.toLower.isDigit = true ∨ c.toLower = '+' ∨ c.toLower = '-')) : c.toLower = c := by
  by_cases hascii : c.toNat < 128
  · have hall : ∀ n < 128,
        (((Char.ofNat n).isDigit = true ∨ Char.ofNat n = '+' ∨ Char.ofNat n = '-') ∨
          ((Char.ofNat n).toLower.isDigit = true ∨ (Char.ofNat n).toLower = '+' ∨
            (Char.ofNat n).toLower = '-')) → (Char.ofNat n).toLower = Char.ofNat n := by
      decide +kernel
    have hchar := hall c.toNat hascii
    rw [Char.ofNat_toNat] at hchar
    exact hchar h
  · exact toLower_of_not_ascii hascii

theorem toAsciiLowercase_of_lower {text : String} (h : ∀ c ∈ text.toList, c.toLower = c) :
    toAsciiLowercase text = text := by
  have hchars : text.toList.map Char.toLower = text.toList :=
    (List.map_congr_left h).trans (List.map_id text.toList)
  unfold toAsciiLowercase
  rw [hchars, String.ofList_toList]

theorem toAsciiLowercase_normal : LowercaseNormal toAsciiLowercase where
  idempotent := toAsciiLowercase_idem
  nonempty text h := by
    have hmap := congrArg String.toList h
    unfold toAsciiLowercase at hmap
    rw [String.toList_ofList] at hmap
    exact String.toList_eq_nil_iff.mp (List.map_eq_nil_iff.mp hmap)
  numeral text h := toAsciiLowercase_of_lower fun c hc => toLower_numeral (Or.inl (h c hc))
  ofNumeral text h := by
    apply toAsciiLowercase_of_lower
    intro c hc
    apply toLower_numeral
    right
    apply h
    unfold toAsciiLowercase
    rw [String.toList_ofList]
    exact List.mem_map_of_mem hc

theorem canonical_normalForm_time :
    validateAndCanonicalizeField plainLibraries "time" (.string "0905") (.timeHandler true) =
      .ok "0905" :=
  (@canonical_normalForm plainLibraries (.timeHandler true) rfl toAsciiLowercase_normal
    (fun _ _ => rfl) "time").1 "9:05" "0905" (by decide +kernel)

/-- Numbers above 32 bits are texts, and their leading zeros stay. -/
theorem expver_wide_spellings :
    ¬ ∀ a b textA textB,
      validateAndCanonicalizeField plainLibraries "expver" (.string a) (.expverHandler none true) =
        .ok textA →
      validateAndCanonicalizeField plainLibraries "expver" (.string b) (.expverHandler none true) =
        .ok textB →
      IsDigitText a → IsDigitText b → wordValue a.toList = wordValue b.toList → textA = textB := by
  intro h
  have hsame := h "4294967296" "04294967296" "4294967296" "04294967296" (by decide +kernel)
    (by decide +kernel) ⟨by decide, List.all_eq_true.mp (by decide)⟩
    ⟨by decide, List.all_eq_true.mp (by decide)⟩ (by decide +kernel)
  exact absurd hsame (by decide)

end AvisoServer
