import Mathlib.Algebra.Order.Ring.Nat
import Mathlib.Data.List.DropRight
import Mathlib.Order.Monotone.Basic
import Mathlib.Tactic.Ring

/-!
# Binary64 numbers and their decimal text

A finite double is a sign and the bits below the sign, so that the order of magnitudes is the order
of the bits. Decimal text is read by correct rounding, ties to even, and a number is printed with
the fewest digits that read back as that number.
-/

/-- An IEEE 754 binary64 value; the payload of a NaN is not kept. -/
inductive Binary64 where
  | nan
  | infinite (negative : Bool)
  | finite (negative : Bool) (bits : Fin 9218868437227405312)
  deriving DecidableEq

namespace Binary64

/-! ## 1. Magnitudes -/

/-- The number of fractions of one exponent, `2 ^ 52`. -/
def fractions : Nat := 4503599627370496

/-- The bits of infinity, `2047 * 2 ^ 52`. -/
def infinityBits : Nat := 9218868437227405312

/-- The magnitude of these bits, in units of `2 ^ -1075`. -/
def scaled (bits : Nat) : Nat :=
  -- a zero exponent field has the unit of the smallest exponent and no leading one
  if bits < fractions then bits * 2
  else (fractions + bits % fractions) * 2 ^ (bits / fractions)

theorem scaled_normal (exponent fraction : Nat) (hexponent : 0 < exponent)
    (hfraction : fraction < fractions) :
    scaled (exponent * fractions + fraction) = (fractions + fraction) * 2 ^ exponent := by
  have hpos : 0 < fractions := by decide
  have hge : ¬ exponent * fractions + fraction < fractions := by
    have h : 1 * fractions ≤ exponent * fractions := Nat.mul_le_mul_right _ hexponent
    omega
  rw [scaled, if_neg hge, Nat.mul_comm exponent, Nat.mul_add_mod, Nat.mod_eq_of_lt hfraction,
    Nat.mul_add_div hpos, Nat.div_eq_of_lt hfraction, Nat.add_zero]

theorem scaled_lt_succ (bits : Nat) : scaled bits < scaled (bits + 1) := by
  have hpos : 0 < fractions := by decide
  by_cases hsmall : bits + 1 < fractions
  · rw [scaled, if_pos (by omega), scaled, if_pos hsmall]
    omega
  by_cases hedge : bits + 1 = fractions
  · have hnext := scaled_normal 1 0 (by decide) hpos
    rw [show 1 * fractions + 0 = bits + 1 by omega] at hnext
    rw [hnext, scaled, if_pos (by omega)]
    omega
  have hbits := Nat.div_add_mod bits fractions
  have hfraction := Nat.mod_lt bits hpos
  have hexponent : 0 < bits / fractions := Nat.div_pos (by omega) hpos
  rw [Nat.mul_comm] at hbits
  have hself := scaled_normal _ _ hexponent hfraction
  rw [hbits] at hself
  by_cases hcarry : bits % fractions + 1 < fractions
  · have hnext := scaled_normal _ _ hexponent hcarry
    rw [show bits / fractions * fractions + (bits % fractions + 1) = bits + 1 by omega] at hnext
    rw [hself, hnext]
    apply Nat.mul_lt_mul_of_pos_right (by omega)
    exact Nat.pow_pos (by decide)
  -- the carry doubles the unit and leaves the smallest fraction
  · have hnext := scaled_normal (bits / fractions + 1) 0 (by omega) hpos
    rw [show (bits / fractions + 1) * fractions + 0 = bits + 1 by rw [Nat.add_mul]; omega] at hnext
    rw [hself, hnext, pow_succ]
    have hpow : 0 < 2 ^ (bits / fractions) := Nat.pow_pos (by decide)
    rw [show (fractions + 0) * (2 ^ (bits / fractions) * 2) =
      (fractions + fractions) * 2 ^ (bits / fractions) by ring]
    exact Nat.mul_lt_mul_of_pos_right (by omega) hpow

theorem scaled_strictMono : StrictMono scaled :=
  strictMono_nat_of_lt_succ scaled_lt_succ

/-! ## 2. Bisection -/

/-- The greatest number below `start + 2 ^ width` at which a downward closed test holds. -/
def bisect (test : Nat → Bool) : Nat → Nat → Nat
  | 0, start => start
  | width + 1, start =>
    if test (start + 2 ^ width) then bisect test width (start + 2 ^ width)
    else bisect test width start

theorem bisect_eq (test : Nat → Bool) (hdown : ∀ m n, m ≤ n → test n = true → test m = true)
    (width start target : Nat) (hstart : start ≤ target) (hend : target < start + 2 ^ width)
    (htarget : test target = true) (hnext : test (target + 1) = false) :
    bisect test width start = target := by
  induction width generalizing start with
  | zero =>
    rw [pow_zero] at hend
    rw [bisect]
    omega
  | succ width ih =>
    rw [pow_succ] at hend
    rw [bisect]
    by_cases hhalf : start + 2 ^ width ≤ target
    · rw [if_pos (hdown _ _ hhalf htarget)]
      exact ih _ hhalf (by omega)
    · have hfalse : test (start + 2 ^ width) = false := by
        by_contra htrue
        have hbelow := hdown (target + 1) (start + 2 ^ width) (by omega) (by simpa using htrue)
        rw [hnext] at hbelow
        cases hbelow
      rw [if_neg (by rw [hfalse]; decide)]
      exact ih _ hstart (by omega)

/-! ## 3. Correct rounding -/

/-- The decimal places that hold every magnitude exactly. -/
def exactPlaces : Nat := 1075

/-- The unit of `scaled` is `1 / units`. -/
def units : Nat := 2 ^ exactPlaces

/-- The bits nearest to `digits / 10 ^ places`, ties to even; from the bits of infinity on, the
number overflows. -/
def nearest (digits places : Nat) : Nat :=
  let below := bisect (fun bits => scaled bits * 10 ^ places ≤ digits * units) 63 0
  let bounds := scaled below * 10 ^ places + scaled (below + 1) * 10 ^ places
  if 2 * (digits * units) < bounds then below
  else if bounds < 2 * (digits * units) then below + 1
  else if below % 2 = 0 then below
  else below + 1

/-- A double is its own rounding. -/
theorem nearest_exact (digits places bits : Nat) (hbits : bits < 9223372036854775808)
    (hexact : scaled bits * 10 ^ places = digits * units) : nearest digits places = bits := by
  have hten : 0 < 10 ^ places := Nat.pow_pos (by decide)
  have hstep : scaled bits * 10 ^ places < scaled (bits + 1) * 10 ^ places :=
    Nat.mul_lt_mul_of_pos_right (scaled_lt_succ bits) hten
  have hbelow : bisect (fun bits => scaled bits * 10 ^ places ≤ digits * units) 63 0 = bits := by
    apply bisect_eq
    · intro m n hmn hn
      simp only [decide_eq_true_eq] at hn ⊢
      exact (Nat.mul_le_mul_right _ (scaled_strictMono.monotone hmn)).trans hn
    · exact Nat.zero_le bits
    · rw [Nat.zero_add]
      exact hbits
    · exact decide_eq_true hexact.le
    · exact decide_eq_false (by omega)
  unfold nearest
  rw [hbelow]
  exact if_pos (by omega)

/-- Rounding depends on the value of the decimal alone. -/
theorem nearest_scale (digits places extra : Nat) :
    nearest (digits * 10 ^ extra) (places + extra) = nearest digits places := by
  have hten : 0 < 10 ^ extra := Nat.pow_pos (by decide)
  have hpow (n : Nat) : n * 10 ^ (places + extra) = n * 10 ^ places * 10 ^ extra := by
    rw [pow_add, mul_assoc]
  have hdigits : digits * 10 ^ extra * units = digits * units * 10 ^ extra := by ring
  have hle (m n : Nat) : m * 10 ^ extra ≤ n * 10 ^ extra ↔ m ≤ n := Nat.mul_le_mul_right_iff hten
  have hlt (m n : Nat) : m * 10 ^ extra < n * 10 ^ extra ↔ m < n := Nat.mul_lt_mul_right hten
  unfold nearest
  simp only [hpow, hdigits, hle, ← mul_assoc, ← add_mul, hlt]

/-! ## 4. Reading -/

def splitSign : List Char → Bool × List Char
  | '-' :: rest => (true, rest)
  | '+' :: rest => (false, rest)
  | chars => (false, chars)

/-- `e` or `E`, a sign and at least one digit; without them the exponent is zero. -/
def parseExponent : List Char → Option Int
  | [] => some 0
  | marker :: rest =>
    if marker = 'e' ∨ marker = 'E' then
      let (negative, digits) := splitSign rest
      if digits = [] ∨ !digits.all Char.isDigit then none
      else if negative then some (-(Nat.ofDigitChars 10 digits 0 : Nat))
      else some (Nat.ofDigitChars 10 digits 0 : Nat)
    else none

/-- The digits of a number and the power of ten they are multiplied with. -/
def parseNumber (chars : List Char) : Option (Nat × Int) :=
  let whole := chars.takeWhile Char.isDigit
  let (fraction, rest) :=
    match chars.dropWhile Char.isDigit with
    | '.' :: rest => (rest.takeWhile Char.isDigit, rest.dropWhile Char.isDigit)
    | rest => ([], rest)
  if whole = [] ∧ fraction = [] then none
  else
    (parseExponent rest).map fun exponent =>
      (Nat.ofDigitChars 10 (whole ++ fraction) 0, exponent - fraction.length)

/-- The number of these bits, or infinity if they overflow. -/
def ofBits (negative : Bool) (bits : Nat) : Binary64 :=
  if h : bits < 9218868437227405312 then .finite negative ⟨bits, h⟩ else .infinite negative

def ofDecimal (negative : Bool) (digits : Nat) (exponent : Int) : Binary64 :=
  ofBits negative <|
    if exponent < 0 then nearest digits exponent.natAbs else nearest (digits * 10 ^ exponent.natAbs) 0

/-- The grammar of `f64::from_str`. -/
def parse (text : String) : Option Binary64 :=
  let (negative, chars) := splitSign text.toList
  let name := chars.map Char.toLower
  if name = ['i', 'n', 'f'] ∨ name = ['i', 'n', 'f', 'i', 'n', 'i', 't', 'y'] then
    some (.infinite negative)
  else if name = ['n', 'a', 'n'] then some .nan
  else (parseNumber chars).map fun number => ofDecimal negative number.1 number.2

/-! ## 5. Printing -/

/-- The two decimals of a step around a number, the closer one first. -/
def candidates (exact step : Nat) : List Nat :=
  let low := exact / step * step
  if exact - low ≤ low + step - exact then [low, low + step] else [low + step, low]

/-- The shortest decimal that reads back as the bits, with all its places. -/
def shortest (bits : Nat) : Nat :=
  let exact := scaled bits * 5 ^ exactPlaces
  let width := (Nat.toDigits 10 exact).length
  let decimals := (List.range 17).flatMap fun n => candidates exact (10 ^ (width - (n + 1)))
  (decimals.find? fun decimal => nearest decimal exactPlaces = bits).getD exact

/-- The text of a decimal with all its places, without an exponent. -/
def decimalText (decimal : Nat) : List Char :=
  let padded := (Nat.toDigits 10 (decimal % 10 ^ exactPlaces)).leftpad exactPlaces '0'
  let fraction := padded.rdropWhile (· = '0')
  Nat.toDigits 10 (decimal / 10 ^ exactPlaces) ++ if fraction = [] then [] else '.' :: fraction

/-- `Display` of an `f64`. -/
def display : Binary64 → String
  | .nan => "NaN"
  | .infinite negative => if negative then "-inf" else "inf"
  | .finite negative bits =>
    let text := decimalText (shortest bits)
    String.ofList (if negative then '-' :: text else text)

theorem shortest_nearest (bits : Nat) (hbits : bits < infinityBits) :
    nearest (shortest bits) exactPlaces = bits := by
  have hexact : nearest (scaled bits * 5 ^ exactPlaces) exactPlaces = bits := by
    apply nearest_exact
    · unfold infinityBits at hbits
      omega
    · unfold units
      rw [mul_assoc, ← mul_pow, show 5 * 2 = 10 from rfl]
  unfold shortest
  simp only
  generalize (List.range 17).flatMap _ = decimals
  cases hfind : decimals.find? fun decimal => nearest decimal exactPlaces = bits with
  | none => exact hexact
  | some decimal => exact of_decide_eq_true (List.find?_some hfind :)

/-- The digits of the text, as one number, are the decimal without its trailing zeros. -/
theorem decimalText_digits (decimal : Nat) :
    ∃ whole fraction zeros,
      decimalText decimal = whole ++ (if fraction = [] then [] else '.' :: fraction) ∧
        whole ≠ [] ∧ (∀ c ∈ whole, c.isDigit = true) ∧ (∀ c ∈ fraction, c.isDigit = true) ∧
        fraction.length + zeros = exactPlaces ∧
        Nat.ofDigitChars 10 (whole ++ fraction) 0 * 10 ^ zeros = decimal := by
  have hten : 0 < 10 ^ exactPlaces := Nat.pow_pos (by decide)
  -- the fraction is padded to all its places, and then its zeros at the end are dropped
  set low := decimal % 10 ^ exactPlaces with hlow
  set padded := (Nat.toDigits 10 low).leftpad exactPlaces '0' with hpadded
  have hpaddedEq : padded =
      List.replicate (exactPlaces - (Nat.toDigits 10 low).length) '0' ++ Nat.toDigits 10 low := rfl
  have hwidth : (Nat.toDigits 10 low).length ≤ exactPlaces :=
    (Nat.length_toDigits_le_iff (by decide) (by decide)).mpr (Nat.mod_lt _ hten)
  have hlength : padded.length = exactPlaces := by
    rw [hpaddedEq, List.length_append, List.length_replicate]
    exact Nat.sub_add_cancel hwidth
  set fraction := padded.rdropWhile (· = '0') with hfraction
  obtain ⟨zeros, hzeros⟩ : ∃ zeros, padded = fraction ++ List.replicate zeros '0' := by
    refine ⟨(padded.reverse.takeWhile (· = '0')).length, ?_⟩
    have hall : padded.reverse.takeWhile (· = '0') =
        List.replicate (padded.reverse.takeWhile (· = '0')).length '0' := by
      rw [List.eq_replicate_iff]
      exact ⟨rfl, fun c hc => by simpa using List.mem_takeWhile_imp hc⟩
    have hsplit := congrArg List.reverse
      (List.takeWhile_append_dropWhile (p := (· = '0')) (l := padded.reverse))
    rw [List.reverse_append, List.reverse_reverse, hall, List.reverse_replicate] at hsplit
    exact hsplit.symm
  have hdigits : ∀ c ∈ padded, c.isDigit = true := by
    intro c hc
    rw [hpaddedEq, List.mem_append] at hc
    cases hc with
    | inl hc =>
      rw [List.eq_of_mem_replicate hc]
      decide
    | inr hc => exact Nat.isDigit_of_mem_toDigits (by decide) (by decide) hc
  refine ⟨Nat.toDigits 10 (decimal / 10 ^ exactPlaces), fraction, zeros, rfl,
    Nat.toDigits_ne_nil, ?_, ?_, ?_, ?_⟩
  · exact fun c hc => Nat.isDigit_of_mem_toDigits (by decide) (by decide) hc
  · intro c hc
    apply hdigits
    rw [hzeros]
    exact List.mem_append_left _ hc
  · rw [← hlength, hzeros, List.length_append, List.length_replicate]
  · have hlowDigits : Nat.ofDigitChars 10 padded 0 = low := by
      rw [hpaddedEq, Nat.ofDigitChars_append, Nat.ofDigitChars_replicate_zero, mul_zero,
        Nat.ofDigitChars_ten_toDigits]
    have hvalue : Nat.ofDigitChars 10 (Nat.toDigits 10 (decimal / 10 ^ exactPlaces) ++ padded) 0 =
        decimal := by
      rw [Nat.ofDigitChars_append, Nat.ofDigitChars_ten_toDigits,
        Nat.ofDigitChars_eq_ofDigitChars_zero, hlowDigits, hlength]
      exact Nat.div_add_mod decimal _
    rw [hzeros, ← List.append_assoc, Nat.ofDigitChars_append, Nat.ofDigitChars_replicate_zero]
      at hvalue
    rw [Nat.mul_comm]
    exact hvalue

/-! ## 6. The round trip -/

theorem parseNumber_text (whole fraction : List Char) (hwhole : whole ≠ [])
    (hwholeDigits : ∀ c ∈ whole, c.isDigit = true)
    (hfractionDigits : ∀ c ∈ fraction, c.isDigit = true) :
    parseNumber (whole ++ if fraction = [] then [] else '.' :: fraction) =
      some (Nat.ofDigitChars 10 (whole ++ fraction) 0, -(fraction.length : Int)) := by
  have htail : ∀ tail, tail = [] ∨ (∃ rest, tail = '.' :: rest) →
      (whole ++ tail).takeWhile Char.isDigit = whole ∧
        (whole ++ tail).dropWhile Char.isDigit = tail := by
    intro tail hcase
    have hstop : tail.takeWhile Char.isDigit = [] ∧ tail.dropWhile Char.isDigit = tail := by
      rcases hcase with rfl | ⟨rest, rfl⟩
      · exact ⟨rfl, rfl⟩
      · exact ⟨rfl, rfl⟩
    rw [List.takeWhile_append_of_pos hwholeDigits, List.dropWhile_append_of_pos hwholeDigits,
      hstop.1, hstop.2, List.append_nil]
    exact ⟨rfl, rfl⟩
  unfold parseNumber
  by_cases hfraction : fraction = []
  · obtain ⟨htake, hdrop⟩ := htail [] (Or.inl rfl)
    rw [if_pos hfraction, htake, hdrop, hfraction]
    simp [hwhole, parseExponent]
  · obtain ⟨htake, hdrop⟩ := htail ('.' :: fraction) (Or.inr ⟨fraction, rfl⟩)
    have htakeFraction : fraction.takeWhile Char.isDigit = fraction :=
      List.takeWhile_eq_self_iff.mpr hfractionDigits
    have hdropFraction : fraction.dropWhile Char.isDigit = [] :=
      List.dropWhile_eq_nil_iff.mpr hfractionDigits
    rw [if_neg hfraction, htake, hdrop]
    simp [hwhole, htakeFraction, hdropFraction, parseExponent]

theorem ofDecimal_decimal (negative : Bool) (digits places zeros : Nat) (bits : Fin infinityBits)
    (hplaces : places + zeros = exactPlaces)
    (hnearest : nearest (digits * 10 ^ zeros) exactPlaces = bits) :
    ofDecimal negative digits (-(places : Int)) = .finite negative bits := by
  have hround : nearest digits places = bits := by
    rw [← nearest_scale digits places zeros, hplaces, hnearest]
  have hbits : (if -(places : Int) < 0 then nearest digits (-(places : Int)).natAbs
      else nearest (digits * 10 ^ (-(places : Int)).natAbs) 0) = bits := by
    rw [Int.natAbs_neg, Int.natAbs_natCast]
    by_cases hzero : places = 0
    · subst hzero
      rw [if_neg (by simp), pow_zero, mul_one]
      exact hround
    · rw [if_pos (by omega)]
      exact hround
  unfold ofDecimal
  rw [hbits]
  exact dif_pos bits.isLt

theorem splitSign_digit (c : Char) (rest : List Char) (hc : c.isDigit = true) :
    splitSign (c :: rest) = (false, c :: rest) := by
  have hminus : c ≠ '-' := by
    rintro rfl
    cases hc
  have hplus : c ≠ '+' := by
    rintro rfl
    cases hc
  simp [splitSign, hminus, hplus]

/-- A name does not start with a digit. -/
theorem toLower_digit (c : Char) (hc : c.isDigit = true) : c.toLower ≠ 'i' ∧ c.toLower ≠ 'n' := by
  have hlower : c.toLower = c := by
    simp only [Char.isDigit, Bool.and_eq_true, decide_eq_true_eq] at hc
    unfold Char.toLower
    rw [dif_neg]
    rintro ⟨hlow, -⟩
    have hhigh := hc.2
    simp only [ge_iff_le, UInt32.le_iff_toNat_le] at hlow hhigh
    have h65 : ('A'.val).toNat = 65 := rfl
    have h57 : ('9'.val).toNat = 57 := rfl
    omega
  rw [hlower]
  constructor <;> rintro rfl <;> cases hc

/-- Every number is read back from its text. -/
theorem parse_display (x : Binary64) : parse (display x) = some x := by
  cases x with
  | nan => decide
  | infinite negative => cases negative <;> decide
  | finite negative bits =>
    obtain ⟨whole, fraction, zeros, htext, hwhole, hwholeDigits, hfractionDigits, hplaces, hvalue⟩ :=
      decimalText_digits (shortest bits)
    obtain ⟨first, rest, rfl⟩ := List.exists_cons_of_ne_nil hwhole
    have hfirst := hwholeDigits first List.mem_cons_self
    have hsign : splitSign (display (.finite negative bits)).toList =
        (negative, decimalText (shortest bits)) := by
      unfold display
      rw [String.toList_ofList, htext]
      cases negative with
      | false => exact splitSign_digit first _ hfirst
      | true => rfl
    have hread := ofDecimal_decimal negative _ _ zeros bits hplaces
      (by rw [hvalue]; exact shortest_nearest bits bits.isLt)
    have hname := toLower_digit first hfirst
    unfold parse
    rw [hsign]
    simp only
    rw [htext, if_neg (by simp [hname]), if_neg (by simp [hname]),
      parseNumber_text _ _ hwhole hwholeDigits hfractionDigits, Option.map_some, hread]

example : (parse "52.50").map display = some "52.5" := by decide +kernel

/-- The text of a number has digits and a few other characters. -/
theorem display_chars (x : Binary64) :
    ∀ c ∈ (display x).toList, c.isDigit = true ∨ c ∈ ['-', '.', 'N', 'a', 'i', 'n', 'f'] := by
  cases x with
  | nan =>
    intro c hc
    have htext : (display .nan).toList = ['N', 'a', 'N'] := by decide +kernel
    rw [htext] at hc
    simp only [List.mem_cons, List.not_mem_nil, or_false] at hc
    rcases hc with rfl | rfl | rfl <;> exact Or.inr (by simp)
  | infinite negative =>
    intro c hc
    have htext : (display (.infinite negative)).toList =
        if negative then ['-', 'i', 'n', 'f'] else ['i', 'n', 'f'] := by
      cases negative <;> decide +kernel
    rw [htext] at hc
    have hmem : c ∈ ['-', 'i', 'n', 'f'] := by
      cases negative with
      | true => exact hc
      | false => exact List.mem_cons_of_mem '-' hc
    simp only [List.mem_cons, List.not_mem_nil, or_false] at hmem
    rcases hmem with rfl | rfl | rfl | rfl <;> exact Or.inr (by simp)
  | finite negative bits =>
    obtain ⟨whole, fraction, zeros, htext, -, hwhole, hfraction, -⟩ :=
      decimalText_digits (shortest bits)
    have hdecimal : ∀ c ∈ decimalText (shortest bits),
        c.isDigit = true ∨ c ∈ ['-', '.', 'N', 'a', 'i', 'n', 'f'] := by
      intro c hc
      rw [htext, List.mem_append] at hc
      cases hc with
      | inl hc => exact Or.inl (hwhole c hc)
      | inr hc =>
        split at hc
        · cases hc
        · cases List.mem_cons.mp hc with
          | inl hdot => exact Or.inr (by rw [hdot]; decide)
          | inr hc => exact Or.inl (hfraction c hc)
    intro c hc
    unfold display at hc
    rw [String.toList_ofList] at hc
    split at hc
    · cases List.mem_cons.mp hc with
      | inl hsign => exact Or.inr (by rw [hsign]; decide)
      | inr hc => exact hdecimal c hc
    · exact hdecimal c hc

/-! ## 7. Order -/

/-- The place of a number in the order. Both zeros have one place, and a NaN has none. -/
def rank : Binary64 → Option Int
  | .nan => none
  | .infinite negative => some (if negative then -(infinityBits : Int) else infinityBits)
  | .finite negative bits => some (if negative then -(bits.val : Int) else bits.val)

/-- A comparison that is false on a NaN. -/
def compare (relation : Int → Int → Bool) (x y : Binary64) : Bool :=
  match rank x, rank y with
  | some a, some b => relation a b
  | _, _ => false

def eq (x y : Binary64) : Bool := compare (fun a b => a = b) x y

def lt (x y : Binary64) : Bool := compare (fun a b => a < b) x y

def le (x y : Binary64) : Bool := compare (fun a b => a ≤ b) x y

def isFinite : Binary64 → Bool
  | .finite _ _ => true
  | _ => false

/-- `f64::min`; which of two zeros is returned is left open. -/
def min (x y : Binary64) : Binary64 :=
  if x = .nan then y else if lt y x then y else x

def max (x y : Binary64) : Binary64 :=
  if x = .nan then y else if lt x y then y else x

/-- The rounding of an integer. -/
def ofInt (n : Int) : Binary64 :=
  ofBits (n < 0) (nearest n.natAbs 0)

/-- An integer reads from its text as its rounding. -/
theorem parse_int (n : Int) : parse (toString n) = some (ofInt n) := by
  have hdigits : ∀ m : Nat, ∀ c ∈ Nat.toDigits 10 m, c.isDigit = true := fun m c hc =>
    Nat.isDigit_of_mem_toDigits (by decide) (by decide) hc
  have hnumber : ∀ m : Nat, parseNumber (Nat.toDigits 10 m) = some (m, 0) := by
    intro m
    have htext := parseNumber_text (Nat.toDigits 10 m) [] Nat.toDigits_ne_nil (hdigits m) (by simp)
    rw [if_pos rfl, List.append_nil, Nat.ofDigitChars_ten_toDigits] at htext
    exact htext
  have hround : ∀ (negative : Bool) (m : Nat), ofDecimal negative m 0 = ofBits negative (nearest m 0) := by
    intro negative m
    unfold ofDecimal
    rw [if_neg (by decide), Int.natAbs_zero, pow_zero, mul_one]
  -- a text of digits is none of the names of what is not finite
  have hread : ∀ (negative : Bool) (m : Nat) (text : String),
      splitSign text.toList = (negative, Nat.toDigits 10 m) →
      parse text = some (ofBits negative (nearest m 0)) := by
    intro negative m text hsign
    obtain ⟨first, rest, hcons⟩ := List.exists_cons_of_ne_nil (Nat.toDigits_ne_nil (n := m) (b := 10))
    have hname := toLower_digit first (hdigits m first (by rw [hcons]; exact List.mem_cons_self))
    unfold parse
    rw [hsign]
    simp only
    rw [hnumber, if_neg (by simp [hcons, hname]), if_neg (by simp [hcons, hname]), Option.map_some,
      hround]
  cases n with
  | ofNat m =>
    have htext : (toString (Int.ofNat m)).toList = Nat.toDigits 10 m := Nat.toList_repr
    obtain ⟨first, rest, hcons⟩ := List.exists_cons_of_ne_nil (Nat.toDigits_ne_nil (n := m) (b := 10))
    have hfirst := hdigits m first (by rw [hcons]; exact List.mem_cons_self)
    have hvalue : ofInt (Int.ofNat m) = ofBits false (nearest m 0) := by
      unfold ofInt
      rw [decide_eq_false (by simp)]
      rfl
    rw [hvalue]
    apply hread false m
    rw [htext, hcons]
    exact splitSign_digit first rest hfirst
  | negSucc m =>
    have hvalue : ofInt (Int.negSucc m) = ofBits true (nearest (m + 1) 0) := by
      unfold ofInt
      rw [decide_eq_true (Int.negSucc_lt_zero m), Int.natAbs_negSucc]
    rw [hvalue]
    apply hread true (m + 1)
    show splitSign ("-" ++ (m + 1).repr).toList = _
    rw [String.toList_append, Nat.toList_repr]
    rfl

theorem rank_of_ne_nan (x : Binary64) (hx : x ≠ .nan) : ∃ place, rank x = some place := by
  cases x with
  | nan => exact absurd rfl hx
  | infinite negative => exact ⟨_, rfl⟩
  | finite negative bits => exact ⟨_, rfl⟩

theorem le_refl (x : Binary64) (hx : x ≠ .nan) : le x x = true := by
  obtain ⟨place, hplace⟩ := rank_of_ne_nan x hx
  simp [le, compare, hplace]

theorem le_iff (x y : Binary64) :
    le x y = true ↔ ∃ a b, rank x = some a ∧ rank y = some b ∧ a ≤ b := by
  unfold le compare
  cases rank x <;> cases rank y <;> simp

theorem lt_iff (x y : Binary64) :
    lt x y = true ↔ ∃ a b, rank x = some a ∧ rank y = some b ∧ a < b := by
  unfold lt compare
  cases rank x <;> cases rank y <;> simp

theorem eq_comm (x y : Binary64) : eq x y = eq y x := by
  unfold eq compare
  cases rank x with
  | none => cases rank y <;> rfl
  | some a =>
    cases rank y with
    | none => rfl
    | some b => exact decide_eq_decide.mpr Eq.comm

/-- A number that is between another and itself is equal to it. -/
theorem le_and_le (x y : Binary64) : (le x y && le y x) = eq y x := by
  unfold le eq compare
  cases rank x with
  | none => cases rank y <;> rfl
  | some a =>
    cases rank y with
    | none => rfl
    | some b =>
      rw [← Bool.decide_and]
      exact decide_eq_decide.mpr (by omega)

/-- The two zeros. -/
def zero (negative : Bool) : Binary64 :=
  .finite negative ⟨0, by decide⟩

/-- Finite numbers are equal if they are the same or zeros. -/
theorem eq_iff {x y : Binary64} (hx : x.isFinite = true) (hy : y.isFinite = true) :
    eq x y = true ↔ x = y ∨ ∃ a b, x = zero a ∧ y = zero b := by
  cases x with
  | nan => cases hx
  | infinite _ => cases hx
  | finite a m =>
    cases y with
    | nan => cases hy
    | infinite _ => cases hy
    | finite b n =>
      have hrank : eq (.finite a m) (.finite b n) = true ↔
          (if a then -(m.val : Int) else m.val) = if b then -(n.val : Int) else n.val :=
        decide_eq_true_iff
      rw [hrank]
      constructor
      · intro h
        -- only zero is the same number with either sign
        by_cases hzero : m.val = 0
        · right
          have hother : n.val = 0 := by
            cases a <;> cases b <;> simp only [Bool.false_eq_true, if_false, if_true] at h <;> omega
          exact ⟨a, b, congrArg (finite a) (Fin.ext hzero), congrArg (finite b) (Fin.ext hother)⟩
        · left
          cases a <;> cases b <;> simp only [Bool.false_eq_true, if_false, if_true] at h
          · rw [Fin.ext (show m.val = n.val by omega)]
          · omega
          · omega
          · rw [Fin.ext (show m.val = n.val by omega)]
      · intro h
        cases h with
        | inl hsame =>
          cases hsame
          rfl
        | inr hzeros =>
          obtain ⟨_, _, hm, hn⟩ := hzeros
          cases hm
          cases hn
          cases a <;> cases b <;> rfl

theorem le_trans (x y z : Binary64) (hxy : le x y = true) (hyz : le y z = true) :
    le x z = true := by
  obtain ⟨a, b, ha, hb, hab⟩ := (le_iff x y).mp hxy
  obtain ⟨b', c, hb', hc, hbc⟩ := (le_iff y z).mp hyz
  rw [hb] at hb'
  cases hb'
  exact (le_iff x z).mpr ⟨a, c, ha, hc, hab.trans hbc⟩

/-- A number between two finite numbers is finite. -/
theorem isFinite_of_le {low x high : Binary64} (hlow : low.isFinite = true)
    (hhigh : high.isFinite = true) (hbelow : le low x = true) (habove : le x high = true) :
    x.isFinite = true := by
  cases low with
  | nan => cases hlow
  | infinite negative => cases hlow
  | finite lowSign lowBits =>
    cases high with
    | nan => cases hhigh
    | infinite negative => cases hhigh
    | finite highSign highBits =>
      cases x with
      | finite sign bits => rfl
      | nan => cases hbelow
      | infinite negative =>
        obtain ⟨a, b, ha, hb, hab⟩ := (le_iff _ _).mp hbelow
        obtain ⟨c, d, hc, hd, hcd⟩ := (le_iff _ _).mp habove
        cases ha
        cases hb
        cases hc
        cases hd
        have hlowBits := lowBits.isLt
        have hhighBits := highBits.isLt
        unfold infinityBits at hab hcd
        cases negative with
        | false =>
          cases highSign <;> simp at hcd <;> omega
        | true =>
          cases lowSign <;> simp at hab <;> omega

theorem lt_eq_not_le (x y : Binary64) (hx : x ≠ .nan) (hy : y ≠ .nan) :
    lt x y = !le y x := by
  obtain ⟨a, ha⟩ := rank_of_ne_nan x hx
  obtain ⟨b, hb⟩ := rank_of_ne_nan y hy
  by_cases h : a < b
  · simp [lt, le, compare, ha, hb, h]
  · simp [lt, le, compare, ha, hb, h, not_lt.mp h]

theorem ne_nan_of_isFinite {x : Binary64} (hx : x.isFinite = true) : x ≠ .nan := by
  intro h
  rw [h] at hx
  cases hx

/-- A number between two others, of which the first is not the smaller one. -/
theorem le_of_not_lt {a b x : Binary64} (hax : le a x = true) (hxb : le x b = true)
    (hlt : lt a b = false) : le b a = true := by
  obtain ⟨i, j, hi, hj, hij⟩ := (le_iff a x).mp hax
  obtain ⟨j', k, hj', hk, hjk⟩ := (le_iff x b).mp hxb
  rw [hj] at hj'
  cases hj'
  have hnot : ¬ i < k := fun h => by
    rw [(lt_iff a b).mpr ⟨i, k, hi, hk, h⟩] at hlt
    cases hlt
  exact (le_iff b a).mpr ⟨k, i, hk, hi, by omega⟩

/-- The smaller of two numbers is one of them, and below both. -/
theorem min_spec (x y : Binary64) (hx : x ≠ .nan) (hy : y ≠ .nan) :
    (min x y = x ∨ min x y = y) ∧ le (min x y) x = true ∧ le (min x y) y = true := by
  unfold min
  rw [if_neg hx]
  by_cases h : lt y x = true
  · rw [if_pos h]
    refine ⟨Or.inr rfl, ?_, le_refl y hy⟩
    obtain ⟨a, b, ha, hb, hab⟩ := (lt_iff y x).mp h
    exact (le_iff y x).mpr ⟨a, b, ha, hb, hab.le⟩
  · rw [if_neg h]
    rw [lt_eq_not_le y x hy hx, Bool.not_eq_true', Bool.not_eq_false] at h
    exact ⟨Or.inl rfl, le_refl x hx, h⟩

theorem max_spec (x y : Binary64) (hx : x ≠ .nan) (hy : y ≠ .nan) :
    (max x y = x ∨ max x y = y) ∧ le x (max x y) = true ∧ le y (max x y) = true := by
  unfold max
  rw [if_neg hx]
  by_cases h : lt x y = true
  · rw [if_pos h]
    refine ⟨Or.inr rfl, ?_, le_refl y hy⟩
    obtain ⟨a, b, ha, hb, hab⟩ := (lt_iff x y).mp h
    exact (le_iff x y).mpr ⟨a, b, ha, hb, hab.le⟩
  · rw [if_neg h]
    rw [lt_eq_not_le x y hx hy, Bool.not_eq_true', Bool.not_eq_false] at h
    exact ⟨Or.inl rfl, le_refl x hx, h⟩

end Binary64
