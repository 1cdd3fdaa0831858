import Mathlib.Data.List.Basic
import Mathlib.Tactic.IntervalCases

/-!
# Percent escapes over byte lists

A byte that the caller reserves is written as `%` and two uppercase hex digits, every other byte
as itself; the decoder reads one left to right pass and accepts digits of either case.
-/

namespace PercentCodec

/-! ## 1. Hex digits -/

/-- The byte `%`. -/
def percentByte : UInt8 := 37

/-- The uppercase hex digit of a value below sixteen. -/
def hexDigit (n : Nat) : UInt8 :=
  if n < 10 then UInt8.ofNat (48 + n) else UInt8.ofNat (55 + n)

/-- The value of a hex digit, of either case. -/
def hexValue (b : UInt8) : Option UInt8 :=
  if 48 ≤ b ∧ b ≤ 57 then some (b - 48)
  else if 97 ≤ b ∧ b ≤ 102 then some (b - 97 + 10)
  else if 65 ≤ b ∧ b ≤ 70 then some (b - 65 + 10)
  else none

theorem hexValue_hexDigit (n : Nat) (hn : n < 16) : hexValue (hexDigit n) = some (UInt8.ofNat n) := by
  interval_cases n <;> decide

theorem highLow_eq (b : UInt8) :
    (UInt8.ofNat (b.toNat / 16) <<< 4) ||| UInt8.ofNat (b.toNat % 16) = b := by
  have hall : ∀ n < 256, (UInt8.ofNat (n / 16) <<< 4) ||| UInt8.ofNat (n % 16) = UInt8.ofNat n := by
    decide +kernel
  rw [hall b.toNat b.toNat_lt, UInt8.ofNat_toNat]

/-! ## 2. Encoder and decoder -/

/-- The three bytes that stand for one reserved byte. -/
def escape (b : UInt8) : List UInt8 :=
  [percentByte, hexDigit (b.toNat / 16), hexDigit (b.toNat % 16)]

def encode (reserved : UInt8 → Bool) (bytes : List UInt8) : List UInt8 :=
  bytes.flatMap fun b => if reserved b then escape b else [b]

/-- Why a byte list is not an encoding. -/
inductive Fault where
  | trailing
  | nonHex (byte : UInt8)
  deriving DecidableEq, Repr

def hexOrFault (b : UInt8) : Except Fault UInt8 :=
  match hexValue b with
  | some v => .ok v
  | none => .error (.nonHex b)

def decode : List UInt8 → Except Fault (List UInt8)
  | [] => .ok []
  | b :: rest =>
    if b = percentByte then
      match rest with
      | hi :: lo :: tail => do
        let h ← hexOrFault hi
        let l ← hexOrFault lo
        let out ← decode tail
        .ok (((h <<< 4) ||| l) :: out)
      | _ => .error .trailing
    else do
      let out ← decode rest
      .ok (b :: out)

/-! ## 3. Round trip -/

@[simp] theorem encode_nil (reserved : UInt8 → Bool) : encode reserved [] = [] := rfl

@[simp] theorem encode_cons (reserved : UInt8 → Bool) (b : UInt8) (bytes : List UInt8) :
    encode reserved (b :: bytes) =
      (if reserved b then escape b else [b]) ++ encode reserved bytes := by
  simp [encode]

@[simp] theorem encode_append (reserved : UInt8 → Bool) (xs ys : List UInt8) :
    encode reserved (xs ++ ys) = encode reserved xs ++ encode reserved ys := by
  simp [encode]

@[simp] theorem decode_nil : decode [] = .ok [] := rfl

theorem decode_cons_plain (b : UInt8) (rest : List UInt8) (hb : b ≠ percentByte) :
    decode (b :: rest) = (decode rest).map (b :: ·) := by
  rw [decode.eq_def]
  simp only [if_neg hb]
  cases decode rest <;> rfl

theorem hexOrFault_hexDigit (n : Nat) (hn : n < 16) :
    hexOrFault (hexDigit n) = .ok (UInt8.ofNat n) := by
  simp only [hexOrFault, hexValue_hexDigit n hn]

theorem decode_escape (b : UInt8) (rest : List UInt8) :
    decode (escape b ++ rest) = (decode rest).map (b :: ·) := by
  have hb : b.toNat < 256 := b.toNat_lt
  have hhi := hexOrFault_hexDigit (b.toNat / 16) (by omega)
  have hlo := hexOrFault_hexDigit (b.toNat % 16) (by omega)
  simp only [escape, List.cons_append, List.nil_append]
  rw [decode, if_pos rfl, hhi, hlo]
  simp only [bind, Except.bind, highLow_eq]
  cases decode rest <;> rfl

/-- Decoding undoes encoding, whatever is reserved, as long as `%` itself is. -/
theorem decode_encode (reserved : UInt8 → Bool) (hpercent : reserved percentByte = true)
    (bytes : List UInt8) : decode (encode reserved bytes) = .ok bytes := by
  induction bytes with
  | nil => rfl
  | cons b bytes ih =>
    rw [encode_cons]
    by_cases hb : reserved b = true
    · rw [if_pos hb, decode_escape, ih]
      rfl
    · have hne : b ≠ percentByte := by
        rintro rfl
        exact hb hpercent
      rw [if_neg hb, List.singleton_append, decode_cons_plain b _ hne, ih]
      rfl

/-! ## 4. Escapes -/

/-- Every `%` is followed by two hex digits. -/
def EscapesValid (bytes : List UInt8) : Prop :=
  ∀ before after, bytes = before ++ percentByte :: after →
    ∃ hi lo rest, after = hi :: lo :: rest ∧ (hexValue hi).isSome = true ∧
      (hexValue lo).isSome = true

theorem hexDigit_isSome (n : Nat) (hn : n < 16) : (hexValue (hexDigit n)).isSome = true := by
  rw [hexValue_hexDigit n hn]
  rfl

theorem EscapesValid.cons_plain {b : UInt8} {bytes : List UInt8} (h : EscapesValid bytes)
    (hb : b ≠ percentByte) : EscapesValid (b :: bytes) := by
  intro before after heq
  cases before with
  | nil => exact absurd (List.cons.inj heq).1 hb
  | cons c before => exact h before after (List.cons.inj heq).2

theorem EscapesValid.cons_escape {hi lo : UInt8} {bytes : List UInt8} (h : EscapesValid bytes)
    (hhi : (hexValue hi).isSome = true) (hlo : (hexValue lo).isSome = true) :
    EscapesValid (percentByte :: hi :: lo :: bytes) := by
  -- a hex digit is no `%`, so the only `%` that is new is the first byte
  have hplain : ∀ b, (hexValue b).isSome = true → b ≠ percentByte := by
    rintro b hb rfl
    revert hb
    decide
  intro before after heq
  cases before with
  | nil => exact ⟨hi, lo, bytes, (List.cons.inj heq).2.symm, hhi, hlo⟩
  | cons c before =>
    exact (h.cons_plain (hplain lo hlo)).cons_plain (hplain hi hhi) before after
      (List.cons.inj heq).2

/-- The encoder writes valid escapes only. -/
theorem encode_escapesValid (reserved : UInt8 → Bool) (hpercent : reserved percentByte = true)
    (bytes : List UInt8) : EscapesValid (encode reserved bytes) := by
  induction bytes with
  | nil =>
    intro before after heq
    simp at heq
  | cons b bytes ih =>
    rw [encode_cons]
    by_cases hb : reserved b = true
    · have hlt : b.toNat < 256 := b.toNat_lt
      rw [if_pos hb]
      exact ih.cons_escape (hexDigit_isSome _ (by omega)) (hexDigit_isSome _ (by omega))
    · rw [if_neg hb]
      refine ih.cons_plain ?_
      rintro rfl
      exact hb hpercent

end PercentCodec
