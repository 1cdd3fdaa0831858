import AvisoServer.Lib.PercentCodec
import AvisoServer.Rust

/-!
# Topic wire encoding

A subject is the dot-joined list of its encoded tokens. Encoding escapes the four characters that
have a meaning on the wire, so a subject decodes to the tokens it was built from.
-/

namespace AvisoServer

/-! ## 1. The codec -/

def subjectSeparator : Char := '.'

def isReservedChar (ch : Char) : Bool :=
  ch = '.' || ch = '*' || ch = '>' || ch = '%'

def encodeChar (ch : Char) : List Char :=
  if isReservedChar ch then '%' :: hexUpper2 ch.toNat else [ch]

/-- Encode one logical token for wire transport. -/
def encodeToken (token : String) : String :=
  String.ofList (token.toList.flatMap encodeChar)

def faultText (token : String) : PercentCodec.Fault → String
  | .trailing => "Invalid percent-encoding: trailing '%' in token '" ++ token ++ "'"
  | .nonHex byte =>
    "Invalid percent-encoding: non-hex '" ++ String.singleton (Char.ofNat byte.toNat) ++
      "' in token '" ++ token ++ "'"

/-- Decode one wire token back to logical form. -/
def decodeToken (token : String) : Result String :=
  match PercentCodec.decode (asBytes token) with
  | .error fault => bail (faultText token fault)
  | .ok out =>
    match fromUtf8 out with
    | some text => .ok text
    | none =>
      bail ("Decoded token is not valid UTF-8 ('" ++ token ++ "'): " ++
        ((utf8Error out).map Utf8Error.text).getD "")

def encodeSubject (parts : List String) : String :=
  joinChar (parts.map encodeToken) subjectSeparator

def decodeSubject (subject : String) : Result (List String) :=
  (splitChar subject subjectSeparator).mapM decodeToken

/-- Falls back to the subject itself when it does not decode. -/
def decodeSubjectForDisplay (subject : String) : String :=
  match decodeSubject subject with
  | .ok parts => joinChar parts '.'
  | .error _ => subject

def decodeSubjectBase (subject : String) : Result String :=
  match (splitChar subject subjectSeparator).head? with
  | none => bail "Subject cannot be empty"
  | some raw => if raw = "" then bail "Subject cannot be empty" else decodeToken raw

/-! ## 2. Tokens -/

def isReservedByte (b : UInt8) : Bool :=
  b = 46 || b = 42 || b = 62 || b = 37

theorem utf8EncodeChar_ascii (ch : Char) (hch : ch.toNat < 128) :
    String.utf8EncodeChar ch = [UInt8.ofNat ch.toNat] := by
  rw [String.utf8EncodeChar.eq_def]
  exact if_pos (Nat.le_of_lt_succ hch)

theorem utf8EncodeChar_high (ch : Char) (hch : 128 ≤ ch.toNat) (b : UInt8)
    (hb : b ∈ String.utf8EncodeChar ch) : 128 ≤ b.toNat := by
  have hv : ch.val.toNat = ch.toNat := rfl
  have hofNat (n : Nat) (hlow : 128 ≤ n) (hhigh : n < 256) : 128 ≤ (UInt8.ofNat n).toNat := by
    rw [UInt8.toNat_ofNat', Nat.mod_eq_of_lt hhigh]
    exact hlow
  simp only [String.utf8EncodeChar.eq_def, hv] at hb
  rw [if_neg (by omega)] at hb
  split_ifs at hb
  all_goals
    simp only [List.mem_cons, List.not_mem_nil, or_false] at hb
    rcases hb with rfl | hb
    · exact hofNat _ (by omega) (by omega)
  · exact hb ▸ hofNat _ (by omega) (by omega)
  · rcases hb with rfl | rfl <;> exact hofNat _ (by omega) (by omega)
  · rcases hb with rfl | rfl | rfl <;> exact hofNat _ (by omega) (by omega)

theorem isReservedByte_lt (b : UInt8) (hb : isReservedByte b = true) : b.toNat < 128 := by
  simp only [isReservedByte, Bool.or_eq_true, decide_eq_true_eq] at hb
  rcases hb with ((rfl | rfl) | rfl) | rfl <;> decide

/-- Escaping one character is escaping each of its bytes. -/
theorem encodeChar_bytes (ch : Char) :
    (encodeChar ch).flatMap String.utf8EncodeChar =
      PercentCodec.encode isReservedByte (String.utf8EncodeChar ch) := by
  by_cases hres : isReservedChar ch = true
  · simp only [isReservedChar, Bool.or_eq_true, decide_eq_true_eq] at hres
    rcases hres with ((rfl | rfl) | rfl) | rfl <;> decide +kernel
  have hplain : ∀ b ∈ String.utf8EncodeChar ch, isReservedByte b = false := by
    intro b hb
    by_contra hb'
    have hbres : isReservedByte b = true := by simpa using hb'
    by_cases hch : ch.toNat < 128
    · rw [utf8EncodeChar_ascii ch hch, List.mem_singleton] at hb
      have hchar : ch = Char.ofNat b.toNat := by
        rw [hb, UInt8.toNat_ofNat', Nat.mod_eq_of_lt (by omega), Char.ofNat_toNat]
      simp only [isReservedByte, Bool.or_eq_true, decide_eq_true_eq] at hbres
      apply hres
      rcases hbres with ((h | h) | h) | h <;> rw [hchar, h] <;> decide
    · have hhigh := utf8EncodeChar_high ch (by omega) b hb
      have hlow := isReservedByte_lt b hbres
      omega
  have hmap (bytes : List UInt8) (hbytes : ∀ b ∈ bytes, isReservedByte b = false) :
      PercentCodec.encode isReservedByte bytes = bytes := by
    induction bytes with
    | nil => rfl
    | cons b bytes ih =>
      rw [PercentCodec.encode_cons, hbytes b List.mem_cons_self, if_neg (by simp),
        ih fun c hc => hbytes c (List.mem_cons_of_mem b hc)]
      rfl
  rw [hmap _ hplain, encodeChar, if_neg hres]
  simp

theorem asBytes_encodeToken (token : String) :
    asBytes (encodeToken token) = PercentCodec.encode isReservedByte (asBytes token) := by
  rw [asBytes, encodeToken, String.toList_ofList, asBytes]
  induction token.toList with
  | nil => rfl
  | cons ch chars ih =>
    rw [List.flatMap_cons, List.flatMap_append, ih, List.flatMap_cons,
      PercentCodec.encode_append, encodeChar_bytes]

/-- Every logical token survives the wire. -/
theorem decodeToken_encodeToken (token : String) : decodeToken (encodeToken token) = .ok token := by
  rw [decodeToken, asBytes_encodeToken, PercentCodec.decode_encode isReservedByte rfl]
  simp only [fromUtf8_asBytes]

example : decodeToken "a%C3" = bail ("Decoded token is not valid UTF-8 ('a%C3'): " ++
    "incomplete utf-8 byte sequence from index 1") := by
  decide +kernel

theorem encodeToken_injective : Function.Injective encodeToken := by
  intro s t h
  have hs := decodeToken_encodeToken s
  rw [h, decodeToken_encodeToken t] at hs
  exact (Except.ok.inj hs).symm

theorem notMem_encodeToken (ch : Char) (hch : ch = '.' ∨ ch = '*' ∨ ch = '>') (token : String) :
    ch ∉ (encodeToken token).toList := by
  rw [encodeToken, String.toList_ofList, List.mem_flatMap]
  rintro ⟨c, -, hc⟩
  by_cases hres : isReservedChar c = true
  · simp only [isReservedChar, Bool.or_eq_true, decide_eq_true_eq] at hres
    rcases hch with rfl | rfl | rfl <;> rcases hres with ((rfl | rfl) | rfl) | rfl <;>
      revert hc <;> decide +kernel
  · rw [encodeChar, if_neg hres, List.mem_singleton] at hc
    subst hc
    apply hres
    rcases hch with rfl | rfl | rfl <;> rfl

/-! ## 3. Subjects -/

theorem splitChar_encodeSubject (parts : List String) (hne : parts ≠ []) :
    splitChar (encodeSubject parts) subjectSeparator = parts.map encodeToken := by
  rw [encodeSubject]
  apply splitChar_joinChar
  · intro p hp
    obtain ⟨token, -, rfl⟩ := List.mem_map.mp hp
    exact notMem_encodeToken _ (Or.inl rfl) token
  · simpa using hne

theorem mapM_decodeToken_encode (parts : List String) :
    (parts.map encodeToken).mapM decodeToken = .ok parts := by
  induction parts with
  | nil => rfl
  | cons token parts ih =>
    rw [List.map_cons, List.mapM_cons, decodeToken_encodeToken, ih]
    rfl

/-- A subject decodes to the tokens it was built from. -/
theorem decodeSubject_encodeSubject (parts : List String) (hne : parts ≠ []) :
    decodeSubject (encodeSubject parts) = .ok parts := by
  rw [decodeSubject, splitChar_encodeSubject parts hne, mapM_decodeToken_encode]

theorem encodeSubject_injective (xs ys : List String) (hx : xs ≠ []) (hy : ys ≠ [])
    (h : encodeSubject xs = encodeSubject ys) : xs = ys := by
  have hdecode := decodeSubject_encodeSubject xs hx
  rw [h, decodeSubject_encodeSubject ys hy] at hdecode
  exact (Except.ok.inj hdecode).symm

/-- The base of a subject is its first token. -/
theorem decodeSubjectBase_encodeSubject (base : String) (rest : List String)
    (hbase : encodeToken base ≠ "") :
    decodeSubjectBase (encodeSubject (base :: rest)) = .ok base := by
  rw [decodeSubjectBase, splitChar_encodeSubject _ (by simp)]
  simp only [List.map_cons, List.head?_cons, if_neg hbase]
  exact decodeToken_encodeToken base

example : encodeToken "1.45*foo>bar%baz" = "1%2E45%2Afoo%3Ebar%25baz" := by decide

end AvisoServer
