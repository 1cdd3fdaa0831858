import AvisoServer.TopicCodec
import Mathlib.Data.Set.Operations

/-!
# Round trips of the topic codec

A subject gives its tokens back, and no other subject gives the same ones. A wire token that no
encoder wrote may decode all the same; it is written otherwise when it is encoded again.
-/

namespace AvisoServer

/-! ## 1. Tokens -/

/-- Every `%` of an encoded token starts an escape that the decoder takes. -/
theorem encodeToken_escapesValid (token : String) :
    PercentCodec.EscapesValid (asBytes (encodeToken token)) := by
  rw [asBytes_encodeToken]
  exact PercentCodec.encode_escapesValid isReservedByte rfl (asBytes token)

/-- A decoded token is the encoding of its text exactly when it is an encoding at all. -/
theorem encodeToken_eq_iff {token text : String} (h : decodeToken token = .ok text) :
    encodeToken text = token ↔ token ∈ Set.range encodeToken := by
  constructor
  · intro heq
    exact ⟨text, heq⟩
  · rintro ⟨written, rfl⟩
    rw [decodeToken_encodeToken] at h
    rw [Except.ok.inj h]

/-! ## 2. Subjects -/

theorem decodeSubject_empty : decodeSubject "" = .ok [""] := by
  decide +kernel

/-- The two lists whose subject is the empty text. -/
def IsBlank (parts : List String) : Prop :=
  parts = [] ∨ parts = [""]

theorem encodeSubject_eq_empty_iff (parts : List String) :
    encodeSubject parts = "" ↔ IsBlank parts := by
  constructor
  · intro hempty
    by_cases hne : parts = []
    · exact Or.inl hne
    · have hdecode := decodeSubject_encodeSubject parts hne
      rw [hempty, decodeSubject_empty] at hdecode
      exact Or.inr (Except.ok.inj hdecode).symm
  · rintro (rfl | rfl) <;> rfl

/-- Lists of tokens of any lengths have one subject only if they are equal, or both blank. -/
theorem encodeSubject_eq_iff (xs ys : List String) :
    encodeSubject xs = encodeSubject ys ↔ xs = ys ∨ IsBlank xs ∧ IsBlank ys := by
  constructor
  · intro h
    by_cases hx : xs = []
    · have hempty : encodeSubject ys = "" := by
        rw [← h, hx]
        rfl
      exact Or.inr ⟨Or.inl hx, (encodeSubject_eq_empty_iff ys).mp hempty⟩
    by_cases hy : ys = []
    · have hempty : encodeSubject xs = "" := by
        rw [h, hy]
        rfl
      exact Or.inr ⟨(encodeSubject_eq_empty_iff xs).mp hempty, Or.inl hy⟩
    exact Or.inl (encodeSubject_injective xs ys hx hy h)
  · rintro (rfl | ⟨hx, hy⟩)
    · rfl
    · rw [(encodeSubject_eq_empty_iff xs).mpr hx, (encodeSubject_eq_empty_iff ys).mpr hy]

/-- The codec: subjects decode to their tokens; tokens on the wire have no separator, no wildcard
and valid escapes only; a subject belongs to one non-empty list; and a token that decodes is written
the same way again exactly when the encoder wrote it. -/
theorem subjectCodec :
    (∀ parts : List String, parts ≠ [] → decodeSubject (encodeSubject parts) = .ok parts) ∧
      (∀ token, (∀ ch ∈ (encodeToken token).toList, ch ≠ '.' ∧ ch ≠ '*' ∧ ch ≠ '>') ∧
        PercentCodec.EscapesValid (asBytes (encodeToken token))) ∧
      (∀ xs ys, xs ≠ [] → ys ≠ [] → encodeSubject xs = encodeSubject ys → xs = ys) ∧
      (∀ xs ys, encodeSubject xs = encodeSubject ys ↔ xs = ys ∨ IsBlank xs ∧ IsBlank ys) ∧
      ∀ token text, decodeToken token = .ok text →
        decodeToken (encodeToken text) = .ok text ∧
          (encodeToken text = token ↔ token ∈ Set.range encodeToken) := by
  refine ⟨decodeSubject_encodeSubject, ?_, encodeSubject_injective, encodeSubject_eq_iff, ?_⟩
  · intro token
    refine ⟨?_, encodeToken_escapesValid token⟩
    intro ch hch
    -- each of the three is escaped wherever it stands
    refine ⟨?_, ?_, ?_⟩
    · rintro rfl
      exact notMem_encodeToken _ (Or.inl rfl) token hch
    · rintro rfl
      exact notMem_encodeToken _ (Or.inr (Or.inl rfl)) token hch
    · rintro rfl
      exact notMem_encodeToken _ (Or.inr (Or.inr rfl)) token hch
  · intro token text h
    exact ⟨decodeToken_encodeToken text, encodeToken_eq_iff h⟩

-- a token with a lower-case escape that nothing needs is no encoding
example : decodeToken "m%61rs" = .ok "mars" ∧ encodeToken "mars" ≠ "m%61rs" := by
  decide +kernel

end AvisoServer
