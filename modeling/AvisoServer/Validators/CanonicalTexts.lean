import AvisoServer.Validators.Handlers

/-!
# Canonical texts

What the handler of a scalar field returns, and which characters are in it.
-/

namespace AvisoServer

/-! ## 1. Characters -/

/-- Whitespace and control characters end a word on the wire. -/
def isBlankChar (c : Char) : Bool :=
  isWhitespaceChar c || isControlChar c

/-- A visible ASCII character. -/
def isVisibleAscii (c : Char) : Bool :=
  33 ≤ c.toNat && c.toNat ≤ 126

theorem visible_no_blank {c : Char} (h : isVisibleAscii c = true) : isBlankChar c = false := by
  unfold isVisibleAscii at h
  unfold isBlankChar isWhitespaceChar isControlChar
  simp at h ⊢
  omega

theorem digit_visible {c : Char} (h : c.isDigit = true) : isVisibleAscii c = true := by
  have hrange : 48 ≤ c.toNat ∧ c.toNat ≤ 57 := Char.isDigit_iff_toNat.mp h
  unfold isVisibleAscii
  simp
  omega

/-- A text that is one word on the wire. -/
structure IsWord (text : String) : Prop where
  nonempty : text ≠ ""
  unblank : ∀ c ∈ text.toList, isBlankChar c = false

theorem isWord_of_visible {text : String} (hne : text ≠ "")
    (hvisible : ∀ c ∈ text.toList, isVisibleAscii c = true) : IsWord text where
  nonempty := hne
  unblank c hc := visible_no_blank (hvisible c hc)

theorem IsWord.append {left right : String} (hleft : IsWord left) (hright : IsWord right) :
    IsWord (left ++ right) where
  nonempty := by
    intro hempty
    have hlist := congrArg String.toList hempty
    rw [String.toList_append] at hlist
    exact hleft.nonempty (String.toList_eq_nil_iff.mp (List.append_eq_nil_iff.mp hlist).1)
  unblank c hc := by
    rw [String.toList_append, List.mem_append] at hc
    cases hc with
    | inl hc => exact hleft.unblank c hc
    | inr hc => exact hright.unblank c hc

/-- The digits of a number, with zeros in front. -/
theorem zeroPadded_digits (width n : Nat) :
    zeroPadded width n ≠ "" ∧ ∀ c ∈ (zeroPadded width n).toList, c.isDigit = true := by
  have htext : (zeroPadded width n).toList = (Nat.toDigits 10 n).leftpad width '0' :=
    String.toList_ofList
  constructor
  · intro hempty
    rw [hempty] at htext
    have hnil := (List.append_eq_nil_iff.mp htext.symm).2
    exact Nat.toDigits_ne_nil hnil
  · intro c hc
    rw [htext] at hc
    cases List.mem_append.mp hc with
    | inl hzero =>
      rw [List.eq_of_mem_replicate hzero]
      decide
    | inr hdigit => exact Nat.isDigit_of_mem_toDigits (by decide) (by decide) hdigit

theorem zeroPadded_isWord (width n : Nat) : IsWord (zeroPadded width n) := by
  obtain ⟨hne, hdigits⟩ := zeroPadded_digits width n
  exact isWord_of_visible hne fun c hc => digit_visible (hdigits c hc)

/-! ## 2. Strings, enumerations and experiment versions -/

section Texts

variable {value fieldName text : String}

/-- A string is stored as it is. -/
theorem StringHandler.canonical {maxLength : Option Nat}
    (h : StringHandler.validateAndCanonicalize value maxLength fieldName = .ok text) :
    text = value ∧ value ≠ "" := by
  unfold StringHandler.validateAndCanonicalize at h
  by_cases hempty : value = ""
  · rw [if_pos hempty] at h
    cases h
  · rw [if_neg hempty] at h
    cases maxLength with
    | none =>
      cases h
      exact ⟨rfl, hempty⟩
    | some maxLen =>
      simp only at h
      split at h
      · cases h
      · cases h
        exact ⟨rfl, hempty⟩

theorem EnumHandler.canonical {toLowercase : String → String} {allowedValues : List String}
    (h : EnumHandler.validateAndCanonicalize toLowercase value allowedValues fieldName = .ok text) :
    text = toLowercase value ∧ ∃ allowed ∈ allowedValues, text = toLowercase allowed := by
  unfold EnumHandler.validateAndCanonicalize at h
  simp only at h
  split at h
  · rename_i hany
    cases h
    obtain ⟨allowed, hmem, heq⟩ := List.any_eq_true.mp hany
    exact ⟨rfl, allowed, hmem, (of_decide_eq_true heq).symm⟩
  · cases h

/-- An experiment version is read from the request, or from the default for an empty text. -/
theorem ExpverHandler.canonical {toLowercase : String → String} {default : Option String}
    (h : ExpverHandler.validateAndCanonicalize toLowercase value default fieldName = .ok text) :
    ∃ source, (source = value ∧ value ≠ "" ∨ value = "" ∧ default = some source) ∧
      text = canonicalizeExpver toLowercase source := by
  unfold ExpverHandler.validateAndCanonicalize at h
  by_cases hempty : value = ""
  · rw [if_pos hempty] at h
    cases default with
    | none => cases h
    | some defaultVal =>
      cases h
      exact ⟨defaultVal, Or.inr ⟨hempty, rfl⟩, rfl⟩
  · rw [if_neg hempty] at h
    cases h
    exact ⟨value, Or.inl ⟨rfl, hempty⟩, rfl⟩

theorem ExpverHandler.canonicalizeExpver_ne_empty {toLowercase : String → String}
    (hlower : ∀ text, toLowercase text = "" → text = "") (hvalue : value ≠ "") :
    canonicalizeExpver toLowercase value ≠ "" := by
  unfold canonicalizeExpver
  split
  · exact (zeroPadded_isWord _ _).nonempty
  · exact fun hempty => hvalue (hlower value hempty)

/-! ## 3. Numbers -/

theorem IntHandler.canonical {range : Option (Int × Int)}
    (h : IntHandler.validateAndCanonicalize value range fieldName = .ok text) :
    ∃ n, parseInt i64 value = .ok n ∧ text = toString n := by
  obtain ⟨n, hn, h⟩ := bind_eq_ok.mp h
  have hparse := mapError_eq_ok.mp ((withContext_eq_ok _ _ _).mp hn)
  refine ⟨n, hparse, ?_⟩
  split at h
  · split at h
    · cases h
    · cases h
      rfl
  · cases h
    rfl

theorem parseF64_eq_ok {x : F64} (h : parseF64 value = .ok x) : Binary64.parse value = some x := by
  unfold parseF64 at h
  cases hfound : Binary64.parse value with
  | none =>
    rw [hfound] at h
    cases h
  | some found =>
    rw [hfound] at h
    cases h
    rfl

theorem FloatHandler.canonical {range : Option (F64 × F64)}
    (h : FloatHandler.validateAndCanonicalize value range fieldName = .ok text) :
    ∃ x, Binary64.parse value = some x ∧ x.isFinite = true ∧ text = x.display := by
  obtain ⟨x, hx, h⟩ := bind_eq_ok.mp h
  have hparse := parseF64_eq_ok (mapError_eq_ok.mp ((withContext_eq_ok _ _ _).mp hx))
  split at h
  · cases h
  rename_i hfinite
  refine ⟨x, hparse, by simpa using hfinite, ?_⟩
  split at h
  · split at h
    · cases h
    · cases h
      rfl
  · cases h
    rfl

theorem toString_int_isWord (n : Int) : IsWord (toString n) := by
  have hdigits : ∀ m : Nat, IsWord (toString m) := by
    intro m
    have htext : (toString m).toList = Nat.toDigits 10 m := Nat.toList_repr
    apply isWord_of_visible
    · intro hempty
      rw [hempty] at htext
      exact Nat.toDigits_ne_nil htext.symm
    · intro c hc
      rw [htext] at hc
      exact digit_visible (Nat.isDigit_of_mem_toDigits (by decide) (by decide) hc)
  cases n with
  | ofNat m => exact hdigits m
  | negSucc m =>
    have hsign : IsWord "-" := isWord_of_visible (by decide) (List.all_eq_true.mp (by decide))
    exact hsign.append (hdigits (m + 1))

theorem display_visible (x : F64) : ∀ c ∈ x.display.toList, isVisibleAscii c = true := by
  intro c hc
  cases Binary64.display_chars x c hc with
  | inl hdigit => exact digit_visible hdigit
  | inr hmark =>
    have hmarks : ['-', '.', 'N', 'a', 'i', 'n', 'f'].all isVisibleAscii = true := by decide
    exact List.all_eq_true.mp hmarks c hmark

theorem display_isWord (x : F64) : IsWord x.display := by
  refine isWord_of_visible ?_ (display_visible x)
  intro hempty
  have hread := Binary64.parse_display x
  rw [hempty] at hread
  cases (show (none : Option F64) = some x from hread)

/-! ## 4. Dates and times -/

theorem DateHandler.canonical {lib : Libraries} {canonicalFormat : String}
    (h : DateHandler.validateAndCanonicalize lib value canonicalFormat fieldName = .ok text) :
    ∃ date, text = lib.formatDate date canonicalFormat ∧
      (canonicalFormat = "%Y%m%d" ∨ canonicalFormat = "%Y-%m-%d") := by
  obtain ⟨date, -, h⟩ := bind_eq_ok.mp h
  split at h
  · rename_i hformat
    cases h
    exact ⟨date, by rw [hformat], Or.inl hformat⟩
  · split at h
    · rename_i hformat
      cases h
      exact ⟨date, by rw [hformat], Or.inr hformat⟩
    · cases h

/-- What an integer reads from is a word. -/
theorem parseInt_visible {type : IntType} {n : Int} (h : parseInt type value = .ok n) :
    ∀ c ∈ value.toList, isVisibleAscii c = true := by
  intro c hc
  rcases parseInt_digits h c hc with hdigit | rfl | rfl
  · exact digit_visible hdigit
  · decide
  · decide

theorem parseCaptures_eq_ok {hours minutes : String} {time : Int × Int}
    (h : TimeHandler.parseCaptures hours minutes fieldName = .ok time) :
    parseInt u32 hours = .ok time.1 ∧ parseInt u32 minutes = .ok time.2 := by
  obtain ⟨parsedHours, hhours, h⟩ := bind_eq_ok.mp h
  obtain ⟨parsedMinutes, hminutes, h⟩ := bind_eq_ok.mp h
  obtain ⟨-, -, h⟩ := bind_eq_ok.mp h
  obtain ⟨-, -, h⟩ := bind_eq_ok.mp h
  cases h
  exact ⟨mapError_eq_ok.mp ((withContext_eq_ok _ _ _).mp hhours),
    mapError_eq_ok.mp ((withContext_eq_ok _ _ _).mp hminutes)⟩

/-- The compact form keeps the text, whose captures are its characters. -/
theorem captureCompact_chars {isDecimalDigit : Char → Bool} {chars : List Char}
    {captures : String × String}
    (h : TimeHandler.captureCompact isDecimalDigit chars = some captures) :
    chars ≠ [] ∧ chars = captures.1.toList ++ captures.2.toList := by
  unfold TimeHandler.captureCompact at h
  split at h
  · split at h
    · cases h
      exact ⟨List.cons_ne_nil _ _, by simp⟩
    · cases h
  · cases h

/-- A time is stored as its digits. -/
theorem TimeHandler.canonical_isWord {lib : Libraries}
    (h : TimeHandler.validateAndCanonicalize lib value fieldName = .ok text) : IsWord text := by
  obtain ⟨hourOnly, hhour, h⟩ := bind_eq_ok.mp h
  cases hourOnly with
  | some canonicalTime =>
    cases h
    unfold handleHourOnlyFormat at hhour
    split at hhour
    · obtain ⟨hour, -, hhour⟩ := bind_eq_ok.mp hhour
      obtain ⟨-, -, hhour⟩ := bind_eq_ok.mp hhour
      cases hhour
      have hminutes : IsWord "00" := isWord_of_visible (by decide) (List.all_eq_true.mp (by decide))
      exact (zeroPadded_isWord _ _).append hminutes
    · cases hhour
  | none =>
    simp only at h
    split at h
    · unfold handleColonFormat at h
      split at h
      · obtain ⟨time, -, h⟩ := bind_eq_ok.mp h
        cases h
        exact (zeroPadded_isWord _ _).append (zeroPadded_isWord _ _)
      · cases h
    split at h
    · unfold handleCompactFormat at h
      split at h
      · rename_i hours minutes hcapture
        obtain ⟨time, htime, h⟩ := bind_eq_ok.mp h
        cases h
        obtain ⟨hne, hchars⟩ := captureCompact_chars hcapture
        obtain ⟨hhours, hminutes⟩ := parseCaptures_eq_ok htime
        apply isWord_of_visible
        · exact fun hempty => hne (String.toList_eq_nil_iff.mpr hempty)
        · intro c hc
          rw [hchars, List.mem_append] at hc
          cases hc with
          | inl hc => exact parseInt_visible hhours c hc
          | inr hc => exact parseInt_visible hminutes c hc
      · cases h
    · cases h

end Texts

end AvisoServer
