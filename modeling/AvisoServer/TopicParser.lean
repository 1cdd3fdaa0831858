import AvisoServer.TopicCodec

/-!
# Topic bases

A base is the first token of every topic of a schema. It names the stream of the topic, so only a
narrow alphabet is accepted, and a valid base is its own encoding.
-/

namespace AvisoServer

/-! ## 1. Validation -/

def isAsciiAlphanumeric (b : UInt8) : Bool :=
  (48 ≤ b && b ≤ 57) || (65 ≤ b && b ≤ 90) || (97 ≤ b && b ≤ 122)

def isTopicBaseByte (b : UInt8) : Bool :=
  isAsciiAlphanumeric b || b = 95 || b = 45

/-- The base matches `[A-Za-z0-9][A-Za-z0-9_-]*`. -/
def isTopicBase (base : String) : Bool :=
  (asBytes base).head?.any isAsciiAlphanumeric && (asBytes base).all isTopicBaseByte

def validateTopicBase (base : String) : Result Unit :=
  if isTopicBase base then .ok () else .error ⟨[], .invalidTopicBase⟩

/-- `str::to_ascii_uppercase`. -/
def toAsciiUppercase (s : String) : String :=
  String.ofList (s.toList.map Char.toUpper)

theorem toUpper_toLower (c : Char) : c.toLower.toUpper = c.toUpper := by
  by_cases hascii : c.toNat < 128
  · have hall : ∀ n < 128, (Char.ofNat n).toLower.toUpper = (Char.ofNat n).toUpper := by
      decide +kernel
    have h := hall c.toNat hascii
    rwa [Char.ofNat_toNat] at h
  · rw [toLower_of_not_ascii hascii]

/-- Names that differ only in the case of ASCII letters name one stream. -/
theorem toAsciiUppercase_of_lowered {s t : String}
    (h : toAsciiLowercase s = toAsciiLowercase t) : toAsciiUppercase s = toAsciiUppercase t := by
  have hupper : ∀ text, toAsciiUppercase (toAsciiLowercase text) = toAsciiUppercase text := by
    intro text
    unfold toAsciiUppercase toAsciiLowercase
    rw [String.toList_ofList, List.map_map]
    congr 1
    exact List.map_congr_left fun c _ => toUpper_toLower c
  rw [← hupper s, h, hupper t]

theorem toUpper_of_not_ascii {c : Char} (h : ¬ c.toNat < 128) : c.toUpper = c := by
  unfold Char.toUpper
  rw [dif_neg]
  intro hlower
  have hbound : c.toNat ≤ 122 := hlower.2
  omega

/-- The upper case of a name is still the name, up to the case of ASCII letters. -/
theorem toAsciiLowercase_toAsciiUppercase (s : String) :
    toAsciiLowercase (toAsciiUppercase s) = toAsciiLowercase s := by
  have hchar : ∀ c : Char, c.toUpper.toLower = c.toLower := by
    intro c
    by_cases hascii : c.toNat < 128
    · have hall : ∀ n < 128, (Char.ofNat n).toUpper.toLower = (Char.ofNat n).toLower := by
        decide +kernel
      have h := hall c.toNat hascii
      rwa [Char.ofNat_toNat] at h
    · rw [toUpper_of_not_ascii hascii]
  unfold toAsciiUppercase toAsciiLowercase
  rw [String.toList_ofList, List.map_map]
  congr 1
  exact List.map_congr_left fun c _ => hchar c

structure TopicBinding where
  streamName : String
  subjectPattern : String
  deriving DecidableEq, Repr

def TopicBinding.new (base : String) : Result TopicBinding := do
  validateTopicBase base
  .ok { streamName := toAsciiUppercase base, subjectPattern := base ++ ".>" }

def deriveEventTypeFromTopic (topic : String) : Result String :=
  decodeSubjectBase topic

def deriveStreamNameFromTopic (topic : String) : Result String := do
  let eventType ← withContext "Failed to derive event type for stream name"
    (deriveEventTypeFromTopic topic)
  let binding ← TopicBinding.new eventType
  .ok binding.streamName

/-! ## 2. Valid bases -/

theorem validateTopicBase_eq_ok (base : String) :
    validateTopicBase base = .ok () ↔ isTopicBase base = true := by
  rw [validateTopicBase]
  split_ifs with h <;> simp [h]

theorem isTopicBaseByte_plain (b : UInt8) (hb : isTopicBaseByte b = true) :
    b.toNat < 128 ∧ isReservedByte b = false := by
  have hall : ∀ n < 256, isTopicBaseByte (UInt8.ofNat n) = true →
      n < 128 ∧ isReservedByte (UInt8.ofNat n) = false := by
    decide +kernel
  have h := hall b.toNat b.toNat_lt
  rw [UInt8.ofNat_toNat] at h
  exact h hb

/-- The characters of a base are ASCII, and each is one byte of the base. -/
theorem isTopicBase_bytes (base : String) (hbase : isTopicBase base = true) :
    ∀ ch ∈ base.toList, ch.toNat < 128 ∧ isTopicBaseByte (UInt8.ofNat ch.toNat) = true := by
  intro ch hch
  simp only [isTopicBase, Bool.and_eq_true, List.all_eq_true] at hbase
  have hbytes : ∀ b ∈ String.utf8EncodeChar ch, isTopicBaseByte b = true := fun b hb =>
    hbase.2 b (List.mem_flatMap.mpr ⟨ch, hch, hb⟩)
  by_cases hascii : ch.toNat < 128
  · exact ⟨hascii, hbytes (UInt8.ofNat ch.toNat) (by simp [utf8EncodeChar_ascii ch hascii])⟩
  · obtain ⟨b, hb⟩ := List.exists_mem_of_ne_nil _ (String.utf8EncodeChar_ne_nil (c := ch))
    have hhigh := utf8EncodeChar_high ch (by omega) b hb
    have hlow := (isTopicBaseByte_plain b (hbytes b hb)).1
    omega

theorem isTopicBase_chars (base : String) (hbase : isTopicBase base = true) :
    ∀ ch ∈ base.toList, isReservedChar ch = false := by
  intro ch hch
  have hplain := (isTopicBaseByte_plain _ (isTopicBase_bytes base hbase ch hch).2).2
  by_contra hres
  have hres' : isReservedChar ch = true := by simpa using hres
  simp only [isReservedChar, Bool.or_eq_true, decide_eq_true_eq] at hres'
  rcases hres' with ((rfl | rfl) | rfl) | rfl <;> revert hplain <;> decide

theorem encodeToken_of_plain (token : String)
    (hplain : ∀ ch ∈ token.toList, isReservedChar ch = false) : encodeToken token = token := by
  have h (chars : List Char) (hc : ∀ ch ∈ chars, isReservedChar ch = false) :
      chars.flatMap encodeChar = chars := by
    induction chars with
    | nil => rfl
    | cons ch chars ih =>
      rw [List.flatMap_cons, encodeChar, hc ch List.mem_cons_self,
        ih fun c hmem => hc c (List.mem_cons_of_mem ch hmem)]
      rfl
  rw [encodeToken, h _ hplain, String.ofList_toList]

/-- A valid base is written on the wire as it is. -/
theorem encodeToken_of_isTopicBase (base : String) (hbase : isTopicBase base = true) :
    encodeToken base = base :=
  encodeToken_of_plain base (isTopicBase_chars base hbase)

theorem isTopicBase_ne_empty (base : String) (hbase : isTopicBase base = true) : base ≠ "" := by
  rintro rfl
  revert hbase
  decide

theorem isTopicBase_ne_wildcard (base : String) (hbase : isTopicBase base = true) :
    base ≠ "*" := by
  rintro rfl
  revert hbase
  decide

theorem decodeSubjectBase_topic (base : String) (values : List String)
    (hbase : isTopicBase base = true) :
    decodeSubjectBase (encodeSubject (base :: values)) = .ok base := by
  apply decodeSubjectBase_encodeSubject
  rw [encodeToken_of_isTopicBase base hbase]
  exact isTopicBase_ne_empty base hbase

theorem deriveStreamNameFromTopic_encodeSubject (base : String) (rest : List String)
    (hbase : isTopicBase base = true) :
    deriveStreamNameFromTopic (encodeSubject (base :: rest)) = .ok (toAsciiUppercase base) := by
  have hvalid := (validateTopicBase_eq_ok base).mpr hbase
  simp only [deriveStreamNameFromTopic, deriveEventTypeFromTopic,
    decodeSubjectBase_topic base rest hbase, withContext_ok, TopicBinding.new, hvalid, bind,
    Except.bind]

end AvisoServer
