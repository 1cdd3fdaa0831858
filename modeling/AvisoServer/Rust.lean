import Mathlib.Data.List.AList
import Mathlib.Data.List.Sort

/-!
# Library types the server code is written in

Errors, results, hash maps and strings, with the few operations the modelled functions call.
-/

namespace AvisoServer

/-! ## 1. Errors -/

/-- The innermost cause of an error: a formatted text, or the one typed error callers test for. -/
inductive ErrorSource where
  | message (text : String)
  | invalidTopicBase
  deriving DecidableEq, Repr

/-- An `anyhow::Error`: its cause and the contexts put around it, outermost first. -/
structure Error where
  context : List String
  source : ErrorSource
  deriving DecidableEq, Repr

abbrev Result := Except Error

def ErrorSource.text : ErrorSource → String
  | .message text => text
  | .invalidTopicBase => "topic base must match [A-Za-z0-9][A-Za-z0-9_-]*"

/-- `error.to_string()`: the outermost text only. -/
def Error.toString (e : Error) : String :=
  e.context.headD e.source.text

/-- The texts of an error and of its causes. -/
def Error.chain (e : Error) : List String :=
  e.context ++ [e.source.text]

def bail {α : Type} (text : String) : Result α :=
  .error ⟨[], .message text⟩

def withContext {α : Type} (text : String) (r : Result α) : Result α :=
  r.mapError fun e => { e with context := text :: e.context }

@[simp] theorem withContext_ok {α : Type} (text : String) (a : α) :
    withContext text (.ok a) = .ok a := rfl

theorem withContext_eq_ok {α : Type} (text : String) (r : Result α) (a : α) :
    withContext text r = .ok a ↔ r = .ok a := by
  cases r with
  | error e => simp [withContext, Except.mapError]
  | ok b => simp

/-- A sequence of two steps succeeds when both do. -/
theorem bind_eq_ok {ε α β : Type} {x : Except ε α} {f : α → Except ε β} {b : β} :
    x >>= f = .ok b ↔ ∃ a, x = .ok a ∧ f a = .ok b := by
  cases x with
  | error e => simp [bind, Except.bind]
  | ok a => simp [bind, Except.bind]

theorem map_eq_ok {ε α β : Type} {x : Except ε α} {f : α → β} {b : β} :
    f <$> x = .ok b ↔ ∃ a, x = .ok a ∧ f a = b := by
  cases x with
  | error e => simp [Functor.map, Except.map]
  | ok a => simp [Functor.map, Except.map]

theorem mapError_eq_ok {ε ε' α : Type} {x : Except ε α} {f : ε → ε'} {a : α} :
    x.mapError f = .ok a ↔ x = .ok a := by
  cases x with
  | error e => simp [Except.mapError]
  | ok b => simp [Except.mapError]

theorem toOption_eq_some {ε α : Type} {x : Except ε α} {a : α} :
    x.toOption = some a ↔ x = .ok a := by
  cases x with
  | error e => simp [Except.toOption]
  | ok b => simp [Except.toOption]

theorem exists_of_isOk {ε α : Type} {x : Except ε α} (h : x.isOk = true) : ∃ a, x = .ok a := by
  cases x with
  | error e => cases h
  | ok a => exact ⟨a, rfl⟩

/-- A loop of checks succeeds when every check does. -/
theorem forM_eq_ok {ε α : Type} {check : α → Except ε Unit} {items : List α} :
    items.forM check = .ok () ↔ ∀ item ∈ items, check item = .ok () := by
  induction items with
  | nil => simp [pure, Except.pure]
  | cons item items ih =>
    change (check item >>= fun _ => items.forM check) = .ok () ↔ _
    rw [bind_eq_ok]
    constructor
    · rintro ⟨_, hitem, hitems⟩
      exact List.forall_mem_cons.mpr ⟨hitem, ih.mp hitems⟩
    · intro hall
      obtain ⟨hitem, hitems⟩ := List.forall_mem_cons.mp hall
      exact ⟨(), hitem, ih.mpr hitems⟩

/-! ## 2. Maps -/

/-- A `HashMap<String, α>`; the order of the entries stands for the iteration order. -/
abbrev HashMap (α : Type) := AList fun _ : String => α

namespace HashMap

variable {α : Type}

abbrev get (m : HashMap α) (key : String) : Option α := AList.lookup key m

/-- The values, in iteration order. -/
def values (m : HashMap α) : List α := m.entries.map Sigma.snd

theorem dlookup_kreplace (key other : String) (value : α)
    (entries : List (Sigma fun _ : String => α)) :
    List.dlookup other (entries.kreplace key value) =
      if other = key then (List.dlookup other entries).map fun _ => value
      else List.dlookup other entries := by
  induction entries with
  | nil => simp [List.kreplace]
  | cons entry entries ih =>
    obtain ⟨head, found⟩ := entry
    by_cases hkey : key = head
    · subst hkey
      have hreplace : List.kreplace key value (⟨key, found⟩ :: entries) =
          ⟨key, value⟩ :: entries := List.lookmap_cons_some _ _ (if_pos rfl)
      rw [hreplace]
      by_cases hother : other = key
      · subst hother
        simp
      · rw [if_neg hother, List.dlookup_cons_ne _ _ hother, List.dlookup_cons_ne _ _ hother]
    · have hreplace : List.kreplace key value (⟨head, found⟩ :: entries) =
          ⟨head, found⟩ :: List.kreplace key value entries :=
        List.lookmap_cons_none _ _ (if_neg hkey)
      rw [hreplace]
      by_cases hother : other = head
      · subst hother
        rw [if_neg (Ne.symm hkey), List.dlookup_cons_eq, List.dlookup_cons_eq]
      · rw [List.dlookup_cons_ne _ _ hother, List.dlookup_cons_ne _ _ hother, ih]

theorem get_replace (m : HashMap α) (key other : String) (value : α) :
    get (m.replace key value) other =
      if other = key then (m.get other).map fun _ => value else m.get other :=
  dlookup_kreplace key other value m.entries

/-- `into_iter().map(..).collect()` of a map that changes values only. -/
def mapValues {β : Type} (f : α → β) (m : HashMap α) : HashMap β where
  entries := m.entries.map fun entry => ⟨entry.1, f entry.2⟩
  nodupKeys := by
    unfold List.NodupKeys List.keys
    rw [List.map_map]
    exact m.nodupKeys

theorem get_mapValues {β : Type} (f : α → β) (m : HashMap α) (key : String) :
    (m.mapValues f).get key = (m.get key).map f := by
  show List.dlookup key
      (m.entries.map fun entry => (⟨entry.1, f entry.2⟩ : Sigma fun _ : String => β)) =
    (List.dlookup key m.entries : Option α).map f
  induction m.entries with
  | nil => rfl
  | cons entry entries ih =>
    obtain ⟨head, value⟩ := entry
    rw [List.map_cons]
    by_cases hkey : key = head
    · subst hkey
      rw [List.dlookup_cons_eq, List.dlookup_cons_eq]
      rfl
    · rw [List.dlookup_cons_ne _ _ hkey, List.dlookup_cons_ne _ _ hkey, ih]

end HashMap

/-! ## 3. Iterators -/

/-- `Iterator::min_by_key`: the first of the elements with the least key. -/
def minByKey {α : Type} (key : α → Int) : List α → Option α
  | [] => none
  | x :: rest =>
    match minByKey key rest with
    | some least => if key least < key x then some least else some x
    | none => some x

/-! ## 4. Strings -/

/-- `str::as_bytes`. -/
def asBytes (s : String) : List UInt8 :=
  s.toList.flatMap String.utf8EncodeChar

/-- `String::from_utf8`. -/
def fromUtf8 (bytes : List UInt8) : Option String :=
  (ByteArray.utf8Decode? ⟨bytes.toArray⟩).map fun chars => String.ofList chars.toList

structure Utf8Error where
  validUpTo : Nat
  errorLen : Option Nat

def Utf8Error.text (e : Utf8Error) : String :=
  match e.errorLen with
  | some length =>
    "invalid utf-8 sequence of " ++ toString length ++ " bytes from index " ++
      toString e.validUpTo
  | none => "incomplete utf-8 byte sequence from index " ++ toString e.validUpTo

/-- The ranges of the bytes that follow the first byte of a character. -/
def utf8Tail (first : UInt8) : Option (List (UInt8 × UInt8)) :=
  if first < 0x80 then some []
  else if 0xC2 ≤ first ∧ first ≤ 0xDF then some [(0x80, 0xBF)]
  else if first = 0xE0 then some [(0xA0, 0xBF), (0x80, 0xBF)]
  else if first = 0xED then some [(0x80, 0x9F), (0x80, 0xBF)]
  else if 0xE1 ≤ first ∧ first ≤ 0xEF then some [(0x80, 0xBF), (0x80, 0xBF)]
  else if first = 0xF0 then some [(0x90, 0xBF), (0x80, 0xBF), (0x80, 0xBF)]
  else if 0xF1 ≤ first ∧ first ≤ 0xF3 then some [(0x80, 0xBF), (0x80, 0xBF), (0x80, 0xBF)]
  else if first = 0xF4 then some [(0x80, 0x8F), (0x80, 0xBF), (0x80, 0xBF)]
  else none

/-- The first error behind `read` bytes of the character at `start`, which wants the ranges. -/
def scanUtf8 (start read : Nat) : List (UInt8 × UInt8) → List UInt8 → Option Utf8Error
  | [], [] => none
  | _ :: _, [] => some ⟨start, none⟩
  | (low, high) :: wanted, byte :: bytes =>
    if low ≤ byte ∧ byte ≤ high then scanUtf8 start (read + 1) wanted bytes
    else some ⟨start, some read⟩
  | [], byte :: bytes =>
    match utf8Tail byte with
    | some wanted => scanUtf8 (start + read) 1 wanted bytes
    | none => some ⟨start + read, some 1⟩

/-- The error that `String::from_utf8` returns, if there is one. -/
def utf8Error (bytes : List UInt8) : Option Utf8Error := scanUtf8 0 0 [] bytes

/-- `str::split` at one character. -/
def splitChar (s : String) (sep : Char) : List String :=
  (s.toList.splitOn sep).map String.ofList

/-- `[String]::join` with a one-character separator. -/
def joinChar (parts : List String) (sep : Char) : String :=
  String.ofList ([sep].intercalate (parts.map String.toList))

/-- The format `{:02X}`. -/
def hexUpper2 (n : Nat) : List Char :=
  ((Nat.toDigits 16 n).map Char.toUpper).leftpad 2 '0'

/-- `char::is_whitespace`, the Unicode property `White_Space`. -/
def isWhitespaceChar (c : Char) : Bool :=
  (9 ≤ c.toNat && c.toNat ≤ 13) || c.toNat = 32 || c.toNat = 133 || c.toNat = 160 ||
    c.toNat = 5760 || (8192 ≤ c.toNat && c.toNat ≤ 8202) || c.toNat = 8232 || c.toNat = 8233 ||
    c.toNat = 8239 || c.toNat = 8287 || c.toNat = 12288

/-- `char::is_control`, the Unicode category `Cc`. -/
def isControlChar (c : Char) : Bool :=
  c.toNat < 32 || (127 ≤ c.toNat && c.toNat ≤ 159)

/-- `str::trim`. -/
def trim (s : String) : String :=
  String.ofList ((s.toList.dropWhile isWhitespaceChar).reverse.dropWhile isWhitespaceChar).reverse

/-- `str::trim_start`. -/
def trimStart (s : String) : String :=
  String.ofList (s.toList.dropWhile isWhitespaceChar)

/-- `str::split_whitespace`. -/
def splitWhitespace (s : String) : List String :=
  ((s.toList.splitOnP isWhitespaceChar).filter fun part => !part.isEmpty).map String.ofList

/-- `str::split_once` at one character. -/
def splitOnce (s : String) (sep : Char) : Option (String × String) :=
  if sep ∈ s.toList then
    some (String.ofList (s.toList.takeWhile (· ≠ sep)),
      String.ofList ((s.toList.dropWhile (· ≠ sep)).drop 1))
  else none

/-- `str::eq_ignore_ascii_case`. -/
def eqIgnoreAsciiCase (s t : String) : Bool :=
  s.toList.map Char.toLower = t.toList.map Char.toLower

/-- `str::len`. -/
def byteLength (s : String) : Nat := (asBytes s).length

/-- `str::to_ascii_lowercase`. -/
def toAsciiLowercase (s : String) : String :=
  String.ofList (s.toList.map Char.toLower)

/-- `[String]::join`. -/
def joinText (parts : List String) (sep : String) : String :=
  String.ofList (sep.toList.intercalate (parts.map String.toList))

/-- The order of strings, which is that of their characters. -/
def charsLe : List Char → List Char → Bool
  | [], _ => true
  | _ :: _, [] => false
  | c :: cs, d :: ds =>
    if c.toNat < d.toNat then true else if d.toNat < c.toNat then false else charsLe cs ds

/-- `sort` of a list of strings. -/
def sortStrings (texts : List String) : List String :=
  texts.insertionSort fun s t => charsLe s.toList t.toList = true

theorem charsLe_cons (c d : Char) (cs ds : List Char) :
    charsLe (c :: cs) (d :: ds) = true ↔
      c.toNat < d.toNat ∨ c.toNat = d.toNat ∧ charsLe cs ds = true := by
  show (if c.toNat < d.toNat then true else if d.toNat < c.toNat then false else charsLe cs ds) =
    true ↔ _
  rcases Nat.lt_trichotomy c.toNat d.toNat with hlt | heq | hgt
  · simp [hlt]
  · simp [heq]
  · rw [if_neg (by omega), if_pos hgt]
    simp only [Bool.false_eq_true, false_iff]
    omega

theorem charsLe_total (cs ds : List Char) : charsLe cs ds = true ∨ charsLe ds cs = true := by
  induction cs generalizing ds with
  | nil => exact Or.inl rfl
  | cons c cs ih =>
    cases ds with
    | nil => exact Or.inr rfl
    | cons d ds =>
      rw [charsLe_cons, charsLe_cons]
      rcases Nat.lt_trichotomy c.toNat d.toNat with hlt | heq | hgt
      · exact Or.inl (Or.inl hlt)
      · cases ih ds with
        | inl hle => exact Or.inl (Or.inr ⟨heq, hle⟩)
        | inr hle => exact Or.inr (Or.inr ⟨heq.symm, hle⟩)
      · exact Or.inr (Or.inl hgt)

theorem charsLe_trans {cs ds es : List Char} (hcd : charsLe cs ds = true)
    (hde : charsLe ds es = true) : charsLe cs es = true := by
  induction cs generalizing ds es with
  | nil => rfl
  | cons c cs ih =>
    cases ds with
    | nil => cases hcd
    | cons d ds =>
      cases es with
      | nil => cases hde
      | cons e es =>
        rw [charsLe_cons] at hcd hde ⊢
        rcases hcd with hcd | ⟨hcd, hcds⟩
        · left; omega
        · rcases hde with hde | ⟨hde, hdes⟩
          · left; omega
          · exact Or.inr ⟨by omega, ih hcds hdes⟩

theorem charsLe_antisymm {cs ds : List Char} (hcd : charsLe cs ds = true)
    (hdc : charsLe ds cs = true) : cs = ds := by
  induction cs generalizing ds with
  | nil =>
    cases ds with
    | nil => rfl
    | cons d ds => cases hdc
  | cons c cs ih =>
    cases ds with
    | nil => cases hcd
    | cons d ds =>
      rw [charsLe_cons] at hcd hdc
      have heq : c.toNat = d.toNat := by omega
      have hle : charsLe cs ds = true ∧ charsLe ds cs = true :=
        ⟨(hcd.resolve_left (by omega)).2, (hdc.resolve_left (by omega)).2⟩
      rw [Char.toNat_inj.mp heq, ih hle.1 hle.2]

/-- Sorted strings do not depend on the order they came in. -/
theorem sortStrings_congr {texts others : List String} (h : texts.Perm others) :
    sortStrings texts = sortStrings others := by
  let le := fun s t : String => charsLe s.toList t.toList = true
  have : Std.Total le := ⟨fun s t => charsLe_total s.toList t.toList⟩
  have : IsTrans String le := ⟨fun s t u hst htu => charsLe_trans hst htu⟩
  have : Std.Antisymm le := ⟨fun s t hst hts => String.toList_inj.mp (charsLe_antisymm hst hts)⟩
  have hperm := ((List.perm_insertionSort le texts).trans h).trans
    (List.perm_insertionSort le others).symm
  exact hperm.eq_of_pairwise' (List.pairwise_insertionSort le texts)
    (List.pairwise_insertionSort le others)

theorem sortStrings_perm (texts : List String) : (sortStrings texts).Perm texts :=
  List.perm_insertionSort _ texts

/-- The format `{:0width}` of an unsigned integer. -/
def zeroPadded (width n : Nat) : String :=
  String.ofList ((Nat.toDigits 10 n).leftpad width '0')

theorem toLower_of_not_ascii {c : Char} (h : ¬ c.toNat < 128) : c.toLower = c := by
  unfold Char.toLower
  rw [dif_neg]
  intro hupper
  have hbound : c.toNat ≤ 90 := hupper.2
  omega

theorem toAsciiLowercase_idem (s : String) :
    toAsciiLowercase (toAsciiLowercase s) = toAsciiLowercase s := by
  have hchar : ∀ c : Char, c.toLower.toLower = c.toLower := by
    intro c
    by_cases hascii : c.toNat < 128
    · have hall : ∀ n < 128, (Char.ofNat n).toLower.toLower = (Char.ofNat n).toLower := by
        decide +kernel
      have h := hall c.toNat hascii
      rwa [Char.ofNat_toNat] at h
    · rw [toLower_of_not_ascii hascii, toLower_of_not_ascii hascii]
  unfold toAsciiLowercase
  rw [String.toList_ofList, List.map_map]
  congr 1
  exact List.map_congr_left fun c _ => hchar c

theorem eqIgnoreAsciiCase_iff {s t : String} :
    eqIgnoreAsciiCase s t = true ↔ toAsciiLowercase s = toAsciiLowercase t := by
  unfold eqIgnoreAsciiCase toAsciiLowercase
  rw [decide_eq_true_iff, String.ofList_inj]

theorem toAsciiLowercase_append (s t : String) :
    toAsciiLowercase (s ++ t) = toAsciiLowercase s ++ toAsciiLowercase t := by
  unfold toAsciiLowercase
  rw [String.toList_append, List.map_append, String.ofList_append]

theorem toList_toAsciiLowercase (s : String) :
    (toAsciiLowercase s).toList = s.toList.map Char.toLower :=
  String.toList_ofList

/-- Literals are their characters, so that a property of the characters is decided without reading
them back from the bytes of a string. -/
theorem all_toList {p : List Char → Bool} {texts : List String} (chars : List (List Char))
    (htexts : texts = chars.map String.ofList) (hchars : chars.all p = true) :
    texts.all (fun text => p text.toList) = true := by
  rw [htexts, List.all_map]
  apply List.all_eq_true.mpr
  intro word hword
  show p (String.ofList word).toList = true
  rw [String.toList_ofList]
  exact List.all_eq_true.mp hchars word hword

theorem digit_no_whitespace {c : Char} (h : c.isDigit = true) : isWhitespaceChar c = false := by
  have hrange : 48 ≤ c.toNat ∧ c.toNat ≤ 57 := Char.isDigit_iff_toNat.mp h
  unfold isWhitespaceChar
  simp
  omega

theorem dropWhile_append_stop {α : Type} (p : α → Bool) (xs : List α) {y : α} (ys : List α)
    (hy : p y = false) : (xs ++ y :: ys).dropWhile p = xs.dropWhile p ++ y :: ys := by
  induction xs with
  | nil => simp [hy]
  | cons x xs ih =>
    rw [List.cons_append, List.dropWhile_cons, List.dropWhile_cons, ih]
    cases p x <;> rfl

/-- A text is trimmed at its start only, if it goes on to a last character that is no whitespace. -/
theorem trim_append (start : String) {middle : List Char} {first last : Char}
    (hfirst : isWhitespaceChar first = false) (hlast : isWhitespaceChar last = false) :
    trim (start ++ String.ofList (first :: middle ++ [last])) =
      trimStart start ++ String.ofList (first :: middle ++ [last]) := by
  apply String.toList_injective
  unfold trim trimStart
  rw [String.toList_append, String.toList_append, String.toList_ofList, String.toList_ofList,
    String.toList_ofList, List.cons_append, dropWhile_append_stop _ _ _ hfirst, List.reverse_append,
    List.reverse_cons, List.reverse_append, List.reverse_singleton]
  simp [hlast]

theorem splitOnce_append {left : String} {sep : Char} (right : String) (h : sep ∉ left.toList) :
    splitOnce (left ++ String.ofList (sep :: right.toList)) sep = some (left, right) := by
  have hkeep : ∀ c ∈ left.toList, decide (c ≠ sep) = true := by
    intro c hc
    apply decide_eq_true
    rintro rfl
    exact h hc
  unfold splitOnce
  rw [String.toList_append, String.toList_ofList, if_pos (by simp),
    List.takeWhile_append_of_pos hkeep, List.dropWhile_append_of_pos hkeep]
  simp

theorem trim_plain {text : String} (h : ∀ c ∈ text.toList, isWhitespaceChar c = false) :
    trim text = text := by
  have hkeep : ∀ cs : List Char, (∀ c ∈ cs, isWhitespaceChar c = false) →
      cs.dropWhile isWhitespaceChar = cs := by
    intro cs hcs
    cases cs with
    | nil => rfl
    | cons c cs => rw [List.dropWhile_cons_of_neg (by rw [hcs c List.mem_cons_self]; decide)]
  unfold trim
  rw [hkeep _ h, hkeep _ fun c hc => h c (List.mem_reverse.mp hc), List.reverse_reverse,
    String.ofList_toList]

theorem fromUtf8_asBytes (s : String) : fromUtf8 (asBytes s) = some s := by
  have h : (⟨(asBytes s).toArray⟩ : ByteArray) = s.toList.utf8Encode := by
    apply ByteArray.ext
    rw [List.utf8Encode, List.data_toByteArray, asBytes]
  rw [fromUtf8, h, List.utf8Decode?_utf8Encode]
  simp

/-- Characters of ASCII are encoded in one byte each. -/
theorem length_utf8_ascii (chars : List Char) (h : ∀ c ∈ chars, c.toNat < 128) :
    (chars.flatMap String.utf8EncodeChar).length = chars.length := by
  induction chars with
  | nil => rfl
  | cons c rest ih =>
    have hsize : (String.utf8EncodeChar c).length = 1 := by
      have hascii : c.toNat < 128 := h c List.mem_cons_self
      rw [String.length_utf8EncodeChar, Char.utf8Size_eq_one_iff]
      show c.toNat ≤ 127
      omega
    have hrest := ih fun d hd => h d (List.mem_cons_of_mem c hd)
    rw [List.flatMap_cons, List.length_append, hsize, hrest, List.length_cons]
    omega

theorem byteLength_ascii {text : String} (h : ∀ c ∈ text.toList, c.toNat < 128) :
    byteLength text = text.toList.length := length_utf8_ascii text.toList h

theorem splitChar_joinChar (parts : List String) (sep : Char)
    (hsep : ∀ p ∈ parts, sep ∉ p.toList) (hne : parts ≠ []) :
    splitChar (joinChar parts sep) sep = parts := by
  have hchars : ∀ cs ∈ parts.map String.toList, sep ∉ cs := by
    intro cs hcs
    obtain ⟨p, hp, rfl⟩ := List.mem_map.mp hcs
    exact hsep p hp
  rw [splitChar, joinChar, String.toList_ofList,
    List.splitOn_intercalate sep hchars (by simpa using hne), List.map_map]
  simp

/-! ## 5. Integers -/

/-- An integer type, by its bounds. -/
structure IntType where
  min : Int
  max : Int

def i64 : IntType := ⟨-9223372036854775808, 9223372036854775807⟩

def u32 : IntType := ⟨0, 4294967295⟩

def u64 : IntType := ⟨0, 18446744073709551615⟩

def IntType.fits (type : IntType) (n : Int) : Bool :=
  type.min ≤ n && n ≤ type.max

theorem IntType.fits_iff {type : IntType} {n : Int} :
    type.fits n = true ↔ type.min ≤ n ∧ n ≤ type.max := by
  unfold IntType.fits
  rw [Bool.and_eq_true, decide_eq_true_iff, decide_eq_true_iff]

/-- The digits of an integer, added to what was read before them; an overflow is found at the
digit that causes it. -/
def parseDigits (type : IntType) (negative : Bool) : List Char → Int → Except String Int
  | [], read => .ok read
  | c :: rest, read =>
    if !c.isDigit then .error "invalid digit found in string"
    else
      let digit : Int := c.toNat - '0'.toNat
      let next := if negative then read * 10 - digit else read * 10 + digit
      if type.fits (read * 10) && type.fits next then parseDigits type negative rest next
      else if negative then .error "number too small to fit in target type"
      else .error "number too large to fit in target type"

/-- `str::parse` to an integer type, with the text of its error. -/
def parseInt (type : IntType) (text : String) : Except String Int :=
  match text.toList with
  | [] => .error "cannot parse integer from empty string"
  | ['+'] => .error "invalid digit found in string"
  | ['-'] => .error "invalid digit found in string"
  | '+' :: digits => parseDigits type false digits 0
  | '-' :: digits =>
    -- the sign of a negative number is no digit of an unsigned type
    if type.min < 0 then parseDigits type true digits 0
    else .error "invalid digit found in string"
  | digits => parseDigits type false digits 0

/-- The result of `str::parse` as the cause of an error. -/
def parseError {α : Type} (r : Except String α) : Result α :=
  r.mapError fun text => ⟨[], .message text⟩

/-- One step of the reading: a digit, after which the number still fits. -/
theorem parseDigits_cons {type : IntType} {negative : Bool} {c : Char} {rest : List Char}
    {read n : Int} (h : parseDigits type negative (c :: rest) read = .ok n) :
    c.isDigit = true ∧
      ∃ next, next = (if negative = true then read * 10 - ((c.toNat : Int) - ('0'.toNat : Int))
          else read * 10 + ((c.toNat : Int) - ('0'.toNat : Int))) ∧
        type.fits next = true ∧ parseDigits type negative rest next = .ok n := by
  unfold parseDigits at h
  split at h
  · cases h
  rename_i hdigit
  refine ⟨by simpa using hdigit, ?_⟩
  cases negative with
  | true =>
    simp only [if_true] at h
    split at h
    · rename_i hfits
      exact ⟨_, rfl, (Bool.and_eq_true_iff.mp hfits).2, h⟩
    · cases h
  | false =>
    simp only [Bool.false_eq_true, if_false] at h
    split at h
    · rename_i hfits
      exact ⟨_, rfl, (Bool.and_eq_true_iff.mp hfits).2, h⟩
    · cases h

theorem parseDigits_digits {type : IntType} {negative : Bool} {cs : List Char} {read n : Int}
    (h : parseDigits type negative cs read = .ok n) : ∀ c ∈ cs, c.isDigit = true := by
  induction cs generalizing read with
  | nil => simp
  | cons c rest ih =>
    obtain ⟨hdigit, next, -, -, hnext⟩ := parseDigits_cons h
    exact List.forall_mem_cons.mpr ⟨hdigit, ih hnext⟩

theorem parseDigits_fits {type : IntType} {negative : Bool} {cs : List Char} {read n : Int}
    (hread : type.fits read = true) (h : parseDigits type negative cs read = .ok n) :
    type.fits n = true := by
  induction cs generalizing read with
  | nil =>
    cases h
    exact hread
  | cons c rest ih =>
    obtain ⟨-, next, -, hfits, hnext⟩ := parseDigits_cons h
    exact ih hfits hnext

/-- An integer is written with digits, after its sign. -/
theorem parseInt_digits {type : IntType} {text : String} {n : Int}
    (h : parseInt type text = .ok n) : ∀ c ∈ text.toList, c.isDigit = true ∨ c = '+' ∨ c = '-' := by
  unfold parseInt at h
  split at h
  · cases h
  · cases h
  · cases h
  · rename_i digits _ htext
    rw [htext]
    have hdigits := parseDigits_digits h
    exact List.forall_mem_cons.mpr ⟨by simp, fun c hc => Or.inl (hdigits c hc)⟩
  · rename_i digits _ htext
    rw [htext]
    split at h
    · have hdigits := parseDigits_digits h
      exact List.forall_mem_cons.mpr ⟨by simp, fun c hc => Or.inl (hdigits c hc)⟩
    · cases h
  · have hdigits := parseDigits_digits h
    exact fun c hc => Or.inl (hdigits c hc)

theorem parseInt_fits {type : IntType} (hzero : type.fits 0 = true) {text : String} {n : Int}
    (h : parseInt type text = .ok n) : type.fits n = true := by
  unfold parseInt at h
  split at h
  · cases h
  · cases h
  · cases h
  · exact parseDigits_fits hzero h
  · split at h
    · exact parseDigits_fits hzero h
    · cases h
  · exact parseDigits_fits hzero h

/-- A number with a sign. -/
def signedInt (negative : Bool) (n : Nat) : Int :=
  if negative then -n else n

/-- What was read is no further from zero than what is read in the end. -/
theorem ofDigitChars_le (cs : List Char) (read : Nat) : read ≤ Nat.ofDigitChars 10 cs read := by
  induction cs generalizing read with
  | nil => rw [Nat.ofDigitChars_nil]
  | cons c rest ih =>
    rw [Nat.ofDigitChars_cons]
    have hrest := ih (10 * read + (c.toNat - '0'.toNat))
    omega

theorem fits_signedInt {type : IntType} {negative : Bool} {n : Nat} (less : Nat)
    (hzero : type.fits 0 = true) (hfits : type.fits (signedInt negative n) = true) (hle : less ≤ n) :
    type.fits (signedInt negative less) = true := by
  rw [IntType.fits_iff] at *
  unfold signedInt at *
  cases negative with
  | true =>
    simp only [if_true] at *
    omega
  | false =>
    simp only [Bool.false_eq_true, if_false] at *
    omega

/-- The reading adds the digit to what was read, scaled. -/
theorem signedInt_step (negative : Bool) {c : Char} (hdigit : c.isDigit = true) (read : Nat) :
    (if negative = true then signedInt negative read * 10 - ((c.toNat : Int) - ('0'.toNat : Int))
      else signedInt negative read * 10 + ((c.toNat : Int) - ('0'.toNat : Int))) =
      signedInt negative (10 * read + (c.toNat - '0'.toNat)) := by
  have hlow : '0'.toNat ≤ c.toNat := by
    simp only [Char.isDigit, Bool.and_eq_true, decide_eq_true_eq] at hdigit
    exact hdigit.1
  unfold signedInt
  cases negative with
  | true =>
    simp only [if_true]
    omega
  | false =>
    simp only [Bool.false_eq_true, if_false]
    omega

theorem parseDigits_ofDigitChars {type : IntType} (hzero : type.fits 0 = true) (negative : Bool)
    {cs : List Char} (hdigits : ∀ c ∈ cs, c.isDigit = true) (read : Nat)
    (hfits : type.fits (signedInt negative (Nat.ofDigitChars 10 cs read)) = true) :
    parseDigits type negative cs (signedInt negative read) =
      .ok (signedInt negative (Nat.ofDigitChars 10 cs read)) := by
  induction cs generalizing read with
  | nil => rfl
  | cons c rest ih =>
    have hdigit := hdigits c List.mem_cons_self
    rw [Nat.ofDigitChars_cons] at hfits ⊢
    have hnext := ih (fun d hd => hdigits d (List.mem_cons_of_mem c hd)) _ hfits
    have hbound := ofDigitChars_le rest (10 * read + (c.toNat - '0'.toNat))
    have hnextFits := fits_signedInt _ hzero hfits hbound
    have hreadFits := fits_signedInt (10 * read) hzero hnextFits (by omega)
    have hscaled : signedInt negative read * 10 = signedInt negative (10 * read) := by
      unfold signedInt
      cases negative <;> simp <;> omega
    have hadded := signedInt_step negative hdigit read
    rw [hscaled] at hadded
    unfold parseDigits
    rw [hdigit]
    simp only [Bool.not_true, Bool.false_eq_true, if_false, hscaled, hadded, hreadFits, hnextFits,
      Bool.and_self, if_true]
    exact hnext

theorem digit_no_sign {c : Char} (h : c.isDigit = true) : c ≠ '+' ∧ c ≠ '-' := by
  constructor
  · rintro rfl
    exact absurd h (by decide)
  · rintro rfl
    exact absurd h (by decide)

/-- A number that is read is the value of its digits. -/
theorem parseDigits_value {type : IntType} (negative : Bool) {cs : List Char} (read : Nat) {n : Int}
    (h : parseDigits type negative cs (signedInt negative read) = .ok n) :
    n = signedInt negative (Nat.ofDigitChars 10 cs read) := by
  induction cs generalizing read with
  | nil =>
    cases h
    rfl
  | cons c rest ih =>
    obtain ⟨hdigit, next, hnext, -, hrest⟩ := parseDigits_cons h
    rw [hnext, signedInt_step negative hdigit] at hrest
    rw [Nat.ofDigitChars_cons]
    exact ih _ hrest

/-- A word of digits has no sign to read. -/
theorem parseInt_of_digits (type : IntType) {text : String} (hne : text ≠ "")
    (hdigits : ∀ c ∈ text.toList, c.isDigit = true) :
    parseInt type text = parseDigits type false text.toList 0 := by
  unfold parseInt
  cases hcs : text.toList with
  | nil => exact absurd (String.toList_eq_nil_iff.mp hcs) hne
  | cons c rest =>
    obtain ⟨hplus, hminus⟩ := digit_no_sign (hdigits c (by rw [hcs]; exact List.mem_cons_self))
    -- a digit is no sign, so the last case is the one
    split
    · rename_i heq
      cases heq
    · rename_i heq
      exact absurd (List.cons.inj heq).1 hplus
    · rename_i heq
      exact absurd (List.cons.inj heq).1 hminus
    · rename_i heq
      exact absurd (List.cons.inj heq).1 hplus
    · rename_i heq
      exact absurd (List.cons.inj heq).1 hminus
    · rfl

/-- A word of digits is read as its value, where that fits. -/
theorem parseInt_digitWord (type : IntType) (hzero : type.fits 0 = true) {text : String} {n : Nat}
    (hne : text ≠ "") (hdigits : ∀ c ∈ text.toList, c.isDigit = true)
    (hvalue : Nat.ofDigitChars 10 text.toList 0 = n) (hfits : type.fits n = true) :
    parseInt type text = .ok n := by
  subst hvalue
  rw [parseInt_of_digits type hne hdigits]
  exact parseDigits_ofDigitChars hzero false hdigits 0 hfits

/-- The number that a word of ASCII digits stands for. -/
def wordValue (word : List Char) : Nat :=
  Nat.ofDigitChars 10 word 0

/-- A word of digits is read where its value fits, and nowhere else. -/
theorem parseInt_word (type : IntType) (hzero : type.fits 0 = true) {word : List Char}
    (hne : word ≠ []) (hdigits : ∀ c ∈ word, c.isDigit = true) (n : Int) :
    parseInt type (String.ofList word) = .ok n ↔
      (wordValue word : Int) ≤ type.max ∧ n = wordValue word := by
  have hchars : (String.ofList word).toList = word := String.toList_ofList
  have htext : String.ofList word ≠ "" := fun hempty => hne (by rw [← hchars, hempty]; rfl)
  have hascii : ∀ c ∈ (String.ofList word).toList, c.isDigit = true := by
    rw [hchars]
    exact hdigits
  have hfits : type.fits (wordValue word : Int) = true ↔ (wordValue word : Int) ≤ type.max := by
    rw [IntType.fits_iff] at hzero ⊢
    omega
  constructor
  · intro hread
    have hread' := parseInt_fits hzero hread
    rw [parseInt_of_digits type htext hascii, hchars] at hread
    -- what is read is the value, so the value fits
    have hvalue : n = wordValue word := parseDigits_value false 0 hread
    rw [hvalue] at hread'
    exact ⟨hfits.mp hread', hvalue⟩
  · rintro ⟨hle, rfl⟩
    have hvalue : Nat.ofDigitChars 10 (String.ofList word).toList 0 = wordValue word := by
      rw [hchars]
      rfl
    exact parseInt_digitWord type hzero htext hascii hvalue (hfits.mpr hle)

theorem parseInt_natDigits {type : IntType} (hzero : type.fits 0 = true) {text : String} {n : Nat}
    (htext : text.toList = Nat.toDigits 10 n) (hfits : type.fits n = true) :
    parseInt type text = .ok n := by
  have hne : text ≠ "" := fun hempty =>
    Nat.toDigits_ne_nil (htext.symm.trans (String.toList_eq_nil_iff.mpr hempty))
  have hdigits : ∀ c ∈ text.toList, c.isDigit = true := by
    rw [htext]
    exact fun c hc => Nat.isDigit_of_mem_toDigits (by decide) (by decide) hc
  have hvalue : Nat.ofDigitChars 10 text.toList 0 = n := by
    rw [htext, Nat.ofDigitChars_ten_toDigits]
  exact parseInt_digitWord type hzero hne hdigits hvalue hfits

/-- An integer of the type is read back from its text. -/
theorem parseInt_toString {type : IntType} (hzero : type.fits 0 = true) {n : Int}
    (hfits : type.fits n = true) : parseInt type (toString n) = .ok n := by
  cases n with
  | ofNat m =>
    have htext : (toString (Int.ofNat m)).toList = Nat.toDigits 10 m := Nat.toList_repr
    exact parseInt_natDigits hzero htext hfits
  | negSucc m =>
    have htext : (toString (Int.negSucc m)).toList = '-' :: Nat.toDigits 10 (m + 1) := by
      show ("-" ++ (m + 1).repr).toList = _
      rw [String.toList_append, Nat.toList_repr]
      rfl
    have hdigits : ∀ c ∈ Nat.toDigits 10 (m + 1), c.isDigit = true := fun c hc =>
      Nat.isDigit_of_mem_toDigits (by decide) (by decide) hc
    have hvalue := parseDigits_ofDigitChars hzero true hdigits 0
      (by rw [Nat.ofDigitChars_ten_toDigits]; exact hfits)
    rw [Nat.ofDigitChars_ten_toDigits] at hvalue
    have hmin : type.min < 0 := by
      rw [IntType.fits_iff] at hfits
      have hneg : Int.negSucc m < 0 := Int.negSucc_lt_zero m
      omega
    unfold parseInt
    rw [htext]
    cases hcs : Nat.toDigits 10 (m + 1) with
    | nil => exact absurd hcs Nat.toDigits_ne_nil
    | cons c rest =>
      rw [hcs] at hvalue
      show (if type.min < 0 then parseDigits type true (c :: rest) 0 else _) = _
      rw [if_pos hmin]
      exact hvalue

end AvisoServer
