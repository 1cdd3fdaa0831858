import AvisoServer.Telemetry.Redaction

/-!
# Secrecy of user information

Two texts may differ in the user information of their URLs alone. The redaction hides such a
difference in the first URL, up to its first `@`, and where a pattern of the messages covers it.
-/

namespace AvisoServer

open Redaction

/-! ## 1. Texts that differ in user information -/

/-- The part of the authority before its last `@`, at the start of what is behind a `://`. -/
def userinfo (rest : List Char) : List Char :=
  let authority := rest.takeWhile fun c => !(endsAuthority c || isWhitespaceChar c)
  ((authority.reverse.dropWhile (· ≠ '@')).drop 1).reverse

/-- Two texts that are the same but for the text of non-empty user information. -/
inductive UserinfoVariant : List Char → List Char → Prop where
  | last {text : List Char} (hlast : splitScheme text = none) : UserinfoVariant text text
  | url {text text' scheme user user' rest rest' : List Char}
      (hsplit : splitScheme text = some (scheme, user ++ rest))
      (hsplit' : splitScheme text' = some (scheme, user' ++ rest'))
      (huser : userinfo (user ++ rest) = user) (huser' : userinfo (user' ++ rest') = user')
      (hempty : user = [] ↔ user' = []) (hrest : UserinfoVariant rest rest') :
      UserinfoVariant text text'

theorem splitScheme_append {text scheme rest : List Char}
    (h : splitScheme text = some (scheme, rest)) : text = scheme ++ ':' :: '/' :: '/' :: rest := by
  induction text generalizing scheme with
  | nil => cases h
  | cons c text ih =>
    rw [splitScheme] at h
    -- the first `://` is here, or it is the first of the rest
    by_cases hhere : [':', '/', '/'].isPrefixOf (c :: text) = true
    · rw [if_pos hhere] at h
      obtain ⟨rest', hrest'⟩ := List.isPrefixOf_iff_prefix.mp hhere
      rw [← hrest'] at h ⊢
      cases h
      rfl
    · rw [if_neg hhere] at h
      obtain ⟨⟨scheme', rest'⟩, hsplit, heq⟩ := Option.map_eq_some_iff.mp h
      cases heq
      rw [ih hsplit]
      rfl

theorem takeWhile_append_stop {q : Char → Bool} (start : List Char) {c : Char} (rest : List Char)
    (hc : q c = false) : (start ++ c :: rest).takeWhile q = start.takeWhile q := by
  induction start with
  | nil => rw [List.nil_append, List.takeWhile_cons_of_neg (by rw [hc]; decide), List.takeWhile_nil]
  | cons d start ih =>
    rw [List.cons_append, List.takeWhile_cons, List.takeWhile_cons, ih]

/-- The authority as the code cuts it off. -/
def authorityOf (rest : List Char) : List Char :=
  rest.takeWhile fun c => !endsAuthority c

theorem authorityOf_append {text scheme rest : List Char}
    (h : splitScheme text = some (scheme, rest)) :
    authorityOf text = authorityOf (scheme ++ [':']) := by
  rw [splitScheme_append h]
  have hsplit : scheme ++ ':' :: '/' :: '/' :: rest = (scheme ++ [':']) ++ '/' :: '/' :: rest := by
    rw [List.append_assoc]
    rfl
  rw [hsplit]
  exact takeWhile_append_stop _ _ rfl

/-- A variant cannot differ before the next `/`. -/
theorem UserinfoVariant.authorityOf_eq {text text' : List Char} (h : UserinfoVariant text text') :
    authorityOf text = authorityOf text' := by
  cases h with
  | last hlast => rfl
  | url hsplit hsplit' _ _ _ _ => rw [authorityOf_append hsplit, authorityOf_append hsplit']

theorem mem_takeWhile_of_imp {q r : Char → Bool} (h : ∀ c, q c = true → r c = true) {c : Char}
    {text : List Char} (hc : c ∈ text.takeWhile q) : c ∈ text.takeWhile r := by
  induction text with
  | nil => cases hc
  | cons d text ih =>
    by_cases hd : q d = true
    · rw [List.takeWhile_cons_of_pos hd] at hc
      rw [List.takeWhile_cons_of_pos (h d hd)]
      cases List.mem_cons.mp hc with
      | inl hhead =>
        rw [hhead]
        exact List.mem_cons_self
      | inr htail => exact List.mem_cons_of_mem d (ih htail)
    · rw [List.takeWhile_cons_of_neg hd] at hc
      cases hc

/-- User information is followed by an `@` in the authority. -/
theorem at_mem_authorityOf {rest : List Char} (h : userinfo rest ≠ []) :
    '@' ∈ authorityOf rest := by
  have hmem : '@' ∈ rest.takeWhile fun c => !(endsAuthority c || isWhitespaceChar c) := by
    by_contra hnone
    apply h
    unfold userinfo
    simp only
    rw [List.dropWhile_eq_nil_iff.mpr, List.drop_nil, List.reverse_nil]
    intro c hc
    apply decide_eq_true
    intro heq
    rw [heq, List.mem_reverse] at hc
    exact hnone hc
  apply mem_takeWhile_of_imp _ hmem
  intro c hc
  cases hends : endsAuthority c with
  | false => rfl
  | true =>
    rw [hends] at hc
    cases hc

/-! ## 2. What the code keeps of a URL -/

/-- What is before the first `://` and what is behind the first `@` of its authority, if there is
one. -/
def urlParts (raw : List Char) : Option (List Char × List Char) :=
  (splitScheme raw).bind fun parts =>
    if '@' ∈ authorityOf parts.2 then
      some (parts.1, (parts.2.dropWhile (· ≠ '@')).drop 1)
    else none

/-- A text with a URL, where the user information is redacted. -/
def keptText (parts : List Char × List Char) : List Char :=
  parts.1 ++ "://[REDACTED]@".toList ++ parts.2

/-- The first `@` of the authority is the first of the text. -/
theorem behind_at {rest : List Char} (h : '@' ∈ authorityOf rest) :
    ((authorityOf rest).dropWhile (· ≠ '@')).drop 1 ++ rest.dropWhile (fun c => !endsAuthority c) =
      (rest.dropWhile (· ≠ '@')).drop 1 := by
  have hrest : rest = authorityOf rest ++ rest.dropWhile fun c => !endsAuthority c :=
    List.takeWhile_append_dropWhile.symm
  have hne : (authorityOf rest).dropWhile (· ≠ '@') ≠ [] := by
    intro hnil
    have hall := List.dropWhile_eq_nil_iff.mp hnil '@' h
    exact absurd hall (by decide)
  obtain ⟨c, behind, hbehind⟩ := List.exists_cons_of_ne_nil hne
  have hwhole : rest.dropWhile (· ≠ '@') =
      (authorityOf rest).dropWhile (· ≠ '@') ++ rest.dropWhile fun c => !endsAuthority c := by
    rw [hrest, List.dropWhile_append, ← hrest, hbehind]
    rfl
  rw [hwhole, hbehind]
  rfl

theorem redactUrlUserinfo_eq (raw : String) :
    redactUrlUserinfo raw =
      (urlParts raw.toList).map fun parts => String.ofList (keptText parts) := by
  unfold redactUrlUserinfo urlParts
  cases splitScheme raw.toList with
  | none => rfl
  | some parts =>
    obtain ⟨scheme, rest⟩ := parts
    show (if '@' ∈ authorityOf rest then _ else none) =
      (if '@' ∈ authorityOf rest then _ else none : Option _).map _
    -- without an `@` the text is left to the caller
    by_cases hat : '@' ∈ authorityOf rest
    · rw [if_pos hat, if_pos hat, Option.map_some, List.append_assoc]
      show some (String.ofList (_ ++ (((authorityOf rest).dropWhile _).drop 1 ++ _))) = _
      rw [behind_at hat]
      rfl
    · rw [if_neg hat, if_neg hat]
      rfl

theorem keptText_inj {scheme behind behind' : List Char}
    (h : keptText (scheme, behind) = keptText (scheme, behind')) : behind = behind' := by
  unfold keptText at h
  exact List.append_cancel_left h

/-- Variants have the same scheme, and their first URLs are both redacted or neither is. -/
theorem UserinfoVariant.urlParts {text text' : List Char} (h : UserinfoVariant text text') :
    (AvisoServer.urlParts text = none ∧ AvisoServer.urlParts text' = none) ∨
      ∃ scheme behind behind', AvisoServer.urlParts text = some (scheme, behind) ∧
        AvisoServer.urlParts text' = some (scheme, behind') := by
  cases h with
  | last hlast =>
    left
    unfold AvisoServer.urlParts
    rw [hlast]
    exact ⟨rfl, rfl⟩
  | url hsplit hsplit' huser huser' hempty hrest =>
    rename_i scheme user user' rest rest'
    -- an `@` belongs to the user information, or both have what is behind the `://` in common
    have hat : '@' ∈ authorityOf (user ++ rest) ↔ '@' ∈ authorityOf (user' ++ rest') := by
      by_cases hnil : user = []
      · rw [hnil, hempty.mp hnil, List.nil_append, List.nil_append, hrest.authorityOf_eq]
      · have hnil' : user' ≠ [] := fun heq => hnil (hempty.mpr heq)
        exact iff_of_true (at_mem_authorityOf (by rw [huser]; exact hnil))
          (at_mem_authorityOf (by rw [huser']; exact hnil'))
    unfold AvisoServer.urlParts
    rw [hsplit, hsplit', Option.bind_some, Option.bind_some]
    by_cases hmem : '@' ∈ authorityOf (user ++ rest)
    · right
      rw [if_pos hmem, if_pos (hat.mp hmem)]
      exact ⟨scheme, _, _, rfl, rfl⟩
    · left
      rw [if_neg hmem, if_neg fun hmem' => hmem (hat.mpr hmem')]
      exact ⟨rfl, rfl⟩

/-! ## 3. Messages -/

def messagePatterns : List (Pattern Char) := [passwordRe, tokenRe, bearerRe]

/-- The text of `[REDACTED]` behind its first character. -/
def redactedTail : List Char := ['R', 'E', 'D', 'A', 'C', 'T', 'E', 'D', ']']

theorem redacted_toList : "[REDACTED]".toList = '[' :: redactedTail := rfl

section Respects

variable {p : Pattern Char}

theorem steps_of_all (h : p.steps.all (fun step => !step.test '[') = true) :
    ∀ step ∈ p.steps, step.test '[' = false := by
  intro step hstep
  have htest := List.all_eq_true.mp h step hstep
  rwa [Bool.not_eq_true'] at htest

/-- A pattern that finds nothing in the tail of `[REDACTED]`, read from each of its characters. -/
theorem quiet_of_tails
    (h : ∀ c after, c :: after ∈ redactedTail.tails → ∀ rest, p.find c (after ++ rest) = none)
    (before : List Char) (c : Char) (after : List Char)
    (htail : redactedTail = before ++ c :: after) (rest : List Char) : p.find c (after ++ rest) = none :=
  h c after ((List.mem_tails _ _).mpr ⟨before, htail.symm⟩) rest

/-- Where the first character of a pattern is not, nothing is found. -/
theorem find_of_first {c : Char} (h : p.first c = false) (text : List Char) :
    p.find c text = none := by
  unfold Pattern.find
  rw [h]
  rfl

theorem first_of_all (h : redactedTail.all (fun c => !p.first c) = true) (c : Char)
    (after : List Char) (htail : c :: after ∈ redactedTail.tails) (rest : List Char) :
    p.find c (after ++ rest) = none := by
  apply find_of_first
  have hc := List.all_eq_true.mp h c (((List.mem_tails _ _).mp htail).subset List.mem_cons_self)
  rwa [Bool.not_eq_true'] at hc

end Respects

theorem passwordRe_respects : passwordRe.Respects '[' redactedTail where
  first := rfl
  steps := steps_of_all (by decide)
  quiet := quiet_of_tails (first_of_all (by decide))
  value _ := List.all_eq_true.mp (by decide)

theorem tokenRe_respects : tokenRe.Respects '[' redactedTail where
  first := rfl
  steps := steps_of_all (by decide)
  quiet := quiet_of_tails fun c after htail rest => by
    by_cases hc : c = 'T'
    · -- the one `T` is not followed by an `O`
      have hafter : after = ['E', 'D', ']'] := by
        subst hc
        simpa [redactedTail, List.tails] using htail
      rw [hc, hafter]
      rfl
    · apply find_of_first
      have hmem := ((List.mem_tails _ _).mp htail).subset List.mem_cons_self
      have hall : redactedTail.all (fun c => c = 'T' || !tokenRe.first c) = true := by decide
      have hfirst := List.all_eq_true.mp hall c hmem
      rw [decide_eq_false hc, Bool.false_or, Bool.not_eq_true'] at hfirst
      exact hfirst
  value _ := List.all_eq_true.mp (by decide)

theorem bearerRe_respects : bearerRe.Respects '[' redactedTail where
  first := rfl
  steps := steps_of_all (by decide)
  quiet := quiet_of_tails (first_of_all (by decide))
  value h := absurd h (by decide)

theorem messagePatterns_respect : ∀ p ∈ messagePatterns, p.Respects '[' redactedTail := by
  unfold messagePatterns
  intro p hp
  rcases List.mem_cons.mp hp with rfl | hp
  · exact passwordRe_respects
  rcases List.mem_cons.mp hp with rfl | hp
  · exact tokenRe_respects
  rw [List.mem_singleton.mp hp]
  exact bearerRe_respects

theorem toList_redactMessage (message : String) :
    (redactMessage message).toList = redact '[' redactedTail messagePatterns message.toList := by
  unfold redactMessage replaceAll redact messagePatterns
  simp only [String.toList_ofList, List.foldl_cons, List.foldl_nil, redacted_toList]

/-- A text outside the values of passwords, tokens and bearers, where `[REDACTED]` is a value. -/
def outsideValues (text : String) : List (Option Char) :=
  outside '[' redactedTail messagePatterns text.toList

theorem redactMessage_eq_iff (s t : String) :
    redactMessage s = redactMessage t ↔ outsideValues s = outsideValues t := by
  rw [← String.toList_inj, toList_redactMessage, toList_redactMessage]
  exact redact_eq_iff '[' redactedTail messagePatterns_respect (by decide) s.toList t.toList

/-- No value is found but `[REDACTED]`. -/
def ValuesRedacted (text : List Char) : Prop :=
  ∀ p ∈ messagePatterns, ∀ value ∈ p.values text, value = "[REDACTED]".toList

theorem redactMessage_eq_self_iff (text : List Char) :
    redactMessage (String.ofList text) = String.ofList text ↔ ValuesRedacted text := by
  rw [← String.toList_inj, toList_redactMessage, String.toList_ofList,
    redact_eq_self_iff '[' redactedTail messagePatterns_respect (by decide)]
  unfold ValuesRedacted
  have heach : ∀ p ∈ messagePatterns, p.replaceAll ('[' :: redactedTail) text = text ↔
      ∀ value ∈ p.values text, value = "[REDACTED]".toList := fun p hp =>
    p.replaceAll_eq_self_iff '[' redactedTail (messagePatterns_respect p hp) text
  exact forall₂_congr heach

/-! ## 4. Strings -/

/-- What the redaction hides of two texts: all up to the first `@` of their first authority, or,
where it has none, what a redaction of messages hides. -/
structure Agrees (plain : String → String → Prop) (s t : String) : Prop where
  url : ∀ parts, urlParts s.toList = some parts → urlParts t.toList = some parts
  message : urlParts s.toList = none → plain s t

theorem UserinfoVariant.redacted_iff {s t : String} (h : UserinfoVariant s.toList t.toList)
    (message : String → String) :
    (redactUrlUserinfo s).getD (message s) = (redactUrlUserinfo t).getD (message t) ↔
      Agrees (fun s t => message s = message t) s t := by
  rw [redactUrlUserinfo_eq, redactUrlUserinfo_eq]
  rcases h.urlParts with ⟨hs, ht⟩ | ⟨scheme, behind, behind', hs, ht⟩
  · -- neither is rewritten as a URL
    rw [hs, ht]
    constructor
    · exact fun hsame => ⟨(fun parts hparts => nomatch hs.symm.trans hparts), fun _ => hsame⟩
    · exact fun hagrees => hagrees.message hs
  · -- what is kept of them differs only behind the `@`
    rw [hs, ht]
    show String.ofList _ = String.ofList _ ↔ _
    rw [String.ofList_inj]
    constructor
    · intro hsame
      rw [← keptText_inj hsame] at ht
      exact ⟨fun parts hparts => ht.trans (hs.symm.trans hparts),
        fun hnone => nomatch hs.symm.trans hnone⟩
    · intro hagrees
      have hparts := hagrees.url _ hs
      rw [ht] at hparts
      rw [Option.some.inj hparts]

theorem redactString_iff {s t : String} (h : UserinfoVariant s.toList t.toList) :
    redactString s = redactString t ↔
      Agrees (fun s t => outsideValues s = outsideValues t) s t := by
  unfold redactString
  rw [h.redacted_iff redactMessage]
  constructor
  · intro hagrees
    exact ⟨hagrees.url, fun hnone => (redactMessage_eq_iff s t).mp (hagrees.message hnone)⟩
  · intro hagrees
    exact ⟨hagrees.url, fun hnone => (redactMessage_eq_iff s t).mpr (hagrees.message hnone)⟩

/-! ## 5. JSON values -/

mutual

/-- Two values of one shape whose string leaves are related, but for the values of hidden keys. -/
def Json.related (hidden : String → Bool) (R : String → String → Prop) : Json → Json → Prop
  | .object fields, .object fields' => Json.relatedFields hidden R fields fields'
  | .array items, .array items' => Json.relatedItems hidden R items items'
  | .string s, .string t => R s t
  | .null, .null => True
  | .bool a, .bool b => a = b
  | .number a, .number b => a = b
  | _, _ => False

def Json.relatedItems (hidden : String → Bool) (R : String → String → Prop) :
    List Json → List Json → Prop
  | [], [] => True
  | item :: items, item' :: items' =>
    Json.related hidden R item item' ∧ Json.relatedItems hidden R items items'
  | _, _ => False

def Json.relatedFields (hidden : String → Bool) (R : String → String → Prop) :
    List (String × Json) → List (String × Json) → Prop
  | [], [] => True
  | (key, child) :: fields, (key', child') :: fields' =>
    key = key' ∧ (hidden key = true ∨ Json.related hidden R child child') ∧
      Json.relatedFields hidden R fields fields'
  | _, _ => False

end

section Leaves

variable {S A : String → String → Prop} {left right : String → String}

mutual

/-- The leaves that are not hidden decide whether the redacted values are the same. -/
theorem redactLeaves_eq_iff (hleaf : ∀ s t, S s t → (left s = right t ↔ A s t)) :
    ∀ v w : Json, v.related (fun _ => false) S w →
      (redactLeaves left v = redactLeaves right w ↔ v.related isSensitiveKey A w)
  | .object fields, .object fields', h => by
    show Json.object (redactFields left fields) = .object (redactFields right fields') ↔ _
    rw [Json.object.injEq]
    exact redactFields_eq_iff hleaf fields fields' h
  | .array items, .array items', h => by
    show Json.array (redactItems left items) = .array (redactItems right items') ↔ _
    rw [Json.array.injEq]
    exact redactItems_eq_iff hleaf items items' h
  | .string s, .string t, h => by
    show Json.string (left s) = .string (right t) ↔ _
    rw [Json.string.injEq]
    exact hleaf s t h
  | .null, .null, _ => iff_of_true rfl trivial
  | .bool a, .bool b, h => by
    show Json.bool a = .bool b ↔ a = b
    rw [Json.bool.injEq]
  | .number a, .number b, h => by
    show Json.number a = .number b ↔ a = b
    rw [Json.number.injEq]

theorem redactItems_eq_iff (hleaf : ∀ s t, S s t → (left s = right t ↔ A s t)) :
    ∀ items items' : List Json, Json.relatedItems (fun _ => false) S items items' →
      (redactItems left items = redactItems right items' ↔
        Json.relatedItems isSensitiveKey A items items')
  | [], [], _ => iff_of_true rfl trivial
  | item :: items, item' :: items', h => by
    show redactLeaves left item :: redactItems left items =
      redactLeaves right item' :: redactItems right items' ↔ _
    rw [List.cons.injEq, redactLeaves_eq_iff hleaf item item' h.1,
      redactItems_eq_iff hleaf items items' h.2]
    rfl

theorem redactFields_eq_iff (hleaf : ∀ s t, S s t → (left s = right t ↔ A s t)) :
    ∀ fields fields' : List (String × Json),
      Json.relatedFields (fun _ => false) S fields fields' →
      (redactFields left fields = redactFields right fields' ↔
        Json.relatedFields isSensitiveKey A fields fields')
  | [], [], _ => iff_of_true rfl trivial
  | (key, child) :: fields, (key', child') :: fields', h => by
    obtain ⟨hkey, hchild, hfields⟩ := h
    have hchild' := hchild.resolve_left Bool.false_ne_true
    subst hkey
    show (key, _) :: redactFields left fields = (key, _) :: redactFields right fields' ↔
      key = key ∧ _ ∧ _
    rw [List.cons.injEq, Prod.mk.injEq, and_iff_right rfl, and_iff_right rfl,
      redactFields_eq_iff hleaf fields fields' hfields]
    -- under a sensitive key both values become the same text
    by_cases hsensitive : isSensitiveKey key = true
    · rw [if_pos hsensitive, if_pos hsensitive, and_iff_right rfl,
        and_iff_right (Or.inl hsensitive)]
    · rw [if_neg hsensitive, if_neg hsensitive, redactLeaves_eq_iff hleaf child child' hchild',
        or_iff_right hsensitive]

end

mutual

theorem related_refl {R : String → String → Prop} (hR : ∀ s, R s s) :
    ∀ v : Json, v.related (fun _ => false) R v
  | .object fields => relatedFields_refl hR fields
  | .array items => relatedItems_refl hR items
  | .string s => hR s
  | .null => trivial
  | .bool _ => rfl
  | .number _ => rfl

theorem relatedItems_refl {R : String → String → Prop} (hR : ∀ s, R s s) :
    ∀ items : List Json, Json.relatedItems (fun _ => false) R items items
  | [] => trivial
  | item :: items => ⟨related_refl hR item, relatedItems_refl hR items⟩

theorem relatedFields_refl {R : String → String → Prop} (hR : ∀ s, R s s) :
    ∀ fields : List (String × Json), Json.relatedFields (fun _ => false) R fields fields
  | [] => trivial
  | (_, child) :: fields => ⟨rfl, Or.inr (related_refl hR child), relatedFields_refl hR fields⟩

end

end Leaves

/-! ## 6. Secrecy -/

/-- A string leaf as it would be with the messages redacted behind the URL as well. -/
def fullyRedacted (s : String) : String :=
  redactMessage ((redactUrlUserinfo s).getD s)

/-- What is kept of a URL has no value that a pattern finds. -/
def KeepsNoValue (s : String) : Prop :=
  ∀ parts, urlParts s.toList = some parts → ValuesRedacted (keptText parts)

theorem redactString_eq_fullyRedacted (s : String) :
    redactString s = fullyRedacted s ↔ KeepsNoValue s := by
  unfold redactString fullyRedacted KeepsNoValue
  rw [redactUrlUserinfo_eq]
  cases hparts : urlParts s.toList with
  | none => exact iff_of_true rfl fun parts hsome => nomatch hsome
  | some parts =>
    show String.ofList (keptText parts) = redactMessage (String.ofList (keptText parts)) ↔ _
    rw [eq_comm, redactMessage_eq_self_iff]
    constructor
    · intro hvalues other hother
      rw [← Option.some.inj hother]
      exact hvalues
    · exact fun hall => hall parts rfl

theorem redactJsonValue_string (lib : Libraries) {key : String} (hkey : isSensitiveKey key = false)
    (hconfig : key ≠ "config") (s : String) :
    redactJsonValue lib key (.string s) = .string (redactString s) := by
  unfold redactJsonValue
  rw [hkey]
  exact if_neg hconfig

/-- A difference in user information is hidden exactly where it is before the first `@` of the
first authority, or, without one, inside the values of a message; and a leaf that is rewritten as a
URL has its values redacted exactly where the text that is kept has none. -/
theorem redaction_hides_iff (lib : Libraries) :
    (∀ {key s t : String}, isSensitiveKey key = false → key ≠ "config" →
        UserinfoVariant s.toList t.toList →
        (redactJsonValue lib key (.string s) = redactJsonValue lib key (.string t) ↔
          Agrees (fun s t => outsideValues s = outsideValues t) s t)) ∧
      (∀ {v w : Json}, v.related (fun _ => false) (fun s t => UserinfoVariant s.toList t.toList) w →
        (redactEmbeddedJson v = redactEmbeddedJson w ↔
          v.related isSensitiveKey
            (Agrees fun s t => outsideValues s = outsideValues t) w)) ∧
      (∀ {v w : Json}, v.related (fun _ => false) (fun s t => UserinfoVariant s.toList t.toList) w →
        (redactValueRecursive v = redactValueRecursive w ↔
          v.related isSensitiveKey (Agrees fun s t => s = t) w)) ∧
      (∀ {key s : String}, isSensitiveKey key = false → key ≠ "config" →
        (redactJsonValue lib key (.string s) = .string (fullyRedacted s) ↔ KeepsNoValue s)) ∧
      ∀ v : Json, redactEmbeddedJson v = redactLeaves fullyRedacted v ↔
        v.related isSensitiveKey (fun s _ => KeepsNoValue s) v := by
  refine ⟨?_, ?_, ?_, ?_, ?_⟩
  · intro key s t hkey hconfig hvariant
    rw [redactJsonValue_string lib hkey hconfig, redactJsonValue_string lib hkey hconfig,
      Json.string.injEq]
    exact redactString_iff hvariant
  · intro v w hrelated
    exact redactLeaves_eq_iff (fun s t hvariant => redactString_iff hvariant) v w hrelated
  · intro v w hrelated
    exact redactLeaves_eq_iff (fun s t hvariant => hvariant.redacted_iff fun s => s) v w hrelated
  · intro key s hkey hconfig
    rw [redactJsonValue_string lib hkey hconfig, Json.string.injEq]
    exact redactString_eq_fullyRedacted s
  · intro v
    apply redactLeaves_eq_iff (S := Eq) _ v v (related_refl (fun _ => rfl) v)
    rintro s t rfl
    exact redactString_eq_fullyRedacted s

/-- The URL of one server, with the password that is given. -/
def natsUrl (password : String) : String :=
  "nats://u:" ++ password ++ "@a"

theorem natsUrl_variant : UserinfoVariant (natsUrl "1").toList (natsUrl "2").toList := by
  have hfirst : ∀ password ∈ ["1", "2"],
      splitScheme (natsUrl password).toList =
          some ("nats".toList, ("u:" ++ password).toList ++ "@a".toList) ∧
        userinfo (("u:" ++ password).toList ++ "@a".toList) = ("u:" ++ password).toList := by
    decide
  obtain ⟨hsplit, huser⟩ := hfirst "1" List.mem_cons_self
  obtain ⟨hsplit', huser'⟩ := hfirst "2" (List.mem_cons_of_mem _ List.mem_cons_self)
  apply UserinfoVariant.url hsplit hsplit' huser huser' (by decide)
  exact .last (by decide)

/-- The password of a single server is not logged. -/
theorem redaction_hides_natsUrl :
    redactJsonValue plainLibraries "url" (.string (natsUrl "1")) =
        redactJsonValue plainLibraries "url" (.string (natsUrl "2")) ∧
      redactEmbeddedJson (.string (natsUrl "1")) = redactEmbeddedJson (.string (natsUrl "2")) ∧
      redactValueRecursive (.string (natsUrl "1")) =
        redactValueRecursive (.string (natsUrl "2")) := by
  have hparts : urlParts (natsUrl "2").toList = urlParts (natsUrl "1").toList := by decide
  have hagrees (plain : String → String → Prop) : Agrees plain (natsUrl "1") (natsUrl "2") :=
    ⟨fun parts h => hparts.trans h, fun h => absurd h (by decide)⟩
  obtain ⟨hvalue, hembedded, hrecursive, -, -⟩ := redaction_hides_iff plainLibraries
  exact ⟨(hvalue (by decide +kernel) (by decide) natsUrl_variant).mpr (hagrees _),
    (@hembedded (.string _) (.string _) natsUrl_variant).mpr (hagrees _),
    (@hrecursive (.string _) (.string _) natsUrl_variant).mpr (hagrees _)⟩

/-- A list of two servers of which the second has the password that is given. -/
def natsUrls (password : String) : String :=
  "nats://u:p@a,nats://u:" ++ password ++ "@b"

theorem natsUrls_variant : UserinfoVariant (natsUrls "1").toList (natsUrls "2").toList := by
  have hfirst : ∀ password ∈ ["1", "2"],
      splitScheme (natsUrls password).toList =
          some ("nats".toList, "u:p".toList ++ ("@a,nats://u:" ++ password ++ "@b").toList) ∧
        userinfo ("u:p".toList ++ ("@a,nats://u:" ++ password ++ "@b").toList) = "u:p".toList ∧
        splitScheme ("@a,nats://u:" ++ password ++ "@b").toList =
          some ("@a,nats".toList, ("u:" ++ password).toList ++ "@b".toList) ∧
        userinfo (("u:" ++ password).toList ++ "@b".toList) = ("u:" ++ password).toList := by
    decide +kernel
  obtain ⟨hsplit, huser, hnext, hsecond⟩ := hfirst "1" List.mem_cons_self
  obtain ⟨hsplit', huser', hnext', hsecond'⟩ :=
    hfirst "2" (List.mem_cons_of_mem _ List.mem_cons_self)
  apply UserinfoVariant.url hsplit hsplit' huser huser' Iff.rfl
  apply UserinfoVariant.url hnext hnext' hsecond hsecond' (by decide)
  exact .last (by decide)

/-- Two lists that differ in the second password alone are logged differently, and a token in the
query of a URL with user information is logged as it is. -/
theorem natsUrls_logged :
    UserinfoVariant (natsUrls "1").toList (natsUrls "2").toList ∧
      redactEmbeddedJson (.string (natsUrls "1")) ≠ redactEmbeddedJson (.string (natsUrls "2")) ∧
      redactValueRecursive (.string (natsUrls "1")) ≠
        redactValueRecursive (.string (natsUrls "2")) ∧
      ∀ lib : Libraries,
        redactJsonValue lib "url" (.string (natsUrls "1")) ≠
            redactJsonValue lib "url" (.string (natsUrls "2")) ∧
          redactJsonValue lib "url" (.string "http://u:p@h?token=x") ≠
            .string (fullyRedacted "http://u:p@h?token=x") := by
  have hkey : isSensitiveKey "url" = false := by decide +kernel
  have hconfig : "url" ≠ "config" := by decide
  have hdiffer : redactUrlUserinfo (natsUrls "1") = some "nats://[REDACTED]@a,nats://u:1@b" ∧
      redactUrlUserinfo (natsUrls "2") = some "nats://[REDACTED]@a,nats://u:2@b" := by
    decide +kernel
  have hstring : redactString (natsUrls "1") ≠ redactString (natsUrls "2") := by
    unfold redactString
    rw [hdiffer.1, hdiffer.2]
    decide
  refine ⟨natsUrls_variant, ?_, ?_, fun lib => ⟨?_, ?_⟩⟩
  · exact fun h => hstring (Json.string.inj h)
  · intro h
    have hleaf : (redactUrlUserinfo (natsUrls "1")).getD (natsUrls "1") =
      (redactUrlUserinfo (natsUrls "2")).getD (natsUrls "2") := Json.string.inj h
    rw [hdiffer.1, hdiffer.2] at hleaf
    exact absurd hleaf (by decide)
  · rw [redactJsonValue_string lib hkey hconfig, redactJsonValue_string lib hkey hconfig]
    exact fun h => hstring (Json.string.inj h)
  · rw [redactJsonValue_string lib hkey hconfig]
    intro h
    exact absurd (Json.string.inj h) (by decide +kernel)

end AvisoServer
