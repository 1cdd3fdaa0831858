import AvisoServer.Lib.SubjectFilter
import AvisoServer.TopicParser

/-!
# Watch patterns

A watch topic is decoded into a list of tokens in which `*` stands for any token; a notification
topic matches when it decodes to a list of the same length that agrees at every other position.
-/

namespace AvisoServer

/-! ## 1. Analysis and matching -/

/-- The position of the first wildcard token. -/
def firstWildcardPos (parts : List String) : Option Nat :=
  parts.findIdx? fun part => part = "*"

/-- The coarse subject pattern a backend with subject filters subscribes to. -/
def backendSubscriptionPattern (watchTopic : String) (fullWatchPattern : List String) : String :=
  match firstWildcardPos fullWatchPattern with
  | some pos =>
    if pos > 1 then encodeSubject (fullWatchPattern.take pos) ++ ".>"
    else encodeToken (fullWatchPattern.head?.getD "unknown") ++ ".>"
  | none =>
    if fullWatchPattern.length > 1 then encodeSubject fullWatchPattern.dropLast ++ ".>"
    else watchTopic ++ ".>"

/-- Build the backend's coarse pattern and the decoded full pattern. -/
def analyzeWatchPattern (watchTopic : String) : Result (String × List String) := do
  let fullWatchPattern ← withContext
    ("Failed to decode watch topic pattern '" ++ watchTopic ++ "'") (decodeSubject watchTopic)
  .ok (backendSubscriptionPattern watchTopic fullWatchPattern, fullWatchPattern)

/-- One position of the comparison. -/
def tokenMatches (notificationPart patternPart : String) : Bool :=
  patternPart = "*" || patternPart = notificationPart

def partsMatch (notificationParts watchPattern : List String) : Bool :=
  notificationParts.length = watchPattern.length &&
    (notificationParts.zip watchPattern).all fun p => tokenMatches p.1 p.2

/-- Position-based wildcard match on decoded topic tokens. -/
def matchesWatchPattern (notificationTopic : String) (watchPattern : List String) : Bool :=
  match decodeSubject notificationTopic with
  | .ok notificationParts => partsMatch notificationParts watchPattern
  | .error _ => false

/-! ## 2. The match, position by position -/

theorem partsMatch_iff_forall₂ (parts pattern : List String) :
    partsMatch parts pattern = true ↔
      List.Forall₂ (fun part pat => pat = "*" ∨ pat = part) parts pattern := by
  rw [partsMatch, List.forall₂_iff_zip]
  simp only [tokenMatches, Bool.and_eq_true, decide_eq_true_eq, List.all_eq_true,
    Bool.or_eq_true, Prod.forall]

/-- Topics of the same keys match when they match at every key. -/
theorem partsMatch_map_iff (head : String) (keys : List String) (value pattern : String → String) :
    partsMatch (head :: keys.map value) (head :: keys.map pattern) = true ↔
      ∀ key ∈ keys, pattern key = "*" ∨ pattern key = value key := by
  rw [partsMatch_iff_forall₂, List.forall₂_cons, List.forall₂_map_left_iff,
    List.forall₂_map_right_iff, List.forall₂_same]
  exact and_iff_right (Or.inr rfl)

/-- Where the pattern has one value for each key, a key whose value is no wildcard has that value,
and no other, in the topic. -/
theorem partsMatch_keyed (value : String → String) (keys parts : List String)
    (hmatch : partsMatch parts (keys.map value) = true) (hnodup : keys.Nodup) {key : String}
    (hkey : key ∈ keys) (hplain : value key ≠ "*") :
    (keys.zip parts).filter (fun p => p.1 = key) = [(key, value key)] := by
  have hparts := (partsMatch_iff_forall₂ parts _).mp hmatch
  clear hmatch
  induction keys generalizing parts with
  | nil => cases hkey
  | cons first keys ih =>
    obtain ⟨hfirst, hnodup⟩ := List.nodup_cons.mp hnodup
    obtain ⟨part, rest, hpart, hrest, rfl⟩ := List.forall₂_cons_right_iff.mp hparts
    rw [List.zip_cons_cons]
    by_cases hsame : first = key
    · subst hsame
      rw [List.filter_cons_of_pos (by simp), ← hpart.resolve_left hplain]
      -- the key does not come again
      have hnone : (keys.zip rest).filter (fun p => p.1 = first) = [] := by
        rw [List.filter_eq_nil_iff]
        intro p hp hagain
        exact hfirst (of_decide_eq_true hagain ▸ (List.of_mem_zip hp).1)
      rw [hnone]
    · rw [List.filter_cons_of_neg (by simpa using hsame)]
      exact ih rest hnodup ((List.mem_cons.mp hkey).resolve_left (Ne.symm hsame)) hrest

theorem matchesWatchPattern_encodeSubject (parts pattern : List String) (hne : parts ≠ []) :
    matchesWatchPattern (encodeSubject parts) pattern = partsMatch parts pattern := by
  rw [matchesWatchPattern, decodeSubject_encodeSubject parts hne]

theorem analyzeWatchPattern_encodeSubject (pattern : List String) (hne : pattern ≠ []) :
    analyzeWatchPattern (encodeSubject pattern) =
      .ok (backendSubscriptionPattern (encodeSubject pattern) pattern, pattern) := by
  rw [analyzeWatchPattern, decodeSubject_encodeSubject pattern hne]
  rfl

theorem analyzeWatchPattern_eq_ok (watchTopic coarse : String) (pattern : List String) :
    analyzeWatchPattern watchTopic = .ok (coarse, pattern) ↔
      decodeSubject watchTopic = .ok pattern ∧
        coarse = backendSubscriptionPattern watchTopic pattern := by
  rw [analyzeWatchPattern]
  cases h : decodeSubject watchTopic with
  | error e => simp [withContext, Except.mapError, bind, Except.bind]
  | ok parts =>
    simp only [withContext_ok, bind, Except.bind, Except.ok.injEq, Prod.mk.injEq]
    constructor
    · rintro ⟨rfl, rfl⟩
      exact ⟨rfl, rfl⟩
    · rintro ⟨rfl, rfl⟩
      exact ⟨rfl, rfl⟩

/-! ## 3. The coarse pattern -/

theorem intercalate_snoc (sep : Char) (xs : List (List Char)) (y : List Char) (hne : xs ≠ []) :
    [sep].intercalate (xs ++ [y]) = [sep].intercalate xs ++ sep :: y := by
  induction xs with
  | nil => exact absurd rfl hne
  | cons x xs ih =>
    by_cases hxs : xs = []
    · subst hxs
      simp [List.intercalate]
    · rw [List.cons_append, List.intercalate_cons_of_ne_nil (by simp), ih hxs,
        List.intercalate_cons_of_ne_nil hxs]
      simp

theorem joinChar_snoc (parts : List String) (p : String) (sep : Char) (hne : parts ≠ []) :
    joinChar (parts ++ [p]) sep = joinChar parts sep ++ String.ofList (sep :: p.toList) := by
  rw [joinChar, joinChar, List.map_append, List.map_singleton,
    intercalate_snoc _ _ _ (by simpa using hne), String.ofList_append]

theorem encodeSubject_singleton (token : String) : encodeSubject [token] = encodeToken token := by
  rw [encodeSubject, joinChar, List.map_singleton, List.map_singleton]
  simp [List.intercalate]

theorem splitChar_coarse (parts : List String) (hne : parts ≠ []) :
    splitChar (encodeSubject parts ++ ".>") subjectSeparator = parts.map encodeToken ++ [">"] := by
  have hjoin : encodeSubject parts ++ ".>" =
      joinChar (parts.map encodeToken ++ [">"]) subjectSeparator := by
    rw [joinChar_snoc _ _ _ (by simpa using hne)]
    rfl
  rw [hjoin]
  refine splitChar_joinChar _ _ ?_ (by simp)
  intro p hp
  rcases List.mem_append.mp hp with hp | hp
  · obtain ⟨token, -, rfl⟩ := List.mem_map.mp hp
    exact notMem_encodeToken _ (Or.inl rfl) token
  · rw [List.mem_singleton.mp hp]
    decide

/-- The coarse pattern fixes a proper prefix of the full pattern that has no wildcard in it. -/
theorem backendSubscriptionPattern_eq (watchTopic head : String) (tokens : List String)
    (hhead : head ≠ "*") (htokens : tokens ≠ []) :
    ∃ rest, head :: rest <+: head :: tokens ∧ rest.length < tokens.length ∧
      "*" ∉ head :: rest ∧
      backendSubscriptionPattern watchTopic (head :: tokens) =
        encodeSubject (head :: rest) ++ ".>" := by
  have hlength : 0 < tokens.length := List.length_pos_iff.mpr htokens
  rw [backendSubscriptionPattern]
  cases hpos : firstWildcardPos (head :: tokens) with
  | none =>
    have hnone : ∀ p ∈ head :: tokens, p ≠ "*" := by simpa [firstWildcardPos] using hpos
    refine ⟨tokens.dropLast, ?_, by rw [List.length_dropLast]; omega, ?_, ?_⟩
    · exact (List.cons_prefix_cons.mpr ⟨rfl, List.dropLast_prefix tokens⟩)
    · intro hmem
      rcases List.mem_cons.mp hmem with h | h
      · exact hhead h.symm
      · exact hnone "*" (List.mem_cons_of_mem head ((List.dropLast_subset tokens h))) rfl
    · simp only [List.length_cons]
      rw [if_pos (by omega), List.dropLast_cons_of_ne_nil htokens]
  | some pos =>
    obtain ⟨hlt, -, hbefore⟩ := List.findIdx?_eq_some_iff_getElem.mp hpos
    simp only [List.length_cons] at hlt
    -- a wildcard right behind the base leaves nothing but the base
    by_cases hone : pos > 1
    · refine ⟨tokens.take (pos - 1), ?_, by rw [List.length_take]; omega, ?_, ?_⟩
      · exact List.cons_prefix_cons.mpr ⟨rfl, List.take_prefix _ _⟩
      · intro hmem
        rcases List.mem_cons.mp hmem with h | h
        · exact hhead h.symm
        · obtain ⟨i, hi, heq⟩ := List.mem_take_iff_getElem.mp h
          have := hbefore (i + 1) (by omega)
          simp [heq] at this
      · obtain ⟨k, rfl⟩ : ∃ k, pos = k + 1 := ⟨pos - 1, by omega⟩
        simp only [if_pos hone, List.take_succ_cons, Nat.add_sub_cancel]
    · refine ⟨[], ?_, hlength, ?_, ?_⟩
      · exact List.cons_prefix_cons.mpr ⟨rfl, List.nil_prefix⟩
      · simpa using Ne.symm hhead
      · simp only [if_neg hone, List.head?_cons, Option.getD_some, encodeSubject_singleton]

theorem partsMatch_prefix (xs : List String) (y : String) (ys parts : List String)
    (hplain : "*" ∉ xs) (hmatch : partsMatch parts (xs ++ y :: ys) = true) :
    ∃ z zs, parts = xs ++ z :: zs := by
  rw [partsMatch_iff_forall₂] at hmatch
  induction xs generalizing parts with
  | nil =>
    obtain ⟨z, zs, -, -, rfl⟩ := List.forall₂_cons_right_iff.mp hmatch
    exact ⟨z, zs, rfl⟩
  | cons x xs ih =>
    obtain ⟨part, parts', hpart, hparts, rfl⟩ := List.forall₂_cons_right_iff.mp hmatch
    obtain ⟨z, zs, rfl⟩ := ih parts' (fun h => hplain (List.mem_cons_of_mem x h)) hparts
    have hx : x = part := hpart.resolve_left fun h => hplain (h ▸ List.mem_cons_self)
    exact ⟨z, zs, by rw [hx]; rfl⟩

/-- A notification that matches the pattern passes the coarse filter. -/
theorem matchesTokens_of_partsMatch (parts pattern fixed : List String)
    (hfixed : fixed <+: pattern) (hlength : fixed.length < pattern.length)
    (hne : fixed ≠ []) (hplain : "*" ∉ fixed) (hmatch : partsMatch parts pattern = true) :
    SubjectFilter.matchesTokens (splitChar (encodeSubject fixed ++ ".>") subjectSeparator)
      (splitChar (encodeSubject parts) subjectSeparator) = true := by
  obtain ⟨suffix, rfl⟩ := hfixed
  have hsuffix : suffix ≠ [] := by
    rintro rfl
    simp at hlength
  obtain ⟨y, ys, rfl⟩ := List.exists_cons_of_ne_nil hsuffix
  obtain ⟨z, zs, rfl⟩ := partsMatch_prefix fixed y ys parts hplain hmatch
  rw [splitChar_coarse fixed hne, splitChar_encodeSubject _ (by simp), List.map_append,
    List.map_cons]
  apply SubjectFilter.matchesTokens_prefix
  intro hmem
  obtain ⟨token, -, htoken⟩ := List.mem_map.mp hmem
  have hgt := notMem_encodeToken '>' (Or.inr (Or.inr rfl)) token
  rw [htoken] at hgt
  exact hgt (by decide)

theorem deriveStreamNameFromTopic_coarse (head : String) (rest : List String)
    (hhead : isTopicBase head = true) :
    deriveStreamNameFromTopic (encodeSubject (head :: rest) ++ ".>") =
      .ok (toAsciiUppercase head) := by
  have hwire := encodeToken_of_isTopicBase head hhead
  have hbase : decodeSubjectBase (encodeSubject (head :: rest) ++ ".>") = .ok head := by
    rw [decodeSubjectBase, splitChar_coarse _ (by simp)]
    simp only [List.map_cons, List.cons_append, List.head?_cons, hwire,
      if_neg (isTopicBase_ne_empty head hhead)]
    have hdecode := decodeToken_encodeToken head
    rwa [hwire] at hdecode
  have hvalid := (validateTopicBase_eq_ok head).mpr hhead
  simp only [deriveStreamNameFromTopic, deriveEventTypeFromTopic, hbase, withContext_ok,
    TopicBinding.new, hvalid, bind, Except.bind]

/-- The coarse pattern of a watch topic: a proper prefix of its tokens that has no wildcard in it, on
the stream of its base. -/
structure CoarsePattern (watchBase : String) (tokens fixed : List String) : Prop where
  initial : watchBase :: fixed <+: watchBase :: tokens
  shorter : fixed.length < tokens.length
  plain : "*" ∉ watchBase :: fixed
  coarse : backendSubscriptionPattern (encodeSubject (watchBase :: tokens)) (watchBase :: tokens) =
    encodeSubject (watchBase :: fixed) ++ ".>"
  analyzed : analyzeWatchPattern (encodeSubject (watchBase :: tokens)) =
    .ok (encodeSubject (watchBase :: fixed) ++ ".>", watchBase :: tokens)
  streamName : deriveStreamNameFromTopic (encodeSubject (watchBase :: fixed) ++ ".>") =
    .ok (toAsciiUppercase watchBase)

theorem exists_coarsePattern (watchBase : String) (tokens : List String)
    (hwatch : isTopicBase watchBase = true) (htokens : tokens ≠ []) :
    ∃ fixed, CoarsePattern watchBase tokens fixed := by
  obtain ⟨fixed, hfixed, hlength, hplain, hcoarse⟩ :=
    backendSubscriptionPattern_eq (encodeSubject (watchBase :: tokens)) watchBase tokens
      (isTopicBase_ne_wildcard watchBase hwatch) htokens
  refine ⟨fixed, hfixed, hlength, hplain, hcoarse, ?_,
    deriveStreamNameFromTopic_coarse watchBase fixed hwatch⟩
  rw [analyzeWatchPattern_encodeSubject _ (List.cons_ne_nil _ _), hcoarse]

/-! ## 4. Soundness of the coarse pattern -/

/-- A notification that a watch delivers is in the stream of the coarse filter, passes that filter
and is bound by its base. -/
theorem coarsePattern_sound (watchBase base : String) (tokens values : List String)
    (hwatch : isTopicBase watchBase = true) (hbase : isTopicBase base = true)
    (htokens : tokens ≠ []) (hvalues : values ≠ []) :
    ∃ coarse pattern binding,
      analyzeWatchPattern (encodeSubject (watchBase :: tokens)) = .ok (coarse, pattern) ∧
      TopicBinding.new base = .ok binding ∧
      (matchesWatchPattern (encodeSubject (base :: values)) pattern = true →
        SubjectFilter.matchesTokens (splitChar coarse subjectSeparator)
            (splitChar (encodeSubject (base :: values)) subjectSeparator) = true ∧
          SubjectFilter.matchesTokens (splitChar binding.subjectPattern subjectSeparator)
            (splitChar (encodeSubject (base :: values)) subjectSeparator) = true ∧
          deriveStreamNameFromTopic (encodeSubject (base :: values)) = .ok binding.streamName ∧
          deriveStreamNameFromTopic coarse = .ok binding.streamName) := by
  obtain ⟨fixed, hfixed⟩ := exists_coarsePattern watchBase tokens hwatch htokens
  have hvalid := (validateTopicBase_eq_ok base).mpr hbase
  refine ⟨_, _, { streamName := toAsciiUppercase base, subjectPattern := base ++ ".>" },
    hfixed.analyzed, ?_, ?_⟩
  · unfold TopicBinding.new
    rw [hvalid]
    rfl
  intro hmatch
  rw [matchesWatchPattern_encodeSubject _ _ (by simp)] at hmatch
  -- the first tokens agree, since the base of a watch topic is no wildcard
  have hsame : watchBase = base := by
    cases (partsMatch_iff_forall₂ _ _).mp hmatch with
    | cons hfirst _ => exact hfirst.resolve_left (isTopicBase_ne_wildcard watchBase hwatch)
  subst hsame
  refine ⟨?_, ?_, ?_, ?_⟩
  · exact matchesTokens_of_partsMatch _ _ _ hfixed.initial (Nat.succ_lt_succ hfixed.shorter)
      (List.cons_ne_nil _ _) hfixed.plain hmatch
  · have hbinding : watchBase ++ ".>" = encodeSubject [watchBase] ++ ".>" := by
      rw [encodeSubject_singleton, encodeToken_of_isTopicBase watchBase hwatch]
    obtain ⟨value, rest, rfl⟩ := List.exists_cons_of_ne_nil hvalues
    rw [hbinding, splitChar_coarse _ (by simp), splitChar_encodeSubject _ (by simp)]
    apply SubjectFilter.matchesTokens_prefix
    intro hmem
    rw [List.map_singleton, List.mem_singleton] at hmem
    have hgt := notMem_encodeToken '>' (Or.inr (Or.inr rfl)) watchBase
    rw [← hmem] at hgt
    exact hgt (by decide)
  · exact deriveStreamNameFromTopic_encodeSubject watchBase values hwatch
  · exact hfixed.streamName

theorem coarsePattern_sound_reserved :
    ∃ coarse pattern binding,
      analyzeWatchPattern (encodeSubject ["mars", "*", "1.45"]) = .ok (coarse, pattern) ∧
      TopicBinding.new "mars" = .ok binding ∧
      (matchesWatchPattern (encodeSubject ["mars", "od>", "1.45"]) pattern = true →
        SubjectFilter.matchesTokens (splitChar coarse subjectSeparator)
            (splitChar (encodeSubject ["mars", "od>", "1.45"]) subjectSeparator) = true ∧
          SubjectFilter.matchesTokens (splitChar binding.subjectPattern subjectSeparator)
            (splitChar (encodeSubject ["mars", "od>", "1.45"]) subjectSeparator) = true ∧
          deriveStreamNameFromTopic (encodeSubject ["mars", "od>", "1.45"]) =
            .ok binding.streamName ∧
          deriveStreamNameFromTopic coarse = .ok binding.streamName) :=
  coarsePattern_sound "mars" "mars" ["*", "1.45"] ["od>", "1.45"] (by decide +kernel)
    (by decide +kernel) (by simp) (by simp)

end AvisoServer
