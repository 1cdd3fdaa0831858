import AvisoServer.Auth.Client
import AvisoServer.Routes.AdminGuard

/-!
# Identity

Who a request is served for. The grammars of the headers, and for each outcome of the middleware
what the request, the auth service and the verification of the token have to be for it.
-/

namespace AvisoServer

open Words

/-! ## 1. Headers and tokens -/

/-- `Bearer`, in any case, and the token, with blanks around them. -/
structure BearerText (text token : String) : Prop where
  parts : ∃ before scheme between after,
    text.toList = before ++ (scheme ++ (between ++ (token.toList ++ after))) ∧
      IsGap isWhitespaceChar before ∧ IsGap isWhitespaceChar between ∧ between ≠ [] ∧
      IsGap isWhitespaceChar after ∧ IsPiece isWhitespaceChar scheme ∧
      eqIgnoreAsciiCase (String.ofList scheme) "Bearer" = true
  word : IsPiece isWhitespaceChar token.toList

theorem trim_parts (text : String) :
    ∃ before after, text.toList = before ++ ((trim text).toList ++ after) ∧
      IsGap isWhitespaceChar before ∧ IsGap isWhitespaceChar after := by
  set start := text.toList.dropWhile isWhitespaceChar with hstart
  have hbefore : text.toList = text.toList.takeWhile isWhitespaceChar ++ start :=
    List.takeWhile_append_dropWhile.symm
  have hafter : start.reverse = start.reverse.takeWhile isWhitespaceChar ++
      start.reverse.dropWhile isWhitespaceChar := List.takeWhile_append_dropWhile.symm
  have hsplit : start = (start.reverse.dropWhile isWhitespaceChar).reverse ++
      (start.reverse.takeWhile isWhitespaceChar).reverse := by
    rw [← List.reverse_append, ← hafter, List.reverse_reverse]
  refine ⟨text.toList.takeWhile isWhitespaceChar,
    (start.reverse.takeWhile isWhitespaceChar).reverse, ?_, ?_, ?_⟩
  · rw [trim, String.toList_ofList, ← hstart, ← hsplit]
    exact hbefore
  · exact fun c hc => List.mem_takeWhile_imp hc
  · exact fun c hc => List.mem_takeWhile_imp (List.mem_reverse.mp hc)

/-- Blanks around a text do not change its words. -/
theorem splitWhitespace_trim (text : String) :
    splitWhitespace (trim text) = splitWhitespace text := by
  obtain ⟨before, after, htext, hbefore, hafter⟩ := trim_parts text
  show (words isWhitespaceChar (trim text).toList).map String.ofList =
    (words isWhitespaceChar text.toList).map String.ofList
  rw [htext, words_blank_append hbefore, words_append_blank hafter]

theorem extractBearerTokenFromStr_iff {text token : String} :
    extractBearerTokenFromStr text = some token ↔ BearerText text token := by
  rw [extractBearerTokenFromStr, splitWhitespace_trim]
  have hwords : ∀ first second : List Char,
      splitWhitespace text = [String.ofList first, String.ofList second] ↔
        words isWhitespaceChar text.toList = [first, second] := by
    intro first second
    show (words isWhitespaceChar text.toList).map String.ofList =
      [first, second].map String.ofList ↔ _
    exact (List.map_injective_iff.mpr fun _ _ h => String.ofList_inj.mp h).eq_iff
  constructor
  · intro h
    -- exactly two words, the first of which is the scheme
    cases hsplit : splitWhitespace text with
    | nil =>
      rw [hsplit] at h
      cases h
    | cons scheme others =>
      rw [hsplit] at h
      cases others with
      | nil => cases h
      | cons found others =>
        cases others with
        | cons extra others => cases h
        | nil =>
          simp only at h
          split_ifs at h with hscheme
          cases h
          rw [← @String.ofList_toList scheme, ← @String.ofList_toList token] at hsplit
          obtain ⟨before, between, after, htext, hbefore, hbetween, hne, hafter, hfirst, hsecond⟩ :=
            words_eq_pair_iff.mp ((hwords _ _).mp hsplit)
          refine ⟨⟨before, scheme.toList, between, after, htext, hbefore, hbetween, hne, hafter,
            hfirst, ?_⟩, hsecond⟩
          rw [String.ofList_toList]
          exact hscheme
  · intro h
    obtain ⟨⟨before, scheme, between, after, htext, hbefore, hbetween, hne, hafter, hfirst,
      hscheme⟩, hword⟩ := h
    have hsplit := (hwords scheme token.toList).mpr (words_eq_pair_iff.mpr
      ⟨before, between, after, htext, hbefore, hbetween, hne, hafter, hfirst, hword⟩)
    rw [hsplit]
    simp only [hscheme, if_true, String.ofList_toList]

/-- Three segments of base64url, with a dot between them. -/
def JwtText (value : String) : Prop :=
  ∃ first second third, value = joinChar [first, second, third] '.' ∧
    isBase64urlSegment first = true ∧ isBase64urlSegment second = true ∧
    isBase64urlSegment third = true

theorem segment_no_dot {segment : String} (h : isBase64urlSegment segment = true) :
    '.' ∉ segment.toList := by
  rw [isBase64urlSegment, Bool.and_eq_true] at h
  intro hdot
  have hchar := List.all_eq_true.mp h.2 '.' hdot
  revert hchar
  decide

theorem joinChar_splitChar (value : String) (sep : Char) :
    joinChar (splitChar value sep) sep = value := by
  rw [joinChar, splitChar, List.map_map]
  have hid : String.toList ∘ String.ofList = id := funext fun cs => String.toList_ofList
  rw [hid, List.map_id, List.intercalate_splitOn, String.ofList_toList]

theorem isJwtLike_iff {value : String} : isJwtLike value = true ↔ JwtText value := by
  rw [isJwtLike]
  constructor
  · intro h
    -- the three segments joined again are the text
    have hjoin := joinChar_splitChar value '.'
    cases hsplit : splitChar value '.' with
    | nil =>
      rw [hsplit] at h
      cases h
    | cons first others =>
      cases others with
      | nil =>
        rw [hsplit] at h
        cases h
      | cons second others =>
        cases others with
        | nil =>
          rw [hsplit] at h
          cases h
        | cons third others =>
          cases others with
          | cons extra others =>
            rw [hsplit] at h
            cases h
          | nil =>
            rw [hsplit] at h hjoin
            simp only [Bool.and_eq_true] at h
            exact ⟨first, second, third, hjoin.symm, h.1.1, h.1.2, h.2⟩
  · intro h
    obtain ⟨first, second, third, rfl, hfirst, hsecond, hthird⟩ := h
    have hsplit : splitChar (joinChar [first, second, third] '.') '.' = [first, second, third] := by
      apply splitChar_joinChar
      · intro part hpart
        simp only [List.mem_cons, List.not_mem_nil, or_false] at hpart
        rcases hpart with rfl | rfl | rfl
        · exact segment_no_dot hfirst
        · exact segment_no_dot hsecond
        · exact segment_no_dot hthird
      · exact List.cons_ne_nil _ _
    rw [hsplit]
    simp only [hfirst, hsecond, hthird, Bool.and_self]

/-! ## 2. Credentials -/

/-- A scheme of the auth service and credentials that are not blank, with a space between them. -/
def CredentialsText (value : String) : Prop :=
  ∃ scheme credentials, value = scheme ++ String.ofList (' ' :: credentials.toList) ∧
    ' ' ∉ scheme.toList ∧
    (eqIgnoreAsciiCase scheme "Bearer" = true ∨ eqIgnoreAsciiCase scheme "Basic" = true) ∧
    trim credentials ≠ ""

def ServiceRequest.headerText (request : ServiceRequest) : Option String :=
  request.authorization.bind HeaderValue.toStr

/-- What is sent to the auth service for a request. -/
def ServiceRequest.Sends (request : ServiceRequest) (value : String) : Prop :=
  ∃ text, request.headerText = some text ∧ value = trim text ∧ CredentialsText value

/-- The token that a request brings itself. -/
def ServiceRequest.Brings (request : ServiceRequest) (token : String) : Prop :=
  ∃ text, request.headerText = some text ∧ BearerText text token

theorem splitOnce_eq_some {value left right : String} {sep : Char}
    (h : splitOnce value sep = some (left, right)) :
    value = left ++ String.ofList (sep :: right.toList) ∧ sep ∉ left.toList := by
  unfold splitOnce at h
  split_ifs at h with hmem
  cases h
  have hsplit := (@List.takeWhile_append_dropWhile _ (fun c => decide (c ≠ sep)) value.toList).symm
  constructor
  · apply String.toList_injective
    rw [String.toList_append, String.toList_ofList, String.toList_ofList, String.toList_ofList]
    -- what the prefix leaves over begins with the separator
    cases hrest : value.toList.dropWhile (fun c => decide (c ≠ sep)) with
    | nil =>
      rw [List.dropWhile_eq_nil_iff] at hrest
      exact absurd rfl (of_decide_eq_true (hrest sep hmem))
    | cons c others =>
      have hstart := List.head?_dropWhile_not (fun c => decide (c ≠ sep)) value.toList
      rw [hrest] at hstart
      have hc : c = sep := by simpa using hstart
      rw [hrest, hc] at hsplit
      exact hsplit
  · rw [String.toList_ofList]
    intro hleft
    have hother := List.mem_takeWhile_imp hleft
    simp at hother

theorem resolveDirectCredentials_iff {request : ServiceRequest} {value : String} :
    resolveDirectCredentials request = .ok (some value) ↔ request.Sends value := by
  unfold resolveDirectCredentials ServiceRequest.Sends ServiceRequest.headerText
  cases hheader : request.authorization with
  | none =>
    simp only [Option.bind_none]
    exact iff_of_false (fun h => by cases h) fun h => by
      obtain ⟨text, htext, -⟩ := h
      cases htext
  | some header =>
    simp only [Option.bind_some]
    cases htext : HeaderValue.toStr header with
    | none =>
      simp only
      exact iff_of_false (fun h => by cases h) fun h => by
        obtain ⟨text, hfound, -⟩ := h
        cases hfound
    | some text =>
      simp only
      constructor
      · intro h
        split_ifs at h with hempty
        cases hsplit : splitOnce (trim text) ' ' with
        | none =>
          simp only [hsplit] at h
          cases h
        | some parts =>
          obtain ⟨scheme, credentials⟩ := parts
          simp only [hsplit] at h
          split_ifs at h with hscheme hblank
          cases h
          obtain ⟨hvalue, hplain⟩ := splitOnce_eq_some hsplit
          refine ⟨text, rfl, rfl, scheme, credentials, hvalue, hplain, ?_, hblank⟩
          -- any other scheme was refused before its credentials were looked at
          by_contra hneither
          push Not at hneither
          exact hscheme (by simp [hneither.1, hneither.2])
      · intro h
        obtain ⟨found, hfound, rfl, scheme, credentials, hvalue, hplain, hscheme, hblank⟩ := h
        cases hfound
        -- the space alone keeps the header from being empty
        have hne : trim text ≠ "" := by
          rw [hvalue]
          intro hempty
          have hchars := congrArg String.toList hempty
          rw [String.toList_append, String.toList_ofList] at hchars
          simp at hchars
        have hsplit : splitOnce (trim text) ' ' = some (scheme, credentials) := by
          rw [hvalue]
          exact splitOnce_append credentials hplain
        rw [if_neg hne, hsplit]
        simp only
        rw [if_neg (by rcases hscheme with h | h <;> simp [h]), if_neg hblank]

theorem resolveTrustedProxyToken_iff {request : ServiceRequest} {token : String} :
    resolveTrustedProxyToken request = .ok (some token) ↔ request.Brings token := by
  unfold resolveTrustedProxyToken ServiceRequest.Brings ServiceRequest.headerText
  cases hheader : request.authorization with
  | none =>
    simp only [Option.bind_none]
    exact iff_of_false (fun h => by cases h) fun h => by
      obtain ⟨text, htext, -⟩ := h
      cases htext
  | some header =>
    simp only [Option.bind_some]
    have htoken : ∀ found : String,
        (HeaderValue.toStr header).bind extractBearerTokenFromStr = some found ↔
          ∃ text, HeaderValue.toStr header = some text ∧ BearerText text found := by
      intro found
      rw [Option.bind_eq_some_iff]
      exact exists_congr fun text => and_congr_right fun _ => extractBearerTokenFromStr_iff
    rw [← htoken]
    cases hfound : (HeaderValue.toStr header).bind extractBearerTokenFromStr with
    | none => exact iff_of_false (fun h => by cases h) fun h => by cases h
    | some found =>
      -- a token is a word, so it is not blank
      obtain ⟨text, -, hbearer⟩ := (htoken found).mp hfound
      have hne : trim found ≠ "" := by
        rw [trim_plain hbearer.word.whole]
        rintro rfl
        exact hbearer.word.nonempty rfl
      simp only
      rw [if_neg hne]
      constructor
      · intro h
        cases h
        rfl
      · intro h
        cases h
        rfl

/-! ## 3. The auth service -/

section Service

variable (readJson : String → Option Json)

/-- What is tried of a body: the first field of an object, a JSON string, the text itself. -/
def bodyCandidates (text : String) : List String :=
  (((readJson text).bind AuthenticateResponse.fromJson).bind
      AuthenticateResponse.first).toList.map trim ++
    (((readJson text).bind Json.asStr).toList.map trim ++ [text])

/-- The token is the first candidate of the body that looks like one. -/
def BodyOffers (body token : String) : Prop :=
  trim body ≠ "" ∧ JwtText token ∧ ∃ earlier later,
    bodyCandidates readJson (trim body) = earlier ++ token :: later ∧
      ∀ candidate ∈ earlier, ¬ JwtText candidate

def AuthServiceResponse.HeaderOffers (response : AuthServiceResponse) (token : String) : Prop :=
  ∃ text, response.authorization.bind HeaderValue.toStr = some text ∧ BearerText text token ∧
    JwtText token

/-- A token in the header of an answer, or else one in its body. -/
def AuthServiceResponse.Offers (response : AuthServiceResponse) (token : String) : Prop :=
  response.HeaderOffers token ∨
    (∀ other, ¬ response.HeaderOffers other) ∧
      ∃ body, response.body = some body ∧ BodyOffers readJson body token

/-- An answer with a status of success. -/
structure AuthServiceResponse.Succeeds (response : AuthServiceResponse) : Prop where
  low : 200 ≤ response.status
  high : response.status < 300

variable {readJson}

theorem jwtText_orElse {values : Option String} {others : List String} :
    ((values.bind fun value => jwtText (trim value)) <|> others.find? isJwtLike) =
      (values.toList.map trim ++ others).find? isJwtLike := by
  cases values with
  | none => rfl
  | some value =>
    rw [Option.bind_some, Option.toList_some, List.map_singleton, List.singleton_append,
      List.find?_cons, jwtText]
    cases isJwtLike (trim value) with
    | true => rfl
    | false => rfl

theorem jwtText_eq_find (text : String) : jwtText text = [text].find? isJwtLike := by
  rw [jwtText, List.find?_cons]
  cases isJwtLike text <;> rfl

theorem parseJwtFromResponse_iff {body token : String} :
    parseJwtFromResponse readJson body = some token ↔ BodyOffers readJson body token := by
  -- the attempts, each made when the ones before it give nothing, are one search
  have hcandidates : trim body ≠ "" → parseJwtFromResponse readJson body =
      (bodyCandidates readJson (trim body)).find? isJwtLike := by
    intro hne
    unfold parseJwtFromResponse bodyCandidates
    simp only [if_neg hne]
    rw [← jwtText_orElse, ← jwtText_orElse, ← jwtText_eq_find, ← Option.bind_assoc]
  have hjwt : ∀ candidate, isJwtLike candidate = false ↔ ¬ JwtText candidate := by
    intro candidate
    rw [← isJwtLike_iff, Bool.not_eq_true]
  constructor
  · intro h
    have hne : trim body ≠ "" := by
      intro hempty
      unfold parseJwtFromResponse at h
      simp only [if_pos hempty] at h
      cases h
    rw [hcandidates hne] at h
    obtain ⟨hlike, earlier, later, hsplit, hearlier⟩ := List.find?_eq_some_iff_append.mp h
    refine ⟨hne, isJwtLike_iff.mp hlike, earlier, later, hsplit, fun candidate hmem => ?_⟩
    exact (hjwt candidate).mp (by simpa using hearlier candidate hmem)
  · intro h
    obtain ⟨hne, hlike, earlier, later, hsplit, hearlier⟩ := h
    rw [hcandidates hne]
    refine List.find?_eq_some_iff_append.mpr ⟨isJwtLike_iff.mpr hlike, earlier, later, hsplit, ?_⟩
    intro candidate hmem
    simpa using (hjwt candidate).mpr (hearlier candidate hmem)

theorem headerToken_iff {response : AuthServiceResponse} {token : String} :
    response.headerToken = some token ↔ response.HeaderOffers token := by
  unfold AuthServiceResponse.headerToken AuthServiceResponse.HeaderOffers
  rw [Option.bind_eq_some_iff]
  refine exists_congr fun text => and_congr_right fun _ => ?_
  unfold parseJwtFromAuthorizationHeader
  rw [Option.bind_eq_bind, Option.bind_eq_some_iff]
  constructor
  · intro h
    obtain ⟨found, hfound, hlike⟩ := h
    split_ifs at hlike with hjwt
    cases hlike
    exact ⟨extractBearerTokenFromStr_iff.mp hfound, isJwtLike_iff.mp hjwt⟩
  · intro h
    exact ⟨token, extractBearerTokenFromStr_iff.mpr h.1, if_pos (isJwtLike_iff.mpr h.2)⟩

end Service

/-- The service answers these credentials with the token. -/
def AuthClient.Grants (client : AuthClient) (value token : String) : Prop :=
  ∃ response, client.get client.authenticateUrl value = some response ∧ response.Succeeds ∧
    response.Offers client.readJson token

/-- The service gives no usable answer to these credentials. -/
def AuthClient.Fails (client : AuthClient) (value : String) : Prop :=
  client.get client.authenticateUrl value = none ∨
    ∃ response, client.get client.authenticateUrl value = some response ∧
      response.status ≠ 401 ∧ response.status ≠ 403 ∧
      (response.Succeeds → ∀ token, ¬ response.Offers client.readJson token)

section Authenticate

variable {client : AuthClient} {value : String}

theorem isSuccess_iff {response : AuthServiceResponse} :
    response.isSuccess = true ↔ response.Succeeds := by
  rw [AuthServiceResponse.isSuccess, decide_eq_true_iff]
  exact ⟨fun h => ⟨h.1, h.2⟩, fun h => ⟨h.low, h.high⟩⟩

/-- The four ways in which the client answers. -/
theorem authenticate_cases (client : AuthClient) (value : String) :
    (∃ token, client.authenticate value = .ok token ∧ client.Grants value token ∧
      ∀ other, client.Grants value other → other = token) ∨
    (client.authenticate value = .error .unauthorized ∧
      ∃ response, client.get client.authenticateUrl value = some response ∧
        response.status = 401) ∨
    (client.authenticate value = .error .forbidden ∧
      ∃ response, client.get client.authenticateUrl value = some response ∧
        response.status = 403) ∨
    (∃ e, client.authenticate value = .error e ∧ e ≠ .unauthorized ∧ e ≠ .forbidden ∧
      client.Fails value) := by
  unfold AuthClient.authenticate
  cases hget : client.get client.authenticateUrl value with
  | none => exact Or.inr (Or.inr (Or.inr ⟨_, rfl, by decide, by decide, Or.inl hget⟩))
  | some response =>
    simp only
    by_cases h401 : response.status = 401
    · rw [if_pos h401]
      exact Or.inr (Or.inl ⟨rfl, response, rfl, h401⟩)
    rw [if_neg h401]
    by_cases h403 : response.status = 403
    · rw [if_pos h403]
      exact Or.inr (Or.inr (Or.inl ⟨rfl, response, rfl, h403⟩))
    rw [if_neg h403]
    have hfails : (response.Succeeds → ∀ token, ¬ response.Offers client.readJson token) →
        client.Fails value := fun h => Or.inr ⟨response, hget, h401, h403, h⟩
    have hunique : ∀ token, (∀ other, response.Offers client.readJson other → other = token) →
        ∀ other, client.Grants value other → other = token := by
      intro token h other hgrants
      obtain ⟨found, hfound, -, hoffers⟩ := hgrants
      rw [hget] at hfound
      cases hfound
      exact h other hoffers
    by_cases hsuccess : response.isSuccess = true
    · have hsucceeds := isSuccess_iff.mp hsuccess
      rw [hsuccess]
      simp only [Bool.not_true, Bool.false_eq_true, if_false]
      cases hheader : response.headerToken with
      | some token =>
        -- the header decides
        have hoffers := headerToken_iff.mp hheader
        refine Or.inl ⟨token, rfl, ⟨response, hget, hsucceeds, Or.inl hoffers⟩,
          hunique token fun other hother => ?_⟩
        cases hother with
        | inl hsame =>
          have hboth := headerToken_iff.mpr hsame
          rw [hheader] at hboth
          exact (Option.some.inj hboth).symm
        | inr hbody => exact absurd hoffers (hbody.1 token)
      | none =>
        -- the body is read only when the header has no token
        have hnone : ∀ other, ¬ response.HeaderOffers other := by
          intro other hother
          rw [← headerToken_iff, hheader] at hother
          cases hother
        have hbodies : ∀ token, response.Offers client.readJson token →
            ∃ body, response.body = some body ∧ BodyOffers client.readJson body token :=
          fun token h => (h.resolve_left (hnone token)).2
        cases hbody : response.body with
        | none =>
          refine Or.inr (Or.inr (Or.inr ⟨_, rfl, by decide, by decide, hfails ?_⟩))
          intro _ token hoffers
          obtain ⟨body, hfound, -⟩ := hbodies token hoffers
          rw [hbody] at hfound
          cases hfound
        | some body =>
          simp only
          cases hparse : parseJwtFromResponse client.readJson body with
          | some token =>
            refine Or.inl ⟨token, rfl, ⟨response, hget, hsucceeds,
              Or.inr ⟨hnone, body, hbody, parseJwtFromResponse_iff.mp hparse⟩⟩,
              hunique token fun other hother => ?_⟩
            obtain ⟨found, hfound, hoffers⟩ := hbodies other hother
            rw [hbody] at hfound
            cases hfound
            rw [← parseJwtFromResponse_iff, hparse] at hoffers
            exact (Option.some.inj hoffers).symm
          | none =>
            refine Or.inr (Or.inr (Or.inr ⟨_, rfl, by decide, by decide, hfails ?_⟩))
            intro _ token hoffers
            obtain ⟨found, hfound, hoffers⟩ := hbodies token hoffers
            rw [hbody] at hfound
            cases hfound
            rw [← parseJwtFromResponse_iff, hparse] at hoffers
            cases hoffers
    · -- of any other status neither the header nor the body is read
      rw [Bool.eq_false_of_not_eq_true hsuccess]
      exact Or.inr (Or.inr (Or.inr ⟨_, rfl, nofun, nofun,
        hfails fun hsucceeds => absurd (isSuccess_iff.mpr hsucceeds) hsuccess⟩))

end Authenticate

/-! ## 4. Evidence -/

def AuthClient.AnswersWith (client : AuthClient) (value : String) (status : Nat) : Prop :=
  ∃ response, client.get client.authenticateUrl value = some response ∧ response.status = status

theorem not_fails_of_grants {client : AuthClient} {value token : String}
    (hgrants : client.Grants value token) : ¬ client.Fails value := by
  intro hfails
  obtain ⟨response, hget, hsucceeds, hoffers⟩ := hgrants
  cases hfails with
  | inl hnone =>
    rw [hget] at hnone
    cases hnone
  | inr hanswer =>
    obtain ⟨found, hfound, -, -, hnot⟩ := hanswer
    rw [hget] at hfound
    cases hfound
    exact hnot hsucceeds token hoffers

/-- A refusal is neither a grant nor a failure. -/
theorem answersWith_refusal {client : AuthClient} {value : String} {status : Nat}
    (h : client.AnswersWith value status) (hrefusal : status = 401 ∨ status = 403) :
    (∀ token, ¬ client.Grants value token) ∧ ¬ client.Fails value := by
  obtain ⟨response, hget, rfl⟩ := h
  constructor
  · intro token hgrants
    obtain ⟨found, hfound, hsucceeds, -⟩ := hgrants
    rw [hget] at hfound
    cases hfound
    have hhigh := hsucceeds.high
    omega
  · intro hfails
    cases hfails with
    | inl hnone =>
      rw [hget] at hnone
      cases hnone
    | inr hanswer =>
      obtain ⟨found, hfound, h401, h403, -⟩ := hanswer
      rw [hget] at hfound
      cases hfound
      exact hrefusal.elim h401 h403

theorem authenticate_grants {client : AuthClient} {value token : String}
    (h : client.Grants value token) : client.authenticate value = .ok token := by
  rcases authenticate_cases client value with ⟨other, hresult, -, hunique⟩ | ⟨-, h401⟩ |
    ⟨-, h403⟩ | ⟨e, -, -, -, hfails⟩
  · rw [hresult, hunique token h]
  · exact absurd h ((answersWith_refusal h401 (Or.inl rfl)).1 token)
  · exact absurd h ((answersWith_refusal h403 (Or.inr rfl)).1 token)
  · exact absurd hfails (not_fails_of_grants h)

theorem authenticate_rejected {client : AuthClient} {value : String}
    (h : client.AnswersWith value 401) : client.authenticate value = .error .unauthorized := by
  obtain ⟨response, hget, hstatus⟩ := h
  unfold AuthClient.authenticate
  simp only [hget]
  rw [if_pos hstatus]

theorem authenticate_denied {client : AuthClient} {value : String}
    (h : client.AnswersWith value 403) : client.authenticate value = .error .forbidden := by
  obtain ⟨response, hget, hstatus⟩ := h
  unfold AuthClient.authenticate
  simp only [hget]
  rw [if_neg (by omega), if_pos hstatus]

theorem authenticate_fails {client : AuthClient} {value : String} (h : client.Fails value) :
    ∃ e, client.authenticate value = .error e ∧ e ≠ .unauthorized ∧ e ≠ .forbidden := by
  rcases authenticate_cases client value with ⟨token, -, hgrants, -⟩ | ⟨-, h401⟩ |
    ⟨-, h403⟩ | ⟨e, hresult, h401, h403, -⟩
  · exact absurd h (not_fails_of_grants hgrants)
  · exact absurd h (answersWith_refusal h401 (Or.inl rfl)).2
  · exact absurd h (answersWith_refusal h403 (Or.inr rfl)).2
  · exact ⟨e, hresult, h401, h403⟩

/-- What there is to decide on: nothing that can be read, a token that is still to be verified, or
an auth service that rejects or denies the credentials or gives no usable answer. -/
inductive Evidence where
  | absent
  | token (text : String)
  | rejected
  | denied
  | failed

section Decisions

variable (service : AuthService) (validateJwt : String → String → Option JwtClaims)
variable (settings : AuthSettings) (request : ServiceRequest)

inductive ServiceRequest.Shows : Evidence → Prop
  | nothingToSend (mode : settings.mode = .direct) (none : ∀ value, ¬ request.Sends value) :
    Shows .absent
  | nothingBrought (mode : settings.mode = .trustedProxy) (none : ∀ token, ¬ request.Brings token) :
    Shows .absent
  | brought (mode : settings.mode = .trustedProxy) {token : String}
    (brings : request.Brings token) : Shows (.token token)
  | granted (mode : settings.mode = .direct) {value token : String} {client : AuthClient}
    (sends : request.Sends value) (built : authClient service settings = some client)
    (grants : client.Grants value token) : Shows (.token token)
  | rejected (mode : settings.mode = .direct) {value : String} {client : AuthClient}
    (sends : request.Sends value) (built : authClient service settings = some client)
    (answers : client.AnswersWith value 401) : Shows .rejected
  | denied (mode : settings.mode = .direct) {value : String} {client : AuthClient}
    (sends : request.Sends value) (built : authClient service settings = some client)
    (answers : client.AnswersWith value 403) : Shows .denied
  | failed (mode : settings.mode = .direct) {value : String} (sends : request.Sends value)
    (fails : ∀ client, authClient service settings = some client → client.Fails value) :
    Shows .failed

/-- The token is verified and names a user. -/
def TokenUser (token : String) (user : User) : Prop :=
  ∃ claims, validateJwt token settings.jwtSecret = some claims ∧ User.tryFrom claims = .ok user

variable {service validateJwt settings request}

theorem shows_total (service : AuthService) (settings : AuthSettings) (request : ServiceRequest) :
    ∃ evidence, request.Shows service settings evidence := by
  cases hmode : settings.mode with
  | trustedProxy =>
    by_cases hbrings : ∃ token, request.Brings token
    · obtain ⟨token, hbrings⟩ := hbrings
      exact ⟨_, .brought hmode hbrings⟩
    · exact ⟨_, .nothingBrought hmode (not_exists.mp hbrings)⟩
  | direct =>
    by_cases hsends : ∃ value, request.Sends value
    · obtain ⟨value, hsends⟩ := hsends
      cases hclient : authClient service settings with
      | none => exact ⟨_, .failed hmode hsends fun client h => by rw [hclient] at h; cases h⟩
      | some client =>
        rcases authenticate_cases client value with ⟨token, -, hgrants, -⟩ | ⟨-, h401⟩ |
          ⟨-, h403⟩ | ⟨e, -, -, -, hfails⟩
        · exact ⟨_, .granted hmode hsends hclient hgrants⟩
        · exact ⟨_, .rejected hmode hsends hclient h401⟩
        · exact ⟨_, .denied hmode hsends hclient h403⟩
        · refine ⟨_, .failed hmode hsends fun other h => ?_⟩
          rw [hclient] at h
          cases h
          exact hfails
    · exact ⟨_, .nothingToSend hmode (not_exists.mp hsends)⟩

/-- The verification gives the user of the token, or an unauthorized answer if there is none. -/
theorem userFromRemoteToken_cases (middleware : AuthMiddleware) (token : String) :
    (∃ user, middleware.userFromRemoteToken token = .ok user ∧
      TokenUser middleware.validateJwt middleware.settings token user) ∨
    (∃ message, middleware.userFromRemoteToken token = .error (.unauthorized message) ∧
      ∀ user, ¬ TokenUser middleware.validateJwt middleware.settings token user) := by
  unfold AuthMiddleware.userFromRemoteToken TokenUser
  cases hclaims : middleware.validateJwt token middleware.settings.jwtSecret with
  | none =>
    refine Or.inr ⟨_, rfl, fun user h => ?_⟩
    obtain ⟨claims, hfound, -⟩ := h
    cases hfound
  | some claims =>
    cases huser : User.tryFrom claims with
    | ok user => exact Or.inl ⟨user, by simp only [huser], claims, rfl, huser⟩
    | error e =>
      cases e
      refine Or.inr ⟨"Token is missing required user claims", by simp only [huser],
        fun user h => ?_⟩
      obtain ⟨same, hsame, hfound⟩ := h
      cases hsame
      rw [huser] at hfound
      cases hfound

theorem tokenUser_unique {token : String} {user other : User}
    (h : TokenUser validateJwt settings token user)
    (hother : TokenUser validateJwt settings token other) : user = other := by
  obtain ⟨claims, hclaims, huser⟩ := h
  obtain ⟨same, hsame, hfound⟩ := hother
  rw [hclaims] at hsame
  cases hsame
  rw [huser] at hfound
  exact Except.ok.inj hfound

/-! ## 5. Decisions -/

/-- What the middleware makes of a request: it is answered with a failure of one of three statuses,
or goes on with a user or without one. -/
inductive Decision where
  | unauthorized
  | forbidden
  | serviceUnavailable
  | anonymous
  | user (user : User)

def Decision.of : Except AuthFailure (Option User) → Decision
  | .error (.unauthorized _) => .unauthorized
  | .error (.forbidden _) => .forbidden
  | .error (.serviceUnavailable _) => .serviceUnavailable
  | .ok none => .anonymous
  | .ok (some found) => .user found

variable (service validateJwt settings request)

/-- The rows of the decision, with the path of the request as it stands in the URI. -/
inductive ServiceRequest.Decides : Decision → Prop
  | disabled (off : settings.enabled = false) : Decides .anonymous
  | schema (schema : List.IsPrefix AuthMiddleware.schemaPath request.path) : Decides .anonymous
  | absent (on : settings.enabled = true)
    (guarded : ¬ List.IsPrefix AuthMiddleware.schemaPath request.path)
    (plain : ¬ List.IsPrefix AuthMiddleware.adminPath request.path)
    (shows : request.Shows service settings .absent) : Decides .anonymous
  | missing (on : settings.enabled = true)
    (guarded : ¬ List.IsPrefix AuthMiddleware.schemaPath request.path)
    (admin : List.IsPrefix AuthMiddleware.adminPath request.path)
    (shows : request.Shows service settings .absent) : Decides .unauthorized
  | invalid (on : settings.enabled = true)
    (guarded : ¬ List.IsPrefix AuthMiddleware.schemaPath request.path) {token : String}
    (shows : request.Shows service settings (.token token))
    (none : ∀ user, ¬ TokenUser validateJwt settings token user) : Decides .unauthorized
  | rejected (on : settings.enabled = true)
    (guarded : ¬ List.IsPrefix AuthMiddleware.schemaPath request.path)
    (shows : request.Shows service settings .rejected) : Decides .unauthorized
  | denied (on : settings.enabled = true)
    (guarded : ¬ List.IsPrefix AuthMiddleware.schemaPath request.path)
    (shows : request.Shows service settings .denied) : Decides .forbidden
  | noAdmin (on : settings.enabled = true)
    (guarded : ¬ List.IsPrefix AuthMiddleware.schemaPath request.path)
    (admin : List.IsPrefix AuthMiddleware.adminPath request.path) {token : String} {user : User}
    (shows : request.Shows service settings (.token token))
    (resolved : TokenUser validateJwt settings token user)
    (role : user.isAdmin settings.adminRoles = false) : Decides .forbidden
  | failed (on : settings.enabled = true)
    (guarded : ¬ List.IsPrefix AuthMiddleware.schemaPath request.path)
    (shows : request.Shows service settings .failed) : Decides .serviceUnavailable
  | user (on : settings.enabled = true)
    (guarded : ¬ List.IsPrefix AuthMiddleware.schemaPath request.path) {token : String}
    {user : User} (shows : request.Shows service settings (.token token))
    (resolved : TokenUser validateJwt settings token user)
    (role : List.IsPrefix AuthMiddleware.adminPath request.path →
      user.isAdmin settings.adminRoles = true) : Decides (.user user)

variable {service validateJwt settings request}

/-- What each evidence makes of the credentials, before the path is looked at. -/
def Evidence.resolve (middleware : AuthMiddleware) (isAdminPath : Bool) :
    Evidence → Except AuthFailure (Option User) → Prop
  | .absent, result =>
    (isAdminPath = false ∧ result = .ok none) ∨
      (isAdminPath = true ∧ ∃ message, result = .error (.unauthorized message))
  | .token text, result => result = (middleware.userFromRemoteToken text).map some
  | .rejected, result => ∃ message, result = .error (.unauthorized message)
  | .denied, result => ∃ message, result = .error (.forbidden message)
  | .failed, result => ∃ message, result = .error (.serviceUnavailable message)

theorem orAbsent_absent (isAdminPath : Bool) {middleware : AuthMiddleware}
    {resolved : Except AuthFailure (Option String)}
    {authenticate : String → Except AuthFailure User}
    (hnone : ∀ value, resolved ≠ .ok (some value))
    (herror : ∀ failure, resolved = .error failure → ∃ message, failure = .unauthorized message)
    (hresolve : middleware.credentialsUser request isAdminPath =
      AuthMiddleware.orAbsent isAdminPath resolved authenticate) :
    Evidence.absent.resolve middleware isAdminPath
      (middleware.resolveUser request isAdminPath) := by
  unfold AuthMiddleware.resolveUser
  rw [hresolve]
  unfold AuthMiddleware.orAbsent
  cases resolved with
  | error failure =>
    -- credentials that cannot be read are as good as none, except on an admin path
    obtain ⟨message, rfl⟩ := herror failure rfl
    cases isAdminPath with
    | true => exact Or.inr ⟨rfl, message, rfl⟩
    | false => exact Or.inl ⟨rfl, rfl⟩
  | ok value =>
    cases value with
    | some value => exact absurd rfl (hnone value)
    | none =>
      cases isAdminPath with
      | true => exact Or.inr ⟨rfl, _, rfl⟩
      | false => exact Or.inl ⟨rfl, rfl⟩

theorem resolveDirectCredentials_error {failure : AuthFailure}
    (h : resolveDirectCredentials request = .error failure) :
    ∃ message, failure = .unauthorized message := by
  unfold resolveDirectCredentials at h
  cases hheader : request.authorization with
  | none =>
    simp only [hheader] at h
    cases h
  | some header =>
    cases htext : HeaderValue.toStr header with
    | none =>
      simp only [hheader, htext] at h
      cases h
      exact ⟨_, rfl⟩
    | some text =>
      cases hsplit : splitOnce (trim text) ' ' with
      | none =>
        simp only [hheader, htext, hsplit] at h
        split_ifs at h <;> cases h <;> exact ⟨_, rfl⟩
      | some parts =>
        obtain ⟨scheme, credentials⟩ := parts
        simp only [hheader, htext, hsplit] at h
        split_ifs at h <;> cases h <;> exact ⟨_, rfl⟩

theorem resolveTrustedProxyToken_error {failure : AuthFailure}
    (h : resolveTrustedProxyToken request = .error failure) :
    ∃ message, failure = .unauthorized message := by
  unfold resolveTrustedProxyToken at h
  cases hheader : request.authorization with
  | none =>
    simp only [hheader] at h
    cases h
  | some header =>
    cases htoken : (HeaderValue.toStr header).bind extractBearerTokenFromStr with
    | none =>
      simp only [hheader, htoken] at h
      cases h
      exact ⟨_, rfl⟩
    | some token =>
      simp only [hheader, htoken] at h
      split_ifs at h
      cases h
      exact ⟨_, rfl⟩

/-- Credentials that are there decide without the path. -/
theorem resolveUser_credentials {middleware : AuthMiddleware} {isAdminPath : Bool}
    {result : Except AuthFailure User}
    (h : middleware.credentialsUser request isAdminPath = result.map some) :
    middleware.resolveUser request isAdminPath = result.map some := by
  unfold AuthMiddleware.resolveUser
  rw [h]
  cases result with
  | error failure => rfl
  | ok user => cases isAdminPath <;> rfl

/-- In direct mode the answer of the client is the only thing that counts. -/
theorem resolveUser_direct (isAdminPath : Bool) {value : String}
    {result : Except AuthFailure User} (hmode : settings.mode = .direct)
    (hsends : request.Sends value)
    (hresult : (AuthMiddleware.withArcSettings service validateJwt settings).authenticateUser
      value = result) :
    (AuthMiddleware.withArcSettings service validateJwt settings).resolveUser request isAdminPath =
      result.map some := by
  apply resolveUser_credentials
  unfold AuthMiddleware.credentialsUser
  rw [show (AuthMiddleware.withArcSettings service validateJwt settings).settings.mode = .direct
    from hmode]
  simp only
  rw [resolveDirectCredentials_iff.mpr hsends]
  show (AuthMiddleware.authenticateUser _ value).map some = _
  rw [hresult]

theorem authenticateUser_built {client : AuthClient} {value : String}
    {answer : Except AuthClientError String} (hbuilt : authClient service settings = some client)
    (hanswer : client.authenticate value = answer) :
    (AuthMiddleware.withArcSettings service validateJwt settings).authenticateUser value =
      AuthMiddleware.authenticateUser
        { settings := settings, authClient := some fun _ => answer, validateJwt := validateJwt }
        value := by
  unfold AuthMiddleware.authenticateUser AuthMiddleware.withArcSettings
  simp only [hbuilt, Option.map_some, hanswer]
  rfl

/-- What the credentials of a request give is decided by its evidence. -/
theorem resolveUser_shows {evidence : Evidence} (isAdminPath : Bool)
    (h : request.Shows service settings evidence) :
    evidence.resolve (AuthMiddleware.withArcSettings service validateJwt settings) isAdminPath
      ((AuthMiddleware.withArcSettings service validateJwt settings).resolveUser request
        isAdminPath) := by
  cases h with
  | nothingToSend hmode hnone =>
    refine @orAbsent_absent request isAdminPath _ _
      (AuthMiddleware.withArcSettings service validateJwt settings).authenticateUser
      (fun value hvalue => hnone value (resolveDirectCredentials_iff.mp hvalue))
      (fun failure => resolveDirectCredentials_error) ?_
    unfold AuthMiddleware.credentialsUser
    rw [show (AuthMiddleware.withArcSettings service validateJwt settings).settings.mode = .direct
      from hmode]
  | nothingBrought hmode hnone =>
    refine @orAbsent_absent request isAdminPath _ _
      (AuthMiddleware.withArcSettings service validateJwt settings).userFromRemoteToken
      (fun token htoken => hnone token (resolveTrustedProxyToken_iff.mp htoken))
      (fun failure => resolveTrustedProxyToken_error) ?_
    unfold AuthMiddleware.credentialsUser
    rw [show (AuthMiddleware.withArcSettings service validateJwt settings).settings.mode =
      .trustedProxy from hmode]
  | brought hmode hbrings =>
    apply resolveUser_credentials
    unfold AuthMiddleware.credentialsUser
    rw [show (AuthMiddleware.withArcSettings service validateJwt settings).settings.mode =
      .trustedProxy from hmode]
    simp only
    rw [resolveTrustedProxyToken_iff.mpr hbrings]
    rfl
  | granted hmode hsends hbuilt hgrants =>
    exact resolveUser_direct isAdminPath hmode hsends
      (authenticateUser_built hbuilt (authenticate_grants hgrants))
  | rejected hmode hsends hbuilt hanswers =>
    exact ⟨_, resolveUser_direct isAdminPath hmode hsends
      (authenticateUser_built hbuilt (authenticate_rejected hanswers))⟩
  | denied hmode hsends hbuilt hanswers =>
    exact ⟨_, resolveUser_direct isAdminPath hmode hsends
      (authenticateUser_built hbuilt (authenticate_denied hanswers))⟩
  | @failed hmode value hsends hfails =>
    -- the caller sees no difference between a client that fails and none at all
    have hunavailable : ∃ message,
        (AuthMiddleware.withArcSettings service validateJwt settings).authenticateUser value =
          .error (.serviceUnavailable message) := by
      cases hclient : authClient service settings with
      | none =>
        refine ⟨"Authentication service is not configured correctly", ?_⟩
        unfold AuthMiddleware.authenticateUser AuthMiddleware.withArcSettings
        simp only [hclient, Option.map_none]
      | some client =>
        obtain ⟨e, hresult, h401, h403⟩ := authenticate_fails (hfails client hclient)
        refine ⟨"Authentication service temporarily unavailable",
          (authenticateUser_built hclient hresult).trans ?_⟩
        unfold AuthMiddleware.authenticateUser
        cases e with
        | unauthorized => exact absurd rfl h401
        | forbidden => exact absurd rfl h403
        | transport => rfl
        | unexpectedStatus status => rfl
        | missingToken => rfl
    obtain ⟨message, hmessage⟩ := hunavailable
    exact ⟨message, resolveUser_direct isAdminPath hmode hsends hmessage⟩

/-- What is left to check once the credentials are resolved. -/
def AuthMiddleware.checkRole (middleware : AuthMiddleware) (isAdminPath : Bool) :
    Except AuthFailure (Option User) → Except AuthFailure (Option User)
  | .error failure => .error failure
  | .ok none => .ok none
  | .ok (some user) =>
    if isAdminPath && !user.isAdmin middleware.settings.adminRoles then
      .error (.forbidden "User does not have required administrative role")
    else .ok (some user)

theorem call_guarded {middleware : AuthMiddleware} (henabled : middleware.settings.enabled = true)
    (hschema : ¬ List.IsPrefix AuthMiddleware.schemaPath request.path) :
    middleware.call request =
      middleware.checkRole (AuthMiddleware.adminPath.isPrefixOf request.path)
        (middleware.resolveUser request (AuthMiddleware.adminPath.isPrefixOf request.path)) := by
  have hpublic : AuthMiddleware.schemaPath.isPrefixOf request.path = false := by
    rw [← Bool.not_eq_true, List.isPrefixOf_iff_prefix]
    exact hschema
  unfold AuthMiddleware.call
  simp only [henabled, hpublic, Bool.not_true, Bool.false_eq_true, if_false]
  cases middleware.resolveUser request (AuthMiddleware.adminPath.isPrefixOf request.path) with
  | error failure => rfl
  | ok user => cases user <;> rfl

/-- Past the switch and the public paths, the evidence decides, and then the role. -/
theorem call_shows {evidence : Evidence} (henabled : settings.enabled = true)
    (hschema : ¬ List.IsPrefix AuthMiddleware.schemaPath request.path)
    (hshows : request.Shows service settings evidence) :
    ∃ resolved, evidence.resolve (AuthMiddleware.withArcSettings service validateJwt settings)
        (AuthMiddleware.adminPath.isPrefixOf request.path) resolved ∧
      (AuthMiddleware.withArcSettings service validateJwt settings).call request =
        (AuthMiddleware.withArcSettings service validateJwt settings).checkRole
          (AuthMiddleware.adminPath.isPrefixOf request.path) resolved :=
  ⟨_, resolveUser_shows _ hshows, call_guarded henabled hschema⟩

/-- Some row applies to every request. -/
theorem decides_total (service : AuthService) (validateJwt : String → String → Option JwtClaims)
    (settings : AuthSettings) (request : ServiceRequest) :
    ∃ decision, request.Decides service validateJwt settings decision := by
  cases hon : settings.enabled with
  | false => exact ⟨_, .disabled hon⟩
  | true =>
    by_cases hschema : List.IsPrefix AuthMiddleware.schemaPath request.path
    · exact ⟨_, .schema hschema⟩
    obtain ⟨evidence, hshows⟩ := shows_total service settings request
    cases evidence with
    | absent =>
      by_cases hadmin : List.IsPrefix AuthMiddleware.adminPath request.path
      · exact ⟨_, .missing hon hschema hadmin hshows⟩
      · exact ⟨_, .absent hon hschema hadmin hshows⟩
    | rejected => exact ⟨_, .rejected hon hschema hshows⟩
    | denied => exact ⟨_, .denied hon hschema hshows⟩
    | failed => exact ⟨_, .failed hon hschema hshows⟩
    | token text =>
      by_cases huser : ∃ user, TokenUser validateJwt settings text user
      · -- the role only counts on an admin path
        obtain ⟨user, hresolved⟩ := huser
        by_cases hdenied : List.IsPrefix AuthMiddleware.adminPath request.path ∧
            user.isAdmin settings.adminRoles = false
        · exact ⟨_, .noAdmin hon hschema hdenied.1 hshows hresolved hdenied.2⟩
        · refine ⟨_, .user hon hschema hshows hresolved fun hadmin => ?_⟩
          rw [← Bool.not_eq_false]
          exact fun hrole => hdenied ⟨hadmin, hrole⟩
      · exact ⟨_, .invalid hon hschema hshows (not_exists.mp huser)⟩

/-- The user of a token is what its verification gives. -/
theorem userFromRemoteToken_of_tokenUser {middleware : AuthMiddleware} {token : String}
    {user : User} (h : TokenUser middleware.validateJwt middleware.settings token user) :
    middleware.userFromRemoteToken token = .ok user := by
  rcases userFromRemoteToken_cases middleware token with ⟨found, hresult, hfound⟩ | ⟨_, _, hnone⟩
  · rw [hresult, tokenUser_unique hfound h]
  · exact absurd h (hnone user)

/-- A row that applies gives the decision. -/
theorem decision_of_decides {decision : Decision}
    (h : request.Decides service validateJwt settings decision) :
    Decision.of ((AuthMiddleware.withArcSettings service validateJwt settings).call request) =
      decision := by
  cases h with
  | disabled hoff =>
    unfold AuthMiddleware.call
    rw [show (AuthMiddleware.withArcSettings service validateJwt settings).settings.enabled = false
      from hoff]
    rfl
  | schema hschema =>
    -- public, whether or not authentication is on
    unfold AuthMiddleware.call
    rw [List.isPrefixOf_iff_prefix.mpr hschema]
    simp only [if_true, ite_self]
    rfl
  | absent hon hschema hplain hshows =>
    obtain ⟨resolved, hresolve, hcall⟩ := @call_shows _ validateJwt _ _ _ hon hschema hshows
    rw [hcall]
    cases hresolve with
    | inl hresult => rw [hresult.2]; rfl
    | inr hresult => exact absurd (List.isPrefixOf_iff_prefix.mp hresult.1) hplain
  | missing hon hschema hadmin hshows =>
    obtain ⟨resolved, hresolve, hcall⟩ := @call_shows _ validateJwt _ _ _ hon hschema hshows
    rw [hcall]
    cases hresolve with
    | inl hresult =>
      rw [List.isPrefixOf_iff_prefix.mpr hadmin] at hresult
      cases hresult.1
    | inr hresult =>
      obtain ⟨-, message, rfl⟩ := hresult
      rfl
  | @invalid hon hschema token hshows hnone =>
    obtain ⟨resolved, hresolve, hcall⟩ := @call_shows _ validateJwt _ _ _ hon hschema hshows
    rw [hcall, show resolved = _ from hresolve]
    rcases userFromRemoteToken_cases
      (AuthMiddleware.withArcSettings service validateJwt settings) token with
      ⟨user, -, hresolved⟩ | ⟨message, hmessage, -⟩
    · exact absurd hresolved (hnone user)
    · rw [hmessage]
      rfl
  | rejected hon hschema hshows =>
    obtain ⟨resolved, ⟨message, rfl⟩, hcall⟩ := @call_shows _ validateJwt _ _ _ hon hschema hshows
    rw [hcall]
    rfl
  | denied hon hschema hshows =>
    obtain ⟨resolved, ⟨message, rfl⟩, hcall⟩ := @call_shows _ validateJwt _ _ _ hon hschema hshows
    rw [hcall]
    rfl
  | failed hon hschema hshows =>
    obtain ⟨resolved, ⟨message, rfl⟩, hcall⟩ := @call_shows _ validateJwt _ _ _ hon hschema hshows
    rw [hcall]
    rfl
  | noAdmin hon hschema hadmin hshows hresolved hrole =>
    obtain ⟨resolved, hresolve, hcall⟩ := @call_shows _ validateJwt _ _ _ hon hschema hshows
    rw [hcall, show resolved = _ from hresolve, userFromRemoteToken_of_tokenUser hresolved]
    show Decision.of (if _ then _ else _) = _
    rw [if_pos]
    · rfl
    · rw [Bool.and_eq_true, Bool.not_eq_true']
      exact ⟨List.isPrefixOf_iff_prefix.mpr hadmin, hrole⟩
  | user hon hschema hshows hresolved hrole =>
    obtain ⟨resolved, hresolve, hcall⟩ := @call_shows _ validateJwt _ _ _ hon hschema hshows
    rw [hcall, show resolved = _ from hresolve, userFromRemoteToken_of_tokenUser hresolved]
    show Decision.of (if _ then _ else _) = _
    rw [if_neg]
    · rfl
    · rw [Bool.and_eq_true, Bool.not_eq_true', Bool.eq_false_iff]
      exact fun hdenied => hdenied.2 (hrole (List.isPrefixOf_iff_prefix.mp hdenied.1))

/-- Every decision has a row, and every row that applies gives the decision. -/
theorem identityDecided (service : AuthService)
    (validateJwt : String → String → Option JwtClaims) (settings : AuthSettings)
    (request : ServiceRequest) (decision : Decision) :
    Decision.of ((AuthMiddleware.withArcSettings service validateJwt settings).call request) =
        decision ↔
      request.Decides service validateJwt settings decision := by
  constructor
  · intro h
    obtain ⟨found, hfound⟩ := decides_total service validateJwt settings request
    rw [← h, decision_of_decides hfound]
    exact hfound
  · exact decision_of_decides

end Decisions

end AvisoServer
