import AvisoServer.Ecpds.Checker
import AvisoServer.Lib.WorstOf
import Mathlib.Data.Finset.Dedup
import Mathlib.Data.Finset.Lattice.Lemmas

/-!
# The client of the ECPDS servers

All servers are asked for the destinations of a user, and their answers are merged by the policy of
the configuration. What became of the request to each server is an input.
-/

namespace AvisoServer

/-! ## 1. Outcomes -/

/-- How bad an outcome is. -/
def FetchOutcome.rank : FetchOutcome → Nat
  | .unauthorized => 6
  | .forbidden => 5
  | .clientError => 4
  | .invalidResponse => 3
  | .serverError => 2
  | .unreachable => 1
  | .success => 0

def FetchOutcome.pessimisticMax (self other : FetchOutcome) : FetchOutcome :=
  if other.rank > self.rank then other else self

def EcpdsError.fetchOutcome : EcpdsError → FetchOutcome
  | .http _ (some status) _ =>
    if status = 401 then .unauthorized
    else if status = 403 then .forbidden
    else if 400 ≤ status && status < 500 then .clientError
    else if 500 ≤ status && status < 600 then .serverError
    else .serverError
  | .http _ none _ => .unreachable
  | .invalidResponse _ _ => .invalidResponse
  | .serviceUnavailable fetchOutcome => fetchOutcome
  | .accessDenied _ _ => .unreachable
  | .invalidServerUrl _ _ => .unreachable
  | .httpClientBuild _ => .unreachable

/-! ## 2. One server -/

structure EcpdsResponse where
  destinationList : List Json
  success : String

/-- A response, with its status as a number and as a text, and its body as it parses. -/
structure HttpResponse where
  status : Nat
  statusText : String
  json : Except String EcpdsResponse

/-- What becomes of a request: there is no URL for it, it fails, or it is answered. -/
inductive ServerAnswer where
  | noUrl (message : String)
  | failed (message : String)
  | answered (response : HttpResponse)

/-- The destination of an active record. -/
def recordDestination (targetField : String) (record : Json) : Option String :=
  if (record.get "active").bind Json.asBool ≠ some true then none
  else (record.get targetField).bind Json.asStr

abbrev ServerResult := Except EcpdsError (List String)

def fetchFromServer (debugString : String → String) (targetField : String) (serverIndex : Nat) :
    ServerAnswer → ServerResult
  | .noUrl message => .error (.http serverIndex none message)
  | .failed message => .error (.http serverIndex none message)
  | .answered response =>
    if !(200 ≤ response.status && response.status < 300) then
      .error (.http serverIndex (some response.status) ("HTTP " ++ response.statusText))
    else
      match response.json with
      | .error e => .error (.invalidResponse serverIndex e)
      | .ok ecpdsResp =>
        if ecpdsResp.success ≠ "yes" then
          .error (.invalidResponse serverIndex
            ("ECPDS reported success=" ++ debugString ecpdsResp.success ++
              " (expected \"yes\"); treating as upstream failure"))
        else .ok (ecpdsResp.destinationList.filterMap (recordDestination targetField))

/-! ## 3. Merging -/

abbrev FetchResult := Except EcpdsError (Finset String × FetchOutcome)

/-- What both merges keep of the results they have read; the strict one asks for no success. -/
structure MergeTally where
  union : Finset String
  anySuccess : Bool
  worstFailure : Option FetchOutcome

def MergeTally.initial : MergeTally where
  union := ∅
  anySuccess := false
  worstFailure := none

def MergeTally.step (state : MergeTally) : ServerResult → MergeTally
  | .ok dests => { state with union := state.union ∪ dests.toFinset, anySuccess := true }
  | .error e =>
    { state with
      worstFailure :=
        match state.worstFailure with
        | none => some e.fetchOutcome
        | some prev => some (prev.pessimisticMax e.fetchOutcome) }

def mergeStrict (results : List ServerResult) : FetchResult :=
  if results.isEmpty then .error (.serviceUnavailable .unreachable)
  else
    let merged := results.foldl MergeTally.step .initial
    match merged.worstFailure with
    | some fetchOutcome => .error (.serviceUnavailable fetchOutcome)
    | none => .ok (merged.union, .success)

def mergeAnySuccess (results : List ServerResult) : FetchResult :=
  let merged := results.foldl MergeTally.step .initial
  if !merged.anySuccess then
    .error (.serviceUnavailable (merged.worstFailure.getD .unreachable))
  else .ok (merged.union, merged.worstFailure.getD .success)

structure EcpdsClient where
  servers : List String
  targetField : String
  partialOutagePolicy : PartialOutagePolicy

/-- The answers of one fetch are given by the positions of the servers. -/
def EcpdsClient.serverResults (client : EcpdsClient) (debugString : String → String)
    (answers : Nat → ServerAnswer) : List ServerResult :=
  client.servers.zipIdx.map fun server =>
    fetchFromServer debugString client.targetField server.2 (answers server.2)

def EcpdsClient.fetchUserDestinations (client : EcpdsClient) (debugString : String → String)
    (answers : Nat → ServerAnswer) : FetchResult :=
  if client.servers.isEmpty then .error (.serviceUnavailable .unreachable)
  else
    match client.partialOutagePolicy with
    | .strict => mergeStrict (client.serverResults debugString answers)
    | .anySuccess => mergeAnySuccess (client.serverResults debugString answers)

/-! ## 4. What is merged -/

/-- The outcomes of the failures. -/
def failureOutcomes (results : List ServerResult) : List FetchOutcome :=
  results.filterMap fun result =>
    match result with
    | .ok _ => none
    | .error e => some e.fetchOutcome

/-- What the answers list together. -/
def listedDestinations (results : List ServerResult) : Finset String :=
  (results.filterMap Except.toOption).flatten.toFinset

theorem pessimisticMax_eq (self other : FetchOutcome) :
    self.pessimisticMax other = WorstOf.worse FetchOutcome.rank self other := rfl

theorem rank_injective : Function.Injective FetchOutcome.rank := by
  intro a b h
  cases a <;> cases b <;> first | rfl | cases h

theorem listedDestinations_ok (dests : List String) (results : List ServerResult) :
    listedDestinations (.ok dests :: results) = dests.toFinset ∪ listedDestinations results :=
  List.toFinset_append

/-- One pass over the results: the lists are joined, and the worst failure is kept. -/
theorem foldl_step (results : List ServerResult) (state : MergeTally) :
    results.foldl MergeTally.step state =
      { union := state.union ∪ listedDestinations results
        anySuccess := state.anySuccess || results.any Except.isOk
        worstFailure := (failureOutcomes results).foldl (WorstOf.add FetchOutcome.rank)
          state.worstFailure } := by
  induction results generalizing state with
  | nil =>
    show state = { state with
      union := state.union ∪ ∅
      anySuccess := state.anySuccess || false }
    rw [Finset.union_empty, Bool.or_false]
  | cons result results ih =>
    rw [List.foldl_cons, ih]
    cases result with
    | ok dests =>
      rw [listedDestinations_ok, ← Finset.union_assoc]
      show _ = MergeTally.mk _ (state.anySuccess || (true || results.any Except.isOk)) _
      rw [Bool.true_or, Bool.or_true]
      show MergeTally.mk _ (true || results.any Except.isOk) _ = _
      rw [Bool.true_or]
      rfl
    | error e =>
      show MergeTally.mk _ _ (List.foldl _ _ _) = MergeTally.mk _ (_ || (false || _)) _
      rw [Bool.false_or]
      congr 1
      cases hworst : state.worstFailure with
      | none => simp [MergeTally.step, hworst, failureOutcomes, WorstOf.add]
      | some prev =>
        simp [MergeTally.step, hworst, failureOutcomes, WorstOf.add, pessimisticMax_eq]

theorem foldl_initial (results : List ServerResult) :
    results.foldl MergeTally.step .initial =
      { union := listedDestinations results
        anySuccess := results.any Except.isOk
        worstFailure := WorstOf.worst FetchOutcome.rank (failureOutcomes results) } := by
  rw [foldl_step]
  show MergeTally.mk (∅ ∪ listedDestinations results) (false || results.any Except.isOk) _ = _
  rw [Finset.empty_union, Bool.false_or]
  rfl

/-! ## 5. Laws of the merges -/

theorem mem_listedDestinations {results : List ServerResult} {destination : String} :
    destination ∈ listedDestinations results ↔
      ∃ dests, .ok dests ∈ results ∧ destination ∈ dests := by
  unfold listedDestinations
  rw [List.mem_toFinset, List.mem_flatten]
  constructor
  · rintro ⟨dests, hdests, hmem⟩
    obtain ⟨result, hresult, hok⟩ := List.mem_filterMap.mp hdests
    cases result with
    | error e => cases hok
    | ok listed =>
      cases hok
      exact ⟨dests, hresult, hmem⟩
  · rintro ⟨dests, hdests, hmem⟩
    exact ⟨dests, List.mem_filterMap.mpr ⟨.ok dests, hdests, rfl⟩, hmem⟩

theorem mem_failureOutcomes {results : List ServerResult} {outcome : FetchOutcome} :
    outcome ∈ failureOutcomes results ↔ ∃ e, .error e ∈ results ∧ e.fetchOutcome = outcome := by
  unfold failureOutcomes
  rw [List.mem_filterMap]
  constructor
  · rintro ⟨result, hresult, hfailed⟩
    cases result with
    | ok dests => cases hfailed
    | error e =>
      cases hfailed
      exact ⟨e, hresult, rfl⟩
  · rintro ⟨e, he, rfl⟩
    exact ⟨.error e, he, rfl⟩

theorem failureOutcomes_eq_nil {results : List ServerResult} :
    failureOutcomes results = [] ↔ ∀ result ∈ results, result.isOk = true := by
  rw [List.eq_nil_iff_forall_not_mem]
  constructor
  · intro hnone result hresult
    cases result with
    | ok dests => rfl
    | error e => exact absurd (mem_failureOutcomes.mpr ⟨e, hresult, rfl⟩) (hnone _)
  · intro hall outcome houtcome
    obtain ⟨e, he, -⟩ := mem_failureOutcomes.mp houtcome
    cases hall _ he

/-- The outcome of a failure, with no failure that is worse. -/
def WorstFailure (results : List ServerResult) (outcome : FetchOutcome) : Prop :=
  (∃ e, .error e ∈ results ∧ e.fetchOutcome = outcome) ∧
    ∀ e, .error e ∈ results → e.fetchOutcome.rank ≤ outcome.rank

theorem worstFailure_of_worst {results : List ServerResult} {outcome : FetchOutcome}
    (h : WorstOf.worst FetchOutcome.rank (failureOutcomes results) = some outcome) :
    WorstFailure results outcome := by
  have hworst := WorstOf.isWorst_of_worst h
  refine ⟨mem_failureOutcomes.mp hworst.mem, ?_⟩
  intro e he
  exact hworst.atLeast _ (mem_failureOutcomes.mpr ⟨e, he, rfl⟩)

theorem mergeStrict_eq {results : List ServerResult} (hne : results ≠ []) :
    mergeStrict results =
      (WorstOf.worst FetchOutcome.rank (failureOutcomes results)).elim
        (.ok (listedDestinations results, .success))
        (fun fetchOutcome => .error (.serviceUnavailable fetchOutcome)) := by
  unfold mergeStrict
  rw [if_neg (by simpa using hne), foldl_initial]
  cases hworst : WorstOf.worst FetchOutcome.rank (failureOutcomes results) with
  | none => rfl
  | some outcome => rfl

theorem mergeAnySuccess_eq (results : List ServerResult) :
    mergeAnySuccess results =
      if results.any Except.isOk then
        .ok (listedDestinations results,
          (WorstOf.worst FetchOutcome.rank (failureOutcomes results)).getD .success)
      else
        .error (.serviceUnavailable
          ((WorstOf.worst FetchOutcome.rank (failureOutcomes results)).getD .unreachable)) := by
  unfold mergeAnySuccess
  rw [foldl_initial]
  cases hany : results.any Except.isOk with
  | true => rfl
  | false => rfl

/-- A result that a request to a server can have. -/
def IsServerResult (result : ServerResult) : Prop :=
  ∃ debugString targetField serverIndex answer,
    result = fetchFromServer debugString targetField serverIndex answer

/-- A server's failure has the outcome of a failure. -/
theorem fetchFromServer_outcome {debugString : String → String} {targetField : String}
    {serverIndex : Nat} {answer : ServerAnswer} {e : EcpdsError}
    (h : fetchFromServer debugString targetField serverIndex answer = .error e) :
    e.fetchOutcome ≠ .success := by
  cases answer with
  | noUrl message =>
    cases h
    exact FetchOutcome.noConfusion
  | failed message =>
    cases h
    exact FetchOutcome.noConfusion
  | answered response =>
    unfold fetchFromServer at h
    simp only at h
    split at h
    · cases h
      unfold EcpdsError.fetchOutcome
      simp only
      split
      · exact FetchOutcome.noConfusion
      split
      · exact FetchOutcome.noConfusion
      split
      · exact FetchOutcome.noConfusion
      split
      · exact FetchOutcome.noConfusion
      · exact FetchOutcome.noConfusion
    · split at h
      · cases h
        exact FetchOutcome.noConfusion
      · split at h
        · cases h
          exact FetchOutcome.noConfusion
        · cases h

/-- Neither merge depends on the order of the answers. -/
theorem merge_perm {results others : List ServerResult} (hne : results ≠ [])
    (h : results.Perm others) :
    mergeStrict results = mergeStrict others ∧ mergeAnySuccess results = mergeAnySuccess others := by
  have hne' : others ≠ [] := by
    rintro rfl
    exact hne (List.perm_nil.mp h)
  have hlisted : listedDestinations results = listedDestinations others :=
    List.toFinset_eq_of_perm _ _ (h.filterMap Except.toOption).flatten
  have hworst : WorstOf.worst FetchOutcome.rank (failureOutcomes results) =
      WorstOf.worst FetchOutcome.rank (failureOutcomes others) :=
    WorstOf.worst_perm rank_injective (h.filterMap _)
  have hany : results.any Except.isOk = others.any Except.isOk := h.any_eq
  rw [mergeStrict_eq hne, mergeStrict_eq hne', mergeAnySuccess_eq, mergeAnySuccess_eq, hlisted,
    hworst, hany]
  exact ⟨rfl, rfl⟩

theorem any_isOk {results : List ServerResult} :
    results.any Except.isOk = true ↔ ∃ dests, .ok dests ∈ results := by
  rw [List.any_eq_true]
  constructor
  · rintro ⟨result, hresult, hok⟩
    obtain ⟨dests, rfl⟩ := exists_of_isOk hok
    exact ⟨dests, hresult⟩
  · rintro ⟨dests, hdests⟩
    exact ⟨.ok dests, hdests, rfl⟩

/-- What the two merges of some results have to do with the results and with each other. -/
structure MergeLaws (results : List ServerResult) : Prop where
  perm : ∀ others, results.Perm others →
    mergeStrict others = mergeStrict results ∧ mergeAnySuccess others = mergeAnySuccess results
  anyOk : (mergeAnySuccess results).isOk = true ↔ ∃ dests, .ok dests ∈ results
  anyUnion : ∀ union outcome, mergeAnySuccess results = .ok (union, outcome) →
    ∀ destination, destination ∈ union ↔ ∃ dests, .ok dests ∈ results ∧ destination ∈ dests
  anySuccess : ∀ union outcome, mergeAnySuccess results = .ok (union, outcome) →
    (outcome = .success ↔ ∀ result ∈ results, result.isOk = true)
  strictOk : (mergeStrict results).isOk = true ↔ ∀ result ∈ results, result.isOk = true
  strictAny : (mergeStrict results).isOk = true → mergeStrict results = mergeAnySuccess results
  strictFailure : ∀ e, mergeStrict results = .error e →
    ∃ outcome, e = .serviceUnavailable outcome ∧ WorstFailure results outcome
  anyFailure : ∀ e, mergeAnySuccess results = .error e →
    ∃ outcome, e = .serviceUnavailable outcome ∧ WorstFailure results outcome
  /-- The outcome of a success that some server did not share. -/
  anyDegraded : ∀ union outcome, mergeAnySuccess results = .ok (union, outcome) →
    outcome ≠ .success → WorstFailure results outcome
  strictGranted : ∀ union outcome destination, mergeStrict results = .ok (union, outcome) →
    destination ∈ union → (∀ result ∈ results, result.isOk = true) ∧
      ∃ dests, .ok dests ∈ results ∧ destination ∈ dests
  anyGranted : ∀ union outcome destination, mergeAnySuccess results = .ok (union, outcome) →
    destination ∈ union → ∃ dests, .ok dests ∈ results ∧ destination ∈ dests

theorem mergeAnySuccess_eq_ok {results : List ServerResult} {union : Finset String}
    {outcome : FetchOutcome} (h : mergeAnySuccess results = .ok (union, outcome)) :
    union = listedDestinations results ∧
      outcome = (WorstOf.worst FetchOutcome.rank (failureOutcomes results)).getD .success := by
  rw [mergeAnySuccess_eq] at h
  split at h
  · cases h
    exact ⟨rfl, rfl⟩
  · cases h

theorem mergeStrict_isOk {results : List ServerResult} (hne : results ≠ []) :
    (mergeStrict results).isOk = true ↔ ∀ result ∈ results, result.isOk = true := by
  rw [mergeStrict_eq hne, ← failureOutcomes_eq_nil, ← WorstOf.worst_eq_none]
  cases WorstOf.worst FetchOutcome.rank (failureOutcomes results) with
  | none => exact ⟨fun _ => rfl, fun _ => rfl⟩
  | some outcome =>
    constructor
    · intro h
      cases h
    · intro h
      cases h

/-- Where every server answered, the two policies agree. -/
theorem mergeStrict_eq_mergeAnySuccess {results : List ServerResult} (hne : results ≠ [])
    (hall : ∀ result ∈ results, result.isOk = true) :
    mergeStrict results = .ok (listedDestinations results, .success) ∧
      mergeStrict results = mergeAnySuccess results := by
  have hworst : WorstOf.worst FetchOutcome.rank (failureOutcomes results) = none :=
    WorstOf.worst_eq_none.mpr (failureOutcomes_eq_nil.mpr hall)
  have hany : results.any Except.isOk = true := by
    cases results with
    | nil => exact absurd rfl hne
    | cons result rest =>
      exact List.any_eq_true.mpr ⟨result, List.mem_cons_self, hall result List.mem_cons_self⟩
  rw [mergeStrict_eq hne, mergeAnySuccess_eq, if_pos hany, hworst]
  exact ⟨rfl, rfl⟩

theorem failed_outcome {results : List ServerResult}
    (hserver : ∀ result ∈ results, IsServerResult result) {outcome : FetchOutcome}
    (hworst : WorstFailure results outcome) : outcome ≠ .success := by
  obtain ⟨⟨e, he, rfl⟩, -⟩ := hworst
  obtain ⟨debugString, targetField, serverIndex, answer, hresult⟩ := hserver _ he
  exact fetchFromServer_outcome hresult.symm

/-- The laws hold for the results of any servers in any order. -/
theorem mergeLaws {results : List ServerResult} (hne : results ≠ [])
    (hserver : ∀ result ∈ results, IsServerResult result) : MergeLaws results := by
  have hanyUnion : ∀ union outcome destination, mergeAnySuccess results = .ok (union, outcome) →
      (destination ∈ union ↔ ∃ dests, .ok dests ∈ results ∧ destination ∈ dests) := by
    intro union outcome destination h
    rw [(mergeAnySuccess_eq_ok h).1]
    exact mem_listedDestinations
  have hstrict := mergeStrict_isOk hne
  have hagree := fun h => (mergeStrict_eq_mergeAnySuccess hne (hstrict.mp h)).2
  constructor
  · intro others h
    obtain ⟨hstrict, hany⟩ := merge_perm hne h
    exact ⟨hstrict.symm, hany.symm⟩
  · rw [← any_isOk, mergeAnySuccess_eq]
    cases results.any Except.isOk with
    | true => exact ⟨fun _ => rfl, fun _ => rfl⟩
    | false =>
      constructor
      · intro h
        cases h
      · intro h
        cases h
  · intro union outcome h destination
    exact hanyUnion union outcome destination h
  · intro union outcome h
    have houtcome := (mergeAnySuccess_eq_ok h).2
    rw [← failureOutcomes_eq_nil]
    cases hworst : WorstOf.worst FetchOutcome.rank (failureOutcomes results) with
    | none =>
      rw [hworst] at houtcome
      exact ⟨fun _ => WorstOf.worst_eq_none.mp hworst, fun _ => houtcome⟩
    | some worst =>
      rw [hworst] at houtcome
      have hbad : outcome ≠ .success := by
        rw [show outcome = worst from houtcome]
        exact failed_outcome hserver (worstFailure_of_worst hworst)
      constructor
      · intro hsuccess
        exact absurd hsuccess hbad
      · intro hnone
        rw [WorstOf.worst_eq_none.mpr hnone] at hworst
        cases hworst
  · exact hstrict
  · exact hagree
  · intro e h
    rw [mergeStrict_eq hne] at h
    cases hworst : WorstOf.worst FetchOutcome.rank (failureOutcomes results) with
    | none =>
      rw [hworst] at h
      cases h
    | some outcome =>
      rw [hworst] at h
      cases h
      exact ⟨outcome, rfl, worstFailure_of_worst hworst⟩
  · intro e h
    rw [mergeAnySuccess_eq] at h
    split at h
    · cases h
    rename_i hnone
    cases h
    cases hworst : WorstOf.worst FetchOutcome.rank (failureOutcomes results) with
    | some outcome => exact ⟨outcome, rfl, worstFailure_of_worst hworst⟩
    | none =>
      -- without a failure every server answered, and there is a server
      have hall := failureOutcomes_eq_nil.mp (WorstOf.worst_eq_none.mp hworst)
      obtain ⟨result, hresult⟩ := List.exists_mem_of_ne_nil results hne
      exact absurd (List.any_eq_true.mpr ⟨result, hresult, hall result hresult⟩) hnone
  · intro union outcome h hdegraded
    have houtcome := (mergeAnySuccess_eq_ok h).2
    cases hworst : WorstOf.worst FetchOutcome.rank (failureOutcomes results) with
    | none =>
      rw [hworst] at houtcome
      exact absurd houtcome hdegraded
    | some worst =>
      rw [hworst] at houtcome
      rw [show outcome = worst from houtcome]
      exact worstFailure_of_worst hworst
  · intro union outcome destination h hmem
    have hok : (mergeStrict results).isOk = true := by
      rw [h]
      rfl
    rw [hagree hok] at h
    exact ⟨hstrict.mp hok, (hanyUnion union outcome destination h).mp hmem⟩
  · intro union outcome destination h hmem
    exact (hanyUnion union outcome destination h).mp hmem

/-- A fetch that failed is an outage of the service, whatever failed in it. -/
theorem fetchUserDestinations_error {client : EcpdsClient} {debugString : String → String}
    {answers : Nat → ServerAnswer} {e : EcpdsError}
    (h : client.fetchUserDestinations debugString answers = .error e) :
    ∃ outcome, e = .serviceUnavailable outcome := by
  unfold EcpdsClient.fetchUserDestinations at h
  split at h
  · cases h
    exact ⟨.unreachable, rfl⟩
  · split at h
    · unfold mergeStrict at h
      split at h
      · cases h
        exact ⟨.unreachable, rfl⟩
      · simp only at h
        split at h
        · cases h
          exact ⟨_, rfl⟩
        · cases h
    · unfold mergeAnySuccess at h
      simp only at h
      split at h
      · cases h
        exact ⟨_, rfl⟩
      · cases h

-- one server lists a destination, and another answers with an error
def halfOutage : List ServerResult :=
  [.ok ["FOO"], .error (.http 1 (some 503) "HTTP 503 Service Unavailable")]

theorem mergeLaws_halfOutage : MergeLaws halfOutage := by
  apply mergeLaws (by decide)
  intro result hresult
  have hcases : result = .ok ["FOO"] ∨
      result = .error (.http 1 (some 503) "HTTP 503 Service Unavailable") := by
    simpa [halfOutage] using hresult
  cases hcases with
  | inl hok =>
    refine ⟨id, "name", 0, .answered ⟨200, "200 OK", .ok ⟨[.object [("active", .bool true),
      ("name", .string "FOO")]], "yes"⟩⟩, ?_⟩
    rw [hok]
    rfl
  | inr hfailed =>
    refine ⟨id, "name", 1, .answered ⟨503, "503 Service Unavailable", .error ""⟩, ?_⟩
    rw [hfailed]
    rfl

end AvisoServer
