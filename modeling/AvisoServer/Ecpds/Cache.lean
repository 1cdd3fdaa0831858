import AvisoServer.Ecpds.Client
import AvisoServer.Lib.Runs
import AvisoServer.Lib.SingleFlight

/-!
# The cache of destinations

Access checks run concurrently over a cache with single flight. A check learns through a flag and a
slot of its own whether it ran the fetch and how that went, and reports it; the error of a fetch is
shared by all checks that waited for it.
-/

namespace AvisoServer

/-! ## 1. One look-up -/

/-- The merged outcome of a fetch. -/
def fetchedOutcome : FetchResult → FetchOutcome
  | .ok fetched => fetched.2
  | .error e => e.fetchOutcome

/-- What the fetch returns to the cache. -/
def fetchedDestinations (fetch : FetchResult) : Except EcpdsError (Finset String) :=
  fetch.map Prod.fst

/-- A copy of a shared error; the sources of two of them cannot be copied. -/
def cloneEcpdsError : EcpdsError → EcpdsError
  | .serviceUnavailable fetchOutcome => .serviceUnavailable fetchOutcome
  | .accessDenied reason message => .accessDenied reason message
  | .http serverIndex status message => .http serverIndex status message
  | .invalidResponse serverIndex message => .invalidResponse serverIndex message
  | .httpClientBuild _ => .serviceUnavailable .unreachable
  | .invalidServerUrl _ _ => .serviceUnavailable .unreachable

/-- The result that a call takes out of the cache; the error itself where nobody else holds it. -/
def takeResult (shared : Bool) (result : Except EcpdsError (Finset String)) :
    Except EcpdsError (Finset String) :=
  result.mapError fun e => if shared then cloneEcpdsError e else e

/-- The flag and the slot of a call, written where its own fetch begins and finishes. -/
structure Attribution where
  fetched : Bool
  outcomeSlot : Option FetchOutcome

/-- What a call reports that found nothing at first; none where the slot is read empty. -/
def Attribution.cacheOutcome (attribution : Attribution) : Option CacheOutcome :=
  if attribution.fetched then attribution.outcomeSlot.map .missFetched else some .missCoalesced

/-! ## 2. Concurrent checks -/

structure AccessCall where
  username : String
  identifier : HashMap String

/-- A checker with its client, and the calls of `check_access`. -/
structure AccessSystem (ι : Type) where
  client : EcpdsClient
  matchKey : String
  debugString : String → String
  calls : ι → AccessCall

inductive AccessAnswer where
  | returned (result : AccessCheckResult)
  | panicked

structure AccessState (ι : Type) where
  flights : SingleFlight.State ι String EcpdsError (Finset String)
  attribution : ι → Attribution
  /-- The fetches that have completed, by the call that ran them. -/
  fetches : ι → Option FetchResult
  answers : ι → Option AccessAnswer

def AccessState.initial {ι : Type} : AccessState ι where
  flights := .initial
  attribution _ := { fetched := false, outcomeSlot := none }
  fetches _ := none
  answers _ := none

namespace AccessSystem

variable {ι : Type} (system : AccessSystem ι)

def keyOf (call : ι) : String := (system.calls call).username

/-- The value of the match key in the identifier of a call. -/
def destination (call : ι) : Option String :=
  (system.calls call).identifier.get system.matchKey

/-- The check of a call whose look-up gives this. -/
def check (call : ι) (lookup : CacheOutcome × Except EcpdsError (Finset String)) :
    AccessCheckResult :=
  EcpdsChecker.checkAccess { tryGetOrFetch := fun _ => lookup, matchKey := system.matchKey }
    (system.calls call).username (system.calls call).identifier

def fetch (answers : Nat → ServerAnswer) : FetchResult :=
  system.client.fetchUserDestinations system.debugString answers

/-- The answer of a call that found nothing at first. -/
def missAnswer (call : ι) (attribution : Attribution) (shared : Bool)
    (result : Except EcpdsError (Finset String)) : AccessAnswer :=
  match attribution.cacheOutcome with
  | none => .panicked
  | some cacheOutcome => .returned (system.check call (cacheOutcome, takeResult shared result))

end AccessSystem

section Steps

variable {ι : Type} [DecidableEq ι]

def AccessState.answer (s : AccessState ι) (call : ι) (answer : AccessAnswer) : AccessState ι :=
  { s with answers := Function.update s.answers call (some answer) }

/-- A call that fetches raises its flag. -/
def AccessState.raiseFlag (s : AccessState ι) (call : ι) : AccessState ι :=
  { s with
    attribution := Function.update s.attribution call
      { s.attribution call with fetched := true } }

/-- A fetch that completes writes its outcome to the slot. -/
def AccessState.complete (s : AccessState ι) (call : ι) (fetch : FetchResult) : AccessState ι :=
  { s with
    attribution := Function.update s.attribution call
      { s.attribution call with outcomeSlot := some (fetchedOutcome fetch) }
    fetches := Function.update s.fetches call (some fetch) }

inductive AccessSystem.Step (system : AccessSystem ι) (s : AccessState ι) :
    AccessState ι → Prop where
  -- without the match key nothing is looked up, and the check reads no look-up
  | matchKeyMissing {call : ι} (hopen : s.answers call = none)
      (hmissing : system.destination call = none) :
      system.Step s (s.answer call (.returned (system.check call (.hit, .ok ∅))))
  | quiet {event : SingleFlight.Event ι String EcpdsError (Finset String)}
      {flights : SingleFlight.State ι String EcpdsError (Finset String)}
      (h : SingleFlight.Step system.keyOf s.flights event flights)
      (hquiet : event.isQuiet = true)
      (hkey : ∀ call, event = .look call → (system.destination call).isSome = true) :
      system.Step s { s with flights := flights }
  | begin {call : ι} {flights : SingleFlight.State ι String EcpdsError (Finset String)}
      (h : SingleFlight.Step system.keyOf s.flights (.begin call) flights) :
      system.Step s { s.raiseFlag call with flights := flights }
  | finish {call : ι} {flights : SingleFlight.State ι String EcpdsError (Finset String)}
      (answers : Nat → ServerAnswer)
      (h : SingleFlight.Step system.keyOf s.flights
        (.finish call (fetchedDestinations (system.fetch answers))) flights) :
      system.Step s { s.complete call (system.fetch answers) with flights := flights }
  | returnHit {call origin : ι} {destinations : Finset String} (hopen : s.answers call = none)
      (hphase : s.flights.phase call = .hit destinations origin) :
      system.Step s (s.answer call (.returned (system.check call (.hit, .ok destinations))))
  | returnMiss {call : ι} {result : Except EcpdsError (Finset String)} (shared : Bool)
      (hopen : s.answers call = none)
      (hphase : (s.flights.phase call).missResult = some result) :
      system.Step s (s.answer call (system.missAnswer call (s.attribution call) shared result))

end Steps

/-! ## 3. What a call records -/

/-- What a call has recorded, by where it is: only the fetch that it ran itself. -/
def AccessState.Recorded {ι : Type} (system : AccessSystem ι) (s : AccessState ι) (call : ι) :
    SingleFlight.Phase ι EcpdsError (Finset String) → Prop
  | .own result =>
    ∃ answers, s.fetches call = some (system.fetch answers) ∧
      result = fetchedDestinations (system.fetch answers) ∧
      s.attribution call =
        { fetched := true, outcomeSlot := some (fetchedOutcome (system.fetch answers)) }
  | .running => s.fetches call = none ∧ (s.attribution call).fetched = true
  | .aborted => s.fetches call = none
  | _ => s.fetches call = none ∧ (s.attribution call).fetched = false

/-- An answer, with the look-up that it follows from. -/
inductive AccessState.Justified {ι : Type} (system : AccessSystem ι) (s : AccessState ι)
    (call : ι) : AccessAnswer → Prop where
  | matchKeyMissing (hmissing : system.destination call = none) :
      s.Justified system call (.returned (system.check call (.hit, .ok ∅)))
  | hit {destinations : Finset String} {origin : ι}
      (hphase : s.flights.phase call = .hit destinations origin) :
      s.Justified system call (.returned (system.check call (.hit, .ok destinations)))
  | miss {result : Except EcpdsError (Finset String)} (shared : Bool)
      (hphase : (s.flights.phase call).missResult = some result) :
      s.Justified system call (system.missAnswer call (s.attribution call) shared result)

structure AccessInvariant {ι : Type} (system : AccessSystem ι) (s : AccessState ι) : Prop where
  sound : SingleFlight.Sound system.keyOf s.flights
  recorded : ∀ call, s.Recorded system call (s.flights.phase call)
  /-- A call without the match key does not look the cache up. -/
  unkeyed : ∀ call, system.destination call = none →
    s.flights.phase call = .ready ∨ s.flights.phase call = .aborted
  justified : ∀ call answer, s.answers call = some answer → s.Justified system call answer

theorem AccessInvariant.initial {ι : Type} (system : AccessSystem ι) :
    AccessInvariant system .initial where
  sound := .initial _
  recorded _ := ⟨rfl, rfl⟩
  unkeyed _ _ := .inl rfl
  justified _ _ h := by cases h

section Recorded

variable {ι : Type} {system : AccessSystem ι} {s t : AccessState ι} {call : ι}

/-- An open call has completed no fetch. -/
theorem AccessInvariant.fetches_of_isOpen (hs : AccessInvariant system s)
    (hopen : (s.flights.phase call).isOpen = true) : s.fetches call = none := by
  have hrecorded := hs.recorded call
  cases hphase : s.flights.phase call with
  | ready | missed | waiting owner | running =>
    rw [hphase] at hrecorded
    exact hrecorded.1
  | _ =>
    rw [hphase] at hopen
    cases hopen

theorem recorded_of_neverRan {phase : SingleFlight.Phase ι EcpdsError (Finset String)}
    (hphase : phase.neverRan = true) :
    s.Recorded system call phase ↔
      s.fetches call = none ∧ (s.attribution call).fetched = false := by
  cases phase with
  | running | aborted | own result => cases hphase
  | _ => exact Iff.rfl

/-- What is recorded about a call is read from what is recorded for it alone. -/
theorem recorded_congr (hfetches : t.fetches call = s.fetches call)
    (hattribution : t.attribution call = s.attribution call)
    {phase : SingleFlight.Phase ι EcpdsError (Finset String)}
    (h : s.Recorded system call phase) : t.Recorded system call phase := by
  cases phase with
  | own result =>
    obtain ⟨answers, hfetch, hresult, hslot⟩ := h
    exact ⟨answers, hfetches.trans hfetch, hresult, hattribution.trans hslot⟩
  | aborted => exact hfetches.trans h
  | _ =>
    show t.fetches call = none ∧ (t.attribution call).fetched = _
    rw [hfetches, hattribution]
    exact h

theorem isOpen_of_missResult {phase : SingleFlight.Phase ι EcpdsError (Finset String)}
    {result : Except EcpdsError (Finset String)} (h : phase.missResult = some result) :
    phase.isOpen = false := by
  cases phase with
  | ready | missed | waiting owner | running => cases h
  | _ => rfl

/-- An answer stays justified while what it was read from stays. -/
theorem AccessState.Justified.mono {answer : AccessAnswer} (h : s.Justified system call answer)
    (hkept : (s.flights.phase call).isOpen = false →
      t.flights.phase call = s.flights.phase call ∧ t.attribution call = s.attribution call) :
    t.Justified system call answer := by
  cases h with
  | matchKeyMissing hmissing => exact .matchKeyMissing hmissing
  | hit hphase =>
    have hclosed : (s.flights.phase call).isOpen = false := by rw [hphase]; rfl
    exact .hit ((hkept hclosed).1.trans hphase)
  | miss shared hphase =>
    obtain ⟨hflights, hattribution⟩ := hkept (isOpen_of_missResult hphase)
    rw [← hattribution]
    exact .miss shared (by rw [hflights]; exact hphase)

end Recorded

/-! ## 4. Steps -/

section Preservation

variable {ι : Type} [DecidableEq ι] {system : AccessSystem ι} {s t : AccessState ι}

/-- A step of the cache keeps the invariant when it is recorded for the call that took it. -/
theorem AccessInvariant.flight (hs : AccessInvariant system s)
    {event : SingleFlight.Event ι String EcpdsError (Finset String)}
    (h : SingleFlight.Step system.keyOf s.flights event t.flights)
    (hothers : ∀ call, event.caller ≠ some call →
      t.fetches call = s.fetches call ∧ t.attribution call = s.attribution call)
    (hcaller : ∀ call, event.caller = some call → t.Recorded system call (t.flights.phase call))
    (hkey : ∀ call, event = .look call → (system.destination call).isSome = true)
    (hanswers : t.answers = s.answers) : AccessInvariant system t where
  sound := hs.sound.step h
  recorded call := by
    by_cases hcall : event.caller = some call
    · exact hcaller call hcall
    · obtain ⟨hfetches, hattribution⟩ := hothers call hcall
      rw [h.phase_of_ne hcall]
      exact recorded_congr hfetches hattribution (hs.recorded call)
  unkeyed call hmissing := by
    cases hs.unkeyed call hmissing with
    | inl hready =>
      cases h.ready hready with
      | inl hlook =>
        have hsome := hkey call hlook
        rw [hmissing] at hsome
        cases hsome
      | inr hkept => exact hkept
    | inr haborted =>
      right
      rw [h.closed (by rw [haborted]; rfl)]
      exact haborted
  justified call answer hanswer := by
    rw [hanswers] at hanswer
    -- a call that has answered takes no further step, so its record stays
    apply (hs.justified call answer hanswer).mono
    intro hclosed
    refine ⟨h.closed hclosed, (hothers call ?_).2⟩
    intro hcall
    rw [h.isOpen hcall] at hclosed
    cases hclosed

/-- What a quiet step leaves to record: nothing was run. -/
theorem AccessInvariant.recorded_quiet (hs : AccessInvariant system s)
    {event : SingleFlight.Event ι String EcpdsError (Finset String)}
    {flights : SingleFlight.State ι String EcpdsError (Finset String)}
    (h : SingleFlight.Step system.keyOf s.flights event flights) (hquiet : event.isQuiet = true)
    {call : ι} (hcall : event.caller = some call) :
    s.Recorded system call (flights.phase call) := by
  cases h.quiet hquiet hcall with
  | inl hneverRan =>
    rw [recorded_of_neverRan hneverRan.2]
    exact (recorded_of_neverRan hneverRan.1).mp (hs.recorded call)
  | inr haborted =>
    rw [haborted]
    exact hs.fetches_of_isOpen (h.isOpen hcall)

/-- The answer of a call that has none yet. -/
theorem AccessInvariant.answer (hs : AccessInvariant system s) {call : ι} {answer : AccessAnswer}
    (h : s.Justified system call answer) : AccessInvariant system (s.answer call answer) where
  sound := hs.sound
  recorded := hs.recorded
  unkeyed := hs.unkeyed
  justified other answered hanswered := by
    have hupdate : Function.update s.answers call (some answer) other = some answered := hanswered
    by_cases hother : other = call
    · rw [hother, Function.update_self] at hupdate
      cases hupdate
      rw [hother]
      exact h.mono fun _ => ⟨rfl, rfl⟩
    · rw [Function.update_of_ne hother] at hupdate
      exact (hs.justified other answered hupdate).mono fun _ => ⟨rfl, rfl⟩

theorem AccessInvariant.step (hs : AccessInvariant system s) (h : system.Step s t) :
    AccessInvariant system t := by
  cases h with
  | matchKeyMissing hopen hmissing => exact hs.answer (.matchKeyMissing hmissing)
  | returnHit hopen hphase => exact hs.answer (.hit hphase)
  | returnMiss shared hopen hphase => exact hs.answer (.miss shared hphase)
  | quiet hflight hquiet hkey =>
    apply hs.flight hflight
    · intro call hcall
      exact ⟨rfl, rfl⟩
    · intro call hcall
      exact recorded_congr rfl rfl (hs.recorded_quiet hflight hquiet hcall)
    · exact hkey
    · rfl
  | @begin call flights hflight =>
    have hopen := hflight.isOpen rfl
    apply hs.flight hflight
    · intro other hother
      refine ⟨rfl, Function.update_of_ne ?_ _ _⟩
      rintro rfl
      exact hother rfl
    · intro other hother
      cases hother
      show AccessState.Recorded system _ call (flights.phase call)
      rw [hflight.begins]
      refine ⟨hs.fetches_of_isOpen hopen, ?_⟩
      show (Function.update s.attribution call _ call).fetched = true
      rw [Function.update_self]
    · intro other hlook
      cases hlook
    · rfl
  | @finish call flights answers hflight =>
    obtain ⟨hrunning, hown⟩ := hflight.finishes
    apply hs.flight hflight
    · intro other hother
      have hne : other ≠ call := by
        rintro rfl
        exact hother rfl
      exact ⟨Function.update_of_ne hne _ _, Function.update_of_ne hne _ _⟩
    · intro other hother
      cases hother
      show AccessState.Recorded system _ call (flights.phase call)
      rw [hown]
      refine ⟨answers, Function.update_self .., rfl, ?_⟩
      -- the flag was raised when the fetch began
      have hrecorded := hs.recorded call
      rw [hrunning] at hrecorded
      show Function.update s.attribution call _ call = _
      rw [Function.update_self, hrecorded.2]
    · intro other hlook
      cases hlook
    · rfl

/-- Completed fetches and answers stay. -/
theorem AccessSystem.Step.kept (hs : AccessInvariant system s) (h : system.Step s t) (call : ι) :
    (∀ fetch, s.fetches call = some fetch → t.fetches call = some fetch) ∧
      ∀ answer, s.answers call = some answer → t.answers call = some answer := by
  have hanswer : ∀ other new, s.answers other = none → ∀ answer, s.answers call = some answer →
      (s.answer other new).answers call = some answer := by
    intro other new hopen answer hanswer
    show Function.update s.answers other (some new) call = some answer
    rw [Function.update_of_ne]
    · exact hanswer
    · rintro rfl
      rw [hopen] at hanswer
      cases hanswer
  cases h with
  | matchKeyMissing hopen hmissing => exact ⟨fun _ h => h, hanswer _ _ hopen⟩
  | returnHit hopen hphase => exact ⟨fun _ h => h, hanswer _ _ hopen⟩
  | returnMiss shared hopen hphase => exact ⟨fun _ h => h, hanswer _ _ hopen⟩
  | quiet hflight hquiet hkey => exact ⟨fun _ h => h, fun _ h => h⟩
  | begin hflight => exact ⟨fun _ h => h, fun _ h => h⟩
  | @finish runner flights answers hflight =>
    refine ⟨?_, fun _ h => h⟩
    intro fetch hfetch
    show Function.update s.fetches runner _ call = some fetch
    rw [Function.update_of_ne]
    · exact hfetch
    · rintro rfl
      rw [hs.fetches_of_isOpen (hflight.isOpen rfl)] at hfetch
      cases hfetch

end Preservation

/-! ## 5. What a call returns -/

/-- The call was served with the fetch that the origin completed, itself included. -/
def AccessState.ServedBy {ι : Type} (s : AccessState ι) (call origin : ι) : Prop :=
  (s.flights.phase call).origin call = some origin

section Answers

variable {ι : Type} {system : AccessSystem ι} {s : AccessState ι} {call : ι}

theorem check_unkeyed (hmissing : system.destination call = none)
    (lookup : CacheOutcome × Except EcpdsError (Finset String)) :
    ∃ message, system.check call lookup =
      { cacheOutcome := none, result := .error (.accessDenied .matchKeyMissing message) } := by
  unfold AccessSystem.check EcpdsChecker.checkAccess
  rw [show (system.calls call).identifier.get system.matchKey = none from hmissing]
  exact ⟨_, rfl⟩

section Keyed

variable {destination : String} (hdestination : system.destination call = some destination)

include hdestination

theorem check_error (cacheOutcome : CacheOutcome) (e : EcpdsError) :
    system.check call (cacheOutcome, .error e) =
      { cacheOutcome := some cacheOutcome, result := .error e } := by
  unfold AccessSystem.check EcpdsChecker.checkAccess
  rw [show (system.calls call).identifier.get system.matchKey = some destination from hdestination]

theorem check_member {destinations : Finset String} (hmem : destination ∈ destinations)
    (cacheOutcome : CacheOutcome) :
    system.check call (cacheOutcome, .ok destinations) =
      { cacheOutcome := some cacheOutcome, result := .ok () } := by
  unfold AccessSystem.check EcpdsChecker.checkAccess
  rw [show (system.calls call).identifier.get system.matchKey = some destination from hdestination]
  exact congrArg (AccessCheckResult.mk _) (if_pos hmem)

theorem check_notMember {destinations : Finset String} (hmem : destination ∉ destinations)
    (cacheOutcome : CacheOutcome) :
    ∃ message, system.check call (cacheOutcome, .ok destinations) =
      { cacheOutcome := some cacheOutcome
        result := .error (.accessDenied .destinationNotInList message) } := by
  unfold AccessSystem.check EcpdsChecker.checkAccess
  rw [show (system.calls call).identifier.get system.matchKey = some destination from hdestination]
  exact ⟨_, congrArg (AccessCheckResult.mk _) (if_neg hmem)⟩

end Keyed

/-- A failed fetch is the same failure for everyone who waited for it. -/
theorem takeResult_fetched (shared : Bool) (answers : Nat → ServerAnswer) :
    takeResult shared (fetchedDestinations (system.fetch answers)) =
      fetchedDestinations (system.fetch answers) := by
  cases hfetch : system.fetch answers with
  | ok fetched => rfl
  | error e =>
    obtain ⟨outcome, rfl⟩ := fetchUserDestinations_error hfetch
    cases shared with
    | false => rfl
    | true => rfl

theorem ServedBy.fetched (hs : AccessInvariant system s) {origin : ι} (h : s.ServedBy call origin) :
    system.keyOf origin = system.keyOf call ∧
      ∃ answers, s.fetches origin = some (system.fetch answers) ∧
        s.flights.phase origin = .own (fetchedDestinations (system.fetch answers)) ∧
        s.attribution origin =
          { fetched := true, outcomeSlot := some (fetchedOutcome (system.fetch answers)) } := by
  obtain ⟨hkey, result, hown⟩ := hs.sound.origin h
  have hrecorded := hs.recorded origin
  rw [hown] at hrecorded
  obtain ⟨answers, hfetch, rfl, hattribution⟩ := hrecorded
  exact ⟨hkey, answers, hfetch, hown, hattribution⟩

/-- What a call that was served reports. -/
structure Report (s : AccessState ι) (system : AccessSystem ι) (call origin : ι)
    (answers : Nat → ServerAnswer) (cacheOutcome : CacheOutcome) : Prop where
  served : s.ServedBy call origin
  completed : s.fetches origin = some (system.fetch answers)
  sameUser : system.keyOf origin = system.keyOf call
  own : origin = call → cacheOutcome = .missFetched (fetchedOutcome (system.fetch answers))
  other : origin ≠ call → cacheOutcome = .hit ∨ cacheOutcome = .missCoalesced
  hit : cacheOutcome = .hit → ∃ fetched, system.fetch answers = .ok fetched

theorem hit_report (hs : AccessInvariant system s) {destinations : Finset String} {origin : ι}
    (hphase : s.flights.phase call = .hit destinations origin) :
    ∃ answers, Report s system call origin answers .hit ∧
      fetchedDestinations (system.fetch answers) = .ok destinations := by
  have hserved : s.ServedBy call origin := by
    unfold AccessState.ServedBy
    rw [hphase]
    rfl
  obtain ⟨hkey, answers, hfetch, hown, -⟩ := ServedBy.fetched hs hserved
  have hvalue := hs.sound.phases call
  rw [hphase] at hvalue
  have hok : fetchedDestinations (system.fetch answers) = .ok destinations := by
    have hsame := hown.symm.trans hvalue.2
    injection hsame
  refine ⟨answers, ⟨hserved, hfetch, hkey, ?_, fun _ => .inl rfl, ?_⟩, hok⟩
  · -- the call itself has no result of its own
    rintro rfl
    rw [hphase] at hown
    cases hown
  · intro _
    cases hraw : system.fetch answers with
    | ok fetched => exact ⟨fetched, rfl⟩
    | error e =>
      rw [hraw] at hok
      cases hok

theorem miss_report (hs : AccessInvariant system s)
    {result : Except EcpdsError (Finset String)}
    (hphase : (s.flights.phase call).missResult = some result) :
    ∃ origin answers cacheOutcome, Report s system call origin answers cacheOutcome ∧
      fetchedDestinations (system.fetch answers) = result ∧
      (s.attribution call).cacheOutcome = some cacheOutcome := by
  obtain ⟨origin, hserved, hresult⟩ := hs.sound.missResult hphase
  obtain ⟨hkey, answers, hfetch, hown, hattribution⟩ := ServedBy.fetched hs hserved
  have hsame : fetchedDestinations (system.fetch answers) = result := by
    have hboth := hown.symm.trans hresult
    injection hboth
  -- the call has fetched by itself, or was handed what another call fetched
  by_cases hself : origin = call
  · refine ⟨origin, answers, .missFetched (fetchedOutcome (system.fetch answers)),
      ⟨hserved, hfetch, hkey, fun _ => rfl, fun hne => absurd hself hne, ?_⟩, hsame, ?_⟩
    · intro hhit
      cases hhit
    · rw [← hself, hattribution]
      rfl
  · refine ⟨origin, answers, .missCoalesced,
      ⟨hserved, hfetch, hkey, fun h => absurd h hself, fun _ => .inr rfl, ?_⟩, hsame, ?_⟩
    · intro hhit
      cases hhit
    · -- the call waited or found an entry, so its flag is down
      have hneverRan : (s.flights.phase call).neverRan = true := by
        cases hcall : s.flights.phase call with
        | own computed =>
          rw [hcall] at hserved
          cases hserved
          exact absurd rfl hself
        | running | aborted =>
          rw [hcall] at hphase
          cases hphase
        | _ => rfl
      have hrecorded := (recorded_of_neverRan hneverRan).mp (hs.recorded call)
      unfold Attribution.cacheOutcome
      rw [hrecorded.2]
      rfl

/-- What a call returns: a denial without a look-up, or what follows from a completed fetch. -/
inductive Explained (s : AccessState ι) (system : AccessSystem ι) (call : ι) :
    AccessCheckResult → Prop where
  | unkeyed (message : String) (hmissing : system.destination call = none) :
      Explained s system call
        { cacheOutcome := none, result := .error (.accessDenied .matchKeyMissing message) }
  | allowed {origin : ι} {answers : Nat → ServerAnswer} {cacheOutcome : CacheOutcome}
      {destination : String} {fetched : Finset String × FetchOutcome}
      (hreport : Report s system call origin answers cacheOutcome)
      (hdestination : system.destination call = some destination)
      (hfetch : system.fetch answers = .ok fetched) (hmem : destination ∈ fetched.1) :
      Explained s system call { cacheOutcome := some cacheOutcome, result := .ok () }
  | denied {origin : ι} {answers : Nat → ServerAnswer} {cacheOutcome : CacheOutcome}
      {destination : String} {fetched : Finset String × FetchOutcome} (message : String)
      (hreport : Report s system call origin answers cacheOutcome)
      (hdestination : system.destination call = some destination)
      (hfetch : system.fetch answers = .ok fetched) (hmem : destination ∉ fetched.1) :
      Explained s system call
        { cacheOutcome := some cacheOutcome
          result := .error (.accessDenied .destinationNotInList message) }
  | unavailable {origin : ι} {answers : Nat → ServerAnswer} {cacheOutcome : CacheOutcome}
      {outcome : FetchOutcome} (hreport : Report s system call origin answers cacheOutcome)
      (hfetch : system.fetch answers = .error (.serviceUnavailable outcome)) :
      Explained s system call
        { cacheOutcome := some cacheOutcome, result := .error (.serviceUnavailable outcome) }

theorem check_explained {origin : ι} {answers : Nat → ServerAnswer} {cacheOutcome : CacheOutcome}
    {destination : String} (hreport : Report s system call origin answers cacheOutcome)
    (hdestination : system.destination call = some destination) :
    Explained s system call
      (system.check call (cacheOutcome, fetchedDestinations (system.fetch answers))) := by
  cases hfetch : system.fetch answers with
  | ok fetched =>
    show Explained s system call (system.check call (cacheOutcome, .ok fetched.1))
    by_cases hmem : destination ∈ fetched.1
    · rw [check_member hdestination hmem]
      exact .allowed hreport hdestination hfetch hmem
    · obtain ⟨message, hcheck⟩ := check_notMember hdestination hmem cacheOutcome
      rw [hcheck]
      exact .denied message hreport hdestination hfetch hmem
  | error e =>
    obtain ⟨outcome, rfl⟩ := fetchUserDestinations_error hfetch
    show Explained s system call (system.check call (cacheOutcome, .error _))
    rw [check_error hdestination]
    exact .unavailable hreport hfetch

/-- A call that looked the cache up has a match key. -/
theorem AccessInvariant.keyed (hs : AccessInvariant system s)
    (hready : s.flights.phase call ≠ .ready) (haborted : s.flights.phase call ≠ .aborted) :
    ∃ destination, system.destination call = some destination := by
  cases hdestination : system.destination call with
  | some destination => exact ⟨destination, rfl⟩
  | none =>
    cases hs.unkeyed call hdestination with
    | inl h => exact absurd h hready
    | inr h => exact absurd h haborted

/-- No call panics, and what it returns is explained. -/
theorem AccessInvariant.explained (hs : AccessInvariant system s) {answer : AccessAnswer}
    (h : s.answers call = some answer) :
    ∃ result, answer = .returned result ∧ Explained s system call result := by
  cases hs.justified call answer h with
  | matchKeyMissing hmissing =>
    refine ⟨_, rfl, ?_⟩
    obtain ⟨message, hcheck⟩ := check_unkeyed hmissing (.hit, .ok ∅)
    rw [hcheck]
    exact .unkeyed message hmissing
  | @hit destinations origin hphase =>
    obtain ⟨destination, hdestination⟩ :=
      hs.keyed (by rw [hphase]; simp) (by rw [hphase]; simp)
    obtain ⟨answers, hreport, hok⟩ := hit_report hs hphase
    refine ⟨_, rfl, ?_⟩
    rw [← hok]
    exact check_explained hreport hdestination
  | @miss result shared hphase =>
    obtain ⟨destination, hdestination⟩ :=
      hs.keyed (by intro hready; rw [hready] at hphase; cases hphase)
        (by intro haborted; rw [haborted] at hphase; cases hphase)
    obtain ⟨origin, answers, cacheOutcome, hreport, hsame, hcacheOutcome⟩ :=
      miss_report hs hphase
    refine ⟨system.check call (cacheOutcome, fetchedDestinations (system.fetch answers)), ?_,
      check_explained hreport hdestination⟩
    unfold AccessSystem.missAnswer
    rw [hcacheOutcome, ← hsame, takeResult_fetched]

theorem AccessInvariant.explained_returned (hs : AccessInvariant system s)
    {result : AccessCheckResult} (h : s.answers call = some (.returned result)) :
    Explained s system call result := by
  obtain ⟨other, hother, hexplained⟩ := hs.explained h
  injection hother with hother
  rw [hother]
  exact hexplained

/-- A look-up that is reported comes with the fetch that it was served with. -/
theorem Explained.report {result : AccessCheckResult} (h : Explained s system call result)
    {cacheOutcome : CacheOutcome} (hcacheOutcome : result.cacheOutcome = some cacheOutcome) :
    ∃ origin answers, Report s system call origin answers cacheOutcome := by
  cases h with
  | unkeyed message hmissing => cases hcacheOutcome
  | allowed hreport hdestination hfetch hmem =>
    cases hcacheOutcome
    exact ⟨_, _, hreport⟩
  | denied message hreport hdestination hfetch hmem =>
    cases hcacheOutcome
    exact ⟨_, _, hreport⟩
  | unavailable hreport hfetch =>
    cases hcacheOutcome
    exact ⟨_, _, hreport⟩

/-- A call that was served reports the look-up. -/
theorem Explained.report_of_served (hs : AccessInvariant system s) {result : AccessCheckResult}
    (h : Explained s system call result) {origin : ι} (hserved : s.ServedBy call origin) :
    ∃ answers cacheOutcome, result.cacheOutcome = some cacheOutcome ∧
      Report s system call origin answers cacheOutcome := by
  cases hcacheOutcome : result.cacheOutcome with
  | some cacheOutcome =>
    obtain ⟨other, answers, hreport⟩ := h.report hcacheOutcome
    have hsame : other = origin := Option.some.inj (hreport.served.symm.trans hserved)
    rw [hsame] at hreport
    exact ⟨answers, cacheOutcome, rfl, hreport⟩
  | none =>
    cases h with
    | unkeyed message hmissing =>
      -- a call that did not look up was not served
      unfold AccessState.ServedBy at hserved
      cases hs.unkeyed call hmissing with
      | inl hphase =>
        rw [hphase] at hserved
        cases hserved
      | inr hphase =>
        rw [hphase] at hserved
        cases hserved
    | _ => cases hcacheOutcome

/-- Whoever completed a fetch was served by it. -/
theorem AccessInvariant.own_of_fetches (hs : AccessInvariant system s) {fetch : FetchResult}
    (h : s.fetches call = some fetch) :
    ∃ result, s.flights.phase call = .own result := by
  have hrecorded := hs.recorded call
  have hopen := fun hopen => (hs.fetches_of_isOpen hopen).symm.trans h
  cases hphase : s.flights.phase call with
  | own result => exact ⟨result, rfl⟩
  | ready | missed | waiting owner | running => cases hopen (by rw [hphase]; rfl)
  | aborted =>
    rw [hphase] at hrecorded
    cases hrecorded.symm.trans h
  | hit value origin | found value origin | joined result origin =>
    rw [hphase] at hrecorded
    cases hrecorded.1.symm.trans h

end Answers

/-! ## 6. Accounting and access -/

/-- What holds after every run. -/
structure AccessLaws {ι : Type} [DecidableEq ι] (system : AccessSystem ι) (s : AccessState ι) :
    Prop where
  returns : ∀ call, s.answers call ≠ some .panicked
  /-- What has completed or been answered stays so. -/
  kept : ∀ t, system.Step s t → ∀ call,
    (∀ fetch, s.fetches call = some fetch → t.fetches call = some fetch) ∧
      ∀ answer, s.answers call = some answer → t.answers call = some answer
  /-- A completed fetch is reported by the call that ran it, -/
  reported : ∀ call fetch result, s.fetches call = some fetch →
    s.answers call = some (.returned result) →
      result.cacheOutcome = some (.missFetched (fetchedOutcome fetch))
  /-- which can always return, -/
  pending : ∀ call fetch, s.fetches call = some fetch → s.answers call = none →
    ∃ t result, system.Step s t ∧ t.answers call = some (.returned result)
  /-- and by no other call. -/
  others : ∀ call origin result, s.ServedBy call origin → origin ≠ call →
    s.answers call = some (.returned result) →
      result.cacheOutcome = some .hit ∨ result.cacheOutcome = some .missCoalesced
  reporters : ∀ call result outcome, s.answers call = some (.returned result) →
    result.cacheOutcome = some (.missFetched outcome) →
      ∃ fetch, s.fetches call = some fetch ∧ outcome = fetchedOutcome fetch
  /-- A look-up is answered with a completed fetch of its user. -/
  served : ∀ call result cacheOutcome, s.answers call = some (.returned result) →
    result.cacheOutcome = some cacheOutcome →
      ∃ origin answers, s.ServedBy call origin ∧ system.keyOf origin = system.keyOf call ∧
        s.fetches origin = some (system.fetch answers)
  cached : ∀ username destinations origin,
    s.flights.cache username = some (destinations, origin) → system.keyOf origin = username ∧
      ∃ outcome, s.fetches origin = some (.ok (destinations, outcome))
  hits : ∀ call result, s.answers call = some (.returned result) →
    result.cacheOutcome = some .hit →
      ∃ origin fetched, s.ServedBy call origin ∧ s.fetches origin = some (.ok fetched)
  /-- An outage is passed on as an outage. -/
  unavailable : ∀ call origin e result, s.ServedBy call origin →
    s.fetches origin = some (.error e) → s.answers call = some (.returned result) →
      result.result = .error e ∧ ∃ outcome, e = .serviceUnavailable outcome
  denied : ∀ call result reason message, s.answers call = some (.returned result) →
    result.result = .error (.accessDenied reason message) →
      (system.destination call = none ∧ reason = .matchKeyMissing) ∨
        ∃ origin fetched destination, s.ServedBy call origin ∧
          s.fetches origin = some (.ok fetched) ∧
          system.destination call = some destination ∧ destination ∉ fetched.1 ∧
          reason = .destinationNotInList
  allowed : ∀ call result, s.answers call = some (.returned result) → result.result = .ok () →
    ∃ origin fetched destination,
      (system.calls origin).username = (system.calls call).username ∧
      s.fetches origin = some (.ok fetched) ∧
      system.destination call = some destination ∧ destination ∈ fetched.1

theorem AccessInvariant.laws {ι : Type} [DecidableEq ι] {system : AccessSystem ι}
    {s : AccessState ι} (hs : AccessInvariant system s) : AccessLaws system s where
  returns call hpanicked := by
    obtain ⟨result, hresult, -⟩ := hs.explained hpanicked
    cases hresult
  kept t h := h.kept hs
  reported call fetch result hfetch hanswer := by
    obtain ⟨computed, hown⟩ := hs.own_of_fetches hfetch
    -- who fetched is served by itself, so its answer reports its own fetch
    have hserved : s.ServedBy call call := by
      unfold AccessState.ServedBy
      rw [hown]
      rfl
    obtain ⟨answers, cacheOutcome, hcacheOutcome, hreport⟩ :=
      (hs.explained_returned hanswer).report_of_served hs hserved
    rw [hcacheOutcome, hreport.own rfl]
    cases hreport.completed.symm.trans hfetch
    rfl
  pending call fetch hfetch hopen := by
    obtain ⟨result, hown⟩ := hs.own_of_fetches hfetch
    have hmiss : (s.flights.phase call).missResult = some result := by
      rw [hown]
      rfl
    obtain ⟨_, _, cacheOutcome, -, -, hcacheOutcome⟩ := miss_report hs hmiss
    refine ⟨_, system.check call (cacheOutcome, takeResult false result),
      .returnMiss false hopen hmiss, ?_⟩
    show Function.update s.answers call _ call = _
    rw [Function.update_self]
    unfold AccessSystem.missAnswer
    rw [hcacheOutcome]
  others call origin result hserved hne hanswer := by
    obtain ⟨answers, cacheOutcome, hcacheOutcome, hreport⟩ :=
      (hs.explained_returned hanswer).report_of_served hs hserved
    rw [hcacheOutcome]
    cases hreport.other hne with
    | inl hhit => exact .inl (congrArg some hhit)
    | inr hcoalesced => exact .inr (congrArg some hcoalesced)
  reporters call result outcome hanswer hfetched := by
    obtain ⟨origin, answers, hreport⟩ := (hs.explained_returned hanswer).report hfetched
    -- of the outcomes, only that of a call's own fetch says that something was fetched
    by_cases hself : origin = call
    · rw [← hself]
      refine ⟨_, hreport.completed, ?_⟩
      have hown := hreport.own hself
      injection hown
    · cases hreport.other hself with
      | inl hhit => cases hhit
      | inr hcoalesced => cases hcoalesced
  served call result cacheOutcome hanswer hcacheOutcome := by
    obtain ⟨origin, answers, hreport⟩ := (hs.explained_returned hanswer).report hcacheOutcome
    exact ⟨origin, answers, hreport.served, hreport.sameUser, hreport.completed⟩
  cached username destinations origin hentry := by
    obtain ⟨hkey, hown⟩ := hs.sound.cached _ _ _ hentry
    have hrecorded := hs.recorded origin
    rw [hown] at hrecorded
    obtain ⟨answers, hfetch, hresult, -⟩ := hrecorded
    refine ⟨hkey, ?_⟩
    rw [hfetch]
    cases hraw : system.fetch answers with
    | ok fetched =>
      rw [hraw] at hresult
      cases hresult
      exact ⟨fetched.2, rfl⟩
    | error e =>
      rw [hraw] at hresult
      cases hresult
  hits call result hanswer hhit := by
    obtain ⟨origin, answers, hreport⟩ := (hs.explained_returned hanswer).report hhit
    obtain ⟨fetched, hfetched⟩ := hreport.hit rfl
    exact ⟨origin, fetched, hreport.served, hfetched ▸ hreport.completed⟩
  unavailable call origin e result hserved hfetch hanswer := by
    have hexplained := hs.explained_returned hanswer
    obtain ⟨_, _, hcacheOutcome, -⟩ := hexplained.report_of_served hs hserved
    -- a call is served by one call only
    have hsame : ∀ {other : ι} {answers : Nat → ServerAnswer} {cacheOutcome : CacheOutcome},
        Report s system call other answers cacheOutcome → system.fetch answers = .error e := by
      intro other answers cacheOutcome hreport
      have horigin : other = origin := Option.some.inj (hreport.served.symm.trans hserved)
      rw [← horigin, hreport.completed] at hfetch
      exact Option.some.inj hfetch
    cases hexplained with
    | unkeyed message hmissing => cases hcacheOutcome
    | allowed hreport hdestination hok hmem => cases (hsame hreport).symm.trans hok
    | denied message hreport hdestination hok hmem => cases (hsame hreport).symm.trans hok
    | unavailable hreport hfailed =>
      cases (hsame hreport).symm.trans hfailed
      exact ⟨rfl, _, rfl⟩
  denied call result reason message hanswer hdenied := by
    cases hs.explained_returned hanswer with
    | unkeyed message hmissing =>
      cases hdenied
      exact .inl ⟨hmissing, rfl⟩
    | allowed hreport hdestination hfetch hmem => cases hdenied
    | denied message hreport hdestination hfetch hmem =>
      cases hdenied
      exact .inr ⟨_, _, _, hreport.served, hfetch ▸ hreport.completed, hdestination, hmem, rfl⟩
    | unavailable hreport hfetch => cases hdenied
  allowed call result hanswer hallowed := by
    cases hs.explained_returned hanswer with
    | unkeyed message hmissing => cases hallowed
    | allowed hreport hdestination hfetch hmem =>
      exact ⟨_, _, _, hreport.sameUser, hfetch ▸ hreport.completed, hdestination, hmem⟩
    | denied message hreport hdestination hfetch hmem => cases hallowed
    | unavailable hreport hfetch => cases hallowed

/-- The laws hold after any interleaving of any calls. -/
theorem accessLaws {ι : Type} [DecidableEq ι] {system : AccessSystem ι} {s : AccessState ι}
    {visited : List (AccessState ι)} (hrun : Runs.Run system.Step .initial visited s) :
    AccessLaws system s := by
  apply AccessInvariant.laws
  apply hrun.invariant (AccessInvariant system)
  · intro t u ht htu
    exact ht.step htu
  · exact AccessInvariant.initial system

-- two calls of one user: one fetches and the other waits for it
def sharedSystem : AccessSystem Bool where
  client :=
    { servers := ["https://a.example"], targetField := "name", partialOutagePolicy := .strict }
  matchKey := "destination"
  debugString := id
  calls fetches :=
    { username := "u"
      identifier := AList.singleton "destination" (if fetches then "FOO" else "BAR") }

def sharedAnswers (_ : Nat) : ServerAnswer :=
  .answered
    { status := 200
      statusText := "200 OK"
      json := .ok
        { destinationList := [.object [("active", .bool true), ("name", .string "FOO")]]
          success := "yes" } }

theorem sharedSystem_destination (call : Bool) :
    (sharedSystem.destination call).isSome = true := by
  cases call <;> decide +kernel

theorem accessLaws_shared : ∃ s : AccessState Bool,
    s.answers true =
      some (.returned { cacheOutcome := some (.missFetched .success), result := .ok () }) ∧
    (∃ message, s.answers false =
      some (.returned
        { cacheOutcome := some .missCoalesced
          result := .error (.accessDenied .destinationNotInList message) })) ∧
    AccessLaws sharedSystem s := by
  have hlook := (@Runs.Run.refl _ sharedSystem.Step .initial).tail
    (.quiet (.miss rfl rfl : SingleFlight.Step _ _ (.look true) _) rfl
      fun call _ => sharedSystem_destination call)
  have hlooked := hlook.tail
    (.quiet (.miss rfl rfl : SingleFlight.Step _ _ (.look false) _) rfl
      fun call _ => sharedSystem_destination call)
  have hbegun := hlooked.tail
    (.begin (.begin rfl rfl : SingleFlight.Step _ _ (.begin true) _))
  have hjoined := hbegun.tail
    (.quiet (.join rfl rfl : SingleFlight.Step _ _ (.enter false) _) rfl
      fun call _ => sharedSystem_destination call)
  have hfinished := hjoined.tail
    (.finish sharedAnswers (.finish rfl : SingleFlight.Step _ _ (.finish true _) _))
  have hdelivered := hfinished.tail
    (.quiet (.deliver rfl rfl : SingleFlight.Step _ _ (.deliver false) _) rfl
      fun call _ => sharedSystem_destination call)
  have hreturned := hdelivered.tail
    (.returnMiss true rfl rfl : AccessSystem.Step _ _ (AccessState.answer _ true _))
  have hrun := hreturned.tail
    (.returnMiss false rfl rfl : AccessSystem.Step _ _ (AccessState.answer _ false _))
  exact ⟨_, rfl, ⟨_, rfl⟩, accessLaws hrun⟩

end AvisoServer
