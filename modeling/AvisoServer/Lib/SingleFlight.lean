import Mathlib.Logic.Function.Basic

/-!
# A cache with single flight

Calls look a key up in a cache. A call that finds nothing enters a second look-up, in which it is
given an entry that came in the meantime, waits for the call that is running the computation of the
key, or runs it itself. A computation that succeeds is entered into the cache; entries can vanish at
any time, and calls can be aborted while they wait or run.

An entry and a call that was served keep the call whose computation they come from.
-/

namespace SingleFlight

variable {ι κ ε α : Type}

/-- Where a call is, and in the end where its result comes from. -/
inductive Phase (ι ε α : Type) where
  | ready
  /-- The first look found nothing. -/
  | missed
  | waiting (owner : ι)
  | running
  | aborted
  /-- An entry that the first look found. -/
  | hit (value : α) (origin : ι)
  /-- An entry that came before the second look. -/
  | found (value : α) (origin : ι)
  /-- The result that the call waited for. -/
  | joined (result : Except ε α) (origin : ι)
  | own (result : Except ε α)

/-- The call has neither a result nor been aborted. -/
def Phase.isOpen : Phase ι ε α → Bool
  | .ready => true
  | .missed => true
  | .waiting _ => true
  | .running => true
  | _ => false

structure State (ι κ ε α : Type) where
  cache : κ → Option (α × ι)
  /-- The call that is running the computation of a key. -/
  flight : κ → Option ι
  phase : ι → Phase ι ε α

def State.initial : State ι κ ε α where
  cache _ := none
  flight _ := none
  phase _ := .ready

inductive Event (ι κ ε α : Type) where
  | look (call : ι)
  | enter (call : ι)
  | begin (call : ι)
  | finish (call : ι) (result : Except ε α)
  | deliver (call : ι)
  | abort (call : ι)
  | evict (key : κ)

def Event.caller : Event ι κ ε α → Option ι
  | .look call => some call
  | .enter call => some call
  | .begin call => some call
  | .finish call _ => some call
  | .deliver call => some call
  | .abort call => some call
  | .evict _ => none

/-- No computation begins or finishes. -/
def Event.isQuiet : Event ι κ ε α → Bool
  | .begin _ => false
  | .finish _ _ => false
  | _ => true

/-- The phases of a call that never ran a computation. -/
def Phase.neverRan : Phase ι ε α → Bool
  | .running => false
  | .aborted => false
  | .own _ => false
  | _ => true

/-- The result of a call that found nothing at its first look. -/
def Phase.missResult : Phase ι ε α → Option (Except ε α)
  | .found value _ => some (.ok value)
  | .joined result _ => some result
  | .own result => some result
  | _ => none

/-- The call whose computation a call was served with, itself included. -/
def Phase.origin (call : ι) : Phase ι ε α → Option ι
  | .hit _ origin => some origin
  | .found _ origin => some origin
  | .joined _ origin => some origin
  | .own _ => some call
  | _ => none

/-- The cache after a computation: only a value is entered. -/
def insertOk [DecidableEq κ] (cache : κ → Option (α × ι)) (key : κ) (call : ι) :
    Except ε α → κ → Option (α × ι)
  | .ok value => Function.update cache key (some (value, call))
  | .error _ => cache

section Steps

variable [DecidableEq ι] [DecidableEq κ]

/-- The state with a new phase of one call. -/
def State.setPhase (s : State ι κ ε α) (call : ι) (phase : Phase ι ε α) : State ι κ ε α :=
  { s with phase := Function.update s.phase call phase }

/-- The state in which nobody runs the computation of a key. -/
def State.land (s : State ι κ ε α) (key : κ) : State ι κ ε α :=
  { s with flight := Function.update s.flight key none }

/-- The state in which a call runs the computation of a key. -/
def State.fly (s : State ι κ ε α) (key : κ) (call : ι) : State ι κ ε α :=
  { s with flight := Function.update s.flight key (some call) }

inductive Step (keyOf : ι → κ) (s : State ι κ ε α) : Event ι κ ε α → State ι κ ε α → Prop where
  | hit {call : ι} {value : α} {origin : ι} (hphase : s.phase call = .ready)
      (hentry : s.cache (keyOf call) = some (value, origin)) :
      Step keyOf s (.look call) (s.setPhase call (.hit value origin))
  | miss {call : ι} (hphase : s.phase call = .ready) (hentry : s.cache (keyOf call) = none) :
      Step keyOf s (.look call) (s.setPhase call .missed)
  | found {call : ι} {value : α} {origin : ι} (hphase : s.phase call = .missed)
      (hentry : s.cache (keyOf call) = some (value, origin)) :
      Step keyOf s (.enter call) (s.setPhase call (.found value origin))
  | join {call owner : ι} (hphase : s.phase call = .missed)
      (hflight : s.flight (keyOf call) = some owner) :
      Step keyOf s (.enter call) (s.setPhase call (.waiting owner))
  /-- At most one call runs the computation of a key. -/
  | begin {call : ι} (hphase : s.phase call = .missed) (hflight : s.flight (keyOf call) = none) :
      Step keyOf s (.begin call)
        ((s.setPhase call .running).fly (keyOf call) call)
  | finish {call : ι} {result : Except ε α} (hphase : s.phase call = .running) :
      Step keyOf s (.finish call result)
        { (s.setPhase call (.own result)).land (keyOf call) with
          cache := insertOk s.cache (keyOf call) call result }
  | deliver {call owner : ι} {result : Except ε α} (hphase : s.phase call = .waiting owner)
      (howner : s.phase owner = .own result) :
      Step keyOf s (.deliver call) (s.setPhase call (.joined result owner))
  /-- The computation was given up, so the call tries again. -/
  | retry {call owner : ι} (hphase : s.phase call = .waiting owner)
      (howner : s.phase owner = .aborted) :
      Step keyOf s (.deliver call) (s.setPhase call .missed)
  | abort {call : ι} (hopen : (s.phase call).isOpen = true) (hphase : s.phase call ≠ .running) :
      Step keyOf s (.abort call) (s.setPhase call .aborted)
  | abortRunning {call : ι} (hphase : s.phase call = .running) :
      Step keyOf s (.abort call) ((s.setPhase call .aborted).land (keyOf call))
  | evict {key : κ} :
      Step keyOf s (.evict key) { s with cache := Function.update s.cache key none }

end Steps

/-! ## Where results come from -/

/-- What a phase has to do with the computation that its result comes from. -/
def Phase.Sound (keyOf : ι → κ) (phase : ι → Phase ι ε α) (call : ι) : Phase ι ε α → Prop
  | .hit value origin => keyOf origin = keyOf call ∧ phase origin = .own (.ok value)
  | .found value origin => keyOf origin = keyOf call ∧ phase origin = .own (.ok value)
  | .joined result origin => keyOf origin = keyOf call ∧ phase origin = .own result
  | .waiting owner => keyOf owner = keyOf call
  | _ => True

/-- Entries and results come from computations of their own key, and who runs is in flight. -/
structure Sound (keyOf : ι → κ) (s : State ι κ ε α) : Prop where
  cached : ∀ key value origin, s.cache key = some (value, origin) →
    keyOf origin = key ∧ s.phase origin = .own (.ok value)
  flying : ∀ key call, s.flight key = some call → keyOf call = key ∧ s.phase call = .running
  running : ∀ call, s.phase call = .running → s.flight (keyOf call) = some call
  phases : ∀ call, (s.phase call).Sound keyOf s.phase call

theorem Sound.initial (keyOf : ι → κ) : Sound keyOf (State.initial : State ι κ ε α) where
  cached _ _ _ h := by cases h
  flying _ _ h := by cases h
  running _ h := by cases h
  phases _ := trivial

/-- One computation of a key runs at a time. -/
theorem Sound.single {keyOf : ι → κ} {s : State ι κ ε α} (h : Sound keyOf s) {call other : ι}
    (hcall : s.phase call = .running) (hother : s.phase other = .running)
    (hkey : keyOf call = keyOf other) : call = other := by
  have hflight := h.running call hcall
  rw [hkey, h.running other hother] at hflight
  exact (Option.some.inj hflight).symm

/-- Whoever was served was served by a finished computation of the same key. -/
theorem Sound.origin {keyOf : ι → κ} {s : State ι κ ε α} (hs : Sound keyOf s) {call origin : ι}
    (h : (s.phase call).origin call = some origin) :
    keyOf origin = keyOf call ∧ ∃ result, s.phase origin = .own result := by
  have hphase := hs.phases call
  cases hcall : s.phase call with
  | hit value owner =>
    rw [hcall] at h hphase
    cases h
    exact ⟨hphase.1, .ok value, hphase.2⟩
  | found value owner =>
    rw [hcall] at h hphase
    cases h
    exact ⟨hphase.1, .ok value, hphase.2⟩
  | joined result owner =>
    rw [hcall] at h hphase
    cases h
    exact ⟨hphase.1, result, hphase.2⟩
  | own result =>
    rw [hcall] at h
    cases h
    exact ⟨rfl, result, hcall⟩
  | _ =>
    rw [hcall] at h
    cases h

/-- The result of a call that found nothing at first is that of a computation of its key. -/
theorem Sound.missResult {keyOf : ι → κ} {s : State ι κ ε α} (hs : Sound keyOf s) {call : ι}
    {result : Except ε α} (h : (s.phase call).missResult = some result) :
    ∃ origin, (s.phase call).origin call = some origin ∧ s.phase origin = .own result := by
  have hphase := hs.phases call
  cases hcall : s.phase call with
  | found value owner =>
    rw [hcall] at h hphase
    cases h
    exact ⟨owner, rfl, hphase.2⟩
  | joined shared owner =>
    rw [hcall] at h hphase
    cases h
    exact ⟨owner, rfl, hphase.2⟩
  | own computed =>
    rw [hcall] at h
    cases h
    exact ⟨call, rfl, hcall⟩
  | _ =>
    rw [hcall] at h
    cases h

theorem Phase.Sound.mono {keyOf : ι → κ} {before after : ι → Phase ι ε α}
    (h : ∀ other result, before other = .own result → after other = .own result) {call : ι}
    {phase : Phase ι ε α} (hsound : phase.Sound keyOf before call) :
    phase.Sound keyOf after call := by
  cases phase with
  | hit value origin => exact ⟨hsound.1, h origin _ hsound.2⟩
  | found value origin => exact ⟨hsound.1, h origin _ hsound.2⟩
  | joined result origin => exact ⟨hsound.1, h origin _ hsound.2⟩
  | waiting owner => exact hsound
  | _ => trivial

/-- Another cache is sound where its entries are. -/
theorem Sound.withCache {keyOf : ι → κ} {s : State ι κ ε α} (hs : Sound keyOf s)
    {cache : κ → Option (α × ι)}
    (hcached : ∀ key value origin, cache key = some (value, origin) →
      keyOf origin = key ∧ s.phase origin = .own (.ok value)) :
    Sound keyOf { s with cache := cache } where
  cached := hcached
  flying := hs.flying
  running := hs.running
  phases := hs.phases

section Preservation

variable [DecidableEq ι] {keyOf : ι → κ} {s : State ι κ ε α}

@[simp] theorem setPhase_self (s : State ι κ ε α) (call : ι) (phase : Phase ι ε α) :
    (s.setPhase call phase).phase call = phase := by
  show Function.update s.phase call phase call = phase
  rw [Function.update_self]

@[simp] theorem setPhase_of_ne {call other : ι} (h : other ≠ call) (phase : Phase ι ε α) :
    (s.setPhase call phase).phase other = s.phase other := by
  show Function.update s.phase call phase other = s.phase other
  rw [Function.update_of_ne h]

/-- A call that has its own result keeps it when the phase of an open call changes. -/
theorem setPhase_own {call : ι} (hopen : (s.phase call).isOpen = true) (phase : Phase ι ε α)
    {other : ι} {result : Except ε α} (h : s.phase other = .own result) :
    (s.setPhase call phase).phase other = .own result := by
  by_cases heq : other = call
  · rw [heq] at h
    rw [h] at hopen
    cases hopen
  · rw [setPhase_of_ne heq]
    exact h

/-- A call whose phase is set to a sound one leaves the phases sound. -/
theorem Sound.setPhase_phases (hs : Sound keyOf s) {call : ι} {phase : Phase ι ε α}
    (hopen : (s.phase call).isOpen = true) (hphase : phase.Sound keyOf s.phase call) (other : ι) :
    ((s.setPhase call phase).phase other).Sound keyOf (s.setPhase call phase).phase other := by
  by_cases heq : other = call
  · rw [heq, setPhase_self]
    exact hphase.mono fun _ _ => setPhase_own hopen phase
  · rw [setPhase_of_ne heq]
    exact (hs.phases other).mono fun _ _ => setPhase_own hopen phase

/-- The steps of calls that do not run, before and after. -/
theorem Sound.setPhase (hs : Sound keyOf s) {call : ι} {phase : Phase ι ε α}
    (hopen : (s.phase call).isOpen = true) (hrunning : s.phase call ≠ .running)
    (hphase : phase.Sound keyOf s.phase call) (hnew : phase ≠ .running) :
    Sound keyOf (s.setPhase call phase) where
  cached key value origin h :=
    ⟨(hs.cached key value origin h).1, setPhase_own hopen phase (hs.cached key value origin h).2⟩
  flying key owner h := by
    obtain ⟨hkey, howner⟩ := hs.flying key owner h
    refine ⟨hkey, ?_⟩
    rw [setPhase_of_ne]
    · exact howner
    · rintro rfl
      exact hrunning howner
  running other h := by
    by_cases heq : other = call
    · rw [heq, setPhase_self] at h
      exact absurd h hnew
    · rw [setPhase_of_ne heq] at h
      exact hs.running other h
  phases := hs.setPhase_phases hopen hphase

variable [DecidableEq κ]

/-- A call that begins is the one in flight for its key. -/
theorem Sound.begin (hs : Sound keyOf s) {call : ι} (hphase : s.phase call = .missed)
    (hflight : s.flight (keyOf call) = none) :
    Sound keyOf ((s.setPhase call .running).fly (keyOf call) call) where
  cached key value origin h := by
    have hopen : (s.phase call).isOpen = true := by rw [hphase]; rfl
    exact ⟨(hs.cached key value origin h).1,
      setPhase_own hopen .running (hs.cached key value origin h).2⟩
  flying key owner h := by
    have hflight : Function.update s.flight (keyOf call) (some call) key = some owner := h
    by_cases hkey : key = keyOf call
    · rw [hkey, Function.update_self] at hflight
      cases hflight
      exact ⟨hkey.symm, setPhase_self s call .running⟩
    · rw [Function.update_of_ne hkey] at hflight
      obtain ⟨howner, hrunning⟩ := hs.flying key owner hflight
      refine ⟨howner, ?_⟩
      show (s.setPhase call .running).phase owner = .running
      rw [setPhase_of_ne]
      · exact hrunning
      · rintro rfl
        exact hkey howner.symm
  running other h := by
    by_cases heq : other = call
    · rw [heq]
      exact Function.update_self (keyOf call) (some call) s.flight
    · have hbefore : s.phase other = .running := (setPhase_of_ne heq .running).symm.trans h
      have hother := hs.running other hbefore
      have hkey : keyOf other ≠ keyOf call := by
        intro hkey
        rw [hkey, hflight] at hother
        cases hother
      exact (Function.update_of_ne hkey (some call) s.flight).trans hother
  phases := by
    have hopen : (s.phase call).isOpen = true := by rw [hphase]; rfl
    exact hs.setPhase_phases hopen trivial

/-- A call that stops running frees its key. -/
theorem Sound.land (hs : Sound keyOf s) {call : ι} (hphase : s.phase call = .running)
    {phase : Phase ι ε α} (hsound : phase.Sound keyOf s.phase call) (hnew : phase ≠ .running) :
    Sound keyOf ((s.setPhase call phase).land (keyOf call)) where
  cached key value origin h := by
    have hopen : (s.phase call).isOpen = true := by rw [hphase]; rfl
    exact ⟨(hs.cached key value origin h).1,
      setPhase_own hopen phase (hs.cached key value origin h).2⟩
  flying key owner h := by
    have hflight : Function.update s.flight (keyOf call) none key = some owner := h
    by_cases hkey : key = keyOf call
    · rw [hkey, Function.update_self] at hflight
      cases hflight
    · rw [Function.update_of_ne hkey] at hflight
      obtain ⟨howner, hrunning⟩ := hs.flying key owner hflight
      refine ⟨howner, ?_⟩
      show (s.setPhase call phase).phase owner = .running
      rw [setPhase_of_ne]
      · exact hrunning
      · rintro rfl
        exact hkey howner.symm
  running other h := by
    by_cases heq : other = call
    · rw [heq] at h
      exact absurd ((setPhase_self s call phase).symm.trans h) hnew
    · have hbefore : s.phase other = .running := (setPhase_of_ne heq phase).symm.trans h
      have hkey : keyOf other ≠ keyOf call := by
        intro hkey
        exact heq (hs.single hbefore hphase hkey)
      exact (Function.update_of_ne hkey none s.flight).trans (hs.running other hbefore)
  phases := by
    have hopen : (s.phase call).isOpen = true := by rw [hphase]; rfl
    exact hs.setPhase_phases hopen hsound

theorem Sound.step {event : Event ι κ ε α} {s' : State ι κ ε α} (hs : Sound keyOf s)
    (h : Step keyOf s event s') : Sound keyOf s' := by
  cases h with
  | @hit call value origin hphase hentry =>
    have hopen : (s.phase call).isOpen = true := by rw [hphase]; rfl
    exact hs.setPhase hopen (by rw [hphase]; simp)
      (hs.cached _ _ _ hentry) (by simp)
  | @miss call hphase hentry =>
    have hopen : (s.phase call).isOpen = true := by rw [hphase]; rfl
    exact hs.setPhase hopen (by rw [hphase]; simp) trivial (by simp)
  | @found call value origin hphase hentry =>
    have hopen : (s.phase call).isOpen = true := by rw [hphase]; rfl
    exact hs.setPhase hopen (by rw [hphase]; simp)
      (hs.cached _ _ _ hentry) (by simp)
  | @join call owner hphase hflight =>
    have hopen : (s.phase call).isOpen = true := by rw [hphase]; rfl
    exact hs.setPhase hopen (by rw [hphase]; simp)
      (hs.flying _ _ hflight).1 (by simp)
  | begin hphase hflight => exact hs.begin hphase hflight
  | @finish call result hphase =>
    have hlanded : Sound keyOf ((s.setPhase call (.own result)).land (keyOf call)) :=
      hs.land hphase trivial (by simp)
    -- only a value is entered, and it comes from the call that has just finished
    refine hlanded.withCache ?_
    intro key value origin hentry
    cases result with
    | error e => exact hlanded.cached key value origin hentry
    | ok new =>
      by_cases hkey : key = keyOf call
      · rw [hkey] at hentry
        have hnew := (Function.update_self (keyOf call) _ s.cache).symm.trans hentry
        cases hnew
        exact ⟨hkey.symm, setPhase_self s call _⟩
      · exact hlanded.cached key value origin
          ((Function.update_of_ne hkey _ s.cache).symm.trans hentry)
  | @deliver call owner result hphase howner =>
    have hopen : (s.phase call).isOpen = true := by rw [hphase]; rfl
    have hwaiting := hs.phases call
    rw [hphase] at hwaiting
    exact hs.setPhase hopen (by rw [hphase]; simp) ⟨hwaiting, howner⟩
      (by simp)
  | @retry call owner hphase howner =>
    have hopen : (s.phase call).isOpen = true := by rw [hphase]; rfl
    exact hs.setPhase hopen (by rw [hphase]; simp) trivial (by simp)
  | abort hopen hphase => exact hs.setPhase hopen hphase trivial (by simp)
  | abortRunning hphase => exact hs.land hphase trivial (by simp)
  | @evict key =>
    refine hs.withCache ?_
    intro other value origin hentry
    by_cases hkey : other = key
    · rw [hkey, Function.update_self] at hentry
      cases hentry
    · rw [Function.update_of_ne hkey] at hentry
      exact hs.cached other value origin hentry

/-! ## What a step leaves alone -/

variable {event : Event ι κ ε α} {s' : State ι κ ε α}

theorem Step.phase_of_ne (h : Step keyOf s event s') {other : ι}
    (hother : event.caller ≠ some other) : s'.phase other = s.phase other := by
  cases h with
  | evict => rfl
  | begin hphase hflight => exact setPhase_of_ne (fun heq => hother (congrArg some heq.symm)) _
  | finish hphase => exact setPhase_of_ne (fun heq => hother (congrArg some heq.symm)) _
  | abortRunning hphase => exact setPhase_of_ne (fun heq => hother (congrArg some heq.symm)) _
  | _ => exact setPhase_of_ne (fun heq => hother (congrArg some heq.symm)) _

/-- Only an open call moves. -/
theorem Step.isOpen (h : Step keyOf s event s') {call : ι} (hcall : event.caller = some call) :
    (s.phase call).isOpen = true := by
  cases h with
  | evict => cases hcall
  | abort hopen hphase =>
    cases hcall
    exact hopen
  | hit hphase _ => cases hcall; rw [hphase]; rfl
  | miss hphase _ => cases hcall; rw [hphase]; rfl
  | found hphase _ => cases hcall; rw [hphase]; rfl
  | join hphase _ => cases hcall; rw [hphase]; rfl
  | begin hphase _ => cases hcall; rw [hphase]; rfl
  | finish hphase => cases hcall; rw [hphase]; rfl
  | deliver hphase _ => cases hcall; rw [hphase]; rfl
  | retry hphase _ => cases hcall; rw [hphase]; rfl
  | abortRunning hphase => cases hcall; rw [hphase]; rfl

/-- A call that has its result keeps it. -/
theorem Step.closed (h : Step keyOf s event s') {call : ι}
    (hclosed : (s.phase call).isOpen = false) :
    s'.phase call = s.phase call := by
  apply h.phase_of_ne
  intro hcall
  rw [h.isOpen hcall] at hclosed
  cases hclosed

/-- A call gets going by its first look only. -/
theorem Step.ready (h : Step keyOf s event s') {call : ι} (hready : s.phase call = .ready) :
    event = .look call ∨ s'.phase call = .ready ∨ s'.phase call = .aborted := by
  by_cases hcall : event.caller = some call
  · cases h with
    | evict => cases hcall
    | hit _ _ => cases hcall; exact Or.inl rfl
    | miss _ _ => cases hcall; exact Or.inl rfl
    | abort _ _ => cases hcall; exact Or.inr (Or.inr (setPhase_self s call _))
    | abortRunning _ => cases hcall; exact Or.inr (Or.inr (setPhase_self s call _))
    | found hphase _ => cases hcall; rw [hready] at hphase; cases hphase
    | join hphase _ => cases hcall; rw [hready] at hphase; cases hphase
    | begin hphase _ => cases hcall; rw [hready] at hphase; cases hphase
    | finish hphase => cases hcall; rw [hready] at hphase; cases hphase
    | deliver hphase _ => cases hcall; rw [hready] at hphase; cases hphase
    | retry hphase _ => cases hcall; rw [hready] at hphase; cases hphase
  · exact Or.inr (Or.inl ((h.phase_of_ne hcall).trans hready))

/-- A quiet step moves a call that never ran, or aborts it, and gives no call its own result. -/
theorem Step.quiet (h : Step keyOf s event s') (hquiet : event.isQuiet = true) {call : ι}
    (hcall : event.caller = some call) :
    ((s.phase call).neverRan = true ∧ (s'.phase call).neverRan = true) ∨
      s'.phase call = .aborted := by
  cases h with
  | evict => cases hcall
  | begin _ _ => cases hquiet
  | finish _ => cases hquiet
  | abort hopen hphase =>
    cases hcall
    exact Or.inr (setPhase_self s call _)
  | abortRunning hphase =>
    cases hcall
    exact Or.inr (setPhase_self s call _)
  | hit hphase _ =>
    cases hcall
    rw [hphase, setPhase_self]
    exact Or.inl ⟨rfl, rfl⟩
  | miss hphase _ =>
    cases hcall
    rw [hphase, setPhase_self]
    exact Or.inl ⟨rfl, rfl⟩
  | found hphase _ =>
    cases hcall
    rw [hphase, setPhase_self]
    exact Or.inl ⟨rfl, rfl⟩
  | join hphase _ =>
    cases hcall
    rw [hphase, setPhase_self]
    exact Or.inl ⟨rfl, rfl⟩
  | deliver hphase _ =>
    cases hcall
    rw [hphase, setPhase_self]
    exact Or.inl ⟨rfl, rfl⟩
  | retry hphase _ =>
    cases hcall
    rw [hphase, setPhase_self]
    exact Or.inl ⟨rfl, rfl⟩

/-- A computation begins in a call that never ran one. -/
theorem Step.begins {call : ι} (h : Step keyOf s (.begin call) s') : s'.phase call = .running := by
  cases h with
  | begin hphase hflight => exact setPhase_self s call _

theorem Step.finishes {call : ι} {result : Except ε α} (h : Step keyOf s (.finish call result) s') :
    s.phase call = .running ∧ s'.phase call = .own result := by
  cases h with
  | finish hphase => exact ⟨hphase, setPhase_self s call _⟩

end Preservation

end SingleFlight
