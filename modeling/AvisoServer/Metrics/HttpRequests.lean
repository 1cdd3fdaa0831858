import AvisoServer.Lib.Counters
import AvisoServer.Lib.Runs
import AvisoServer.Metrics.SseConnections

/-!
# HTTP request metrics

A middleware around every route counts requests, behind those that number and trace them: a gauge
those that are in flight, by method, a counter and a histogram those that were answered, by route
pattern and method. A request whose future is dropped before it is answered leaves the gauge and is
counted nowhere else.
-/

namespace AvisoServer

open Counters

/-! ## 1. Middleware -/

def wellKnownMethods : List String :=
  ["GET", "POST", "PUT", "DELETE", "PATCH", "HEAD", "OPTIONS", "CONNECT", "TRACE"]

/-- Extension methods share one label. -/
def methodLabel (method : String) : String :=
  if method ∈ wellKnownMethods then method else "other"

/-- What the inner service gives: a response to a request with the pattern that matched it, if one
did, or an error with the status of its response. -/
inductive ServiceResult where
  | response (matchPattern : Option String) (status : Nat)
  | error (status : Nat)
  deriving DecidableEq

def ServiceResult.route : ServiceResult → String
  | .response matchPattern _ => matchPattern.getD "unmatched"
  | .error _ => "error"

def ServiceResult.statusCode : ServiceResult → Nat
  | .response _ status => status
  | .error status => status

/-- Of `AppMetrics`, the families of HTTP requests. The histogram is the list of what it observed,
in nanoseconds, the last one first. -/
structure HttpMetrics where
  requestsTotal : CounterVec (String × String × Nat)
  requestsInFlight : IntGaugeVec String
  requestDuration : String × String → List Nat

def HttpMetrics.new : HttpMetrics where
  requestsTotal := ∅
  requestsInFlight _ := 0
  requestDuration _ := []

/-- Where the future of a request stands: it does nothing before it is first polled, and once the
inner service is done it is not suspended again. -/
inductive CallPhase where
  | created
  | waiting
  | counted (result : ServiceResult)
  | observed (result : ServiceResult)
  deriving DecidableEq

/-- The future of `call`, with what it captured. -/
structure HttpCall where
  method : String
  startedAt : Nat
  phase : CallPhase
  deriving DecidableEq

def HttpCall.new (method : String) (now : Nat) : HttpCall where
  method := methodLabel method
  startedAt := now
  phase := .created

/-- The labels under which an answered call is counted. -/
def HttpCall.labels (call : HttpCall) (result : ServiceResult) : String × String × Nat :=
  (result.route, call.method, result.statusCode)

def HttpMetrics.enter (call : HttpCall) (metrics : HttpMetrics) : HttpMetrics :=
  { metrics with requestsInFlight := metrics.requestsInFlight.inc call.method }

def HttpMetrics.count (call : HttpCall) (result : ServiceResult) (metrics : HttpMetrics) :
    HttpMetrics :=
  { metrics with requestsTotal := inc (call.labels result) metrics.requestsTotal }

def HttpMetrics.observe (call : HttpCall) (result : ServiceResult) (now : Nat)
    (metrics : HttpMetrics) : HttpMetrics :=
  { metrics with
    requestDuration :=
      Function.update metrics.requestDuration (result.route, call.method)
        ((now - call.startedAt) :: metrics.requestDuration (result.route, call.method)) }

/-- `InFlightGuard::drop`. -/
def HttpMetrics.leave (call : HttpCall) (metrics : HttpMetrics) : HttpMetrics :=
  { metrics with requestsInFlight := metrics.requestsInFlight.dec call.method }

/-! ## 2. Requests -/

/-- The metrics, the futures that are not dropped, and the labels of those that were answered. -/
structure HttpState where
  metrics : HttpMetrics
  calls : List HttpCall
  answered : List (String × String × Nat)

def HttpState.initial : HttpState where
  metrics := .new
  calls := []
  answered := []

/-- A future that goes on to its next phase. -/
def HttpState.advance (s : HttpState) (call : HttpCall) (phase : CallPhase)
    (metrics : HttpMetrics) : HttpState :=
  { s with
    metrics := metrics
    calls := { call with phase := phase } :: s.calls.erase call }

/-- The workers interleave at each operation on the metrics. A future is dropped by its worker while
it is suspended, because the client is gone, or when it is done. -/
inductive HttpState.Step (s : HttpState) : HttpState → Prop where
  | call (method : String) (now : Nat) :
    Step s { s with calls := HttpCall.new method now :: s.calls }
  | enter (call : HttpCall) (live : call ∈ s.calls) (phase : call.phase = .created) :
    Step s (s.advance call .waiting (s.metrics.enter call))
  | count (call : HttpCall) (live : call ∈ s.calls) (phase : call.phase = .waiting)
    (result : ServiceResult) :
    Step s (s.advance call (.counted result) (s.metrics.count call result))
  | observe (call : HttpCall) (live : call ∈ s.calls) (result : ServiceResult)
    (phase : call.phase = .counted result) (now : Nat) :
    Step s (s.advance call (.observed result) (s.metrics.observe call result now))
  | unpolled (call : HttpCall) (live : call ∈ s.calls) (phase : call.phase = .created) :
    Step s { s with calls := s.calls.erase call }
  | cancelled (call : HttpCall) (live : call ∈ s.calls) (phase : call.phase = .waiting) :
    Step s { s with metrics := s.metrics.leave call, calls := s.calls.erase call }
  | answered (call : HttpCall) (live : call ∈ s.calls) (result : ServiceResult)
    (phase : call.phase = .observed result) :
    Step s
      { metrics := s.metrics.leave call
        calls := s.calls.erase call
        answered := call.labels result :: s.answered }

/-! ## 3. Counts -/

/-- The guard of the call is held. -/
def HttpCall.inFlight (call : HttpCall) (method : String) : Bool :=
  decide (call.method = method ∧ call.phase ≠ .created)

/-- The result with which the call is already counted. -/
def CallPhase.countedResult : CallPhase → Option ServiceResult
  | .counted result => some result
  | .observed result => some result
  | .created => none
  | .waiting => none

def CallPhase.observedResult : CallPhase → Option ServiceResult
  | .observed result => some result
  | .counted _ => none
  | .created => none
  | .waiting => none

def HttpCall.countedAs (call : HttpCall) (labels : String × String × Nat) : Bool :=
  decide (call.phase.countedResult.map call.labels = some labels)

def HttpCall.observedAs (call : HttpCall) (route method : String) : Bool :=
  decide (call.phase.observedResult.map (fun result => (result.route, call.method)) =
    some (route, method))

/-- What the metrics say of the futures, live and answered. -/
structure HttpState.Exact (s : HttpState) : Prop where
  inFlight : ∀ method,
    s.metrics.requestsInFlight method = s.calls.countP fun call => call.inFlight method
  total : ∀ labels,
    value s.metrics.requestsTotal labels =
      s.calls.countP (fun call => call.countedAs labels) +
        s.answered.countP fun found => decide (found = labels)
  all : Counters.total s.metrics.requestsTotal =
    s.calls.countP (fun call => call.phase.countedResult.isSome) + s.answered.length
  durations : ∀ route method,
    (s.metrics.requestDuration (route, method)).length =
      s.calls.countP (fun call => call.observedAs route method) +
        s.answered.countP fun found => decide ((found.1, found.2.1) = (route, method))
  methods : ∀ labels ∈ s.metrics.requestsTotal, labels.2.1 ∈ "other" :: wellKnownMethods
  labelled : ∀ call ∈ s.calls, call.method ∈ "other" :: wellKnownMethods

theorem IntGaugeVec.inc_apply {labels : Type} [DecidableEq labels] (gauge : IntGaugeVec labels)
    (values other : labels) :
    gauge.inc values other = gauge other + if other = values then 1 else 0 := by
  by_cases heq : other = values
  · subst heq
    rw [IntGaugeVec.inc_self, if_pos rfl]
  · rw [IntGaugeVec.inc_of_ne gauge heq, if_neg heq, Int.add_zero]

theorem IntGaugeVec.dec_apply {labels : Type} [DecidableEq labels] (gauge : IntGaugeVec labels)
    (values other : labels) :
    gauge.dec values other = gauge other - if other = values then 1 else 0 := by
  by_cases heq : other = values
  · subst heq
    rw [IntGaugeVec.dec_self, if_pos rfl]
  · rw [IntGaugeVec.dec_of_ne gauge heq, if_neg heq, Int.sub_zero]

theorem observe_length (metrics : HttpMetrics) (call : HttpCall) (result : ServiceResult)
    (now : Nat) (route method : String) :
    ((metrics.observe call result now).requestDuration (route, method)).length =
      (metrics.requestDuration (route, method)).length +
        if (route, method) = (result.route, call.method) then 1 else 0 := by
  unfold HttpMetrics.observe
  simp only
  by_cases heq : (route, method) = (result.route, call.method)
  · rw [if_pos heq, heq, Function.update_self]
    rfl
  · rw [if_neg heq, Function.update_of_ne heq]
    rfl

theorem methodLabel_mem (method : String) : methodLabel method ∈ "other" :: wellKnownMethods := by
  unfold methodLabel
  by_cases hknown : method ∈ wellKnownMethods
  · rw [if_pos hknown]
    exact List.mem_cons_of_mem _ hknown
  · rw [if_neg hknown]
    exact List.mem_cons_self

/-- One of the futures, and the others. -/
theorem countP_live {calls : List HttpCall} {call : HttpCall} (h : call ∈ calls)
    (p : HttpCall → Bool) :
    calls.countP p = [call].countP p + (calls.erase call).countP p := by
  rw [(List.perm_cons_erase h).countP_eq, ← List.countP_append]
  rfl

/-- What is left of a future once it has taken a step, and the labels that it is answered under. -/
structure HttpState.Replaces (s next : HttpState) (call : HttpCall) (left : List HttpCall)
    (found : List (String × String × Nat)) : Prop where
  live : call ∈ s.calls
  calls : next.calls = left ++ s.calls.erase call
  answered : next.answered = found ++ s.answered
  method : ∀ other ∈ left, other.method = call.method
  inFlight : ∀ method,
    next.metrics.requestsInFlight method + ([call].countP fun call => call.inFlight method : Nat) =
      s.metrics.requestsInFlight method + (left.countP fun call => call.inFlight method : Nat)
  total : ∀ labels,
    value next.metrics.requestsTotal labels + [call].countP (fun call => call.countedAs labels) =
      value s.metrics.requestsTotal labels + left.countP (fun call => call.countedAs labels) +
        found.countP fun found => decide (found = labels)
  all : Counters.total next.metrics.requestsTotal +
      [call].countP (fun call => call.phase.countedResult.isSome) =
    Counters.total s.metrics.requestsTotal +
      left.countP (fun call => call.phase.countedResult.isSome) + found.length
  durations : ∀ route method,
    (next.metrics.requestDuration (route, method)).length +
        [call].countP (fun call => call.observedAs route method) =
      (s.metrics.requestDuration (route, method)).length +
        left.countP (fun call => call.observedAs route method) +
          found.countP fun found => decide ((found.1, found.2.1) = (route, method))
  series : ∀ labels ∈ next.metrics.requestsTotal,
    labels ∈ s.metrics.requestsTotal ∨ labels.2.1 = call.method

/-- It is enough to look at the future that takes the step. -/
theorem HttpState.Exact.replace {s next : HttpState} (h : s.Exact) {call : HttpCall}
    {left : List HttpCall} {found : List (String × String × Nat)}
    (hnext : s.Replaces next call left found) : next.Exact where
  -- each count is that of the future before, exchanged for what is left of it, and of the others
  inFlight method := by
    have hbefore := h.inFlight method
    have hstep := hnext.inFlight method
    rw [countP_live hnext.live] at hbefore
    rw [hnext.calls, List.countP_append]
    omega
  total labels := by
    have hbefore := h.total labels
    have hstep := hnext.total labels
    rw [countP_live hnext.live] at hbefore
    rw [hnext.calls, hnext.answered, List.countP_append, List.countP_append]
    omega
  all := by
    have hbefore := h.all
    have hstep := hnext.all
    rw [countP_live hnext.live] at hbefore
    rw [hnext.calls, hnext.answered, List.countP_append, List.length_append]
    omega
  durations route method := by
    have hbefore := h.durations route method
    have hstep := hnext.durations route method
    rw [countP_live hnext.live] at hbefore
    rw [hnext.calls, hnext.answered, List.countP_append, List.countP_append]
    omega
  methods labels hlabels := by
    cases hnext.series labels hlabels with
    | inl hold => exact h.methods labels hold
    | inr hmethod =>
      rw [hmethod]
      exact h.labelled call hnext.live
  labelled other hother := by
    rw [hnext.calls] at hother
    cases List.mem_append.mp hother with
    | inl hleft =>
      rw [hnext.method other hleft]
      exact h.labelled call hnext.live
    | inr hrest => exact h.labelled other (List.mem_of_mem_erase hrest)

/-! ## 4. Steps -/

theorem HttpState.initial_exact : HttpState.initial.Exact where
  inFlight _ := rfl
  total _ := rfl
  all := rfl
  durations _ _ := rfl
  methods labels hlabels := absurd hlabels (AList.notMem_empty labels)
  labelled _ hcall := by cases hcall

theorem HttpState.Exact.call {s : HttpState} (h : s.Exact) (method : String) (now : Nat) :
    HttpState.Exact { s with calls := HttpCall.new method now :: s.calls } where
  -- a future that was never polled counts nowhere
  inFlight label := by
    rw [List.countP_cons_of_neg (by simp [HttpCall.inFlight, HttpCall.new])]
    exact h.inFlight label
  total labels := by
    rw [List.countP_cons_of_neg
      (by simp [HttpCall.countedAs, HttpCall.new, CallPhase.countedResult])]
    exact h.total labels
  all := by
    rw [List.countP_cons_of_neg (by simp [HttpCall.new, CallPhase.countedResult])]
    exact h.all
  durations route label := by
    rw [List.countP_cons_of_neg
      (by simp [HttpCall.observedAs, HttpCall.new, CallPhase.observedResult])]
    exact h.durations route label
  methods := h.methods
  labelled other hother := by
    cases List.mem_cons.mp hother with
    | inl hnew =>
      rw [hnew]
      exact methodLabel_mem method
    | inr hold => exact h.labelled other hold

section Steps

variable {s : HttpState} {call : HttpCall}

theorem replaces_enter (hlive : call ∈ s.calls) (hphase : call.phase = .created) :
    s.Replaces (s.advance call .waiting (s.metrics.enter call)) call
      [{ call with phase := .waiting }] [] where
  live := hlive
  calls := rfl
  answered := rfl
  method other hother := by rw [List.mem_singleton.mp hother]
  inFlight method := by
    -- only the series of the method of the future moves
    show s.metrics.requestsInFlight.inc call.method method + _ = _
    rw [IntGaugeVec.inc_apply]
    by_cases hmethod : method = call.method
    · simp [HttpCall.inFlight, hphase, hmethod]
    · simp [HttpCall.inFlight, hphase, hmethod, Ne.symm hmethod]
  total labels := by
    simp [HttpState.advance, HttpMetrics.enter, HttpCall.countedAs, hphase, CallPhase.countedResult]
  all := by simp [HttpState.advance, HttpMetrics.enter, hphase, CallPhase.countedResult]
  durations route method := by
    simp [HttpState.advance, HttpMetrics.enter, HttpCall.observedAs, hphase,
      CallPhase.observedResult]
  series labels hlabels := Or.inl hlabels

theorem replaces_count (hlive : call ∈ s.calls) (hphase : call.phase = .waiting)
    (result : ServiceResult) :
    s.Replaces (s.advance call (.counted result) (s.metrics.count call result)) call
      [{ call with phase := .counted result }] [] where
  live := hlive
  calls := rfl
  answered := rfl
  method other hother := by rw [List.mem_singleton.mp hother]
  inFlight method := by
    simp [HttpState.advance, HttpMetrics.count, HttpCall.inFlight, hphase]
  total labels := by
    show value (inc (call.labels result) s.metrics.requestsTotal) labels + _ = _
    rw [value_inc]
    by_cases hlabels : call.labels result = labels
    · simp [HttpCall.countedAs, hphase, CallPhase.countedResult, ← hlabels, HttpCall.labels]
    · have hother : ¬ (HttpCall.labels { call with phase := .counted result } result = labels) :=
        hlabels
      simp [HttpCall.countedAs, hphase, CallPhase.countedResult, hlabels, hother]
  all := by
    show Counters.total (inc (call.labels result) s.metrics.requestsTotal) + _ = _
    rw [total_inc]
    simp [hphase, CallPhase.countedResult]
  durations route method := by
    simp [HttpState.advance, HttpMetrics.count, HttpCall.observedAs, hphase,
      CallPhase.observedResult]
  series labels hlabels := by
    cases mem_inc.mp hlabels with
    | inl hnew => exact Or.inr (by rw [hnew]; rfl)
    | inr hold => exact Or.inl hold

theorem replaces_observe (hlive : call ∈ s.calls) {result : ServiceResult}
    (hphase : call.phase = .counted result) (now : Nat) :
    s.Replaces (s.advance call (.observed result) (s.metrics.observe call result now)) call
      [{ call with phase := .observed result }] [] where
  live := hlive
  calls := rfl
  answered := rfl
  method other hother := by rw [List.mem_singleton.mp hother]
  inFlight method := by
    simp [HttpState.advance, HttpMetrics.observe, HttpCall.inFlight, hphase]
  total labels := by
    -- the call is counted under the same labels as before
    have hsame : HttpCall.labels { call with phase := .observed result } result =
      call.labels result := rfl
    simp [HttpState.advance, HttpMetrics.observe, HttpCall.countedAs, hphase,
      CallPhase.countedResult, hsame]
  all := by simp [HttpState.advance, HttpMetrics.observe, hphase, CallPhase.countedResult]
  durations route method := by
    show ((s.metrics.observe call result now).requestDuration (route, method)).length + _ = _
    rw [observe_length]
    by_cases hlabels : (route, method) = (result.route, call.method)
    · cases hlabels
      simp [HttpCall.observedAs, hphase, CallPhase.observedResult]
    · have hother : ¬ (result.route, call.method) = (route, method) := Ne.symm hlabels
      simp only [HttpCall.observedAs, hphase, CallPhase.observedResult, Option.map_some,
        Option.some_inj, hother, hlabels, decide_false, Option.map_none, reduceCtorEq,
        List.countP_cons, List.countP_nil, if_false, Bool.false_eq_true]
  series labels hlabels := Or.inl hlabels

theorem replaces_unpolled (hlive : call ∈ s.calls) (hphase : call.phase = .created) :
    s.Replaces { s with calls := s.calls.erase call } call [] [] where
  live := hlive
  calls := rfl
  answered := rfl
  method other hother := by cases hother
  inFlight method := by simp [HttpCall.inFlight, hphase]
  total labels := by simp [HttpCall.countedAs, hphase, CallPhase.countedResult]
  all := by simp [hphase, CallPhase.countedResult]
  durations route method := by simp [HttpCall.observedAs, hphase, CallPhase.observedResult]
  series labels hlabels := Or.inl hlabels

/-- The guard gives back what the first poll took. -/
theorem leave_inFlight (hphase : call.phase ≠ .created) (method : String) :
    (s.metrics.leave call).requestsInFlight method +
        ([call].countP fun call => call.inFlight method : Nat) =
      s.metrics.requestsInFlight method := by
  show s.metrics.requestsInFlight.dec call.method method + _ = _
  rw [IntGaugeVec.dec_apply]
  by_cases hmethod : method = call.method
  · simp [HttpCall.inFlight, hphase, hmethod]
  · simp [HttpCall.inFlight, hphase, hmethod, Ne.symm hmethod]

theorem replaces_cancelled (hlive : call ∈ s.calls) (hphase : call.phase = .waiting) :
    s.Replaces { s with metrics := s.metrics.leave call, calls := s.calls.erase call } call [] []
    where
  live := hlive
  calls := rfl
  answered := rfl
  method other hother := by cases hother
  inFlight method := by
    have hleave := @leave_inFlight s call (by rw [hphase]; decide) method
    exact hleave.trans (Int.add_zero _).symm
  total labels := by
    simp [HttpMetrics.leave, HttpCall.countedAs, hphase, CallPhase.countedResult]
  all := by simp [HttpMetrics.leave, hphase, CallPhase.countedResult]
  durations route method := by
    simp [HttpMetrics.leave, HttpCall.observedAs, hphase, CallPhase.observedResult]
  series labels hlabels := Or.inl hlabels

theorem replaces_answered (hlive : call ∈ s.calls) {result : ServiceResult}
    (hphase : call.phase = .observed result) :
    s.Replaces
      { metrics := s.metrics.leave call
        calls := s.calls.erase call
        answered := call.labels result :: s.answered } call [] [call.labels result] where
  live := hlive
  calls := rfl
  answered := rfl
  method other hother := by cases hother
  inFlight method := by
    have hleave := @leave_inFlight s call (by rw [hphase]; nofun) method
    exact hleave.trans (Int.add_zero _).symm
  total labels := by
    simp [HttpMetrics.leave, HttpCall.countedAs, hphase, CallPhase.countedResult]
  all := by simp [HttpMetrics.leave, hphase, CallPhase.countedResult]
  durations route method := by
    simp [HttpMetrics.leave, HttpCall.observedAs, hphase, CallPhase.observedResult,
      HttpCall.labels]
  series labels hlabels := Or.inl hlabels

theorem HttpState.Exact.step {next : HttpState} (h : s.Exact) (hstep : s.Step next) :
    next.Exact := by
  cases hstep with
  | call method now => exact h.call method now
  | enter call hlive hphase => exact h.replace (replaces_enter hlive hphase)
  | count call hlive hphase result => exact h.replace (replaces_count hlive hphase result)
  | observe call hlive result hphase now => exact h.replace (replaces_observe hlive hphase now)
  | unpolled call hlive hphase => exact h.replace (replaces_unpolled hlive hphase)
  | cancelled call hlive hphase => exact h.replace (replaces_cancelled hlive hphase)
  | answered call hlive result hphase => exact h.replace (replaces_answered hlive hphase)

end Steps

/-! ## 5. Runs -/

/-- The metrics in a state without futures: nothing is in flight, and every request that was
answered is counted once, by its labels and by its route and method. -/
structure HttpState.Settled (s : HttpState) : Prop where
  inFlight : ∀ method, s.metrics.requestsInFlight method = 0
  total : ∀ labels, value s.metrics.requestsTotal labels =
    s.answered.countP fun found => decide (found = labels)
  all : Counters.total s.metrics.requestsTotal = s.answered.length
  durations : ∀ route method, (s.metrics.requestDuration (route, method)).length =
    s.answered.countP fun found => decide ((found.1, found.2.1) = (route, method))

theorem HttpState.Exact.settled {s : HttpState} (h : s.Exact) (hidle : s.calls = []) :
    s.Settled where
  inFlight method := by
    rw [h.inFlight method, hidle]
    rfl
  total labels := by
    rw [h.total labels, hidle, List.countP_nil, Nat.zero_add]
  all := by
    rw [h.all, hidle, List.countP_nil, Nat.zero_add]
  durations route method := by
    rw [h.durations route method, hidle, List.countP_nil, Nat.zero_add]

/-- After each step of every interleaving the metrics are exact, and they are settled whenever no
future is left. -/
theorem httpMetrics_exact {visited : List HttpState} {last : HttpState}
    (hrun : Runs.Run HttpState.Step .initial visited last) :
    ∀ s ∈ visited, s.Exact ∧ (s.calls = [] → s.Settled) := by
  intro s hs
  have hexact := hrun.invariant_visited HttpState.Exact (fun _ _ ht hstep => ht.step hstep)
    HttpState.initial_exact
  exact ⟨hexact s hs, (hexact s hs).settled⟩

-- one request is answered while the client of another one goes away
theorem httpMetrics_exact_twoRequests : ∃ (visited : List HttpState) (last : HttpState),
    (∀ s ∈ visited, s.Exact ∧ (s.calls = [] → s.Settled)) ∧ last ∈ visited ∧
      last.calls = [] ∧ last.metrics.requestsInFlight "GET" = 0 ∧
      last.metrics.requestsInFlight "other" = 0 ∧
      last.answered = [("/api/v1/schema/\x7bevent_type\x7d", "GET", 200)] := by
  have hget := (@Runs.Run.refl _ HttpState.Step .initial).tail (.call "GET" 0)
  have hpurge := hget.tail (.call "PURGE" 1)
  have hentered := (hpurge.tail (.enter (HttpCall.new "GET" 0) (by decide) rfl)).tail
    (.enter (HttpCall.new "PURGE" 1) (by decide) rfl)
  have hcounted := hentered.tail (.count { HttpCall.new "GET" 0 with phase := .waiting } (by decide)
    rfl (.response (some "/api/v1/schema/\x7bevent_type\x7d") 200))
  have hgone := hcounted.tail (.cancelled { HttpCall.new "PURGE" 1 with phase := .waiting }
    (by decide) rfl)
  have hobserved := hgone.tail (.observe
    { HttpCall.new "GET" 0 with
      phase := .counted (.response (some "/api/v1/schema/\x7bevent_type\x7d") 200) } (by decide)
    _ rfl 9)
  have hanswered := hobserved.tail (.answered
    { HttpCall.new "GET" 0 with
      phase := .observed (.response (some "/api/v1/schema/\x7bevent_type\x7d") 200) } (by decide)
    _ rfl)
  refine ⟨_, _, httpMetrics_exact hanswered,
    List.mem_append_right _ (List.mem_singleton_self _), ?_, ?_, ?_, ?_⟩
  · decide
  · decide
  · decide
  · decide

end AvisoServer
