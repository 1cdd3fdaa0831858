import AvisoServer.Lib.RefCounts
import AvisoServer.Lib.Runs
import AvisoServer.Rust

/-!
# SSE connection metrics

A connection is counted when it is opened and uncounted when its guard is dropped. Two gauges follow
the connections: one counts them by route and event type, the other counts the users of a route,
each of them once however many connections the user has there.
-/

namespace AvisoServer

/-! ## 1. Metrics -/

/-- An `IntGaugeVec`: a number for all values of the labels, zero before it is first used. -/
abbrev IntGaugeVec (labels : Type) := labels → Int

def IntGaugeVec.inc {labels : Type} [DecidableEq labels] (gauge : IntGaugeVec labels)
    (values : labels) : IntGaugeVec labels :=
  Function.update gauge values (gauge values + 1)

def IntGaugeVec.dec {labels : Type} [DecidableEq labels] (gauge : IntGaugeVec labels)
    (values : labels) : IntGaugeVec labels :=
  Function.update gauge values (gauge values - 1)

section Gauges

variable {labels : Type} [DecidableEq labels] (gauge : IntGaugeVec labels)

theorem IntGaugeVec.inc_self (values : labels) : gauge.inc values values = gauge values + 1 :=
  Function.update_self _ _ _

theorem IntGaugeVec.inc_of_ne {values others : labels} (h : others ≠ values) :
    gauge.inc values others = gauge others :=
  Function.update_of_ne h _ _

theorem IntGaugeVec.dec_self (values : labels) : gauge.dec values values = gauge values - 1 :=
  Function.update_self _ _ _

theorem IntGaugeVec.dec_of_ne {values others : labels} (h : others ≠ values) :
    gauge.dec values others = gauge others :=
  Function.update_of_ne h _ _

end Gauges

/--
The metrics of connections; instants and durations are in nanoseconds. The gauges are 64-bit and the
stored counts are `usize`: both count guards that are in memory, which are fewer.
-/
structure AppMetrics where
  sseConnectionsActive : IntGaugeVec (String × String)
  sseConnectionsTotal : String × String → Nat
  sseUniqueUsersActive : IntGaugeVec String
  /-- The durations observed, the last one first. -/
  sseConnectionDuration : String → List Nat
  uniqueUsers : HashMap (HashMap Nat)

def AppMetrics.new : AppMetrics where
  sseConnectionsActive _ := 0
  sseConnectionsTotal _ := 0
  sseUniqueUsersActive _ := 0
  sseConnectionDuration _ := []
  uniqueUsers := ∅

structure SseConnectionGuard where
  route : String
  eventType : String
  username : Option String
  openedAt : Nat
  deriving DecidableEq

/-- What `track_sse_connection` does for a connection that has a username. -/
def AppMetrics.trackUser (metrics : AppMetrics) (route u : String) : AppMetrics :=
  let routeUsers := (metrics.uniqueUsers.get route).getD ∅
  let count := (routeUsers.get u).getD 0 + 1
  { metrics with
    uniqueUsers := metrics.uniqueUsers.insert route (routeUsers.insert u count)
    sseUniqueUsersActive :=
      if count = 1 then metrics.sseUniqueUsersActive.inc route
      else metrics.sseUniqueUsersActive }

def AppMetrics.trackSseConnection (metrics : AppMetrics) (route eventType : String)
    (username : Option String) (now : Nat) : AppMetrics × SseConnectionGuard :=
  let labels := (route, eventType)
  let counted :=
    { metrics with
      sseConnectionsActive := metrics.sseConnectionsActive.inc labels
      sseConnectionsTotal :=
        Function.update metrics.sseConnectionsTotal labels
          (metrics.sseConnectionsTotal labels + 1) }
  (match username with
    | some u => counted.trackUser route u
    | none => counted,
   { route, eventType, username, openedAt := now })

/-- What dropping a guard does for a connection that has a username. -/
def AppMetrics.dropUser (metrics : AppMetrics) (route username : String) : AppMetrics :=
  match metrics.uniqueUsers.get route with
  | none => metrics
  | some routeUsers =>
    match routeUsers.get username with
    | none => metrics
    | some stored =>
      -- a saturating subtraction, as it is in the source
      let count := stored - 1
      if count = 0 then
        { metrics with
          uniqueUsers := metrics.uniqueUsers.insert route (routeUsers.erase username)
          sseUniqueUsersActive := metrics.sseUniqueUsersActive.dec route }
      else
        { metrics with
          uniqueUsers := metrics.uniqueUsers.insert route (routeUsers.insert username count) }

def SseConnectionGuard.drop (guard : SseConnectionGuard) (metrics : AppMetrics) (now : Nat) :
    AppMetrics :=
  let uncounted :=
    { metrics with
      sseConnectionDuration :=
        Function.update metrics.sseConnectionDuration guard.route
          ((now - guard.openedAt) :: metrics.sseConnectionDuration guard.route)
      sseConnectionsActive := metrics.sseConnectionsActive.dec (guard.route, guard.eventType) }
  match guard.username with
  | some username => uncounted.dropUser guard.route username
  | none => uncounted

/-! ## 2. Connections -/

/-- The metrics, and the guards that have not been dropped. -/
structure SseState where
  metrics : AppMetrics
  live : List SseConnectionGuard

def SseState.initial : SseState where
  metrics := .new
  live := []

/-- A guard is dropped once: it is then no longer live. -/
inductive SseState.Step (s : SseState) : SseState → Prop where
  | track (route eventType : String) (username : Option String) (now : Nat) :
      Step s
        { metrics := (s.metrics.trackSseConnection route eventType username now).1
          live := (s.metrics.trackSseConnection route eventType username now).2 :: s.live }
  | drop (guard : SseConnectionGuard) (now : Nat) (hlive : guard ∈ s.live) :
      Step s
        { metrics := guard.drop s.metrics now
          live := s.live.erase guard }

/-- The guards of a route and event type. -/
def connections (live : List SseConnectionGuard) (route eventType : String) : Nat :=
  live.countP fun guard => guard.route = route ∧ guard.eventType = eventType

/-- The guards of a user on a route. -/
def userConnections (live : List SseConnectionGuard) (route username : String) : Nat :=
  live.countP fun guard => guard.route = route ∧ guard.username = some username

/-- The user that a guard holds on a route. -/
def SseConnectionGuard.userOn (guard : SseConnectionGuard) (route : String) : Option String :=
  if guard.route = route then guard.username else none

/-- The users of a route, each as often as there are guards. -/
def connectedUsers (live : List SseConnectionGuard) (route : String) : List String :=
  live.filterMap fun guard => guard.userOn route

/-- The count that is stored for a user on a route. -/
def AppMetrics.storedCount (metrics : AppMetrics) (route username : String) : Option Nat :=
  (metrics.uniqueUsers.get route).bind fun routeUsers => routeUsers.get username

/-- What the gauges and the stored counts say of the live guards. -/
structure SseState.Accurate (s : SseState) : Prop where
  unique : ∀ route,
    s.metrics.sseUniqueUsersActive route = (connectedUsers s.live route).dedup.length
  active : ∀ route eventType,
    s.metrics.sseConnectionsActive (route, eventType) = connections s.live route eventType
  uniqueNonneg : ∀ route, 0 ≤ s.metrics.sseUniqueUsersActive route
  activeNonneg : ∀ route eventType, 0 ≤ s.metrics.sseConnectionsActive (route, eventType)
  stored : ∀ route username count, s.metrics.storedCount route username = some count →
    count = userConnections s.live route username ∧ count ≠ 0
  absent : ∀ route username, s.metrics.storedCount route username = none →
    userConnections s.live route username = 0

/-! ## 3. Users -/

/-- The users of a route, as they are stored and counted. -/
def AppMetrics.tally (metrics : AppMetrics) (route : String) : RefCounts.Tally String where
  store := metrics.storedCount route
  distinct := metrics.sseUniqueUsersActive route

theorem get_insert_eq (users : HashMap Nat) (username : String) (count : Nat) :
    HashMap.get (users.insert username count) =
      Function.update (HashMap.get users) username (some count) := by
  funext other
  by_cases hother : other = username
  · subst hother
    rw [Function.update_self]
    exact AList.lookup_insert users
  · rw [Function.update_of_ne hother]
    exact AList.lookup_insert_ne hother

theorem get_erase_eq (users : HashMap Nat) (username : String) :
    HashMap.get (users.erase username) =
      Function.update (HashMap.get users) username none := by
  funext other
  by_cases hother : other = username
  · subst hother
    rw [Function.update_self]
    exact AList.lookup_erase other users
  · rw [Function.update_of_ne hother]
    exact AList.lookup_erase_ne hother

section Tally

variable (metrics : AppMetrics) {next : AppMetrics} {route other : String}

theorem getD_get : HashMap.get ((metrics.uniqueUsers.get route).getD ∅) =
    metrics.storedCount route := by
  funext username
  unfold AppMetrics.storedCount
  cases metrics.uniqueUsers.get route with
  | none => exact AList.lookup_empty username
  | some routeUsers => rfl

theorem storedCount_insert {users : HashMap Nat}
    (hnext : next.uniqueUsers = metrics.uniqueUsers.insert route users) :
    next.storedCount route = HashMap.get users := by
  funext username
  unfold AppMetrics.storedCount
  rw [hnext, HashMap.get, AList.lookup_insert]
  rfl

theorem storedCount_insert_ne {users : HashMap Nat} (hother : other ≠ route)
    (hnext : next.uniqueUsers = metrics.uniqueUsers.insert route users) :
    next.storedCount other = metrics.storedCount other := by
  funext username
  unfold AppMetrics.storedCount
  rw [hnext, HashMap.get, AList.lookup_insert_ne hother]

variable (route) (username : String)

theorem trackUser_unique :
    (metrics.trackUser route username).sseUniqueUsersActive =
      if (metrics.storedCount route username).getD 0 + 1 = 1 then
        metrics.sseUniqueUsersActive.inc route
      else metrics.sseUniqueUsersActive := by
  rw [← getD_get]
  rfl

theorem trackUser_tally :
    (metrics.trackUser route username).tally route = (metrics.tally route).acquire username := by
  apply RefCounts.Tally.ext
  · show (metrics.trackUser route username).storedCount route = _
    rw [storedCount_insert metrics rfl, get_insert_eq, getD_get]
    rfl
  · show (metrics.trackUser route username).sseUniqueUsersActive route =
      if (metrics.storedCount route username).getD 0 + 1 = 1 then
        metrics.sseUniqueUsersActive route + 1
      else metrics.sseUniqueUsersActive route
    rw [trackUser_unique]
    split_ifs
    · exact IntGaugeVec.inc_self _ _
    · rfl

/-- The other routes do not see it. -/
theorem trackUser_tally_ne (hother : other ≠ route) :
    (metrics.trackUser route username).tally other = metrics.tally other := by
  apply RefCounts.Tally.ext
  · exact storedCount_insert_ne metrics hother rfl
  · show (metrics.trackUser route username).sseUniqueUsersActive other = _
    rw [trackUser_unique]
    split_ifs
    · exact IntGaugeVec.inc_of_ne _ hother
    · rfl

/-- Either nothing is stored for the user, or the stored count goes down by one. -/
theorem dropUser_cases :
    (metrics.storedCount route username = none ∧ metrics.dropUser route username = metrics) ∨
    ∃ users stored, metrics.storedCount route = HashMap.get users ∧
      users.get username = some stored ∧
      metrics.dropUser route username =
        if stored - 1 = 0 then
          { metrics with
            uniqueUsers := metrics.uniqueUsers.insert route (users.erase username)
            sseUniqueUsersActive := metrics.sseUniqueUsersActive.dec route }
        else
          { metrics with
            uniqueUsers :=
              metrics.uniqueUsers.insert route (users.insert username (stored - 1)) } := by
  have hstore : metrics.storedCount route =
      fun user => (metrics.uniqueUsers.get route).bind fun users => users.get user := rfl
  unfold AppMetrics.dropUser
  rw [hstore]
  cases metrics.uniqueUsers.get route with
  | none => exact .inl ⟨rfl, rfl⟩
  | some users =>
    cases hstored : users.get username with
    | none => exact .inl ⟨hstored, by simp only [hstored]⟩
    | some stored => exact .inr ⟨users, stored, rfl, hstored, by simp only [hstored]⟩

theorem dropUser_active :
    (metrics.dropUser route username).sseConnectionsActive = metrics.sseConnectionsActive := by
  obtain ⟨-, hdrop⟩ | ⟨users, stored, -, -, hdrop⟩ := dropUser_cases metrics route username
  · rw [hdrop]
  · rw [hdrop]
    split_ifs <;> rfl

theorem dropUser_tally :
    (metrics.dropUser route username).tally route = (metrics.tally route).release username := by
  unfold RefCounts.Tally.release
  show _ = (metrics.storedCount route username).elim _ _
  obtain ⟨hnone, hdrop⟩ | ⟨users, stored, hstore, hstored, hdrop⟩ :=
    dropUser_cases metrics route username
  · rw [hnone, hdrop]
    rfl
  · rw [hstore, hstored, hdrop]
    show _ = if stored - 1 = 0 then _ else _
    -- the last connection of the user takes the entry away
    split_ifs
    · apply RefCounts.Tally.ext
      · show _ = Function.update (metrics.storedCount route) username none
        rw [hstore, ← get_erase_eq]
        exact storedCount_insert metrics rfl
      · exact IntGaugeVec.dec_self _ _
    · apply RefCounts.Tally.ext
      · show _ = Function.update (metrics.storedCount route) username (some (stored - 1))
        rw [hstore, ← get_insert_eq]
        exact storedCount_insert metrics rfl
      · rfl

theorem dropUser_tally_ne (hother : other ≠ route) :
    (metrics.dropUser route username).tally other = metrics.tally other := by
  obtain ⟨-, hdrop⟩ | ⟨users, stored, -, -, hdrop⟩ := dropUser_cases metrics route username
  · rw [hdrop]
  · rw [hdrop]
    split_ifs
    · apply RefCounts.Tally.ext
      · exact storedCount_insert_ne metrics hother rfl
      · exact IntGaugeVec.dec_of_ne _ hother
    · apply RefCounts.Tally.ext
      · exact storedCount_insert_ne metrics hother rfl
      · rfl

end Tally

/-! ## 4. Steps -/

section Steps

variable (metrics : AppMetrics) (guard : SseConnectionGuard) (other : String) (now : Nat)

/-- A new connection holds its user on its own route, and a dropped one releases it there. -/
theorem track_tally (route eventType : String) (username : Option String) :
    (metrics.trackSseConnection route eventType username now).1.tally other =
      ((metrics.trackSseConnection route eventType username now).2.userOn other).elim
        (metrics.tally other) (metrics.tally other).acquire := by
  show _ = Option.elim (if route = other then username else none) _ _
  by_cases hroute : route = other
  · subst hroute
    rw [if_pos rfl]
    cases username with
    | none => rfl
    | some u => exact trackUser_tally _ route u
  · rw [if_neg hroute]
    cases username with
    | none => rfl
    | some u => exact trackUser_tally_ne _ route u (Ne.symm hroute)

theorem drop_tally :
    (guard.drop metrics now).tally other =
      (guard.userOn other).elim (metrics.tally other) (metrics.tally other).release := by
  unfold SseConnectionGuard.drop SseConnectionGuard.userOn
  by_cases hroute : guard.route = other
  · subst hroute
    rw [if_pos rfl]
    cases guard.username with
    | none => rfl
    | some username => exact dropUser_tally _ guard.route username
  · rw [if_neg hroute]
    cases guard.username with
    | none => rfl
    | some username => exact dropUser_tally_ne _ guard.route username (Ne.symm hroute)

theorem track_active (route eventType : String) (username : Option String) :
    (metrics.trackSseConnection route eventType username now).1.sseConnectionsActive =
      metrics.sseConnectionsActive.inc (route, eventType) := by
  cases username with
  | none => rfl
  | some u => rfl

theorem drop_active :
    (guard.drop metrics now).sseConnectionsActive =
      metrics.sseConnectionsActive.dec (guard.route, guard.eventType) := by
  unfold SseConnectionGuard.drop
  cases guard.username with
  | none => rfl
  | some username => exact dropUser_active _ guard.route username

end Steps

/-! ## 5. Runs -/

/-- The gauges and the stored counts come from the live guards. -/
structure SseState.Counted (s : SseState) : Prop where
  active : ∀ route eventType,
    s.metrics.sseConnectionsActive (route, eventType) = connections s.live route eventType
  users : ∀ route, RefCounts.Counts (s.metrics.tally route) (connectedUsers s.live route)

theorem SseState.initial_counted : SseState.initial.Counted where
  active _ _ := rfl
  users _ := RefCounts.Counts.nil (fun _ => rfl) rfl

theorem connectedUsers_cons (guard : SseConnectionGuard) (live : List SseConnectionGuard)
    (route : String) :
    connectedUsers (guard :: live) route =
      (guard.userOn route).toList ++ connectedUsers live route := by
  unfold connectedUsers
  rw [List.filterMap_cons]
  cases guard.userOn route with
  | none => rfl
  | some user => rfl

theorem connections_cons_self (guard : SseConnectionGuard) (live : List SseConnectionGuard) :
    connections (guard :: live) guard.route guard.eventType =
      connections live guard.route guard.eventType + 1 :=
  List.countP_cons_of_pos (decide_eq_true ⟨rfl, rfl⟩)

theorem connections_cons_of_ne {guard : SseConnectionGuard} {route eventType : String}
    (h : (route, eventType) ≠ (guard.route, guard.eventType)) (live : List SseConnectionGuard) :
    connections (guard :: live) route eventType = connections live route eventType := by
  apply List.countP_cons_of_neg
  intro hguard
  obtain ⟨hroute, htype⟩ := of_decide_eq_true hguard
  exact h (by rw [hroute, htype])

theorem SseState.Counted.track {s : SseState} (h : s.Counted) (route eventType : String)
    (username : Option String) (now : Nat) :
    SseState.Counted
      { metrics := (s.metrics.trackSseConnection route eventType username now).1
        live := (s.metrics.trackSseConnection route eventType username now).2 :: s.live } where
  active other otherType := by
    show (s.metrics.trackSseConnection route eventType username now).1.sseConnectionsActive _ = _
    rw [track_active]
    by_cases hlabels : (other, otherType) = (route, eventType)
    · cases hlabels
      have hcons := connections_cons_self
        (s.metrics.trackSseConnection route eventType username now).2 s.live
      rw [IntGaugeVec.inc_self, h.active route eventType]
      exact congrArg Nat.cast hcons.symm
    · rw [IntGaugeVec.inc_of_ne _ hlabels, connections_cons_of_ne hlabels]
      exact h.active other otherType
  users other := by
    show RefCounts.Counts ((s.metrics.trackSseConnection route eventType username now).1.tally _) _
    rw [track_tally, connectedUsers_cons]
    exact (h.users other).acquire_toList _

theorem SseState.Counted.drop {s : SseState} (h : s.Counted) {guard : SseConnectionGuard}
    (hlive : guard ∈ s.live) (now : Nat) :
    SseState.Counted { metrics := guard.drop s.metrics now, live := s.live.erase guard } := by
  -- the dropped guard may as well be the last one that was tracked
  have hperm : s.live.Perm (guard :: s.live.erase guard) := List.perm_cons_erase hlive
  refine ⟨fun route eventType => ?_, fun route => ?_⟩
  · have hactive := h.active route eventType
    have hcount : connections s.live route eventType =
        connections (guard :: s.live.erase guard) route eventType := hperm.countP_eq _
    rw [hcount] at hactive
    show (guard.drop s.metrics now).sseConnectionsActive _ = _
    rw [drop_active]
    by_cases hlabels : (route, eventType) = (guard.route, guard.eventType)
    · cases hlabels
      rw [connections_cons_self] at hactive
      rw [IntGaugeVec.dec_self, hactive]
      show _ = (connections (s.live.erase guard) guard.route guard.eventType : Int)
      omega
    · rw [connections_cons_of_ne hlabels] at hactive
      rw [IntGaugeVec.dec_of_ne _ hlabels]
      exact hactive
  · show RefCounts.Counts ((guard.drop s.metrics now).tally route) _
    rw [drop_tally]
    apply RefCounts.Counts.release_toList
    rw [← connectedUsers_cons]
    exact (h.users route).perm (hperm.filterMap _)

theorem SseState.Counted.step {s next : SseState} (h : s.Counted) (hstep : s.Step next) :
    next.Counted := by
  cases hstep with
  | track route eventType username now => exact h.track route eventType username now
  | drop guard now hlive => exact h.drop hlive now

theorem count_connectedUsers (live : List SseConnectionGuard) (route username : String) :
    (connectedUsers live route).count username = userConnections live route username := by
  unfold connectedUsers userConnections
  rw [List.count_filterMap]
  apply List.countP_congr
  intro guard _
  unfold SseConnectionGuard.userOn
  by_cases hroute : guard.route = route
  · rw [if_pos hroute]
    simp [hroute]
  · rw [if_neg hroute]
    simp [hroute]

theorem SseState.Counted.accurate {s : SseState} (h : s.Counted) : s.Accurate where
  unique route := (h.users route).distinct
  active := h.active
  uniqueNonneg route := by
    rw [show s.metrics.sseUniqueUsersActive route = _ from (h.users route).distinct]
    omega
  activeNonneg route eventType := by
    rw [h.active route eventType]
    omega
  stored route username count hcount := by
    obtain ⟨heq, hpos⟩ := (h.users route).stored hcount
    rw [count_connectedUsers] at heq
    exact ⟨heq, by omega⟩
  absent route username hnone := by
    rw [← count_connectedUsers]
    exact (h.users route).absent hnone

/-- The gauges are accurate after each step of every run. -/
theorem sseGauges_accurate {visited : List SseState} {last : SseState}
    (hrun : Runs.Run SseState.Step .initial visited last) : ∀ s ∈ visited, s.Accurate := by
  intro s hs
  have hcounted := hrun.invariant_visited SseState.Counted (fun _ _ ht hstep => ht.step hstep)
    SseState.initial_counted
  exact (hcounted s hs).accurate

-- alice holds two routes, leaves one of them, and bob and a guest come
theorem sseGauges_accurate_alice : ∃ (visited : List SseState) (last : SseState),
    (∀ s ∈ visited, s.Accurate) ∧ last ∈ visited ∧
      last.metrics.sseUniqueUsersActive "watch" = 1 ∧
      last.metrics.sseUniqueUsersActive "replay" = 1 ∧
      last.metrics.sseConnectionsActive ("watch", "mars") = 2 := by
  have halice := (@Runs.Run.refl _ SseState.Step .initial).tail
    (.track "watch" "mars" (some "alice") 0)
  have hreplay := halice.tail (.track "replay" "mars" (some "alice") 1)
  have hbob := hreplay.tail (.track "watch" "mars" (some "bob") 2)
  have hguest := hbob.tail (.track "watch" "mars" none 3)
  have hleft := hguest.tail (.drop
    { route := "watch", eventType := "mars", username := some "alice", openedAt := 0 } 4
    (by decide))
  refine ⟨_, _, sseGauges_accurate hleft,
    List.mem_append_right _ (List.mem_singleton_self _), ?_, ?_, ?_⟩
  · decide
  · decide
  · decide

end AvisoServer
