import AvisoServer.Backend.JetStream
import AvisoServer.Backend.Pagination

/-!
# The two backends replay the same messages

Both batch loops are readers of the same history: JetStream pages over a coarser selection and
drops what its second filter rejects, but it resumes past what it dropped and announces more until
it has seen the end, so nothing is lost and nothing is added.
-/

namespace AvisoServer

/-! ## 1. Histories -/

structure HistoryEntry where
  sequence : Nat
  topic : String
  timestamp : DateTime
  deriving DecidableEq, Repr

/-- Notifications of one base, in the order they were stored. -/
structure History where
  base : String
  entries : List HistoryEntry
  validBase : isTopicBase base = true
  topics : ∀ e ∈ entries, ∃ tokens, tokens ≠ [] ∧ e.topic = encodeSubject (base :: tokens)
  increasing : Paging.Increasing HistoryEntry.sequence entries
  positive : ∀ e ∈ entries, 0 < e.sequence
  monotone : ∀ x ∈ entries, ∀ y ∈ entries, x.sequence ≤ y.sequence → x.timestamp ≤ y.timestamp

/-- What both backends keep of an entry. -/
def HistoryEntry.coordinates (e : HistoryEntry) : Nat × String × Option DateTime :=
  (e.sequence, e.topic, some e.timestamp)

def NotificationMessage.coordinates (m : NotificationMessage) : Nat × String × Option DateTime :=
  (m.sequence, m.topic, m.timestamp)

/-- The entries of the stream with this name. -/
def History.onStream (h : History) (streamName : String) : List HistoryEntry :=
  if streamName = toAsciiUppercase h.base then h.entries else []

def DeliverPolicy.satisfies : DeliverPolicy → HistoryEntry → Bool
  | .all, _ => true
  | .byStartSequence start, e => start ≤ e.sequence
  | .byStartTime start, e => start ≤ e.timestamp

/-- The entries of a stream that a consumer's start policy and filter subject select. -/
def History.selected (h : History) (streamName filterSubject : String) (policy : DeliverPolicy) :
    List HistoryEntry :=
  (h.onStream streamName).filter fun e =>
    policy.satisfies e && SubjectFilter.matchesTokens (splitChar filterSubject subjectSeparator)
      (splitChar e.topic subjectSeparator)

theorem onStream_subset {h : History} {name : String} {e : HistoryEntry} (he : e ∈ h.onStream name) :
    e ∈ h.entries := by
  unfold History.onStream at he
  split at he
  · exact he
  · cases he

theorem selected_mem {h : History} {name filterSubject : String} {policy : DeliverPolicy} {e : HistoryEntry}
    (he : e ∈ h.selected name filterSubject policy) : e ∈ h.entries :=
  onStream_subset (List.mem_filter.mp he).1

theorem selected_increasing (h : History) (name filterSubject : String) (policy : DeliverPolicy) :
    Paging.Increasing HistoryEntry.sequence (h.selected name filterSubject policy) := by
  apply List.Pairwise.filter
  unfold History.onStream
  split
  · exact h.increasing
  · exact List.Pairwise.nil

/-- The server keeps the history: its calls succeed, its stream info counts the entries, and a
fetch returns a prefix of the selected entries that is not longer than asked and not empty while
there are any. `raw` is the message the server keeps for an entry. -/
structure JetStreamServer.Keeps (server : JetStreamServer) (h : History)
    (raw : HistoryEntry → JetStreamMessage) : Prop where
  subject : ∀ e, (raw e).subject = e.topic
  info : ∀ e, (raw e).info = .ok { streamSequence := e.sequence, published := e.timestamp }
  ensureStreamForTopic : ∀ call pattern, server.ensureStreamForTopic call pattern = .ok ()
  getStream : ∀ call name, server.getStream call name = .ok ()
  streamInfo : ∀ call name, ∃ state, server.streamInfo call name = .ok state ∧
    state.messages = (h.onStream name).length ∧
      ∀ e ∈ h.onStream name, e.sequence ≤ state.lastSequence
  createConsumer : ∀ call name filterSubject policy,
    server.createConsumer call name filterSubject policy = .ok ()
  fetch : ∀ call name filterSubject policy max, ∃ es,
    server.fetch call name filterSubject policy max = .ok (es.map fun e => .ok (raw e)) ∧
      es <+: h.selected name filterSubject policy ∧ es.length ≤ max ∧
      (0 < max → h.selected name filterSubject policy ≠ [] → es ≠ [])

/-! ## 2. One JetStream batch -/

section Read

variable (fromUtf8Lossy : List UInt8 → String) {raw : HistoryEntry → JetStreamMessage}

/-- The notification made of an entry. -/
def notificationOf (raw : HistoryEntry → JetStreamMessage) (e : HistoryEntry) :
    NotificationMessage where
  sequence := e.sequence
  topic := e.topic
  payload := fromUtf8Lossy (raw e).payload
  timestamp := some e.timestamp
  metadata := headerMetadata (raw e).headers

theorem transformJetstreamMessage_raw (hsubject : ∀ e, (raw e).subject = e.topic)
    (hinfo : ∀ e, (raw e).info = .ok { streamSequence := e.sequence, published := e.timestamp })
    (e : HistoryEntry) :
    transformJetstreamMessage fromUtf8Lossy (raw e) = .ok (notificationOf fromUtf8Lossy raw e) := by
  simp only [transformJetstreamMessage, hinfo e, hsubject e, notificationOf]

theorem process_raw (hsubject : ∀ e, (raw e).subject = e.topic)
    (hinfo : ∀ e, (raw e).info = .ok { streamSequence := e.sequence, published := e.timestamp })
    (read : ReplayRead) (pattern : List String) (e : HistoryEntry) :
    read.process fromUtf8Lossy pattern e.sequence (raw e) =
      { read with
        lastProcessedSequence := some e.sequence
        filteredMessages := read.filteredMessages ++
          ([e].filter fun e => matchesWatchPattern e.topic pattern).map
            (notificationOf fromUtf8Lossy raw) } := by
  simp only [ReplayRead.process, transformJetstreamMessage_raw fromUtf8Lossy hsubject hinfo]
  by_cases hmatch : matchesWatchPattern e.topic pattern = true
  · simp [hmatch, notificationOf]
  · simp [hmatch, notificationOf]

/-- How the read of a fetch splits its entries into those it processed and the rest. -/
structure ReadSplit (pattern : List String) (endSequence : Nat)
    (raw : HistoryEntry → JetStreamMessage) (es processed rest : List HistoryEntry)
    (before after : ReplayRead) : Prop where
  split : es = processed ++ rest
  filtered : after.filteredMessages = before.filteredMessages ++
    (processed.filter fun e => matchesWatchPattern e.topic pattern).map
      (notificationOf fromUtf8Lossy raw)
  last : after.lastProcessedSequence =
    (processed.getLast?.map (·.sequence)).or before.lastProcessedSequence
  bounded : ∀ e ∈ processed, e.sequence ≤ endSequence
  reached : after.reachedEnd = true →
    (∀ e ∈ rest, endSequence < e.sequence) ∧ ∃ e ∈ es, endSequence ≤ e.sequence
  stopped : after.reachedEnd = false → rest = [] ∨ processed ≠ []

theorem readMessages_split (hsubject : ∀ e, (raw e).subject = e.topic)
    (hinfo : ∀ e, (raw e).info = .ok { streamSequence := e.sequence, published := e.timestamp })
    (pattern : List String) (limit endSequence : Nat) (es : List HistoryEntry)
    (hes : Paging.Increasing HistoryEntry.sequence es) (before : ReplayRead)
    (hbefore : before.reachedEnd = false) :
    ∃ processed rest after,
      readMessages fromUtf8Lossy pattern limit endSequence (es.map fun e => .ok (raw e)) before =
        .ok after ∧
      ReadSplit fromUtf8Lossy pattern endSequence raw es processed rest before after := by
  -- the reading stops behind the end, at the end, with a full batch, or when nothing is left
  induction es generalizing before with
  | nil =>
    refine ⟨[], [], before, rfl, ⟨rfl, by simp, by simp, by simp, ?_, fun _ => Or.inl rfl⟩⟩
    rw [hbefore]
    simp
  | cons e es ih =>
    obtain ⟨hlater, hes'⟩ := List.pairwise_cons.mp hes
    simp only [List.map_cons, readMessages, withContext_ok, hinfo e, bind, Except.bind]
    by_cases hpast : endSequence < e.sequence
    · rw [if_pos hpast]
      refine ⟨[], e :: es, _, rfl, ⟨rfl, by simp, by simp, by simp, fun _ => ⟨?_, ?_⟩, by simp⟩⟩
      · intro x hx
        rcases List.mem_cons.mp hx with rfl | hx
        · exact hpast
        · exact hpast.trans (hlater x hx)
      · exact ⟨e, List.mem_cons_self, hpast.le⟩
    · rw [if_neg hpast, process_raw fromUtf8Lossy hsubject hinfo]
      by_cases hend : e.sequence = endSequence
      · rw [if_pos hend]
        refine ⟨[e], es, _, rfl, ⟨rfl, rfl, rfl, ?_, fun _ => ⟨?_, ?_⟩, by simp⟩⟩
        · intro x hx
          rw [List.mem_singleton.mp hx]
          omega
        · intro x hx
          have := hlater x hx
          omega
        · exact ⟨e, List.mem_cons_self, hend.ge⟩
      · rw [if_neg hend]
        split_ifs with hfull
        · refine ⟨[e], es, _, rfl, ⟨rfl, rfl, rfl, ?_, ?_, by simp⟩⟩
          · intro x hx
            rw [List.mem_singleton.mp hx]
            omega
          · intro hreached
            rw [show before.reachedEnd = true from hreached] at hbefore
            cases hbefore
        · obtain ⟨processed, rest, after, hread, hsplit⟩ := ih hes'
            { before with
              lastProcessedSequence := some e.sequence
              filteredMessages := before.filteredMessages ++
                ([e].filter fun e => matchesWatchPattern e.topic pattern).map
                  (notificationOf fromUtf8Lossy raw) } hbefore
          refine ⟨e :: processed, rest, after, hread, ⟨?_, ?_, ?_, ?_, ?_, by simp⟩⟩
          · rw [hsplit.split]
            rfl
          · rw [hsplit.filtered, List.append_assoc, ← List.map_append, ← List.filter_append]
            rfl
          · rw [hsplit.last, List.getLast?_cons]
            cases processed.getLast? <;> rfl
          · intro x hx
            rcases List.mem_cons.mp hx with rfl | hx
            · omega
            · exact hsplit.bounded x hx
          · intro hreached
            obtain ⟨hrest, x, hx, hxend⟩ := hsplit.reached hreached
            exact ⟨hrest, x, List.mem_cons_of_mem e hx, hxend⟩

/-- The entries a JetStream replay of this pattern is about. -/
def Wanted (fromUtf8Lossy : List UInt8 → String) (raw : HistoryEntry → JetStreamMessage)
    (h : History) (pattern : List String) (endSequence : Nat) (m : NotificationMessage) : Prop :=
  ∃ e ∈ h.entries, m = notificationOf fromUtf8Lossy raw e ∧
    matchesWatchPattern e.topic pattern = true ∧ e.sequence ≤ endSequence

/-- The page a read makes of a fetch whose entries are a prefix of the selected ones. -/
theorem readPage_serves {S : NotificationMessage → Prop} {startAt : StartAt}
    {pattern : List String} {endSequence : Nat} {selected es processed rest : List HistoryEntry}
    {read : ReplayRead}
    (hselected : Paging.Increasing HistoryEntry.sequence selected) (hfixed : es <+: selected)
    (hnonempty : selected ≠ [] → es ≠ [])
    (hsplit : ReadSplit fromUtf8Lossy pattern endSequence raw es processed rest .initial read)
    (hsound : ∀ e ∈ selected, matchesWatchPattern e.topic pattern = true →
      e.sequence ≤ endSequence → S (notificationOf fromUtf8Lossy raw e) ∧
        startAt.admits (notificationOf fromUtf8Lossy raw e) = true)
    (hcomplete : ∀ m, S m → startAt.admits m = true → ∃ e ∈ selected,
      m = notificationOf fromUtf8Lossy raw e ∧ matchesWatchPattern e.topic pattern = true ∧
        e.sequence ≤ endSequence) :
    startScheme.Serves S startAt
      { items := read.filteredMessages
        more := !read.reachedEnd && read.lastProcessedSequence.any (· < endSequence)
        next := read.lastProcessedSequence.map (· + 1) } := by
  obtain ⟨unfetched, hunfetched⟩ := hfixed
  have hordered : Paging.Increasing HistoryEntry.sequence (processed ++ (rest ++ unfetched)) := by
    rw [← List.append_assoc, ← hsplit.split, hunfetched]
    exact hselected
  have hmem {e : HistoryEntry} (he : e ∈ processed) : e ∈ selected := by
    rw [← hunfetched, hsplit.split]
    exact List.mem_append_left _ (List.mem_append_left _ he)
  have hitems : read.filteredMessages =
      (processed.filter fun e => matchesWatchPattern e.topic pattern).map
        (notificationOf fromUtf8Lossy raw) := by
    rw [hsplit.filtered]
    rfl
  have hlast : read.lastProcessedSequence = processed.getLast?.map (·.sequence) := by
    rw [hsplit.last]
    cases processed.getLast? <;> rfl
  constructor
  · rw [hitems]
    have hprocessed := (List.pairwise_append.mp hordered).1
    exact List.pairwise_map.mpr (hprocessed.filter _)
  · intro m hm
    simp only [hitems] at hm
    obtain ⟨e, he, rfl⟩ := List.mem_map.mp hm
    obtain ⟨heproc, hematch⟩ := List.mem_filter.mp he
    exact hsound e (hmem heproc) hematch (hsplit.bounded e heproc)
  · intro n hn m hm
    simp only [hitems] at hm
    obtain ⟨e, he, rfl⟩ := List.mem_map.mp hm
    have heproc := (List.mem_filter.mp he).1
    simp only [hlast, Option.map_map, Option.map_eq_some_iff, Function.comp] at hn
    obtain ⟨top, htop, rfl⟩ := hn
    obtain ⟨front, rfl⟩ := List.getLast?_eq_some_iff.mp htop
    have hfront := (List.pairwise_append.mp (List.pairwise_append.mp hordered).1).2.2
    rcases List.mem_append.mp heproc with hfr | htp
    · have := hfront e hfr top (List.mem_singleton_self top)
      change e.sequence < top.sequence + 1
      omega
    · rw [List.mem_singleton.mp htp]
      exact Nat.lt_succ_self _
  · intro hnone
    simp only [hlast, Option.map_eq_none_iff, List.getLast?_eq_none_iff] at hnone
    rw [hitems, hnone]
    rfl
  · intro m hm ha
    obtain ⟨e, he, rfl, hematch, heend⟩ := hcomplete m hm ha
    rw [← hunfetched, hsplit.split, List.append_assoc, List.mem_append] at he
    rcases he with heproc | helater
    · left
      rw [hitems]
      exact List.mem_map_of_mem (List.mem_filter.mpr ⟨heproc, hematch⟩)
    -- the entry was fetched but not processed, or not fetched: the page announces it
    right
    have hopen : read.reachedEnd = false := by
      by_contra hreached
      obtain ⟨hrest, x, hx, hxend⟩ := hsplit.reached (by simpa using hreached)
      rcases List.mem_append.mp helater with her | heu
      · have := hrest e her
        omega
      · have hlt := (List.pairwise_append.mp (hunfetched ▸ hselected)).2.2 x hx e heu
        omega
    have hne : processed ≠ [] := by
      rcases hsplit.stopped hopen with hrest | hne
      · have hes : es ≠ [] := hnonempty (by
          rw [← hunfetched]
          exact List.append_ne_nil_of_right_ne_nil _ (by
            rw [hrest, List.nil_append] at helater
            exact List.ne_nil_of_mem helater))
        rw [hsplit.split, hrest, List.append_nil] at hes
        exact hes
      · exact hne
    obtain ⟨top, htop⟩ := List.getLast?_isSome.mpr hne |> Option.isSome_iff_exists.mp
    have hlt := (List.pairwise_append.mp hordered).2.2 top (List.mem_of_getLast? htop) e helater
    refine ⟨?_, top.sequence + 1, ?_, hlt⟩
    · simp only [hopen, hlast, htop, Option.map_some, Option.any_some, Bool.not_false,
        Bool.true_and, decide_eq_true_eq]
      omega
    · simp only [hlast, htop, Option.map_some]

theorem readPage_progress {startAt : StartAt} {pattern : List String} {endSequence : Nat}
    {selected es processed rest : List HistoryEntry} {read : ReplayRead} {more : Bool}
    (hfixed : es <+: selected)
    (hsplit : ReadSplit fromUtf8Lossy pattern endSequence raw es processed rest .initial read)
    {base : NotificationMessage → Prop}
    (hbase : ∀ e ∈ selected, base (notificationOf fromUtf8Lossy raw e) ∧
      startAt.admits (notificationOf fromUtf8Lossy raw e) = true) :
    startScheme.Progress base startAt
      { items := read.filteredMessages
        more := more
        next := read.lastProcessedSequence.map (· + 1) } := by
  intro n hn
  have hlast : read.lastProcessedSequence = processed.getLast?.map (·.sequence) := by
    rw [hsplit.last]
    cases processed.getLast? <;> rfl
  simp only [hlast, Option.map_map, Option.map_eq_some_iff, Function.comp] at hn
  obtain ⟨top, htop, rfl⟩ := hn
  have hes : top ∈ es := by
    rw [hsplit.split]
    exact List.mem_append_left _ (List.mem_of_getLast? htop)
  obtain ⟨hraw, ha⟩ := hbase top (hfixed.subset hes)
  exact ⟨_, hraw, ha, Nat.lt_succ_self _⟩

end Read

/-! ## 3. The batch of a JetStream replay -/

/-- Starts that JetStream can express: every sequence, and dates of 64-bit nanoseconds. -/
def Expressible (startAt : StartAt) : Prop :=
  ∀ d, startAt = .date d → -2 ^ 63 ≤ d ∧ d < 2 ^ 63

theorem expressible_closed : startScheme.Closed Expressible := by
  intro n d hd
  cases hd

theorem determineDeliverPolicy_expressible (startAt : StartAt) (h : Expressible startAt) :
    ∃ policy, determineDeliverPolicy startAt = .ok policy ∧
      ∀ (m : NotificationMessage) (e : HistoryEntry), m.sequence = e.sequence →
        m.timestamp = some e.timestamp → policy.satisfies e = startAt.admits m := by
  cases startAt with
  | liveOnly => exact ⟨.all, rfl, fun _ _ _ _ => rfl⟩
  | sequence n =>
    cases n with
    | zero => exact ⟨.all, rfl, fun m _ _ _ => by simp [DeliverPolicy.satisfies, StartAt.admits]⟩
    | succ n =>
      refine ⟨.byStartSequence (n + 1), rfl, fun m e hseq _ => ?_⟩
      simp only [DeliverPolicy.satisfies, StartAt.admits, hseq]
  | date d =>
    refine ⟨.byStartTime d, ?_, fun m e _ hts => ?_⟩
    · simp only [determineDeliverPolicy, jetstreamStartTime, if_pos (h d rfl)]
    · simp only [DeliverPolicy.satisfies, StartAt.admits, hts, Option.any_some]

theorem emptyPage_serves (S : NotificationMessage → Prop) (startAt : StartAt)
    (hnone : ∀ m, S m → startAt.admits m = true → False) :
    startScheme.Serves S startAt BatchResult.empty.page where
  increasing := List.Pairwise.nil
  sound := by intro m hm; cases hm
  passed := by intro n hn; cases hn
  announced := fun _ => rfl
  complete := fun m hm ha => (hnone m hm ha).elim

section Batch

variable (fromUtf8Lossy : List UInt8 → String) {raw : HistoryEntry → JetStreamMessage}
  {server : JetStreamServer} {h : History} {watchBase : String} {tokens : List String}

/-- An entry whose topic matches the pattern is on the pattern's stream and passes the coarse
filter. -/
theorem mem_selected_of_matches (hwatch : isTopicBase watchBase = true)
    {fixed : List String} (hfixed : CoarsePattern watchBase tokens fixed) {policy : DeliverPolicy} {e : HistoryEntry} (he : e ∈ h.entries)
    (hmatch : matchesWatchPattern e.topic (watchBase :: tokens) = true)
    (hpolicy : policy.satisfies e = true) :
    e ∈ h.selected (toAsciiUppercase watchBase)
      (encodeSubject (watchBase :: fixed) ++ ".>") policy := by
  obtain ⟨parts, hparts, htopic⟩ := h.topics e he
  rw [htopic, matchesWatchPattern_encodeSubject _ _ (by simp)] at hmatch
  have hforall := (partsMatch_iff_forall₂ _ _).mp hmatch
  have hbase : watchBase = h.base :=
    (List.forall₂_cons.mp hforall).1.resolve_left (isTopicBase_ne_wildcard watchBase hwatch)
  rw [History.selected, History.onStream, hbase, if_pos rfl, List.mem_filter]
  refine ⟨he, ?_⟩
  rw [hpolicy, Bool.true_and, htopic]
  rw [hbase] at hfixed hmatch
  exact matchesTokens_of_partsMatch _ _ _ hfixed.initial (Nat.succ_lt_succ hfixed.shorter)
    (List.cons_ne_nil _ _) hfixed.plain hmatch

/-- One batch serves the entries the replay wants, resumes past an entry it was offered, and says
where to resume whenever it announces more. -/
theorem jetstreamGetMessagesBatch_serves (hserver : server.Keeps h raw) (call : Nat)
    (params : BatchParams) (hwatch : isTopicBase watchBase = true) (htokens : tokens ≠ [])
    (htopic : params.topic = encodeSubject (watchBase :: tokens)) (hlimit : 0 < params.limit)
    (hstart : Expressible params.startAt) :
    ∃ batch, jetstreamGetMessagesBatch fromUtf8Lossy server call params = .ok batch ∧
      startScheme.Serves (Wanted fromUtf8Lossy raw h (watchBase :: tokens) params.endSequence)
        params.startAt batch.page ∧
      startScheme.Progress (· ∈ h.entries.map (notificationOf fromUtf8Lossy raw)) params.startAt
        batch.page ∧
      Paging.Scheme.Announces batch.page := by
  obtain ⟨fixed, hfixed⟩ := exists_coarsePattern watchBase tokens hwatch htokens
  obtain ⟨state, hstate, hmessages, hlastSeq⟩ :=
    hserver.streamInfo call (toAsciiUppercase watchBase)
  obtain ⟨policy, hpolicy, hsatisfies⟩ := determineDeliverPolicy_expressible params.startAt hstart
  have hsat (e : HistoryEntry) := hsatisfies (notificationOf fromUtf8Lossy raw e) e rfl rfl
  -- what is wanted and admitted is selected, and lies at or before the end of the stream
  have hwanted (m : NotificationMessage)
      (hm : Wanted fromUtf8Lossy raw h (watchBase :: tokens) params.endSequence m)
      (ha : params.startAt.admits m = true) :
      ∃ e ∈ h.selected (toAsciiUppercase watchBase)
          (encodeSubject (watchBase :: fixed) ++ ".>") policy,
        m = notificationOf fromUtf8Lossy raw e ∧
          matchesWatchPattern e.topic (watchBase :: tokens) = true ∧
          e.sequence ≤ min params.endSequence state.lastSequence := by
    obtain ⟨e, he, rfl, hmatch, hend⟩ := hm
    have hsel := mem_selected_of_matches hwatch hfixed he hmatch ((hsat e).trans ha)
    have hstream := (List.mem_filter.mp hsel).1
    exact ⟨e, hsel, rfl, hmatch, le_min hend (hlastSeq e hstream)⟩
  have hentry {e : HistoryEntry} {name filterSubject : String}
      (he : e ∈ h.selected name filterSubject policy) : e ∈ h.onStream name ∧ e ∈ h.entries ∧
        params.startAt.admits (notificationOf fromUtf8Lossy raw e) = true := by
    obtain ⟨hstream, hpass⟩ := List.mem_filter.mp he
    simp only [Bool.and_eq_true] at hpass
    exact ⟨hstream, onStream_subset hstream, (hsat e).symm.trans hpass.1⟩
  simp only [jetstreamGetMessagesBatch, htopic, hfixed.analyzed, withContext_ok,
    hserver.ensureStreamForTopic, hfixed.streamName, hserver.getStream, hstate, hpolicy, hserver.createConsumer, bind, Except.bind]
  split_ifs with hempty
  · refine ⟨_, rfl, emptyPage_serves _ _ fun m hm ha => ?_, ?_, ?_⟩
    · obtain ⟨e, he, rfl, -, hend⟩ := hwanted m hm ha
      obtain ⟨hstream, hmem, -⟩ := hentry he
      rcases hempty with hzero | hzero | hafter
      · rw [hmessages, List.length_eq_zero_iff] at hzero
        rw [hzero] at hstream
        cases hstream
      · have := h.positive e hmem
        omega
      · cases hstartAt : params.startAt with
        | liveOnly => simp [hstartAt, startsAfter] at hafter
        | date d => simp [hstartAt, startsAfter] at hafter
        | sequence n =>
          simp only [hstartAt, startsAfter, decide_eq_true_eq] at hafter
          simp only [hstartAt, StartAt.admits, notificationOf, decide_eq_true_eq] at ha
          omega
    · intro n hn
      cases hn
    · intro hmore
      cases hmore
  · obtain ⟨es, hfetch, hes, -, hnonempty⟩ := hserver.fetch call (toAsciiUppercase watchBase)
      (encodeSubject (watchBase :: fixed) ++ ".>") policy params.limit
    have hselected := selected_increasing h (toAsciiUppercase watchBase)
      (encodeSubject (watchBase :: fixed) ++ ".>") policy
    obtain ⟨processed, rest, read, hread, hsplit⟩ := readMessages_split fromUtf8Lossy
      hserver.subject hserver.info (watchBase :: tokens) params.limit
      (min params.endSequence state.lastSequence) es (hselected.sublist hes.sublist) .initial rfl
    simp only [hfetch, withContext_ok, readReplayBatch, hread, bind, Except.bind]
    refine ⟨_, rfl, ?_, ?_, ?_⟩
    · refine readPage_serves fromUtf8Lossy hselected hes (hnonempty hlimit) hsplit ?_ hwanted
      intro e he hmatch hend
      obtain ⟨-, hmem, ha⟩ := hentry he
      exact ⟨⟨e, hmem, rfl, hmatch, hend.trans (min_le_left _ _)⟩, ha⟩
    · refine readPage_progress fromUtf8Lossy hes hsplit fun e he => ?_
      obtain ⟨-, hmem, ha⟩ := hentry he
      exact ⟨List.mem_map_of_mem hmem, ha⟩
    · intro hmore
      simp only [BatchResult.page, Bool.and_eq_true] at hmore ⊢
      rw [Option.isSome_map]
      exact Option.isSome_of_any hmore.2

end Batch

/-! ## 4. Agreement -/

theorem admits_of_coordinates (startAt : StartAt) (x y : NotificationMessage)
    (h : x.coordinates = y.coordinates) : startAt.admits x = startAt.admits y := by
  simp only [NotificationMessage.coordinates, Prod.mk.injEq] at h
  cases startAt <;> simp only [StartAt.admits, h]

/-- The JetStream loop ends, and delivers the wanted entries in sequence order. -/
theorem collectBatches_jetstream (fromUtf8Lossy : List UInt8 → String) (h : History)
    (server : JetStreamServer) (raw : HistoryEntry → JetStreamMessage) (hserver : server.Keeps h raw)
    (watchBase : String) (tokens : List String) (hwatch : isTopicBase watchBase = true)
    (htokens : tokens ≠ []) (startAt : StartAt) (hstart : Expressible startAt)
    (endSequence batchSize : Nat) (hsize : 0 < batchSize) :
    ∃ out, (∃ fuel, ∀ extra, collectBatches (jetstreamGetMessagesBatch fromUtf8Lossy server)
        (fuel + extra) 0
        { params := replayParams (encodeSubject (watchBase :: tokens)) batchSize startAt endSequence
          hasMore := true } [] = some (.ok out)) ∧
      Paging.Increasing startScheme.key out ∧
      ∀ m, m ∈ out ↔ Wanted fromUtf8Lossy raw h (watchBase :: tokens) endSequence m ∧
        startAt.admits m = true := by
  have : Nonempty BatchResult := ⟨BatchResult.empty⟩
  have hbatch (call : Nat) (c : StartAt) (hc : Expressible c) :=
    jetstreamGetMessagesBatch_serves fromUtf8Lossy hserver call
      { topic := encodeSubject (watchBase :: tokens), startAt := c, limit := batchSize,
        endSequence := endSequence } hwatch htokens rfl hsize hc
  -- one answer for every call and cursor: with it the loop is the reader of the paging scheme
  choose! answer hanswer hserves hprog hann using hbatch
  have hserve (call : Nat) (c : StartAt) (hc : Expressible c) : startScheme.Serves
      (Wanted fromUtf8Lossy raw h (watchBase :: tokens) endSequence) c (answer call c).page :=
    hserves call c hc
  have hwanted (m : NotificationMessage)
      (hm : Wanted fromUtf8Lossy raw h (watchBase :: tokens) endSequence m) :
      m ∈ h.entries.map (notificationOf fromUtf8Lossy raw) := by
    obtain ⟨e, he, rfl, -⟩ := hm
    exact List.mem_map_of_mem he
  have hraw (m : NotificationMessage)
      (hm : m ∈ h.entries.map (notificationOf fromUtf8Lossy raw)) : m.timestamp.isSome = true := by
    obtain ⟨e, -, rfl⟩ := List.mem_map.mp hm
    rfl
  have hmono : TimestampsMonotone (· ∈ h.entries.map (notificationOf fromUtf8Lossy raw)) := by
    intro x y hx hy hxy tx ty htx hty
    obtain ⟨e, he, rfl⟩ := List.mem_map.mp hx
    obtain ⟨e', he', rfl⟩ := List.mem_map.mp hy
    cases htx
    cases hty
    exact h.monotone e he e' he' hxy
  obtain ⟨out, hout⟩ := Option.isSome_iff_exists.mp
    (startScheme.follow_terminates (fun i c => (answer i c).page) expressible_closed
      (h.entries.map (notificationOf fromUtf8Lossy raw)) hann hprog 0
      (Paging.Reader.start startAt) hstart)
  have hspec := startScheme.follow_spec expressible_closed hserve hprog hwanted
    (startAt_upwardClosed _ hraw startAt fun _ _ => hmono) _ _ _ hstart out
    startScheme.exact_start hout
  refine ⟨out, ⟨(h.entries.map (notificationOf fromUtf8Lossy raw)).length + 2, fun extra => ?_⟩,
    hspec.1, hspec.2⟩
  rw [replayParams_eq, collectBatches_eq_follow _ answer
    { topic := encodeSubject (watchBase :: tokens), startAt := startAt, limit := batchSize,
      endSequence := endSequence } expressible_closed hanswer _ _ _ _ rfl hstart]
  exact congrArg (Option.map Except.ok) (startScheme.follow_mono _ _ extra _ _ _ hout)

/-- Over one history, the JetStream loop ends and delivers the same message sequence as the loop
over an in-memory store that holds the history, for every pattern, start, end and batch sizes. -/
theorem replay_backends_agree (fromUtf8Lossy : List UInt8 → String) (h : History)
    (server : JetStreamServer) (raw : HistoryEntry → JetStreamMessage) (hserver : server.Keeps h raw)
    (state : BackendState) (hvalid : state.Valid)
    (hstored : (state.stored.map NotificationMessage.coordinates).Perm
      (h.entries.map HistoryEntry.coordinates))
    (watchBase : String) (tokens : List String) (hwatch : isTopicBase watchBase = true)
    (htokens : tokens ≠ []) (startAt : StartAt) (hstart : Expressible startAt)
    (endSequence jetstreamSize inMemorySize : Nat) (hjetstream : 0 < jetstreamSize)
    (hinMemory : 0 < inMemorySize) :
    ∃ jetstreamOut inMemoryOut,
      (∃ fuel, ∀ extra, collectBatches (jetstreamGetMessagesBatch fromUtf8Lossy server)
        (fuel + extra) 0
        { params := replayParams (encodeSubject (watchBase :: tokens)) jetstreamSize startAt
            endSequence
          hasMore := true } [] = some (.ok jetstreamOut)) ∧
      (∃ fuel, ∀ extra, collectBatches (fun _ => getMessagesBatch state) (fuel + extra) 0
        { params := replayParams (encodeSubject (watchBase :: tokens)) inMemorySize startAt
            endSequence
          hasMore := true } [] = some (.ok inMemoryOut)) ∧
      jetstreamOut.map NotificationMessage.coordinates =
        inMemoryOut.map NotificationMessage.coordinates := by
  obtain ⟨out, hout, hincreasing, hmem⟩ := collectBatches_jetstream fromUtf8Lossy h server raw
    hserver watchBase tokens hwatch htokens startAt hstart endSequence jetstreamSize hjetstream
  have hentry {m : NotificationMessage} (hm : m ∈ state.stored) :
      ∃ e ∈ h.entries, e.coordinates = m.coordinates :=
    List.mem_map.mp (hstored.subset (List.mem_map_of_mem hm))
  -- the store holds the history, so its timestamps are in order where those of the history are
  have hmono : TimestampsMonotone (· ∈ state.stored) := by
    intro x y hx hy hxy tx ty htx hty
    obtain ⟨e, he, hex⟩ := hentry hx
    obtain ⟨e', he', hey⟩ := hentry hy
    simp only [HistoryEntry.coordinates, NotificationMessage.coordinates, Prod.mk.injEq, htx,
      hty, Option.some.injEq] at hex hey
    obtain ⟨hxseq, -, rfl⟩ := hex
    obtain ⟨hyseq, -, rfl⟩ := hey
    exact h.monotone e he e' he' (hxseq.trans_le (hxy.trans_eq hyseq.symm))
  refine ⟨out, replaySelection state (watchBase :: tokens) startAt endSequence, hout,
    ⟨state.stored.length + 2, collectBatches_eq_replaySelection state hvalid _ _ _
      (analyzeWatchPattern_encodeSubject (watchBase :: tokens) (by simp)) startAt endSequence
      inMemorySize hinMemory fun _ _ => hmono⟩, ?_⟩
  have hjs : Paging.Increasing Prod.fst (out.map NotificationMessage.coordinates) :=
    List.pairwise_map.mpr hincreasing
  have hmem' : Paging.Increasing Prod.fst
      ((replaySelection state (watchBase :: tokens) startAt endSequence).map
        NotificationMessage.coordinates) :=
    List.pairwise_map.mpr (replaySelection_increasing state hvalid _ _ _)
  -- both outputs are sorted by sequence, so it is enough that they have the same messages
  refine hjs.eq_of_mem_iff hmem' fun c => ?_
  simp only [List.mem_map, hmem, mem_replaySelection]
  constructor
  · rintro ⟨m, ⟨⟨e, he, rfl, hmatch, hend⟩, ha⟩, rfl⟩
    obtain ⟨m, hm, hcoord⟩ := List.mem_map.mp (hstored.symm.subset (List.mem_map_of_mem he))
    have hseq : m.sequence = e.sequence := congrArg (·.1) hcoord
    have htopic : m.topic = e.topic := congrArg (·.2.1) hcoord
    have hadmits := admits_of_coordinates startAt m (notificationOf fromUtf8Lossy raw e) hcoord
    exact ⟨m, ⟨⟨hm, by rwa [htopic], by rwa [hseq]⟩, hadmits.trans ha⟩, hcoord⟩
  · rintro ⟨m, ⟨⟨hm, hmatch, hend⟩, ha⟩, rfl⟩
    obtain ⟨e, he, hcoord⟩ := hentry hm
    have hseq : e.sequence = m.sequence := congrArg (·.1) hcoord
    have htopic : e.topic = m.topic := congrArg (·.2.1) hcoord
    have hadmits := admits_of_coordinates startAt (notificationOf fromUtf8Lossy raw e) m hcoord
    exact ⟨notificationOf fromUtf8Lossy raw e,
      ⟨⟨e, he, rfl, by rwa [htopic], by rwa [hseq]⟩, hadmits.trans ha⟩, hcoord⟩

/-- A server that answers every fetch with as many selected entries as it may. -/
def exactServer (h : History) (raw : HistoryEntry → JetStreamMessage) : JetStreamServer where
  ensureStreamForTopic _ _ := .ok ()
  getStream _ _ := .ok ()
  streamInfo _ name := .ok
    { messages := (h.onStream name).length
      lastSequence := ((h.onStream name).map (·.sequence)).max?.getD 0 }
  createConsumer _ _ _ _ := .ok ()
  fetch _ name filterSubject policy max :=
    .ok (((h.selected name filterSubject policy).take max).map fun e => .ok (raw e))

theorem exactServer_keeps (h : History) (raw : HistoryEntry → JetStreamMessage)
    (hsubject : ∀ e, (raw e).subject = e.topic)
    (hinfo : ∀ e, (raw e).info = .ok { streamSequence := e.sequence, published := e.timestamp }) :
    (exactServer h raw).Keeps h raw where
  subject := hsubject
  info := hinfo
  ensureStreamForTopic _ _ := rfl
  getStream _ _ := rfl
  streamInfo _ name := by
    refine ⟨_, rfl, rfl, fun e he => ?_⟩
    have hmem : e.sequence ∈ (h.onStream name).map (·.sequence) := List.mem_map_of_mem he
    obtain ⟨top, htop⟩ := Option.isSome_iff_exists.mp
      (List.isSome_max?_iff.mpr (List.ne_nil_of_mem hmem))
    simpa [htop] using (List.max?_eq_some_iff.mp htop).2 _ hmem
  createConsumer _ _ _ _ := rfl
  fetch _ name filterSubject policy max := by
    refine ⟨_, rfl, List.take_prefix _ _, by rw [List.length_take]; omega, fun hmax hne => ?_⟩
    rw [Ne, List.take_eq_nil_iff]
    rintro (h | h)
    · omega
    · exact hne h

/-- The messages of `twoTopics`, as a history. -/
def twoTopicsHistory : History where
  base := "mars"
  entries := [⟨1, "mars.od", 5⟩, ⟨2, "mars.rd", 7⟩]
  validBase := by decide +kernel
  topics := by
    intro e he
    simp only [List.mem_cons, List.not_mem_nil, or_false] at he
    rcases he with rfl | rfl
    · exact ⟨["od"], by simp, by decide +kernel⟩
    · exact ⟨["rd"], by simp, by decide +kernel⟩
  increasing := by simp [Paging.Increasing]
  positive := by decide
  monotone := by decide

def plainMessage (e : HistoryEntry) : JetStreamMessage where
  subject := e.topic
  payload := asBytes "null"
  headers := none
  info := .ok { streamSequence := e.sequence, published := e.timestamp }

theorem replay_backends_agree_twoTopics :
    ∃ jetstreamOut inMemoryOut,
      (∃ fuel, ∀ extra, collectBatches
        (jetstreamGetMessagesBatch (fun bytes => (fromUtf8 bytes).getD "")
          (exactServer twoTopicsHistory plainMessage)) (fuel + extra) 0
        { params := replayParams (encodeSubject ["mars", "od"]) 1 (.date 5) 10, hasMore := true }
        [] = some (.ok jetstreamOut)) ∧
      (∃ fuel, ∀ extra, collectBatches (fun _ => getMessagesBatch twoTopics) (fuel + extra) 0
        { params := replayParams (encodeSubject ["mars", "od"]) 2 (.date 5) 10, hasMore := true }
        [] = some (.ok inMemoryOut)) ∧
      jetstreamOut.map NotificationMessage.coordinates =
        inMemoryOut.map NotificationMessage.coordinates :=
  replay_backends_agree _ twoTopicsHistory _ plainMessage
    (exactServer_keeps twoTopicsHistory plainMessage (fun _ => rfl) fun _ => rfl) twoTopics
    (reachable_valid twoTopics_reachable) (by decide +kernel) "mars" ["od"] (by decide +kernel)
    (by simp) (.date 5) (fun d hd => by cases hd; decide) 10 1 2 (by decide) (by decide)

end AvisoServer
