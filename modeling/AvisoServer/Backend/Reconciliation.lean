import AvisoServer.Backend.JetStreamStreams
import AvisoServer.Lib.Reconcile

/-!
# Reconciliation of streams

The configuration of an existing stream is brought to the desired one before every publish. Once
it is there, the next publish finds nothing to change, also after the server has written out the
values that were left to it.
-/

namespace AvisoServer

/-! ## 1. The fields as rules -/

def ReconciledField.rule (field : ReconciledField) : Reconcile.Rule StreamConfig String where
  label := field.name
  drifted := field.drifted
  set := field.set

def reconciledRules (desired : StreamConfig) : List (Reconcile.Rule StreamConfig String) :=
  (reconciledFields desired).map ReconciledField.rule

theorem foldl_apply (fields : List ReconciledField) (state : StreamConfig × List String) :
    fields.foldl ReconciledField.apply state =
      ((Reconcile.pass (fields.map ReconciledField.rule) state.1).1,
        state.2 ++ (Reconcile.pass (fields.map ReconciledField.rule) state.1).2) := by
  induction fields generalizing state with
  | nil =>
    show state = (state.1, state.2 ++ [])
    rw [List.append_nil]
  | cons field fields ih =>
    rw [List.foldl_cons, ih, List.map_cons]
    unfold ReconciledField.apply
    cases hdrift : field.drifted state.1 with
    | true =>
      rw [Reconcile.pass_cons_drifted (show field.rule.drifted state.1 = true from hdrift)]
      simp [ReconciledField.rule]
    | false =>
      rw [Reconcile.pass_cons_same (show field.rule.drifted state.1 = false from hdrift)]
      simp

theorem mergedReconciledConfig_eq_pass (current desired : StreamConfig) :
    mergedReconciledConfig current desired =
      Reconcile.pass (reconciledRules desired) current := by
  unfold mergedReconciledConfig
  rw [foldl_apply]
  rfl

/-- Each field owns one setting; the clamp of the window reads the age, which is set before it. -/
theorem reconciledRules_orderly (desired : StreamConfig) :
    Reconcile.Orderly (reconciledRules desired) where
  content := by
    simp [reconciledRules, reconciledFields, ReconciledField.rule]
  undisturbed := by
    simp [reconciledRules, reconciledFields, ReconciledField.rule]

/-- A setting that no field owns is as it was. -/
theorem mergedReconciledConfig_keeps {β : Type} (setting : StreamConfig → β)
    {current desired : StreamConfig}
    (hkeep : ∀ field ∈ reconciledFields desired, ∀ config,
      setting (field.set config) = setting config) :
    setting (mergedReconciledConfig current desired).1 = setting current := by
  rw [mergedReconciledConfig_eq_pass]
  apply Reconcile.pass_keeps
  intro rule hrule
  obtain ⟨field, hfield, rfl⟩ := List.mem_map.mp hrule
  exact hkeep field hfield

/-- The settings that no field owns. -/
theorem mergedReconciledConfig_settings (current desired : StreamConfig) :
    (mergedReconciledConfig current desired).1.name = current.name ∧
      (mergedReconciledConfig current desired).1.storage = current.storage ∧
      (mergedReconciledConfig current desired).1.otherSettings = current.otherSettings :=
  ⟨mergedReconciledConfig_keeps StreamConfig.name (by simp [reconciledFields]),
    mergedReconciledConfig_keeps StreamConfig.storage (by simp [reconciledFields]),
    mergedReconciledConfig_keeps StreamConfig.otherSettings (by simp [reconciledFields])⟩

/-- Where no change is noted, nothing changed. -/
theorem mergedReconciledConfig_unchanged (current desired : StreamConfig)
    (h : (mergedReconciledConfig current desired).2 = []) :
    (mergedReconciledConfig current desired).1 = current := by
  rw [mergedReconciledConfig_eq_pass] at h ⊢
  exact Reconcile.pass_eq_of_unnoted h

/-! ## 2. The merged configuration -/

/-- What the server writes for the values that were left to it. -/
def StreamConfig.natsNormalised (config : StreamConfig) : StreamConfig :=
  { config with
    maxMessages := unlimited config.maxMessages
    maxBytes := unlimited config.maxBytes
    maxMessagesPerSubject := unlimited config.maxMessagesPerSubject
    numReplicas := max config.numReplicas 1
    compression := some (config.compression.getD Compression.none) }

theorem unlimited_idem (value : Int) : unlimited (unlimited value) = unlimited value := by
  unfold unlimited
  by_cases hzero : value = 0
  · rw [if_pos hzero]
    rfl
  · rw [if_neg hzero, if_neg hzero]

/-- The settings that the server code owns are those of another configuration, as the server
writes them. -/
structure OwnedAlike (config desired : StreamConfig) : Prop where
  subjects : config.subjects = desired.subjects
  maxMessages : unlimited config.maxMessages = unlimited desired.maxMessages
  maxBytes : unlimited config.maxBytes = unlimited desired.maxBytes
  maxAge : config.maxAge = desired.maxAge
  maxMessagesPerSubject :
    unlimited config.maxMessagesPerSubject = unlimited desired.maxMessagesPerSubject
  numReplicas : max config.numReplicas 1 = max desired.numReplicas 1
  compression : config.compression.getD Compression.none =
    desired.compression.getD Compression.none
  discard : config.discard = desired.discard
  retention : config.retention = desired.retention

/-- Nothing has drifted where the owned settings are alike and the window fits the age. -/
theorem settled_iff {config desired : StreamConfig} :
    Reconcile.Settled (reconciledRules desired) config ↔
      OwnedAlike config desired ∧
        (config.maxAge ≠ 0 → config.duplicateWindow ≤ config.maxAge) := by
  unfold Reconcile.Settled reconciledRules reconciledFields
  simp only [List.map_cons, List.map_nil, List.forall_mem_cons, ReconciledField.rule,
    decide_eq_false_iff_not, not_not, Bool.and_eq_false_iff]
  constructor
  · rintro ⟨h1, h2, h3, h4, h5, h6, h7, h8, h9, h10, -⟩
    exact ⟨⟨h1, h2, h3, h4, h6, h7, h8, h9, h10⟩, by omega⟩
  · rintro ⟨h, hwindow⟩
    exact ⟨h.subjects, h.maxMessages, h.maxBytes, h.maxAge, by omega, h.maxMessagesPerSubject,
      h.numReplicas, h.compression, h.discard, h.retention, by simp⟩

theorem settled_natsNormalised {config desired : StreamConfig}
    (h : Reconcile.Settled (reconciledRules desired) config)
    (otherSettings : List (String × String)) :
    Reconcile.Settled (reconciledRules desired)
      { config.natsNormalised with otherSettings := otherSettings } := by
  obtain ⟨halike, hwindow⟩ := settled_iff.mp h
  refine settled_iff.mpr ⟨?_, hwindow⟩
  exact
    { subjects := halike.subjects
      maxMessages := (unlimited_idem _).trans halike.maxMessages
      maxBytes := (unlimited_idem _).trans halike.maxBytes
      maxAge := halike.maxAge
      maxMessagesPerSubject := (unlimited_idem _).trans halike.maxMessagesPerSubject
      numReplicas := by
        show max (max config.numReplicas 1) 1 = max desired.numReplicas 1
        have h := halike.numReplicas
        omega
      compression := halike.compression
      discard := halike.discard
      retention := halike.retention }

theorem settled_merged (current desired : StreamConfig) :
    Reconcile.Settled (reconciledRules desired) (mergedReconciledConfig current desired).1 := by
  rw [mergedReconciledConfig_eq_pass]
  exact Reconcile.settled_pass (reconciledRules_orderly desired) current

theorem mergedReconciledConfig_of_settled {config desired : StreamConfig}
    (h : Reconcile.Settled (reconciledRules desired) config) :
    mergedReconciledConfig config desired = (config, []) := by
  rw [mergedReconciledConfig_eq_pass]
  exact Reconcile.pass_of_settled h

/-- The rule of the window. -/
def windowRule : Reconcile.Rule StreamConfig String where
  label := "duplicate_window"
  drifted := fun merged => merged.maxAge ≠ 0 && merged.maxAge < merged.duplicateWindow
  set := fun merged => { merged with duplicateWindow := merged.maxAge }

theorem windowRule_drifted {config : StreamConfig} :
    windowRule.drifted config = true ↔
      config.maxAge ≠ 0 ∧ config.maxAge < config.duplicateWindow := by
  simp [windowRule]

/-- The window is cut to a finite age, and otherwise left alone. -/
theorem mergedReconciledConfig_duplicateWindow (current desired : StreamConfig) :
    (mergedReconciledConfig current desired).1.duplicateWindow =
      if desired.maxAge ≠ 0 ∧ desired.maxAge < current.duplicateWindow then desired.maxAge
      else current.duplicateWindow := by
  have hmerged := (settled_iff.mp (settled_merged current desired)).1.maxAge
  rw [mergedReconciledConfig_eq_pass] at hmerged ⊢
  -- the rules before the one of the window, and the rest
  have hsplit : reconciledRules desired =
      (reconciledRules desired).take 4 ++ (reconciledRules desired).drop 4 :=
    (List.take_append_drop 4 _).symm
  rw [hsplit, Reconcile.pass_append] at hmerged ⊢
  generalize hearly : (Reconcile.pass ((reconciledRules desired).take 4) current).1 = early
    at hmerged ⊢
  have hwindow : early.duplicateWindow = current.duplicateWindow := by
    rw [← hearly]
    apply Reconcile.pass_keeps StreamConfig.duplicateWindow
    simp [reconciledRules, reconciledFields, ReconciledField.rule]
  have hage : early.maxAge = desired.maxAge := by
    rw [← hmerged]
    symm
    apply Reconcile.pass_keeps StreamConfig.maxAge
    simp [reconciledRules, reconciledFields, ReconciledField.rule]
  have hlate : ∀ config, (Reconcile.pass ((reconciledRules desired).drop 5)
      config).1.duplicateWindow = config.duplicateWindow := by
    apply Reconcile.pass_keeps StreamConfig.duplicateWindow
    simp [reconciledRules, reconciledFields, ReconciledField.rule]
  have hdrop : (reconciledRules desired).drop 4 =
      windowRule :: (reconciledRules desired).drop 5 := rfl
  rw [hdrop]
  by_cases hdrift : early.maxAge ≠ 0 ∧ early.maxAge < early.duplicateWindow
  · rw [Reconcile.pass_cons_drifted (windowRule_drifted.mpr hdrift), hlate]
    rw [hage, hwindow] at hdrift
    rw [if_pos hdrift]
    exact hage
  · rw [Reconcile.pass_cons_same
      (Bool.eq_false_iff.mpr fun h => hdrift (windowRule_drifted.mp h)), hlate]
    rw [hage, hwindow] at hdrift
    rw [if_neg hdrift]
    exact hwindow

/-- A stream that was brought up to date is left alone by the next call, whatever the server would
answer to an update. -/
theorem reconcileExistingStreamConfig_settled (debugStrings : List String → String)
    (server : NatsServer) (calls : EnsureCalls) {current desired : StreamConfig}
    (hstorage : current.storage = desired.storage)
    (hsettled : Reconcile.Settled (reconciledRules desired) current) :
    reconcileExistingStreamConfig debugStrings server calls current desired =
      (server, .ok desired.name) := by
  unfold reconcileExistingStreamConfig
  rw [if_neg (not_not.mpr hstorage), mergedReconciledConfig_of_settled hsettled]
  rfl

/-- What one reconciliation of an existing stream achieves. -/
structure Reconciles (current desired : StreamConfig) (merged : StreamConfig × List String) :
    Prop where
  /-- The next reconciliation finds nothing to change, -/
  stable : (mergedReconciledConfig merged.1 desired).2 = []
  /-- also after the server has written out what was left to it. -/
  stableNormalised : ∀ otherSettings,
    (mergedReconciledConfig { merged.1.natsNormalised with otherSettings := otherSettings }
      desired).2 = []
  unchanged : merged.2 = [] ↔ merged.1 = current
  name : merged.1.name = current.name
  storage : merged.1.storage = current.storage
  otherSettings : merged.1.otherSettings = current.otherSettings
  owned : OwnedAlike merged.1 desired
  window : merged.1.maxAge ≠ 0 → merged.1.duplicateWindow ≤ merged.1.maxAge
  windowKept : merged.1.duplicateWindow =
    if merged.1.maxAge ≠ 0 ∧ merged.1.maxAge < current.duplicateWindow then merged.1.maxAge
    else current.duplicateWindow

theorem mergedReconciledConfig_reconciles (current desired : StreamConfig) :
    Reconciles current desired (mergedReconciledConfig current desired) := by
  have hsettled := settled_merged current desired
  obtain ⟨halike, hwindow⟩ := settled_iff.mp hsettled
  obtain ⟨hname, hstorage, hother⟩ := mergedReconciledConfig_settings current desired
  exact
    { stable := by rw [mergedReconciledConfig_of_settled hsettled]
      stableNormalised := fun otherSettings => by
        rw [mergedReconciledConfig_of_settled (settled_natsNormalised hsettled otherSettings)]
      unchanged := by
        rw [mergedReconciledConfig_eq_pass]
        exact Reconcile.unnoted_iff_unchanged (reconciledRules_orderly desired) current
      name := hname
      storage := hstorage
      otherSettings := hother
      owned := halike
      window := hwindow
      windowKept := by
        rw [halike.maxAge]
        exact mergedReconciledConfig_duplicateWindow current desired }

end AvisoServer
