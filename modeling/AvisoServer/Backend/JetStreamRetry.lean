import AvisoServer.Backend.JetStreamStreams
import AvisoServer.Lib.Retry
import Mathlib.Data.List.Infix

/-!
# Retries of JetStream calls

A publish is retried when the channel to the server closed, with a delay that doubles; a
subscription is retried after any failure, with a delay that grows by the base delay. The delays
are computed from the configured base in 64 bits.
-/

namespace AvisoServer

/-! ## 1. Arithmetic of 64 bits -/

/-- `1u64 << amount`, where the amount is in range. -/
def shiftOne (amount : Nat) : Option Nat :=
  if amount < 64 then some (2 ^ amount) else none

/-- `*` on `u64`, where the product is in range. -/
def mulU64 (a b : Nat) : Option Nat :=
  if a * b < 2 ^ 64 then some (a * b) else none

/-- `u64::saturating_mul`. -/
def saturatingMul (a b : Nat) : Nat :=
  min (a * b) (2 ^ 64 - 1)

/-! ## 2. Publishing -/

def isChannelClosedError (error : Error) : Bool :=
  error.chain.any fun cause =>
    decide ("channel closed".toList <:+: (toAsciiLowercase cause).toList)

section Calls

variable (config : JetStreamConfig)

def publishBackoffMs (attempt : Nat) : Option Nat :=
  (shiftOne (attempt - 1)).map (saturatingMul config.publishRetryBaseDelayMs.toNat)

/-- What each attempt to publish returns is given by its number. -/
def publishWithRetry (publishOnce : Nat → Result Unit) : Retry.Run Error Unit :=
  let maxAttempts := config.publishRetryAttempts.toNat
  let retried := Retry.run
    (fun attempt error => attempt < maxAttempts && isChannelClosedError error)
    (publishBackoffMs config) publishOnce maxAttempts 1
  { retried with
    ending := retried.ending.orReturn
      (bail "publish_with_retry exhausted attempts without success or terminal error") }

/-! ## 3. Subscribing -/

/-- Five attempts where nothing is set, and one for an explicit zero. -/
def maxSubscribeAttempts : Nat :=
  max (config.maxReconnectAttempts.getD 5).toNat 1

def subscribeDelay (attempt : Nat) : Option Nat :=
  mulU64 config.reconnectDelayMs.toNat attempt

def jetstreamSubscribeToTopic {Subscription : Type}
    (createSubscription : Nat → Result Subscription) : Retry.Run Error Subscription :=
  Retry.run (fun attempt _ => attempt ≠ maxSubscribeAttempts config) (subscribeDelay config)
    createSubscription (maxSubscribeAttempts config) 1

end Calls

/-! ## 4. Delays in range -/

/-- No delay of the run leaves its type, and each is at least the one before it. -/
structure DelaysFit {α : Type} (run : Retry.Run Error α) : Prop where
  inRange : run.ending ≠ .overflowed
  nonDecreasing : run.delays.Pairwise (· ≤ ·)

theorem shiftOne_eq_none {amount : Nat} : shiftOne amount = none ↔ 64 ≤ amount := by
  unfold shiftOne
  by_cases h : amount < 64
  · rw [if_pos h]
    constructor
    · intro hnone
      cases hnone
    · intro hle
      omega
  · rw [if_neg h]
    exact ⟨fun _ => by omega, fun _ => rfl⟩

theorem mulU64_eq_none {a b : Nat} : mulU64 a b = none ↔ 2 ^ 64 ≤ a * b := by
  unfold mulU64
  by_cases h : a * b < 2 ^ 64
  · rw [if_pos h]
    constructor
    · intro hnone
      cases hnone
    · intro hle
      omega
  · rw [if_neg h]
    exact ⟨fun _ => by omega, fun _ => rfl⟩

theorem publishBackoffMs_eq_none {config : JetStreamConfig} {attempt : Nat} :
    publishBackoffMs config attempt = none ↔ 65 ≤ attempt := by
  unfold publishBackoffMs
  rw [Option.map_eq_none_iff, shiftOne_eq_none]
  omega

/-- A saturated product grows with the shift. -/
theorem publishBackoffMs_mono {config : JetStreamConfig} {first second a b : Nat}
    (hle : first ≤ second) (ha : publishBackoffMs config first = some a)
    (hb : publishBackoffMs config second = some b) : a ≤ b := by
  unfold publishBackoffMs shiftOne at ha hb
  by_cases hsecond : second - 1 < 64
  · have hfirst : first - 1 < 64 := by omega
    rw [if_pos hfirst] at ha
    rw [if_pos hsecond] at hb
    cases ha
    cases hb
    have hpow : 2 ^ (first - 1) ≤ 2 ^ (second - 1) := Nat.pow_le_pow_right (by decide) (by omega)
    have hmul := Nat.mul_le_mul_left config.publishRetryBaseDelayMs.toNat hpow
    unfold saturatingMul
    omega
  · rw [if_neg hsecond] at hb
    cases hb

theorem subscribeDelay_mono {config : JetStreamConfig} {first second a b : Nat}
    (hle : first ≤ second) (ha : subscribeDelay config first = some a)
    (hb : subscribeDelay config second = some b) : a ≤ b := by
  have hmul := Nat.mul_le_mul_left config.reconnectDelayMs.toNat hle
  unfold subscribeDelay mulU64 at ha hb
  split at ha
  · split at hb
    · cases ha
      cases hb
      exact hmul
    · cases hb
  · cases ha

-- an error that is retried
def channelClosed : Error := ⟨[], .message "channel closed"⟩

/-- While the channel stays closed, attempt 65 is reached, and its shift is out of range. -/
theorem publishWithRetry_overflows {config : JetStreamConfig}
    (hmany : 65 < config.publishRetryAttempts.toNat) :
    (publishWithRetry config fun _ => .error channelClosed).ending = .overflowed := by
  have hclosed : isChannelClosedError channelClosed = true := by decide +kernel
  apply Retry.Ending.orReturn_overflowed.mpr
  apply Retry.overflowed_of_failing 65 (fun _ => rfl)
  · intro attempt hle
    rw [hclosed, Bool.and_true]
    exact decide_eq_true (by omega)
  · exact publishBackoffMs_eq_none.mpr (by decide)
  · decide
  · omega

theorem publishWithRetry_fits_iff (config : JetStreamConfig) :
    (∀ publishOnce, DelaysFit (publishWithRetry config publishOnce)) ↔
      config.publishRetryAttempts.toNat ≤ 65 := by
  constructor
  · intro hfits
    by_contra hmany
    exact (hfits _).inRange (publishWithRetry_overflows (by omega))
  · intro hbound publishOnce
    constructor
    · intro hoverflow
      apply Retry.not_overflowed _ (Retry.Ending.orReturn_overflowed.mp hoverflow)
      intro reached e hle hlt hretry hnone
      have hlast := of_decide_eq_true (Bool.and_eq_true_iff.mp hretry).1
      have hlarge := publishBackoffMs_eq_none.mp hnone
      omega
    · exact Retry.delays_sorted (fun _ _ _ _ => publishBackoffMs_mono) _ _

/-- While the subscription fails, all attempts are made, and the delay before the last of them is
out of range. -/
theorem jetstreamSubscribeToTopic_overflows {config : JetStreamConfig}
    (hlarge : 2 ^ 64 ≤ config.reconnectDelayMs.toNat * (maxSubscribeAttempts config - 1))
    (Subscription : Type) :
    (jetstreamSubscribeToTopic config
      (fun _ => .error channelClosed : Nat → Result Subscription)).ending = .overflowed := by
  have hretried : 1 ≤ maxSubscribeAttempts config - 1 := by
    by_contra hone
    have hzero : maxSubscribeAttempts config - 1 = 0 := by omega
    rw [hzero, Nat.mul_zero] at hlarge
    omega
  apply Retry.overflowed_of_failing (maxSubscribeAttempts config - 1) (fun _ => rfl)
  · intro attempt hle
    exact decide_eq_true (by omega)
  · exact mulU64_eq_none.mpr hlarge
  · exact hretried
  · omega

theorem jetstreamSubscribeToTopic_fits_iff (config : JetStreamConfig) (Subscription : Type) :
    (∀ createSubscription : Nat → Result Subscription,
      DelaysFit (jetstreamSubscribeToTopic config createSubscription)) ↔
      config.reconnectDelayMs.toNat * (maxSubscribeAttempts config - 1) < 2 ^ 64 := by
  constructor
  · intro hfits
    by_contra hlarge
    exact (hfits _).inRange (jetstreamSubscribeToTopic_overflows (by omega) Subscription)
  · intro hbound createSubscription
    constructor
    · apply Retry.not_overflowed
      intro reached e hle hlt hretry hnone
      have hlast := of_decide_eq_true hretry
      have hlarge := mulU64_eq_none.mp hnone
      have hmul := Nat.mul_le_mul_left config.reconnectDelayMs.toNat
        (show reached ≤ maxSubscribeAttempts config - 1 by omega)
      omega
    · exact Retry.delays_sorted (fun _ _ _ _ => subscribeDelay_mono) _ _

/-- The loop of a subscription returns from its last attempt at the latest. -/
theorem jetstreamSubscribeToTopic_not_exhausted (config : JetStreamConfig) {Subscription : Type}
    (createSubscription : Nat → Result Subscription) :
    (jetstreamSubscribeToTopic config createSubscription).ending ≠ .exhausted := by
  have hpositive : 0 < maxSubscribeAttempts config := by
    unfold maxSubscribeAttempts
    omega
  apply Retry.not_exhausted hpositive
  intro e
  rw [show 1 + maxSubscribeAttempts config - 1 = maxSubscribeAttempts config by omega]
  exact decide_eq_false (not_not.mpr rfl)

/-- The delays of both loops stay in range in every run exactly for settings that are not too
large. -/
theorem retryDelays_fit_iff (config : JetStreamConfig) :
    ((∀ publishOnce, DelaysFit (publishWithRetry config publishOnce)) ∧
      ∀ (Subscription : Type) (createSubscription : Nat → Result Subscription),
        DelaysFit (jetstreamSubscribeToTopic config createSubscription)) ↔
      config.publishRetryAttempts.toNat ≤ 65 ∧
        config.reconnectDelayMs.toNat * (maxSubscribeAttempts config - 1) < 2 ^ 64 := by
  rw [publishWithRetry_fits_iff]
  apply and_congr_right
  intro _
  constructor
  · intro hfits
    exact (jetstreamSubscribeToTopic_fits_iff config Unit).mp (hfits Unit)
  · intro hbound Subscription
    exact (jetstreamSubscribeToTopic_fits_iff config Subscription).mpr hbound

-- many attempts, and a delay of half the range
def patientJetStream : JetStreamConfig where
  natsUrl := "nats://localhost:4222"
  timeoutSeconds := 30
  retryAttempts := 3
  maxMessages := none
  maxBytes := none
  retentionTime := none
  storageType := .file
  replicas := none
  retentionPolicy := .limits
  discardPolicy := .old
  maxReconnectAttempts := none
  reconnectDelayMs := 9223372036854775808
  publishRetryAttempts := 66
  publishRetryBaseDelayMs := 1

/-- Accepted settings with which the delays of both loops leave their range. -/
theorem patientJetStream_overflows :
    patientJetStream.validate = .ok () ∧
      ¬ DelaysFit (publishWithRetry patientJetStream fun _ => .error channelClosed) ∧
      ¬ DelaysFit (jetstreamSubscribeToTopic patientJetStream
        (fun _ => .error channelClosed : Nat → Result Unit)) := by
  refine ⟨by decide +kernel, ?_, ?_⟩
  · intro hfits
    exact hfits.inRange (publishWithRetry_overflows (by decide))
  · intro hfits
    exact hfits.inRange (jetstreamSubscribeToTopic_overflows (by decide +kernel) Unit)

end AvisoServer
