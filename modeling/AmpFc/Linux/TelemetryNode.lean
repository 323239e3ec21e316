import AmpFc.Linux.MailboxTransport

/-! The Linux telemetry node: which configuration it publishes, and which it takes as active. -/

namespace AmpFc

open FloatArith (clamp le ofRat)

/-- `TelemetryNode`, as far as configurations are concerned. -/
structure TelemetryNode (F : Type) where
  mailbox : MailboxTransport
  activeConfig : FlightConfig F
  configSent : Bool

/-- What a call of `pushConfig` returns, with the node and the region it leaves behind. -/
abbrev PushResult (F : Type) := Bool × TelemetryNode F × SharedCommandRegion F

namespace TelemetryNode

variable {F : Type} [FloatArith F]

/-- The node that `main` builds, around the mailbox it then opens. -/
def constructed (mailbox : MailboxTransport) : TelemetryNode F where
  mailbox := mailbox
  activeConfig := defaultFlightConfig
  configSent := false

/-- `std::fabs`, up to the sign of a zero, which no comparison sees. -/
def fabs (value : F) : F :=
  if FloatArith.lt value (ofRat 0) then -value else value

/-- `almostEqual` under its default tolerance. -/
def almostEqual (left right : F) : Bool :=
  le (fabs (left - right)) (ofRat (1 / 1000000))

/-- A configuration brought into the ranges that `pushConfig` allows. -/
def limited (config : FlightConfig F) : FlightConfig F :=
  { config with
    angleP := clamp config.angleP (ofRat (1 / 2)) (ofRat 20)
    rateP := clamp config.rateP (ofRat (1 / 100)) (ofRat 1)
    rateI := clamp config.rateI (ofRat 0) (ofRat 1)
    rateD := clamp config.rateD (ofRat 0) (ofRat (1 / 10))
    throttleExpo := clamp config.throttleExpo (ofRat 0) (ofRat (95 / 100))
    deadzoneUs := if config.deadzoneUs > 100 then 100 else config.deadzoneUs }

/-- Nothing in a configuration differs from the active one by more than rounding. -/
def unchanged (node : TelemetryNode F) (config : FlightConfig F) : Bool :=
  almostEqual config.angleP node.activeConfig.angleP &&
    almostEqual config.rateP node.activeConfig.rateP &&
    almostEqual config.rateI node.activeConfig.rateI &&
    almostEqual config.rateD node.activeConfig.rateD &&
    almostEqual config.throttleExpo node.activeConfig.throttleExpo &&
    config.deadzoneUs == node.activeConfig.deadzoneUs

/-- The candidate that `pushConfig` hands to the mailbox. -/
def candidate (node : TelemetryNode F) (config : FlightConfig F) : FlightConfig F :=
  -- After the first success the active configuration decides the number, before it the caller.
  { limited config with
    updateSeq :=
      if node.configSent then node.activeConfig.updateSeq + 1
      else if config.updateSeq = 0 then 1 else config.updateSeq }

/-- `pushConfig`. -/
def pushConfig (node : TelemetryNode F) (region : SharedCommandRegion F) (config : FlightConfig F)
    (outcome : SendOutcome) : PushResult F :=
  if node.unchanged (limited config) && node.configSent then (false, node, region)
  else
    let candidate := node.candidate config
    let sent := node.mailbox.sendConfig region candidate outcome
    let node := { node with mailbox := sent.2.1 }
    -- A failed send leaves the active configuration, but the slot may have been written.
    if !sent.1 then (false, node, sent.2.2)
    else (true, { node with activeConfig := candidate, configSent := true }, sent.2.2)

/-- The number the slot gets if the next push writes it. -/
def nextConfigSeq (node : TelemetryNode F) (config : FlightConfig F) : UInt32 :=
  -- A number that wrapped to zero is replaced by the transport's own.
  if (node.candidate config).updateSeq = 0 then node.mailbox.configSeq + 1
  else (node.candidate config).updateSeq

/-- What the slot holds after a push that wrote it. -/
def nextConfigSlot (node : TelemetryNode F) (config : FlightConfig F) :
    SharedSlot (FlightConfig F) :=
  MailboxTransport.publishSlot (node.nextConfigSeq config)
    { node.candidate config with updateSeq := node.nextConfigSeq config }

/-- Into a marked region the candidate is written, whatever becomes of its doorbell. -/
theorem sendConfig_candidate (node : TelemetryNode F) {region : SharedCommandRegion F}
    (marked : region.wellMarked = true) (config : FlightConfig F) (outcome : SendOutcome) :
    (node.mailbox.sendConfig region (node.candidate config) outcome).2 =
      ({ node.mailbox with configSeq := node.nextConfigSeq config },
        { region with config := node.nextConfigSlot config }) := by
  unfold MailboxTransport.sendConfig MailboxTransport.writeConfigCache
  rw [marked]
  rfl

/-- A push changes nothing but the configuration's slot in the region. -/
theorem pushConfig_region (node : TelemetryNode F) {region : SharedCommandRegion F}
    (marked : region.wellMarked = true) (config : FlightConfig F) (outcome : SendOutcome) :
    ∃ slot, (node.pushConfig region config outcome).2.2 = { region with config := slot } := by
  have written := node.sendConfig_candidate marked config outcome
  unfold pushConfig
  split
  · exact ⟨region.config, rfl⟩
  · -- Whether the send succeeds or fails, a marked region is written.
    refine ⟨node.nextConfigSlot config, ?_⟩
    dsimp only
    split <;> exact congrArg Prod.snd written

/-- A push that returns true has written its slot and made the candidate active. -/
theorem pushConfig_success {node : TelemetryNode F} {region : SharedCommandRegion F}
    (marked : region.wellMarked = true) {config : FlightConfig F} {outcome : SendOutcome}
    (pushed : (node.pushConfig region config outcome).1 = true) :
    (node.pushConfig region config outcome).2.1.activeConfig = node.candidate config ∧
      (node.pushConfig region config outcome).2.1.configSent = true ∧
      (node.pushConfig region config outcome).2.2 =
        { region with config := node.nextConfigSlot config } := by
  have written := node.sendConfig_candidate marked config outcome
  -- Of the three exits only the last one returns true.
  unfold pushConfig at pushed ⊢
  split at pushed
  · cases pushed
  · rename_i wanted
    rw [if_neg wanted]
    dsimp only at pushed ⊢
    split at pushed
    · cases pushed
    · rename_i sent
      rw [if_neg sent]
      exact ⟨rfl, rfl, congrArg Prod.snd written⟩

/-- A push that returns false leaves the active configuration as it was. -/
theorem pushConfig_failure {node : TelemetryNode F} {region : SharedCommandRegion F}
    {config : FlightConfig F} {outcome : SendOutcome}
    (refused : (node.pushConfig region config outcome).1 = false) :
    (node.pushConfig region config outcome).2.1.activeConfig = node.activeConfig ∧
      (node.pushConfig region config outcome).2.1.configSent = node.configSent := by
  unfold pushConfig at refused ⊢
  -- Either there was nothing to send, or the send failed.
  split at refused
  · rename_i same
    rw [if_pos same]
    exact ⟨rfl, rfl⟩
  · rename_i wanted
    rw [if_neg wanted]
    dsimp only at refused ⊢
    split at refused
    · rename_i unsent
      rw [if_pos unsent]
      exact ⟨rfl, rfl⟩
    · cases refused

/-- The number of the active configuration, once it was sent. -/
def sentSeq (node : TelemetryNode F) : UInt32 :=
  if node.configSent then node.activeConfig.updateSeq else 0

/-- A number that does not wrap grows. -/
theorem lt_add_one_of_ne {value : UInt32} (kept : value + 1 ≠ 0) : value < value + 1 := by
  have size := value.toNat_lt
  -- Only the largest number comes round to 0.
  have unwrapped : value.toNat + 1 ≠ 2 ^ 32 := by
    intro full
    exact kept (UInt32.toNat_inj.mp (by simp [UInt32.toNat_add, full]))
  rw [UInt32.lt_iff_toNat_lt, UInt32.toNat_add]
  simp
  omega

/-- The next number lies above that of the active configuration, unless it wraps. -/
theorem sentSeq_lt_candidate {node : TelemetryNode F} (config : FlightConfig F)
    (kept : node.activeConfig.updateSeq + 1 ≠ 0) :
    node.sentSeq < (node.candidate config).updateSeq := by
  unfold sentSeq candidate
  -- A first configuration may bring its own number, if it is not 0.
  cases node.configSent with
  | true => exact lt_add_one_of_ne kept
  | false =>
    simp only [Bool.false_eq_true, if_false]
    by_cases zero : config.updateSeq = 0
    · rw [if_pos zero]
      decide
    · rw [if_neg zero]
      exact UInt32.pos_iff_ne_zero.mpr zero

/-- So does the number that the slot gets. -/
theorem sentSeq_lt_next {node : TelemetryNode F} (config : FlightConfig F)
    (kept : node.activeConfig.updateSeq + 1 ≠ 0) : node.sentSeq < node.nextConfigSeq config := by
  have above := sentSeq_lt_candidate config kept
  have numbered : (node.candidate config).updateSeq ≠ 0 :=
    UInt32.pos_iff_ne_zero.mp (UInt32.lt_of_le_of_lt UInt32.zero_le above)
  rw [nextConfigSeq, if_neg numbered]
  exact above

/-- A push that succeeds does not lower the number that was sent last, -/
theorem sentSeq_le_success {node : TelemetryNode F} {region : SharedCommandRegion F}
    (marked : region.wellMarked = true) {config : FlightConfig F} {outcome : SendOutcome}
    (pushed : (node.pushConfig region config outcome).1 = true)
    (kept : node.activeConfig.updateSeq + 1 ≠ 0) :
    node.sentSeq ≤ (node.pushConfig region config outcome).2.1.sentSeq := by
  obtain ⟨active, sent, -⟩ := pushConfig_success marked pushed
  have above := sentSeq_lt_candidate config kept
  rw [sentSeq.eq_def (node.pushConfig region config outcome).2.1, if_pos sent, active]
  exact UInt32.le_of_lt above

/-- and one that fails leaves it. -/
theorem sentSeq_failure {node : TelemetryNode F} {region : SharedCommandRegion F}
    {config : FlightConfig F} {outcome : SendOutcome}
    (refused : (node.pushConfig region config outcome).1 = false) :
    (node.pushConfig region config outcome).2.1.sentSeq = node.sentSeq := by
  obtain ⟨active, sent⟩ := pushConfig_failure refused
  unfold sentSeq
  rw [active, sent]

end TelemetryNode

end AmpFc
