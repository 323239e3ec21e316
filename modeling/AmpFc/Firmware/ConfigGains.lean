import AmpFc.Common.Single
import AmpFc.Firmware.Noninterference

/-! What a configuration with gains outside the conservative ranges does to the dividers. -/

namespace AmpFc.Firmware

open FloatArith (toUInt32)

variable {F : Type} [FloatArith F]

/-- The poll finds a marked region whose configuration bears a number it has not taken yet. -/
def TakesConfig (fw : Firmware) (memory : Memory F) : Prop :=
  ∃ r, ampSharedRegionGet fw.shm memory = some r ∧ r.wellMarked = true ∧
    (r.config.seq ≠ fw.shm.lastConfigSlotSeq ∨
      r.config.payload.updateSeq ≠ fw.shm.lastConfigUpdateSeq) ∧
    (r.config.seq ≠ 0 ∨ r.config.payload.updateSeq ≠ 0)

/-- The divider that a gain becomes when it is not refused. -/
def convertedDiv (v : F) (lo hi : Nat) : Nat :=
  clampU32 (toUInt32 v).toNat lo hi

/-- The tuning that a configuration leaves behind, once taken. -/
def Config.tuned (config : Config) (payload : FlightConfig F) : Config :=
  let rateDiv := ampConfigFloatToDiv payload.rateP config.rateRollDiv
    ampConfigRateDivMin ampConfigRateDivMax
  { deadzoneUs :=
      if payload.deadzoneUs.toNat ≠ 0 then
        clampU32 payload.deadzoneUs.toNat ampConfigDeadzoneMinUs ampConfigDeadzoneMaxUs
      else config.deadzoneUs
    rateRollDiv := rateDiv
    ratePitchDiv := rateDiv
    rateYawDiv := rateDiv
    angleDiv := ampConfigFloatToDiv payload.angleP config.angleDiv
      ampConfigAngleDivMin ampConfigAngleDivMax }

section Divider

variable [FloatOrder F] {v : F} (fallback lo hi : Nat)

/-- A gain outside its range is replaced by the fallback, unless it is unordered. -/
theorem ampConfigFloatToDiv_outside (outside : ¬ Between v lo hi) :
    ampConfigFloatToDiv v fallback lo hi =
      if isNan v then convertedDiv v lo hi else fallback := by
  unfold ampConfigFloatToDiv convertedDiv
  cases unordered : isNan v with
  | true =>
    -- Both comparisons fail, so that the value reaches the conversion.
    rw [lt_of_isNan_left unordered, lt_of_isNan_right unordered]
    simp
  | false =>
    rw [between_iff unordered, Bool.not_eq_false] at outside
    rw [outside]
    simp

end Divider

section Poll

variable (fw : Firmware) (memory : Memory F)

/-- Neither obeying the emergency slot nor counting the poll touches tuning or its stamps. -/
theorem obeyEmergency_config (slot : SharedSlot CommandEmergencyStop) :
    (obeyEmergency fw slot).config = fw.config ∧
      (obeyEmergency fw slot).shm.lastConfigSlotSeq = fw.shm.lastConfigSlotSeq ∧
      (obeyEmergency fw slot).shm.lastConfigUpdateSeq = fw.shm.lastConfigUpdateSeq := by
  have heard : (pollEmergency fw.shm slot).lastConfigSlotSeq = fw.shm.lastConfigSlotSeq ∧
      (pollEmergency fw.shm slot).lastConfigUpdateSeq = fw.shm.lastConfigUpdateSeq := by
    unfold pollEmergency
    split <;> exact ⟨rfl, rfl⟩
  unfold obeyEmergency
  dsimp only
  split
  · exact ⟨rfl, heard⟩
  · exact ⟨rfl, heard⟩

/-- A poll that takes no configuration leaves the tuning alone. -/
theorem ampSharedRegionPollOnce_untaken (untaken : ¬ TakesConfig fw memory) :
    (ampSharedRegionPollOnce fw memory).config = fw.config := by
  cases found : ampSharedRegionGet fw.shm memory with
  | none =>
    unfold ampSharedRegionPollOnce
    rw [found]
  | some r =>
    cases marked : r.wellMarked with
    | false =>
      unfold ampSharedRegionPollOnce
      rw [found]
      simp only [marked, Bool.not_false, if_true]
    | true =>
      rw [ampSharedRegionPollOnce_marked fw found marked]
      obtain ⟨kept, slotSeq, updateSeq⟩ := obeyEmergency_config
        { fw with shm := { fw.shm with pollCount := fw.shm.pollCount + 1 } } r.emergencyStop
      -- The stamps are those of the start, so the configuration's branch is not taken.
      have stale : ¬ ((r.config.seq ≠ fw.shm.lastConfigSlotSeq ∨
          r.config.payload.updateSeq ≠ fw.shm.lastConfigUpdateSeq) ∧
          (r.config.seq ≠ 0 ∨ r.config.payload.updateSeq ≠ 0)) := by
        intro fresh
        exact untaken ⟨r, found, marked, fresh⟩
      change (pollConfig _ r.config).config = fw.config
      unfold pollConfig
      simp only [slotSeq, updateSeq]
      rw [if_neg stale]
      exact kept

/-- A poll that takes a configuration leaves the tuning that this configuration asks for. -/
theorem ampSharedRegionPollOnce_taken (taken : TakesConfig fw memory) :
    (ampSharedRegionPollOnce fw memory).config =
      fw.config.tuned (memory fw.shm.shmPhys).config.payload := by
  obtain ⟨r, found, marked, fresh⟩ := taken
  rw [ampSharedRegionPollOnce_marked fw found marked]
  obtain ⟨kept, slotSeq, updateSeq⟩ := obeyEmergency_config
    { fw with shm := { fw.shm with pollCount := fw.shm.pollCount + 1 } } r.emergencyStop
  -- The region found is the one at the announced address.
  have place : memory fw.shm.shmPhys = r := by
    unfold ampSharedRegionGet at found
    split at found
    · cases found
    · exact Option.some.inj found
  change (pollConfig _ r.config).config = _
  unfold pollConfig
  simp only [slotSeq, updateSeq]
  rw [if_pos fresh, place]
  simp only [kept]
  rfl

/-- A poll of the region changes no divider for the sake of a gain outside its range. -/
structure OutOfRangeIgnored : Prop where
  rate : ¬ Between (memory fw.shm.shmPhys).config.payload.rateP
      ampConfigRateDivMin ampConfigRateDivMax →
    (ampSharedRegionPollOnce fw memory).config.rateRollDiv = fw.config.rateRollDiv ∧
      (ampSharedRegionPollOnce fw memory).config.ratePitchDiv = fw.config.ratePitchDiv ∧
      (ampSharedRegionPollOnce fw memory).config.rateYawDiv = fw.config.rateYawDiv
  angle : ¬ Between (memory fw.shm.shmPhys).config.payload.angleP
      ampConfigAngleDivMin ampConfigAngleDivMax →
    (ampSharedRegionPollOnce fw memory).config.angleDiv = fw.config.angleDiv

/-- Overwriting all three rate dividers by this value changes none of them. -/
def Config.RatesAre (config : Config) (div : Nat) : Prop :=
  config.rateRollDiv = div ∧ config.ratePitchDiv = div ∧ config.rateYawDiv = div

/-- Gains that change no divider from outside their range. -/
structure GainsHarmless (config : Config) (payload : FlightConfig F) : Prop where
  /-- Pitch and yaw already have the roll divider, or the one an unordered gain becomes. -/
  rate : ¬ Between payload.rateP ampConfigRateDivMin ampConfigRateDivMax →
    config.RatesAre (if isNan payload.rateP then
      convertedDiv payload.rateP ampConfigRateDivMin ampConfigRateDivMax else config.rateRollDiv)
  /-- An unordered gain becomes the divider that is there. -/
  angle : isNan payload.angleP = true →
    config.angleDiv = convertedDiv payload.angleP ampConfigAngleDivMin ampConfigAngleDivMax

/-- Gains outside their ranges are ignored exactly by polls that take none, or harmless ones. -/
theorem outOfRangeIgnored_iff [FloatOrder F] : OutOfRangeIgnored fw memory ↔
    (TakesConfig fw memory →
      GainsHarmless fw.config (memory fw.shm.shmPhys).config.payload) := by
  generalize payload : (memory fw.shm.shmPhys).config.payload = gains
  constructor
  · intro ignored taken
    have tuned := ampSharedRegionPollOnce_taken fw memory taken
    rw [payload] at tuned
    constructor
    · intro outside
      have kept := ignored.rate (by rwa [payload])
      rw [tuned] at kept
      simp only [Config.tuned, ampConfigFloatToDiv_outside _ _ _ outside] at kept
      -- The one value stored in all three is what each of them had before.
      exact ⟨kept.1.symm, kept.2.1.symm, kept.2.2.symm⟩
    · intro unordered
      -- An unordered gain is in no range.
      have outside : ¬ Between gains.angleP ampConfigAngleDivMin ampConfigAngleDivMax := by
        intro within
        rw [within.ordered] at unordered
        cases unordered
      have kept := ignored.angle (by rwa [payload])
      rw [tuned] at kept
      simp only [Config.tuned, ampConfigFloatToDiv_outside _ _ _ outside, unordered,
        if_true] at kept
      exact kept.symm
  · intro harmless
    by_cases taken : TakesConfig fw memory
    · have tuned := ampSharedRegionPollOnce_taken fw memory taken
      rw [payload] at tuned
      constructor
      · intro outside
        rw [payload] at outside
        -- What is stored is what all three already have.
        obtain ⟨roll, pitch, yaw⟩ := (harmless taken).rate outside
        rw [tuned]
        simp only [Config.tuned, ampConfigFloatToDiv_outside _ _ _ outside]
        exact ⟨roll.symm, pitch.symm, yaw.symm⟩
      · intro outside
        rw [payload] at outside
        rw [tuned]
        simp only [Config.tuned, ampConfigFloatToDiv_outside _ _ _ outside]
        -- An ordered gain falls back to the divider that is there.
        cases unordered : isNan gains.angleP with
        | true => simpa using ((harmless taken).angle unordered).symm
        | false => simp
    · -- Without a configuration taken, no divider is written at all.
      rw [← payload] at *
      have kept := ampSharedRegionPollOnce_untaken fw memory taken
      constructor
      · intro _
        rw [kept]
        exact ⟨rfl, rfl, rfl⟩
      · intro _
        rw [kept]

end Poll

section Run

variable (rtos : RtosConfig)

/-- The state in which a poll calls `amp_shared_region_poll_once`. -/
def regionPollEntry (fw : Firmware) (input : PollInput F) : Firmware :=
  let fw := gatherInputs rtos fw input
  { fw with rc := readSticks (pollFailsafe rtos input.now fw.reception) fw.reception fw.rc }

omit [FloatArith F] in
/-- Up to that call a poll has written neither tuning nor bookkeeping about the region. -/
theorem regionPollEntry_config (fw : Firmware) (input : PollInput F) :
    (regionPollEntry rtos fw input).config = fw.config ∧
      (regionPollEntry rtos fw input).shm = fw.shm := by
  obtain ⟨statics, sensing, stage3, gathered⟩ := gatherInputs_frame rtos fw input
  unfold regionPollEntry
  rw [gathered]
  exact ⟨rfl, rfl⟩

/-- After that call a turn of the task does not write the tuning. -/
theorem cmdQuRunTask_config (fw : Firmware) (input : TaskInput F) :
    (cmdQuRunTask rtos fw input).config =
      (ampSharedRegionPollOnce (regionPollEntry rtos fw input.toPollInput)
        input.memory).config := by
  -- Each later stage is known by what it may write, and none writes the tuning.
  obtain ⟨phys, ready, turned⟩ := cmdQuRunTask_frame rtos fw input
  obtain ⟨pwm, shm, ended, -⟩ := afterPoll_frame rtos fw input.toPollInput
  obtain ⟨motor, control, branched⟩ := dispatchOutputs_frame
    (pollFailsafe rtos input.now (afterGate rtos fw input.toPollInput).reception)
    (afterGate rtos fw input.toPollInput)
  obtain ⟨rc, armed, gated⟩ := afterGate_frame rtos fw input.toPollInput
  -- Outputs, branches and gate are taken off one after the other.
  rw [turned, ended]
  simp only [afterDispatch]
  rw [branched, gated]
  rfl

variable (input : Nat → TaskInput F)

/-- Poll `n` of the run takes a configuration. -/
def TakesConfigAt (n : Nat) : Prop :=
  TakesConfig (regionPollEntry rtos (beforePoll rtos input n) (input n).toPollInput)
    (input n).memory

/-- All three rate dividers are equal exactly once a configuration was taken. -/
theorem ratesEqual_iff (n : Nat) :
    (∃ div, (beforePoll rtos input n).config.RatesAre div) ↔
      ∃ k < n, TakesConfigAt rtos input k := by
  -- The induction is on the number of polls: at boot yaw differs, and each taking unites them.
  induction n with
  | zero =>
    constructor
    · intro equal
      obtain ⟨div, roll, -, yaw⟩ := equal
      have differ : (12 : Nat) = 16 := roll.trans yaw.symm
      cases differ
    · intro taken
      obtain ⟨k, below, -⟩ := taken
      cases below
  | succ n ih =>
    have turned : (beforePoll rtos input (n + 1)).config = (ampSharedRegionPollOnce
        (regionPollEntry rtos (beforePoll rtos input n) (input n).toPollInput)
        (input n).memory).config := cmdQuRunTask_config rtos _ (input n)
    rw [turned]
    by_cases taken : TakesConfigAt rtos input n
    · rw [ampSharedRegionPollOnce_taken _ _ taken]
      constructor
      · -- One divider is stored in all three, whatever they were.
        intro _
        exact ⟨n, n.lt_succ_self, taken⟩
      · intro _
        exact ⟨_, rfl, rfl, rfl⟩
    · rw [ampSharedRegionPollOnce_untaken _ _ taken, (regionPollEntry_config rtos _ _).1, ih]
      constructor
      · intro earlier
        obtain ⟨k, below, taken⟩ := earlier
        exact ⟨k, below.trans n.lt_succ_self, taken⟩
      · intro earlier
        obtain ⟨k, below, takenAt⟩ := earlier
        rcases Nat.lt_succ_iff_lt_or_eq.mp below with before | same
        · exact ⟨k, before, takenAt⟩
        · -- This poll took none.
          exact absurd (same ▸ takenAt) taken

end Run

section Bench

/-- The region right after Linux has published its boot configuration. -/
def bootConfigRegion : SharedCommandRegion Single :=
  { SharedCommandRegion.zeroed with
    magic := sharedRegionMagic
    version := sharedRegionVersion
    config := ⟨1, defaultFlightConfig, payloadCrc (defaultFlightConfig : FlightConfig Single)⟩ }

/-- A run in which the first message announces that region. -/
def bootConfigBench (n : Nat) : TaskInput Single :=
  benchPoll n n [] (fun _ => bootConfigRegion) (if n = 0 then some ⟨0x20, 0x83F00000⟩ else none)

/-- The boot configuration is out of range, and takes the yaw divider from 16 to 12. -/
theorem outOfRangeIgnored_bootConfigBench :
    ¬ ∀ (rtos : RtosConfig) (input : Nat → TaskInput Single) (n : Nat),
      OutOfRangeIgnored (regionPollEntry rtos (beforePoll rtos input n) (input n).toPollInput)
        (input n).memory := by
  intro always
  have ignored := (always benchRtos bootConfigBench 1).rate (by decide +kernel)
  have changed : (ampSharedRegionPollOnce (regionPollEntry benchRtos
      (beforePoll benchRtos bootConfigBench 1) (bootConfigBench 1).toPollInput)
      (bootConfigBench 1).memory).config.rateYawDiv = 12 := by decide +kernel
  have before : (regionPollEntry benchRtos (beforePoll benchRtos bootConfigBench 1)
      (bootConfigBench 1).toPollInput).config.rateYawDiv = 16 := by decide +kernel
  have kept := ignored.2.2
  rw [changed, before] at kept
  cases kept

/-- Taken a second time the same gains are ignored, as all three rate dividers are equal by then. -/
theorem outOfRangeIgnored_bootConfigAgain :
    OutOfRangeIgnored (beforePoll benchRtos bootConfigBench 2)
      fun _ => { bootConfigRegion with config := ⟨2, defaultFlightConfig, 0⟩ } := by
  refine (outOfRangeIgnored_iff _ _).mpr ?_
  intro _
  constructor
  · intro _
    unfold Config.RatesAre
    decide +kernel
  · intro unordered
    cases unordered

end Bench

end AmpFc.Firmware
