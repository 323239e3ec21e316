import AmpFc.Linux.TelemetryNode
import AmpFc.System.SlotReading

/-! Whether the realtime core runs the configuration that the Linux core takes as active. -/

namespace AmpFc

open MailboxTransport RtosCmdquIsrTransport FloatArith

variable {F : Type}

/-- What the realtime node flies with: the gains of its loops, and the shaping of its sticks. -/
structure AppliedConfig (F : Type) where
  gains : F × F × F × F
  rollAngleP : F
  pitchAngleP : F
  rollRate : F × F × F
  pitchRate : F × F × F
  yawRate : F × F × F
  deadzoneUs : UInt16
  throttleExpo : F
  deriving DecidableEq

/-- The gains of one loop. -/
def PidAxis.gains (axis : PidAxis F) : F × F × F :=
  (axis.config.kp, axis.config.ki, axis.config.kd)

/-- What the last applied configuration left in controller and receiver. -/
def FlightRtNode.applied (node : FlightRtNode F) : AppliedConfig F :=
  let active := node.controller.activeConfig
  { gains := (active.angleP, active.rateP, active.rateI, active.rateD)
    rollAngleP := node.controller.rollAngle.config.kp
    pitchAngleP := node.controller.pitchAngle.config.kp
    rollRate := node.controller.rollRate.gains
    pitchRate := node.controller.pitchRate.gains
    yawRate := node.controller.yawRate.gains
    deadzoneUs := node.receiver.deadzoneUs
    throttleExpo := node.receiver.throttleExpo }

/-- What a node flies with that runs exactly this configuration. -/
def FlightConfig.asApplied (config : FlightConfig F) : AppliedConfig F where
  gains := (config.angleP, config.rateP, config.rateI, config.rateD)
  rollAngleP := config.angleP
  pitchAngleP := config.angleP
  rollRate := (config.rateP, config.rateI, config.rateD)
  pitchRate := (config.rateP, config.rateI, config.rateD)
  yawRate := (config.rateP, config.rateI, config.rateD)
  deadzoneUs := config.deadzoneUs
  throttleExpo := config.throttleExpo

variable [FloatArith F]

/-- Changing the arm state keeps every gain. -/
theorem Controller.setArmState_keeps (c : Controller F) (state : ArmState) :
    (c.setArmState state).activeConfig = c.activeConfig ∧
      (c.setArmState state).rollAngle.config = c.rollAngle.config ∧
      (c.setArmState state).pitchAngle.config = c.pitchAngle.config ∧
      (c.setArmState state).rollRate.config = c.rollRate.config ∧
      (c.setArmState state).pitchRate.config = c.pitchRate.config ∧
      (c.setArmState state).yawRate.config = c.yawRate.config := by
  unfold Controller.setArmState
  split
  · exact ⟨rfl, rfl, rfl, rfl, rfl, rfl⟩
  · exact ⟨rfl, rfl, rfl, rfl, rfl, rfl⟩

namespace FlightRtNode

variable (node : FlightRtNode F)

/-- An arm command leaves the applied configuration alone, -/
@[simp] theorem applied_applyArm (arm : Option CommandArm) :
    (node.applyArm arm).applied = node.applied := by
  cases arm with
  | none => rfl
  | some arm =>
    obtain ⟨active, rollAngle, pitchAngle, rollRate, pitchRate, yawRate⟩ :=
      node.controller.setArmState_keeps (ArmState.ofByte arm.state)
    simp only [applied, applyArm, PidAxis.gains, active, rollAngle, pitchAngle, rollRate, pitchRate,
      yawRate]

/-- a setpoint too, -/
@[simp] theorem applied_applySetpoint (nowUs : Nat) (setpoint : Option (CommandSetpoint F)) :
    (node.applySetpoint nowUs setpoint).applied = node.applied := by
  cases setpoint <;> rfl

omit [FloatArith F] in
/-- and a heartbeat. -/
@[simp] theorem applied_applyHeartbeat (nowUs : Nat) (heartbeat : Option Heartbeat) :
    (node.applyHeartbeat nowUs heartbeat).applied = node.applied := by
  cases heartbeat <;> rfl

/-- Only a delivered configuration changes what the node flies with. -/
theorem applied_applyConfig_congr {node node' : FlightRtNode F}
    (same : node.applied = node'.applied)
    (config : Option (FlightConfig F)) :
    (node.applyConfig config).applied = (node'.applyConfig config).applied := by
  cases config with
  | none => exact same
  | some config => rfl

/-- A command without an emergency stop matters through its configuration only. -/
theorem applied_applyCommand {command : IncomingCommand F} (calm : command.emergencyStop = false)
    (nowUs : Nat) :
    (node.applyCommand command nowUs).applied = (node.applyConfig command.config).applied := by
  unfold applyCommand
  rw [calm]
  refine applied_applyConfig_congr ?_ command.config
  simp

/-- A configuration within the ranges of the Linux core is run as it is. -/
theorem applied_limited [OrderedLiterals F] (config : FlightConfig F) (updateSeq : UInt32) :
    (node.applyConfig (some { TelemetryNode.limited config with updateSeq := updateSeq })).applied =
      (TelemetryNode.limited config).asApplied := by
  -- Controller and receiver clamp once more, with the bounds the telemetry node used.
  have angleP := clamp_clamp (F := F) (show (1 / 2 : ℚ) ≤ 20 by norm_num) config.angleP
  have rateP := clamp_clamp (F := F) (show (1 / 100 : ℚ) ≤ 1 by norm_num) config.rateP
  have rateI := clamp_clamp (F := F) (show (0 : ℚ) ≤ 1 by norm_num) config.rateI
  have rateD := clamp_clamp (F := F) (show (0 : ℚ) ≤ 1 / 10 by norm_num) config.rateD
  have expo := clamp_clamp (F := F) (show (0 : ℚ) ≤ 95 / 100 by norm_num) config.throttleExpo
  have narrow : ¬ (100 : UInt16) > 100 := by decide
  -- A deadzone that was limited once is not limited again.
  by_cases wide : config.deadzoneUs > 100
  · simp only [applied, applyConfig, Controller.applyConfig, Controller.resetIntegrators,
      PidAxis.reset, PidAxis.setTunings, PidAxis.gains, Receiver.applyConfig,
      FlightConfig.asApplied, TelemetryNode.limited, angleP, rateP, rateI, rateD, expo,
      if_pos wide, if_neg narrow]
  · simp only [applied, applyConfig, Controller.applyConfig, Controller.resetIntegrators,
      PidAxis.reset, PidAxis.setTunings, PidAxis.gains, Receiver.applyConfig,
      FlightConfig.asApplied, TelemetryNode.limited, angleP, rateP, rateI, rateD, expo,
      if_neg wide]

end FlightRtNode

/-- The two nodes with the region between them. -/
structure ConfigLink (F : Type) where
  telemetry : TelemetryNode F
  region : SharedCommandRegion F
  rt : RtosCmdquIsrTransport
  node : FlightRtNode F

/-- What can happen next, as long as no emergency stop is sent. -/
inductive ConfigEvent (F : Type) where
  | push (config : FlightConfig F) (outcome : SendOutcome)
  | doorbell (cmdId : UInt8) (seqHint : UInt32)
  /-- A poll together with the `applyCommand` that follows it. -/
  | poll (nowUs : Nat)

namespace ConfigLink

/-- One event. -/
def step (s : ConfigLink F) : ConfigEvent F → ConfigLink F
  | .push config outcome =>
    let pushed := s.telemetry.pushConfig s.region config outcome
    { s with telemetry := pushed.2.1, region := pushed.2.2 }
  | .doorbell cmdId seqHint =>
    { s with rt := { s.rt with ring := s.rt.ring.onCmdFromMailbox cmdId seqHint } }
  | .poll nowUs =>
    let polled := s.rt.poll s.region
    { s with rt := polled.2, node := s.node.applyCommand polled.1 nowUs }

/-- The region is marked, and no emergency stop waits in it. -/
structure Calm (s : ConfigLink F) : Prop where
  marked : s.region.wellMarked = true
  silent : accepts s.region.emergencyStop s.rt.last.emergency = false

/-- What a poll without an emergency stop does with the configuration's slot. -/
structure PollSpec (s s' : ConfigLink F) : Prop where
  telemetry : s'.telemetry = s.telemetry
  region : s'.region = s.region
  emergency : s'.rt.last.emergency = s.rt.last.emergency
  config : s'.rt.last.config =
    if accepts s.region.config s.rt.last.config then s.region.config.seq else s.rt.last.config
  applied : s'.node.applied =
    if accepts s.region.config s.rt.last.config then
      (s.node.applyConfig (some s.region.config.payload)).applied
    else s.node.applied

/-- A poll does what its specification says. -/
theorem step_poll {s : ConfigLink F} (calm : s.Calm) (nowUs : Nat) :
    PollSpec s (s.step (.poll nowUs)) := by
  -- Without an emergency stop the doorbells change nothing: every slot is parsed.
  obtain ⟨ring, -, polled⟩ := poll_calm calm.silent
  have payload := takeSlot_payload s.region.config s.rt.last.config
  have number := takeSlot_number s.region.config s.rt.last.config
  have command : (parseAll s.region ⟨s.rt.last, {}⟩).command.config =
      if accepts s.region.config s.rt.last.config then some s.region.config.payload
      else none := payload
  have applied : (s.step (.poll nowUs)).node.applied =
      (s.node.applyConfig (parseAll s.region ⟨s.rt.last, {}⟩).command.config).applied := by
    show (s.node.applyCommand (s.rt.poll s.region).1 nowUs).applied = _
    rw [polled]
    exact s.node.applied_applyCommand rfl nowUs
  refine ⟨rfl, rfl, ?_, ?_, ?_⟩
  · show (s.rt.poll s.region).2.last.emergency = _
    rw [polled]
    rfl
  · show (s.rt.poll s.region).2.last.config = _
    rw [polled]
    exact number
  · rw [applied, command]
    split <;> rfl

/-- No event sends an emergency stop or takes the marks away. -/
theorem Calm.step {s : ConfigLink F} (calm : s.Calm) (event : ConfigEvent F) :
    (s.step event).Calm := by
  cases event with
  | push config outcome =>
    -- A push writes the slot of the configuration only.
    obtain ⟨slot, region⟩ := s.telemetry.pushConfig_region calm.marked config outcome
    refine ⟨?_, ?_⟩
    · show (s.telemetry.pushConfig s.region config outcome).2.2.wellMarked = true
      rw [region]
      exact calm.marked
    · show accepts (s.telemetry.pushConfig s.region config outcome).2.2.emergencyStop _ = false
      rw [region]
      exact calm.silent
  | doorbell cmdId seqHint => exact ⟨calm.marked, calm.silent⟩
  | poll nowUs =>
    have spec := step_poll calm nowUs
    refine ⟨?_, ?_⟩
    · rw [spec.region]
      exact calm.marked
    · rw [spec.region, spec.emergency]
      exact calm.silent

end ConfigLink

/-- A run of pushes, doorbells and polls from any point where no emergency stop waits. -/
structure ConfigRun (F : Type) [FloatArith F] where
  start : ConfigLink F
  calm : start.Calm
  event : Nat → ConfigEvent F

namespace ConfigRun

variable (run : ConfigRun F) {p q n : Nat} {config : FlightConfig F}

/-- The state in which event `n` happens. -/
def after (n : Nat) : ConfigLink F := stateAt ConfigLink.step run.start run.event n

/-- Event `n` is a push, successful or not. -/
def PushesAt (n : Nat) : Prop := ∃ config outcome, run.event n = .push config outcome

/-- Event `n` is a poll. -/
def PollsAt (n : Nat) : Prop := ∃ nowUs, run.event n = .poll nowUs

/-- Event `n` is a push of this configuration that returns true. -/
def SucceedsAt (n : Nat) (config : FlightConfig F) : Prop :=
  ∃ outcome, run.event n = .push config outcome ∧
    ((run.after n).telemetry.pushConfig (run.after n).region config outcome).1 = true

/-- Linux and the realtime core agree: what is flown with is what is taken as active. -/
def AgreesAt (n : Nat) : Prop :=
  (run.after n).node.applied = (run.after n).telemetry.activeConfig.asApplied

/-- Each event adds a step. -/
theorem after_succ (n : Nat) : run.after (n + 1) = (run.after n).step (run.event n) := rfl

/-- Whatever happens, the link stays calm. -/
theorem after_calm (n : Nat) : (run.after n).Calm :=
  stateAt_invariant run.calm (fun _ _ calm => calm.step _) n

/-- What the realtime node flies with once it has looked at the slot of the push at `p`. -/
def outcomeOf (p : Nat) (config : FlightConfig F) : AppliedConfig F :=
  if (run.after p).rt.last.config < (run.after p).telemetry.nextConfigSeq config then
    (TelemetryNode.limited config).asApplied
  else (run.after p).node.applied

/-- From a successful push until the next one: the slot waits, or a poll has looked at it. -/
structure Pending (p : Nat) (config : FlightConfig F) (n : Nat) : Prop where
  active : (run.after n).telemetry.activeConfig = (run.after p).telemetry.candidate config
  slot : (run.after n).region.config = (run.after p).telemetry.nextConfigSlot config
  looked : ((run.after n).rt.last.config = (run.after p).rt.last.config ∧
      (run.after n).node.applied = (run.after p).node.applied) ∨
    (accepts (run.after n).region.config (run.after n).rt.last.config = false ∧
      (run.after n).node.applied = run.outcomeOf p config)

/-- A successful push leaves its slot waiting. -/
theorem pending_of_succeeds (succeeds : run.SucceedsAt p config) :
    run.Pending p config (p + 1) := by
  obtain ⟨outcome, happened, pushed⟩ := succeeds
  -- A push that returns true has written its slot and made its candidate active.
  obtain ⟨active, -, region⟩ := TelemetryNode.pushConfig_success (run.after_calm p).marked pushed
  have next := run.after_succ p
  rw [happened] at next
  refine ⟨?_, ?_, Or.inl ⟨?_, ?_⟩⟩
  · rw [next]
    exact active
  · rw [next]
    exact congrArg SharedCommandRegion.config region
  · rw [next]
    rfl
  · rw [next]
    rfl

/-- A poll looks at the slot, and takes it over exactly if its number is above the last one. -/
theorem Pending.poll [OrderedLiterals F] {run : ConfigRun F} (pending : run.Pending p config n)
    (polls : run.PollsAt n) : run.Pending p config (n + 1) ∧
      (run.after (n + 1)).node.applied = run.outcomeOf p config := by
  obtain ⟨nowUs, happened⟩ := polls
  have spec : ConfigLink.PollSpec (run.after n) (run.after (n + 1)) := by
    rw [run.after_succ, happened]
    exact ConfigLink.step_poll (run.after_calm n) nowUs
  -- Taken over or not, the slot is not accepted a second time.
  have refused : accepts (run.after (n + 1)).region.config
      (run.after (n + 1)).rt.last.config = false := by
    rw [spec.region, spec.config]
    cases accepted : accepts (run.after n).region.config (run.after n).rt.last.config with
    | true =>
      rw [if_pos rfl]
      exact accepts_again _
    | false =>
      rw [if_neg Bool.false_ne_true]
      exact accepted
  have applied : (run.after (n + 1)).node.applied = run.outcomeOf p config := by
    rw [spec.applied]
    rcases pending.looked with ⟨last, still⟩ | ⟨before, settled⟩
    · -- The slot is looked at for the first time.
      have accepted : accepts (run.after n).region.config (run.after n).rt.last.config = true ↔
          (run.after p).rt.last.config < (run.after p).telemetry.nextConfigSeq config := by
        rw [pending.slot, last]
        exact accepts_publishSlot _ _ _
      unfold outcomeOf
      by_cases above : (run.after p).rt.last.config < (run.after p).telemetry.nextConfigSeq config
      · rw [if_pos above, if_pos (accepted.mpr above), pending.slot]
        exact FlightRtNode.applied_limited _ config _
      · rw [if_neg above, if_neg (fun taken => above (accepted.mp taken))]
        exact still
    · -- It was looked at before, and its number is the last one accepted or below it.
      rw [if_neg (by rw [before]; exact Bool.false_ne_true)]
      exact settled
  refine ⟨⟨?_, ?_, Or.inr ⟨refused, applied⟩⟩, applied⟩
  · rw [spec.telemetry]
    exact pending.active
  · rw [spec.region]
    exact pending.slot

/-- As long as nothing is pushed, the slot stays as the last push left it. -/
theorem pending_until [OrderedLiterals F] (succeeds : run.SucceedsAt p config) (order : p + 1 ≤ q)
    (quiet : ∀ k, p < k → k < q → ¬ run.PushesAt k) : run.Pending p config q := by
  -- The induction is on the later index, and no event of the stretch is a push.
  induction q, order using Nat.le_induction with
  | base => exact run.pending_of_succeeds succeeds
  | succ q order ih =>
    have pending := ih (fun k above below => quiet k above (by omega))
    cases happened : run.event q with
    -- Nothing is pushed before `q`.
    | push config outcome => exact absurd ⟨config, outcome, happened⟩ (quiet q order (by omega))
    -- A doorbell changes the ring only.
    | doorbell cmdId seqHint =>
      have next := run.after_succ q
      rw [happened] at next
      refine ⟨?_, ?_, ?_⟩
      · rw [next]
        exact pending.active
      · rw [next]
        exact pending.slot
      · rw [next]
        exact pending.looked
    | poll nowUs => exact (pending.poll ⟨nowUs, happened⟩).1

/--
After a successful push and a poll both cores agree exactly if the poll could take the slot over.

The number of the push has to lie above the one the realtime core accepted last, unless that core
happens to fly with the pushed values already.
-/
theorem agrees_iff [OrderedLiterals F] (succeeds : run.SucceedsAt p config) (order : p < q)
    (quiet : ∀ k, p < k → k < q → ¬ run.PushesAt k) (polls : run.PollsAt q) :
    run.AgreesAt (q + 1) ↔
      (run.after p).rt.last.config < (run.after p).telemetry.nextConfigSeq config ∨
        (run.after p).node.applied = (TelemetryNode.limited config).asApplied := by
  obtain ⟨pending, applied⟩ := (run.pending_until succeeds order quiet).poll polls
  have active : (run.after (q + 1)).telemetry.activeConfig.asApplied =
      (TelemetryNode.limited config).asApplied := by
    rw [pending.active]
    rfl
  -- Linux takes the pushed values as active, so the outcome of the poll decides.
  unfold AgreesAt
  rw [applied, active, outcomeOf]
  by_cases above : (run.after p).rt.last.config < (run.after p).telemetry.nextConfigSeq config
  · rw [if_pos above]
    exact ⟨fun _ => Or.inl above, fun _ => rfl⟩
  · rw [if_neg above]
    exact ⟨Or.inr, fun agrees => agrees.resolve_left above⟩

/-- Two configurations pushed and polled in turn, the first under an open acknowledgement. -/
def pushBench (acknowledged : Bool) : ConfigRun ℚ where
  start :=
    { telemetry := .constructed { mode := .live }
      region := freshRegion
      rt := .constructed
      node := .constructed }
  calm := ⟨by decide, by decide⟩
  event
    | 0 => .push { defaultFlightConfig with angleP := 6 } ⟨true, acknowledged⟩
    | 1 => .poll 1000
    | 2 => .push { defaultFlightConfig with angleP := 7 } ⟨true, true⟩
    | _ => .poll 2000

/-- With every send acknowledged, both sides of the bench agree in the end. -/
theorem agrees_iff_pushBench : (pushBench true).AgreesAt 4 := by
  have succeeds : (pushBench true).SucceedsAt 2 { defaultFlightConfig with angleP := 7 } :=
    ⟨⟨true, true⟩, rfl, by decide +kernel⟩
  have quiet : ∀ k, 2 < k → k < 3 → ¬ (pushBench true).PushesAt k := by
    intro k above below
    omega
  have agrees := (pushBench true).agrees_iff succeeds (by decide) quiet ⟨2000, rfl⟩
  exact agrees.mpr (Or.inl (by decide +kernel))

/-- The push that failed was taken over, so the next one repeats its number and is refused. -/
theorem not_agrees_pushBench : ∃ config, (pushBench false).SucceedsAt 2 config ∧
    (pushBench false).PollsAt 3 ∧ (∀ k, 2 < k → k < 3 → ¬ (pushBench false).PushesAt k) ∧
    ¬ (pushBench false).AgreesAt 4 := by
  refine ⟨{ defaultFlightConfig with angleP := 7 }, ⟨⟨true, true⟩, rfl, by decide +kernel⟩,
    ⟨2000, rfl⟩, ?_, ?_⟩
  · intro k above below
    omega
  · intro agrees
    -- The realtime core still flies with the first angle gain.
    have gain : (6 : ℚ) = 7 := by
      have first : ((pushBench false).after 4).node.controller.activeConfig.angleP = 6 := by
        decide +kernel
      have second : ((pushBench false).after 4).telemetry.activeConfig.angleP = 7 := by
        decide +kernel
      rw [← first, ← second]
      exact congrArg (fun applied => applied.gains.1) agrees
    norm_num at gain

/-- A run whose polls take over nothing but the configuration that Linux counts as active. -/
structure Faithful : Prop where
  fresh : run.start.rt.last.config = 0
  numbered : ∀ n, (run.after n).telemetry.activeConfig.updateSeq + 1 ≠ 0
  polls : ∀ n, run.PollsAt n →
    accepts (run.after n).region.config (run.after n).rt.last.config = true →
      (run.after n).telemetry.configSent = true ∧
        (run.after n).region.config.seq = (run.after n).telemetry.activeConfig.updateSeq

/-- In such a run the last number taken over is never ahead of the active configuration's. -/
theorem last_le_sentSeq (faithful : run.Faithful) (n : Nat) :
    (run.after n).rt.last.config ≤ (run.after n).telemetry.sentSeq := by
  -- The induction is on the events: pushes raise the bound, and polls take over what it allows.
  induction n with
  | zero =>
    have fresh : (run.after 0).rt.last.config = 0 := faithful.fresh
    rw [fresh]
    exact UInt32.zero_le
  | succ n ih =>
    have next := run.after_succ n
    cases happened : run.event n with
    | push config outcome =>
      rw [happened] at next
      rw [next]
      cases pushed : ((run.after n).telemetry.pushConfig (run.after n).region config outcome).1 with
      -- A push that succeeds raises the number sent, and one that fails leaves it.
      | true => exact UInt32.le_trans ih (TelemetryNode.sentSeq_le_success
          (run.after_calm n).marked pushed (faithful.numbered n))
      | false => exact UInt32.le_trans ih (UInt32.le_of_eq
          (TelemetryNode.sentSeq_failure pushed).symm)
    | doorbell cmdId seqHint =>
      rw [happened] at next
      rw [next]
      exact ih
    | poll nowUs =>
      have spec : ConfigLink.PollSpec (run.after n) (run.after (n + 1)) := by
        rw [next, happened]
        exact ConfigLink.step_poll (run.after_calm n) nowUs
      rw [spec.telemetry, spec.config]
      split
      · -- What is taken over carries the number of the active configuration.
        rename_i taken
        obtain ⟨sent, number⟩ := faithful.polls n ⟨nowUs, happened⟩ taken
        rw [number, TelemetryNode.sentSeq, if_pos sent]
        exact UInt32.le_refl _
      · exact ih

/-- In such a run both cores agree after every successful push that a poll has followed. -/
theorem agrees_of_faithful [OrderedLiterals F] (faithful : run.Faithful)
    (succeeds : run.SucceedsAt p config) (order : p < q)
    (quiet : ∀ k, p < k → k < q → ¬ run.PushesAt k) (polls : run.PollsAt q) :
    run.AgreesAt (q + 1) := by
  obtain ⟨pending, applied⟩ := (run.pending_until succeeds order quiet).poll polls
  -- The next number is above the one sent, which bounds the last one taken over.
  have above : (run.after p).rt.last.config < (run.after p).telemetry.nextConfigSeq config :=
    UInt32.lt_of_le_of_lt (run.last_le_sentSeq faithful p)
      (TelemetryNode.sentSeq_lt_next config (faithful.numbered p))
  unfold AgreesAt
  rw [applied, pending.active, outcomeOf, if_pos above]
  rfl

end ConfigRun

end AmpFc
