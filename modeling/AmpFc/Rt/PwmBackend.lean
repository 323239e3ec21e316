import AmpFc.Rt.FlightRtNode

/-! The PWM backend behind the actuator: which channels a stop reaches when some of them refuse. -/

namespace AmpFc

/-- The part of `PwmOutputConfig` that decides what is driven. -/
structure PwmOutputConfig where
  channels : Vector Int 4 := #v[0, 1, 2, 3]
  periodNs : Nat := 2500000

/-- The high time of every hardware channel, in nanoseconds. -/
abbrev PwmDuties := Nat → Nat

/-- Which calls of one moment the board answers with zero, by hardware channel and argument. -/
structure HalAnswers where
  init : Nat → Nat → Bool
  setDuty : Nat → Nat → Bool
  enable : Nat → Bool → Bool

/-- The order of the loops over the motors. -/
def motorOrder : List (Fin 4) := [0, 1, 2, 3]

/-- `hal_pwm_set_duty`, which leaves the duty alone when it fails. -/
def halPwmSetDuty (answers : HalAnswers) (duties : PwmDuties) (channel highTimeNs : Nat) :
    Bool × PwmDuties :=
  -- A refused call has no effect on the board.
  if answers.setDuty channel highTimeNs then (true, Function.update duties channel highTimeNs)
  else (false, duties)

namespace PwmOutputConfig

/-- The hardware channel of a motor. -/
def hardwareChannel (config : PwmOutputConfig) (index : Fin 4) : Nat :=
  (config.channels.get index).toNat

/-- `high_time_ns` of a pulse. -/
def highTimeNs (pwmUs : UInt16) : Nat := max 1000 (min pwmUs.toNat 2000) * 1000

/-- `RtosPwmBackend::setChannelPwm`: whether it succeeded, and the duties after it. -/
def setChannelPwm (config : PwmOutputConfig) (answers : HalAnswers) (duties : PwmDuties)
    (index : Fin 4) (pwmUs : UInt16) : Bool × PwmDuties :=
  -- A motor without a channel is refused before the board is asked.
  if config.channels.get index < 0 then (false, duties)
  else halPwmSetDuty answers duties (config.hardwareChannel index) (highTimeNs pwmUs)

/-- The loop of `RtosPwmBackend::write`, over the motors that are left. -/
def writeFrom (config : PwmOutputConfig) (answers : HalAnswers) (pwmUs : MotorPwm) :
    List (Fin 4) → PwmDuties → Bool × PwmDuties
  | [], duties => (true, duties)
  | index :: rest, duties =>
    let set := config.setChannelPwm answers duties index (pwmUs.get index)
    -- The first motor that fails ends the loop.
    if !set.1 then (false, set.2) else config.writeFrom answers pwmUs rest set.2

/-- `RtosPwmBackend::write`. -/
def write (config : PwmOutputConfig) (answers : HalAnswers) (duties : PwmDuties)
    (pwmUs : MotorPwm) : Bool × PwmDuties :=
  config.writeFrom answers pwmUs motorOrder duties

/-- `RtosPwmBackend::configureChannel`. -/
def configureChannel (config : PwmOutputConfig) (answers : HalAnswers) (duties : PwmDuties)
    (index : Fin 4) (initPwmUs : UInt16) : Bool × PwmDuties :=
  let channel := config.hardwareChannel index
  if config.channels.get index < 0 then (false, duties)
  else if !answers.init channel config.periodNs then (false, duties)
  else if !answers.enable channel false then (false, duties)
  else
    -- The pulse is set while the channel is still disabled.
    let set := config.setChannelPwm answers duties index initPwmUs
    if !set.1 then (false, set.2) else (answers.enable channel true, set.2)

/-- The loop of `RtosPwmBackend::init`, over the motors that are left. -/
def configureFrom (config : PwmOutputConfig) (answers : HalAnswers) :
    List (Fin 4) → PwmDuties → Bool × PwmDuties
  | [], duties => (true, duties)
  | index :: rest, duties =>
    let configured := config.configureChannel answers duties index pwmMinUs
    if !configured.1 then (false, configured.2)
    else config.configureFrom answers rest configured.2

/-- `RtosPwmBackend::hasDuplicateChannels`. -/
def hasDuplicateChannels (config : PwmOutputConfig) : Bool :=
  motorOrder.any fun left => motorOrder.any fun right =>
    left < right && config.channels.get left == config.channels.get right

/-- `RtosPwmBackend::init`. -/
def init (config : PwmOutputConfig) (answers : HalAnswers) (duties : PwmDuties) :
    Bool × PwmDuties :=
  if config.hasDuplicateChannels then (false, duties)
  else config.configureFrom answers motorOrder duties

/-- `Actuator::init` over this backend: its initialisation, and then a stop. -/
def actuatorInit (config : PwmOutputConfig) (opening stopping : HalAnswers) (duties : PwmDuties) :
    Bool × PwmDuties :=
  -- The stop is sent only behind a successful start.
  let opened := config.init opening duties
  if !opened.1 then opened else config.write stopping opened.2 idlePwm

/-- Whether the `set_duty` call of a motor succeeds for a pulse. -/
def accepts (config : PwmOutputConfig) (answers : HalAnswers) (index : Fin 4) (pwmUs : UInt16) :
    Bool :=
  0 ≤ config.channels.get index &&
    answers.setDuty (config.hardwareChannel index) (highTimeNs pwmUs)

end PwmOutputConfig

/-- A call through which the node drives the motors. -/
inductive MotorCall where
  | output (pwmUs : MotorPwm)
  | enterFailsafe

/-- A call with what the board answers while it lasts. -/
structure MotorEvent where
  call : MotorCall
  answers : HalAnswers

/-- The node with a backend, and the duties of the board it drives. -/
structure DrivenNode (F : Type) where
  node : FlightRtNode F
  duties : PwmDuties
  backed : node.actuator.hasBackend = true

namespace DrivenNode

variable {F : Type} [FloatArith F]

/-- `Actuator::output`, down to the board; the pulses are kept whatever the board answers. -/
def output (config : PwmOutputConfig) (driven : DrivenNode F) (answers : HalAnswers)
    (pwmUs : MotorPwm) : DrivenNode F where
  node := { driven.node with actuator := driven.node.actuator.output pwmUs }
  duties := (config.write answers driven.duties pwmUs).2
  backed := by
    rw [Actuator.output_hasBackend]
    exact driven.backed

/-- `FlightRtNode::enterFailsafe`, down to the board. -/
def enterFailsafe (config : PwmOutputConfig) (driven : DrivenNode F) (answers : HalAnswers) :
    DrivenNode F where
  node := driven.node.enterFailsafe
  duties := (config.write answers driven.duties idlePwm).2
  backed := by
    show driven.node.actuator.stop.hasBackend = true
    rw [Actuator.stop_hasBackend]
    exact driven.backed

/-- One call. -/
def perform (config : PwmOutputConfig) (driven : DrivenNode F) (event : MotorEvent) :
    DrivenNode F :=
  match event.call with
  | .output pwmUs => driven.output config event.answers pwmUs
  | .enterFailsafe => driven.enterFailsafe config event.answers

end DrivenNode

section Write

variable {config : PwmOutputConfig} {answers : HalAnswers}

/-- Setting a channel succeeds exactly if the call is accepted, and then changes that channel. -/
theorem setChannelPwm_eq (duties : PwmDuties) (index : Fin 4) (pwmUs : UInt16) :
    config.setChannelPwm answers duties index pwmUs =
      if config.accepts answers index pwmUs then
        (true, Function.update duties (config.hardwareChannel index)
          (PwmOutputConfig.highTimeNs pwmUs))
      else (false, duties) := by
  unfold PwmOutputConfig.setChannelPwm PwmOutputConfig.accepts halPwmSetDuty
  -- A negative channel is refused by both sides.
  by_cases negative : config.channels.get index < 0
  · have below : ¬ 0 ≤ config.channels.get index := by omega
    simp [negative, below]
  · have above : 0 ≤ config.channels.get index := by omega
    simp [negative, above]

/-- The motors of a list are driven through different channels. -/
def SeparateChannels (config : PwmOutputConfig) (motors : List (Fin 4)) : Prop :=
  (motors.map config.hardwareChannel).Nodup

/-- The loop leaves alone the channels that none of its motors uses. -/
theorem writeFrom_other {pwmUs : MotorPwm} {channel : Nat} (motors : List (Fin 4)) :
    ∀ duties : PwmDuties, channel ∉ motors.map config.hardwareChannel →
      (config.writeFrom answers pwmUs motors duties).2 channel = duties channel := by
  induction motors with
  | nil =>
    intro duties _
    rfl
  | cons index rest ih =>
    intro duties other
    simp only [List.map_cons, List.mem_cons, not_or] at other
    rw [PwmOutputConfig.writeFrom, setChannelPwm_eq]
    -- Either the loop ends here without a change, or it goes on behind a change elsewhere.
    split
    · simp only [Bool.not_true, Bool.false_eq_true, if_false]
      rw [ih _ other.2, Function.update_of_ne other.1]
    · simp

/-- A motor is reached if it and all motors in front of it accept, and is left alone otherwise. -/
theorem writeFrom_duty {pwmUs : MotorPwm} {motor : Fin 4} (motors : List (Fin 4)) :
    ∀ duties : PwmDuties, SeparateChannels config motors → motor ∈ motors →
      (config.writeFrom answers pwmUs motors duties).2 (config.hardwareChannel motor) =
        if (∀ earlier ∈ motors.takeWhile (· ≠ motor),
            config.accepts answers earlier (pwmUs.get earlier) = true) ∧
            config.accepts answers motor (pwmUs.get motor) = true then
          PwmOutputConfig.highTimeNs (pwmUs.get motor)
        else duties (config.hardwareChannel motor) := by
  induction motors with
  | nil =>
    intro duties _ member
    exact absurd member List.not_mem_nil
  | cons index rest ih =>
    intro duties separate member
    obtain ⟨apart, separateRest⟩ := List.nodup_cons.mp separate
    rw [PwmOutputConfig.writeFrom, setChannelPwm_eq]
    by_cases here : index = motor
    · -- The motor itself: what follows it does not use its channel.
      subst here
      by_cases accepted : config.accepts answers index (pwmUs.get index) = true
      · simp [accepted, writeFrom_other rest _ apart]
      · simp [accepted]
    · -- Another motor in front of it: the loop ends with it, or goes on behind it.
      have later : motor ∈ rest := (List.mem_cons.mp member).resolve_left (Ne.symm here)
      have elsewhere : config.hardwareChannel motor ≠ config.hardwareChannel index := by
        intro same
        exact apart (same ▸ List.mem_map_of_mem later)
      by_cases accepted : config.accepts answers index (pwmUs.get index) = true
      · simp only [accepted, if_true, Bool.not_true, Bool.false_eq_true, if_false]
        rw [ih _ separateRest later, Function.update_of_ne elsewhere]
        simp [here, accepted]
      · simp [accepted, here]

/-- The motors in front of a motor are those with a smaller index. -/
theorem mem_takeWhile_motorOrder (motor earlier : Fin 4) :
    earlier ∈ motorOrder.takeWhile (· ≠ motor) ↔ earlier < motor := by
  revert motor earlier
  decide

/-- Every motor has its turn. -/
theorem mem_motorOrder (motor : Fin 4) : motor ∈ motorOrder := by
  revert motor
  decide

end Write

section Opening

variable {config : PwmOutputConfig} {answers : HalAnswers}

/-- Every motor that was configured has a channel that is not negative. -/
theorem configureFrom_channels (motors : List (Fin 4)) :
    ∀ duties : PwmDuties, (config.configureFrom answers motors duties).1 = true →
      ∀ motor ∈ motors, 0 ≤ config.channels.get motor := by
  induction motors with
  | nil =>
    intro duties _ motor member
    exact absurd member List.not_mem_nil
  | cons index rest ih =>
    intro duties configured motor member
    rw [PwmOutputConfig.configureFrom] at configured
    -- The loop ends with the first motor that cannot be configured.
    cases first : (config.configureChannel answers duties index pwmMinUs).1 with
    | false => simp [first] at configured
    | true =>
      simp only [first, Bool.not_true, Bool.false_eq_true, if_false] at configured
      rcases List.mem_cons.mp member with rfl | later
      -- The first motor: a negative channel is turned down at once.
      · by_contra negative
        simp [PwmOutputConfig.configureChannel, not_le.mp negative] at first
      · exact ih _ configured motor later

/-- A backend that came up drives every motor through a channel of its own. -/
theorem separateChannels_of_init {duties : PwmDuties}
    (ready : (config.init answers duties).1 = true) : SeparateChannels config motorOrder := by
  unfold PwmOutputConfig.init at ready
  cases duplicate : config.hasDuplicateChannels with
  | true => simp [duplicate] at ready
  | false =>
    simp only [duplicate, Bool.false_eq_true, if_false] at ready
    -- The check for duplicates compares every pair once.
    have apart : ∀ left right : Fin 4, left < right →
        config.channels.get left ≠ config.channels.get right := by
      intro left right order same
      have found : config.hasDuplicateChannels = true := by
        refine List.any_eq_true.mpr ⟨left, mem_motorOrder left, ?_⟩
        exact List.any_eq_true.mpr ⟨right, mem_motorOrder right, by simp [order, same]⟩
      rw [duplicate] at found
      cases found
    apply List.Nodup.map_on
    · intro left first right second same
      -- Channels that are not negative differ as natural numbers as well.
      have one := configureFrom_channels motorOrder duties ready left first
      have two := configureFrom_channels motorOrder duties ready right second
      have channels : config.channels.get left = config.channels.get right := by
        unfold PwmOutputConfig.hardwareChannel at same
        omega
      rcases lt_trichotomy left right with below | equal | above
      · exact absurd channels (apart left right below)
      · exact equal
      · exact absurd channels.symm (apart right left above)
    · decide

/-- So does an actuator that came up. -/
theorem separateChannels_of_actuatorInit {opening stopping : HalAnswers} {duties : PwmDuties}
    (ready : (config.actuatorInit opening stopping duties).1 = true) :
    SeparateChannels config motorOrder := by
  -- The stop behind it does not touch the configuration.
  cases opened : (config.init opening duties).1 with
  | true => exact separateChannels_of_init opened
  | false => simp [PwmOutputConfig.actuatorInit, opened] at ready

end Opening

/-- One thousand microseconds of high time. -/
def stoppedNs : Nat := 1000000

section Stop

variable {config : PwmOutputConfig}

/-- A stop reaches a motor exactly if it and all motors in front of it accept. -/
theorem write_idle_duty (separate : SeparateChannels config motorOrder) (answers : HalAnswers)
    (duties : PwmDuties) (motor : Fin 4) :
    (config.write answers duties idlePwm).2 (config.hardwareChannel motor) =
      if (∀ earlier < motor, config.accepts answers earlier pwmMinUs = true) ∧
          config.accepts answers motor pwmMinUs = true then stoppedNs
      else duties (config.hardwareChannel motor) := by
  -- Every motor gets the same pulse, and the motors in front are those with smaller index.
  have idle : ∀ index : Fin 4, idlePwm.get index = pwmMinUs := by decide
  have high : PwmOutputConfig.highTimeNs pwmMinUs = stoppedNs := by decide
  unfold PwmOutputConfig.write
  rw [writeFrom_duty motorOrder duties separate (mem_motorOrder motor)]
  simp only [mem_takeWhile_motorOrder, idle, high]

variable {F : Type} [FloatArith F]

/-- The node and its board after a number of calls. -/
def drivenAt (config : PwmOutputConfig) (start : DrivenNode F) (event : Nat → MotorEvent) :
    Nat → DrivenNode F :=
  stateAt (DrivenNode.perform config) start event

/-- After every failsafe, each motor whose own call would succeed is at a thousand microseconds. -/
def StopsEveryMotor (config : PwmOutputConfig) (start : DrivenNode F)
    (event : Nat → MotorEvent) : Prop :=
  ∀ n, (event n).call = .enterFailsafe → ∀ motor,
    config.accepts (event n).answers motor pwmMinUs = true →
    (drivenAt config start event (n + 1)).duties (config.hardwareChannel motor) = stoppedNs

/--
No failsafe finds a motor to stop behind one that refuses.

Behind a motor whose call fails, every motor whose own call would succeed is stopped already.
-/
def NoneBehindRefusal (config : PwmOutputConfig) (start : DrivenNode F)
    (event : Nat → MotorEvent) : Prop :=
  ∀ n, (event n).call = .enterFailsafe → ∀ earlier motor, earlier < motor →
    config.accepts (event n).answers earlier pwmMinUs = false →
    config.accepts (event n).answers motor pwmMinUs = true →
    (drivenAt config start event n).duties (config.hardwareChannel motor) = stoppedNs

/-- What a failsafe leaves on the board. -/
theorem drivenAt_failsafe (start : DrivenNode F) {event : Nat → MotorEvent} {n : Nat}
    (failsafe : (event n).call = .enterFailsafe) :
    (drivenAt config start event (n + 1)).duties =
      (config.write (event n).answers (drivenAt config start event n).duties idlePwm).2 := by
  show (DrivenNode.perform config (drivenAt config start event n) (event n)).duties = _
  rw [DrivenNode.perform, failsafe]
  rfl

/--
Every failsafe stops every motor it can, exactly in the histories without a motor to stop behind
one that refuses.
-/
theorem stopsEveryMotor_iff {opening stopping : HalAnswers} {duties : PwmDuties}
    (ready : (config.actuatorInit opening stopping duties).1 = true) (start : DrivenNode F)
    (event : Nat → MotorEvent) :
    StopsEveryMotor config start event ↔ NoneBehindRefusal config start event := by
  have separate := separateChannels_of_actuatorInit ready
  constructor
  · intro stops n failsafe earlier motor order refused accepted
    have stopped := stops n failsafe motor accepted
    -- The loop ended in front of the motor, so it was stopped before.
    have unreached : ¬ ((∀ earlier < motor,
        config.accepts (event n).answers earlier pwmMinUs = true) ∧
        config.accepts (event n).answers motor pwmMinUs = true) := by
      intro reached
      have agreed := reached.1 earlier order
      rw [refused] at agreed
      cases agreed
    rw [drivenAt_failsafe start failsafe, write_idle_duty separate, if_neg unreached] at stopped
    exact stopped
  · intro calm n failsafe motor accepted
    rw [drivenAt_failsafe start failsafe, write_idle_duty separate]
    split
    · rfl
    · -- Some motor in front refused.
      rename_i unreached
      have refusal : ∃ earlier, earlier < motor ∧
          config.accepts (event n).answers earlier pwmMinUs = false := by
        by_contra none
        apply unreached
        refine ⟨?_, accepted⟩
        intro earlier order
        by_contra refused
        exact none ⟨earlier, order, Bool.eq_false_iff.mpr refused⟩
      obtain ⟨earlier, order, refused⟩ := refusal
      exact calm n failsafe earlier motor order refused accepted

end Stop

section Bench

/-- The channels that `main` configures. -/
def boardConfig : PwmOutputConfig := { channels := #v[7, 6, 10, 11] }

/-- A board on which every call succeeds. -/
def healthyBoard : HalAnswers := ⟨fun _ _ => true, fun _ _ => true, fun _ _ => true⟩

/-- The same board, once the channel of the first motor has failed. -/
def firstChannelLost : HalAnswers := { healthyBoard with setDuty := fun channel _ => channel ≠ 7 }

/-- The node behind an actuator that came up on the healthy board. -/
def drivenBench : DrivenNode ℚ where
  node := FlightRtNode.constructed
  duties := (boardConfig.actuatorInit healthyBoard healthyBoard fun _ => 0).2
  backed := rfl

/-- All motors spin, and then a failsafe meets the lost channel. -/
def lostChannelBench : Nat → MotorEvent
  | 0 => ⟨.output (.replicate 4 1300), healthyBoard⟩
  | _ => ⟨.enterFailsafe, firstChannelLost⟩

/-- All motors spin, and then a failsafe meets the healthy board. -/
def healthyBench : Nat → MotorEvent
  | 0 => ⟨.output (.replicate 4 1300), healthyBoard⟩
  | _ => ⟨.enterFailsafe, healthyBoard⟩

/-- Behind the lost channel the other three motors keep spinning. -/
theorem not_stopsEveryMotor_lostChannel :
    ¬ StopsEveryMotor boardConfig drivenBench lostChannelBench := by
  intro stops
  have second := stops 1 rfl 1 (by decide)
  revert second
  decide

/-- On the healthy board every failsafe stops every motor. -/
theorem stopsEveryMotor_iff_healthy : StopsEveryMotor boardConfig drivenBench healthyBench := by
  have ready : (boardConfig.actuatorInit healthyBoard healthyBoard fun _ => 0).1 = true := by
    decide
  have accepted : ∀ index, boardConfig.accepts healthyBoard index pwmMinUs = true := by decide
  apply (stopsEveryMotor_iff ready drivenBench healthyBench).mpr
  intro n failsafe earlier motor _ refused _
  -- No channel of this board refuses.
  cases n with
  | zero => cases failsafe
  | succ n =>
    rw [show (healthyBench (n + 1)).answers = healthyBoard by rfl, accepted] at refused
    cases refused

end Bench

end AmpFc
