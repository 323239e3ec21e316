import AmpFc.Rt.PwmBackend

/-! The board port under the PWM backend: what each motor's channel is told, in timer ticks. -/

namespace AmpFc

/-- `kPwmClockHz`. -/
def pwmClockHz : UInt64 := 100000000

/-- `nsToPwmTicks`, which rounds up and never comes out as zero. -/
def nsToPwmTicks (durationNs : UInt32) : UInt32 :=
  let ticks := (durationNs.toUInt64 * pwmClockHz + 999999999) / 1000000000
  (if ticks = 0 then 1 else ticks).toUInt32

/-- `pwm_configuration_t` of the SDK. -/
structure SdkPwmConfiguration where
  pwmId : UInt8
  channel : UInt32
  period : UInt32
  pulse : UInt32
  deriving DecidableEq, Repr

/-- A call into the SDK, with the configuration it is given. -/
inductive SdkPwmCall where
  | pwmInit (cfg : SdkPwmConfiguration)
  | pwmSetOutputCfg (cfg : SdkPwmConfiguration)
  deriving DecidableEq, Repr

/-- The configuration of a call. -/
def SdkPwmCall.cfg : SdkPwmCall → SdkPwmConfiguration
  | .pwmInit cfg => cfg
  | .pwmSetOutputCfg cfg => cfg

/-- `kMaxPwmChannel`. -/
abbrev maxPwmChannel : Nat := 16

/-- `kPwmChannelsPerBank`. -/
def pwmChannelsPerBank : Nat := 4

/-- The port's tables, and the SDK calls it has made so far. -/
structure BoardPwm where
  periodNs : Vector UInt32 maxPwmChannel := .replicate maxPwmChannel 0
  ready : Vector Bool maxPwmChannel := .replicate maxPwmChannel false
  calls : List SdkPwmCall := []

namespace BoardPwm

/-- The configuration of a channel, by its bank and its place in the bank. -/
def configuration (channel : Nat) (period pulse : UInt32) : SdkPwmConfiguration where
  pwmId := UInt8.ofNat (channel / pwmChannelsPerBank)
  channel := UInt32.ofNat (channel % pwmChannelsPerBank)
  period := period
  pulse := pulse

/-- `hal_board_pwm_init`: whether it returned zero, and the port after it. -/
def init (board : BoardPwm) (channel : Nat) (periodNs : UInt32) : Bool × BoardPwm :=
  if bound : channel < maxPwmChannel then
    -- A channel starts with one millisecond.
    (true,
      { periodNs := board.periodNs.set channel periodNs
        ready := board.ready.set channel true
        calls := board.calls ++
          [.pwmInit (configuration channel (nsToPwmTicks periodNs) (nsToPwmTicks 1000000))] })
  else (false, board)

/-- `hal_board_pwm_set_duty`. -/
def setDuty (board : BoardPwm) (channel : Nat) (highTimeNs : UInt32) : Bool × BoardPwm :=
  if board.ready[channel]?.getD false then
    (true, { board with calls := board.calls ++ [.pwmSetOutputCfg (configuration channel
      (nsToPwmTicks (board.periodNs[channel]?.getD 0)) (nsToPwmTicks highTimeNs))] })
  else (false, board)

/-- `hal_board_pwm_enable`, which only has something to do when it disables. -/
def enable (board : BoardPwm) (channel : Nat) (enable : Bool) : Bool × BoardPwm :=
  if board.ready[channel]?.getD false then
    if !enable then
      (true, { board with calls := board.calls ++ [.pwmSetOutputCfg (configuration channel
        (nsToPwmTicks (board.periodNs[channel]?.getD 0)) 0)] })
    else (true, board)
  else (false, board)

/-- `RtosPwmBackend::setChannelPwm` over the port. -/
def setChannelPwm (config : PwmOutputConfig) (board : BoardPwm) (index : Fin 4)
    (pwmUs : UInt16) : Bool × BoardPwm :=
  if config.channels.get index < 0 then (false, board)
  else board.setDuty (config.hardwareChannel index)
    (UInt32.ofNat (PwmOutputConfig.highTimeNs pwmUs))

/-- The loop of `RtosPwmBackend::write` over the port, over the motors that are left. -/
def writeFrom (config : PwmOutputConfig) (pwmUs : MotorPwm) :
    List (Fin 4) → BoardPwm → Bool × BoardPwm
  | [], board => (true, board)
  | index :: rest, board =>
    let written := board.setChannelPwm config index (pwmUs.get index)
    if !written.1 then (false, written.2) else writeFrom config pwmUs rest written.2

/-- `RtosPwmBackend::write` over the port. -/
def write (config : PwmOutputConfig) (board : BoardPwm) (pwmUs : MotorPwm) : Bool × BoardPwm :=
  writeFrom config pwmUs motorOrder board

/-- `RtosPwmBackend::configureChannel` over the port. -/
def configureChannel (config : PwmOutputConfig) (board : BoardPwm) (index : Fin 4)
    (initPwmUs : UInt16) : Bool × BoardPwm :=
  let channel := config.hardwareChannel index
  if config.channels.get index < 0 then (false, board)
  else
    -- Each call is made only behind one that returned zero.
    let opened := board.init channel (UInt32.ofNat config.periodNs)
    if !opened.1 then opened
    else
      let disabled := opened.2.enable channel false
      if !disabled.1 then disabled
      else
        let written := disabled.2.setChannelPwm config index initPwmUs
        if !written.1 then written else written.2.enable channel true

/-- The loop of `RtosPwmBackend::init` over the port, over the motors that are left. -/
def configureFrom (config : PwmOutputConfig) : List (Fin 4) → BoardPwm → Bool × BoardPwm
  | [], board => (true, board)
  | index :: rest, board =>
    let configured := board.configureChannel config index pwmMinUs
    if !configured.1 then (false, configured.2) else configureFrom config rest configured.2

/-- `RtosPwmBackend::init` over the port. -/
def backendInit (config : PwmOutputConfig) (board : BoardPwm) : Bool × BoardPwm :=
  if config.hasDuplicateChannels then (false, board)
  else configureFrom config motorOrder board

/-- `Actuator::init` over the port. -/
def actuatorInit (config : PwmOutputConfig) (board : BoardPwm) : Bool × BoardPwm :=
  let opened := board.backendInit config
  if !opened.1 then opened else opened.2.write config idlePwm

/-- The configuration is one of a channel. -/
def isFor (channel : Nat) (cfg : SdkPwmConfiguration) : Bool :=
  cfg.pwmId == UInt8.ofNat (channel / pwmChannelsPerBank) &&
    cfg.channel == UInt32.ofNat (channel % pwmChannelsPerBank)

/-- The configuration that the SDK was given last for a channel. -/
def told (board : BoardPwm) (channel : Nat) : Option SdkPwmConfiguration :=
  ((board.calls.map SdkPwmCall.cfg).filter (isFor channel)).getLast?

/-- A call of the node's actuator, down to the port. -/
def perform (config : PwmOutputConfig) (board : BoardPwm) : MotorCall → BoardPwm
  | .output pwmUs => (board.write config pwmUs).2
  | .enterFailsafe => (board.write config idlePwm).2

end BoardPwm

section Ticks

/-- Ten nanoseconds make a tick, and a part of a tick counts whole. -/
theorem toNat_nsToPwmTicks (durationNs : UInt32) :
    (nsToPwmTicks durationNs).toNat = max 1 ((durationNs.toNat + 9) / 10) := by
  have small : durationNs.toNat < 2 ^ 32 := durationNs.toNat_lt
  -- The product has no more than sixty-four bits.
  have product : (durationNs.toUInt64 * pwmClockHz).toNat = durationNs.toNat * 100000000 := by
    rw [UInt64.toNat_mul, UInt32.toNat_toUInt64]
    exact Nat.mod_eq_of_lt (by show durationNs.toNat * 100000000 < _; omega)
  have ticks : ((durationNs.toUInt64 * pwmClockHz + 999999999) / 1000000000).toNat =
      (durationNs.toNat + 9) / 10 := by
    rw [UInt64.toNat_div, UInt64.toNat_add, product]
    show (durationNs.toNat * 100000000 + 999999999) % 2 ^ 64 / 1000000000 = _
    rw [Nat.mod_eq_of_lt (by omega)]
    omega
  unfold nsToPwmTicks
  dsimp only
  by_cases zero : (durationNs.toUInt64 * pwmClockHz + 999999999) / 1000000000 = 0
  · rw [if_pos zero]
    rw [zero] at ticks
    have none : (durationNs.toNat + 9) / 10 = 0 := ticks.symm
    rw [none]
    rfl
  · rw [if_neg zero, UInt64.toNat_toUInt32, ticks, Nat.mod_eq_of_lt (by omega)]
    have positive : (durationNs.toNat + 9) / 10 ≠ 0 := by
      intro none
      apply zero
      apply UInt64.toNat_inj.mp
      rw [ticks, none]
      rfl
    omega

/-- A pulse within its range comes out in hundreds of ticks. -/
theorem nsToPwmTicks_highTimeNs (pwmUs : UInt16) :
    (nsToPwmTicks (UInt32.ofNat (PwmOutputConfig.highTimeNs pwmUs))).toNat =
      100 * max 1000 (min pwmUs.toNat 2000) := by
  have high : PwmOutputConfig.highTimeNs pwmUs = max 1000 (min pwmUs.toNat 2000) * 1000 := rfl
  -- A high time is a whole number of microseconds, between one and two thousand.
  have range : 1000 ≤ max 1000 (min pwmUs.toNat 2000) ∧
      max 1000 (min pwmUs.toNat 2000) ≤ 2000 := by omega
  rw [toNat_nsToPwmTicks, high]
  generalize max 1000 (min pwmUs.toNat 2000) = us at range ⊢
  have fits : (UInt32.ofNat (us * 1000)).toNat = us * 1000 :=
    (UInt32.toNat_ofNat' ..).trans (Nat.mod_eq_of_lt (by omega))
  rw [fits]
  omega

end Ticks

section Port

namespace BoardPwm

/-- No two channels of the port share a place in a bank. -/
theorem isFor_configuration {channel other : Nat} (bound : channel < maxPwmChannel)
    (bound' : other < maxPwmChannel) (period pulse : UInt32) :
    isFor channel (configuration other period pulse) = decide (channel = other) := by
  -- Bank and place in the bank tell the channels apart.
  have apart : ∀ one two : Fin maxPwmChannel,
      (UInt8.ofNat (two.val / pwmChannelsPerBank) == UInt8.ofNat (one.val / pwmChannelsPerBank) &&
        UInt32.ofNat (two.val % pwmChannelsPerBank) ==
          UInt32.ofNat (one.val % pwmChannelsPerBank)) = decide (one.val = two.val) := by
    decide +kernel
  exact apart ⟨channel, bound⟩ ⟨other, bound'⟩

/-- One call more is what its own channel was told last, and nothing to the others. -/
theorem told_append {board : BoardPwm} {channel other : Nat} (bound : channel < maxPwmChannel)
    (bound' : other < maxPwmChannel) {call : SdkPwmCall} {period pulse : UInt32}
    (cfg : call.cfg = configuration other period pulse) :
    told { board with calls := board.calls ++ [call] } channel =
      if channel = other then some call.cfg else board.told channel := by
  have own := isFor_configuration bound bound' period pulse
  rw [← cfg] at own
  unfold told
  rw [List.map_append, List.filter_append, List.map_singleton, List.filter_singleton, own]
  -- The new call is the last one for its own channel only.
  by_cases same : channel = other
  · simp [same]
  · simp [same]

/-- A channel that is up, with the period of the backend's configuration. -/
structure Up (config : PwmOutputConfig) (board : BoardPwm) (channel : Nat) : Prop where
  bound : channel < maxPwmChannel
  ready : board.ready[channel]?.getD false = true
  period : board.periodNs[channel]?.getD 0 = UInt32.ofNat config.periodNs

/-- What the SDK may be told: a motor's channel, the period, and a pulse in range or none. -/
def WellFormed (config : PwmOutputConfig) (cfg : SdkPwmConfiguration) : Prop :=
  (∃ motor, isFor (config.hardwareChannel motor) cfg = true) ∧
    cfg.period = nsToPwmTicks (UInt32.ofNat config.periodNs) ∧
    (cfg.pulse = 0 ∨ 100000 ≤ cfg.pulse.toNat ∧ cfg.pulse.toNat ≤ 200000)

/-- Everything the SDK was told so far is well formed. -/
def Orderly (config : PwmOutputConfig) (board : BoardPwm) : Prop :=
  ∀ call ∈ board.calls, WellFormed config call.cfg

variable {config : PwmOutputConfig} {board : BoardPwm}

/-- An orderly port stays so behind a call that is well formed. -/
theorem Orderly.append (orderly : Orderly config board) {call : SdkPwmCall}
    (formed : WellFormed config call.cfg) :
    Orderly config { board with calls := board.calls ++ [call] } := by
  intro other member
  -- The call is one of the earlier ones, or the new one.
  rcases List.mem_append.mp member with before | new
  · exact orderly other before
  · rw [List.mem_singleton.mp new]
    exact formed

/-- What a motor is told when it is set to a pulse. -/
def pulseOf (config : PwmOutputConfig) (motor : Fin 4) (pwmUs : UInt16) : SdkPwmConfiguration :=
  configuration (config.hardwareChannel motor) (nsToPwmTicks (UInt32.ofNat config.periodNs))
    (nsToPwmTicks (UInt32.ofNat (PwmOutputConfig.highTimeNs pwmUs)))

/-- A motor whose channel is up takes every pulse, and no other channel hears of it. -/
theorem setChannelPwm_up {motor : Fin 4} (channels : 0 ≤ config.channels.get motor)
    (up : Up config board (config.hardwareChannel motor)) (orderly : Orderly config board)
    (pwmUs : UInt16) :
    let set := board.setChannelPwm config motor pwmUs
    set.1 = true ∧ set.2.ready = board.ready ∧ set.2.periodNs = board.periodNs ∧
      Orderly config set.2 ∧ ∀ channel < maxPwmChannel, set.2.told channel =
        if channel = config.hardwareChannel motor then some (pulseOf config motor pwmUs)
        else board.told channel := by
  have present : ¬ config.channels.get motor < 0 := by omega
  -- A channel that is up is set without any other call.
  have performed : board.setChannelPwm config motor pwmUs =
      (true, { board with calls :=
        board.calls ++ [.pwmSetOutputCfg (pulseOf config motor pwmUs)] }) := by
    unfold setChannelPwm setDuty
    rw [if_neg present, if_pos up.ready, up.period]
    rfl
  dsimp only
  rw [performed]
  refine ⟨rfl, rfl, rfl, orderly.append ⟨⟨motor, ?_⟩, rfl, Or.inr ?_⟩, ?_⟩
  · exact (isFor_configuration up.bound up.bound _ _).trans (decide_eq_true rfl)
  · have ticks := nsToPwmTicks_highTimeNs pwmUs
    show 100000 ≤ (nsToPwmTicks _).toNat ∧ (nsToPwmTicks _).toNat ≤ 200000
    omega
  · intro channel bound
    exact told_append bound up.bound rfl

/-- The motors of a list are up, through channels that differ. -/
structure Driven (config : PwmOutputConfig) (board : BoardPwm) (motors : List (Fin 4)) : Prop where
  present : ∀ motor ∈ motors, 0 ≤ config.channels.get motor
  up : ∀ motor ∈ motors, Up config board (config.hardwareChannel motor)
  separate : SeparateChannels config motors
  orderly : Orderly config board

/-- Writing reaches every motor of the list, and no channel besides. -/
theorem writeFrom_driven (pwmUs : MotorPwm) (motors : List (Fin 4)) : ∀ {board : BoardPwm},
    Driven config board motors →
      let written := writeFrom config pwmUs motors board
      written.1 = true ∧ written.2.ready = board.ready ∧ written.2.periodNs = board.periodNs ∧
        Orderly config written.2 ∧
        (∀ motor ∈ motors, written.2.told (config.hardwareChannel motor) =
          some (pulseOf config motor (pwmUs.get motor))) ∧
        ∀ channel < maxPwmChannel, channel ∉ motors.map config.hardwareChannel →
          written.2.told channel = board.told channel := by
  -- The induction is on the motors left, each of which takes its own pulse.
  induction motors with
  | nil =>
    intro board driven
    exact ⟨rfl, rfl, rfl, driven.orderly, fun motor member => absurd member List.not_mem_nil,
      fun channel _ _ => rfl⟩
  | cons index rest ih =>
    intro board driven
    obtain ⟨apart, separate⟩ := List.nodup_cons.mp driven.separate
    obtain ⟨set, ready, period, orderly, told⟩ := setChannelPwm_up
      (driven.present index (List.mem_cons_self ..)) (driven.up index (List.mem_cons_self ..))
      driven.orderly (pwmUs.get index)
    have next : Driven config (board.setChannelPwm config index (pwmUs.get index)).2 rest := by
      refine ⟨fun motor member => driven.present motor (List.mem_cons_of_mem _ member), ?_,
        separate, orderly⟩
      intro motor member
      have before := driven.up motor (List.mem_cons_of_mem _ member)
      exact ⟨before.bound, by rw [ready]; exact before.ready, by rw [period]; exact before.period⟩
    obtain ⟨done, ready', period', orderly', told', kept⟩ := ih next
    have step : writeFrom config pwmUs (index :: rest) board = writeFrom config pwmUs rest
        (board.setChannelPwm config index (pwmUs.get index)).2 := by
      rw [writeFrom, set]
      rfl
    dsimp only
    rw [step]
    refine ⟨done, ready'.trans ready, period'.trans period, orderly', ?_, ?_⟩
    · intro motor member
      rcases List.mem_cons.mp member with rfl | later
      · -- What follows the motor does not use its channel.
        have bound := (driven.up motor (List.mem_cons_self ..)).bound
        rw [kept _ bound apart, told _ bound, if_pos rfl]
      · exact told' motor later
    · intro channel bound other
      simp only [List.map_cons, List.mem_cons, not_or] at other
      rw [kept channel bound other.2, told channel bound, if_neg other.1]

/-- A motor that was configured has a channel that is up, and takes no other channel down. -/
theorem configureChannel_up {motor : Fin 4} {pwmUs : UInt16} (orderly : Orderly config board)
    (configured : (board.configureChannel config motor pwmUs).1 = true) :
    let after := (board.configureChannel config motor pwmUs).2
    0 ≤ config.channels.get motor ∧ Up config after (config.hardwareChannel motor) ∧
      Orderly config after ∧ ∀ other, other ≠ config.hardwareChannel motor →
        Up config board other → Up config after other := by
  by_cases absent : config.channels.get motor < 0
  · simp [configureChannel, absent] at configured
  by_cases bound : config.hardwareChannel motor < maxPwmChannel
  swap
  · simp [configureChannel, absent, init, bound] at configured
  have present : 0 ≤ config.channels.get motor := by omega
  have own : isFor (config.hardwareChannel motor)
      (configuration (config.hardwareChannel motor)
        (nsToPwmTicks (UInt32.ofNat config.periodNs)) 0) = true :=
    (isFor_configuration bound bound _ _).trans (decide_eq_true rfl)
  -- The channel is opened with one millisecond, and then disabled with no pulse at all.
  let opened := (board.init (config.hardwareChannel motor) (UInt32.ofNat config.periodNs)).2
  have opens : board.init (config.hardwareChannel motor) (UInt32.ofNat config.periodNs) =
      (true, opened) := by
    show _ = (true, (board.init _ _).2)
    unfold init
    rw [dif_pos bound]
  have openedUp : Up config opened (config.hardwareChannel motor) := by
    show Up config (board.init _ _).2 _
    unfold init
    rw [dif_pos bound]
    refine ⟨bound, ?_, ?_⟩
    · simp [bound]
    · simp [bound]
  have openedOther : ∀ other, other ≠ config.hardwareChannel motor → Up config board other →
      Up config opened other := by
    intro other differs before
    show Up config (board.init _ _).2 _
    unfold init
    rw [dif_pos bound]
    refine ⟨before.bound, ?_, ?_⟩
    · have ready := before.ready
      simpa [Vector.getElem?_set, Ne.symm differs] using ready
    · have period := before.period
      simpa [Vector.getElem?_set, Ne.symm differs] using period
  have openedOrderly : Orderly config opened := by
    show Orderly config (board.init _ _).2
    unfold init
    rw [dif_pos bound]
    refine @Orderly.append config { board with .. } orderly (.pwmInit _) ?_
    have ticks : (nsToPwmTicks 1000000).toNat = 100000 := by decide
    refine ⟨⟨motor, own⟩, rfl, Or.inr ?_⟩
    show 100000 ≤ (nsToPwmTicks 1000000).toNat ∧ (nsToPwmTicks 1000000).toNat ≤ 200000
    omega
  let disabled : BoardPwm := { opened with calls := opened.calls ++ [.pwmSetOutputCfg
    (configuration (config.hardwareChannel motor) (nsToPwmTicks (UInt32.ofNat config.periodNs)) 0)] }
  have disables : opened.enable (config.hardwareChannel motor) false = (true, disabled) := by
    unfold enable
    rw [if_pos openedUp.ready, openedUp.period]
    rfl
  have disabledOrderly : Orderly config disabled :=
    openedOrderly.append ⟨⟨motor, own⟩, rfl, Or.inl rfl⟩
  have disabledUp : Up config disabled (config.hardwareChannel motor) :=
    ⟨bound, openedUp.ready, openedUp.period⟩
  obtain ⟨set, ready, period, setOrderly, -⟩ :=
    setChannelPwm_up present disabledUp disabledOrderly pwmUs
  have enables : (disabled.setChannelPwm config motor pwmUs).2.enable
      (config.hardwareChannel motor) true =
        (true, (disabled.setChannelPwm config motor pwmUs).2) := by
    unfold enable
    rw [ready, if_pos disabledUp.ready]
    rfl
  have whole : board.configureChannel config motor pwmUs =
      (true, (disabled.setChannelPwm config motor pwmUs).2) := by
    unfold configureChannel
    rw [if_neg absent, opens]
    simp only [Bool.not_true, Bool.false_eq_true, if_false, disables, set, enables]
  dsimp only
  rw [whole]
  refine ⟨present, ⟨bound, by rw [ready]; exact disabledUp.ready,
    by rw [period]; exact disabledUp.period⟩, setOrderly, ?_⟩
  intro other differs before
  have kept := openedOther other differs before
  exact ⟨kept.bound, by rw [ready]; exact kept.ready, by rw [period]; exact kept.period⟩

/-- A motor without a channel is not configured. -/
theorem configureFrom_present (motors : List (Fin 4)) : ∀ {board : BoardPwm},
    (configureFrom config motors board).1 = true → ∀ motor ∈ motors,
      0 ≤ config.channels.get motor := by
  -- The induction is on the motors to go; one without a channel would fail.
  induction motors with
  | nil => exact fun _ motor member => absurd member List.not_mem_nil
  | cons index rest ih =>
    intro board configured motor member
    rw [configureFrom] at configured
    cases first : (board.configureChannel config index pwmMinUs).1 with
    | false => simp [first] at configured
    | true =>
      simp only [first, Bool.not_true, Bool.false_eq_true, if_false] at configured
      rcases List.mem_cons.mp member with rfl | later
      · by_contra negative
        simp [configureChannel, not_le.mp negative] at first
      · exact ih configured motor later

/-- Channels that are not negative and pass the check for duplicates differ on the port as well. -/
theorem separate_of_distinct (distinct : config.hasDuplicateChannels = false)
    (present : ∀ motor ∈ motorOrder, 0 ≤ config.channels.get motor) :
    (motorOrder.map config.hardwareChannel).Nodup := by
  -- The check compares every pair once, the smaller index on the left.
  have apart : ∀ left right : Fin 4, left < right →
      config.channels.get left ≠ config.channels.get right := by
    intro left right order same
    have found : config.hasDuplicateChannels = true := by
      refine List.any_eq_true.mpr ⟨left, mem_motorOrder left, ?_⟩
      exact List.any_eq_true.mpr ⟨right, mem_motorOrder right, by simp [order, same]⟩
    rw [distinct] at found
    cases found
  refine List.Nodup.map_on ?_ (by decide)
  intro left first right second same
  have channels : config.channels.get left = config.channels.get right := by
    have one := present left first
    have two := present right second
    unfold PwmOutputConfig.hardwareChannel at same
    omega
  rcases lt_trichotomy left right with below | equal | above
  · exact absurd channels (apart left right below)
  · exact equal
  · exact absurd channels.symm (apart right left above)

/-- All motors that were configured are up in the end. -/
theorem configureFrom_up (motors : List (Fin 4)) : ∀ {board : BoardPwm}, Orderly config board →
    (motors.map config.hardwareChannel).Nodup → (configureFrom config motors board).1 = true →
    let after := (configureFrom config motors board).2
    (∀ motor ∈ motors, 0 ≤ config.channels.get motor ∧
      Up config after (config.hardwareChannel motor)) ∧ Orderly config after ∧
      ∀ other, other ∉ motors.map config.hardwareChannel → Up config board other →
        Up config after other := by
  induction motors with
  | nil =>
    intro board orderly _ _
    exact ⟨fun motor member => absurd member List.not_mem_nil, orderly, fun _ _ up => up⟩
  | cons index rest ih =>
    intro board orderly separate configured
    obtain ⟨apart, separateRest⟩ := List.nodup_cons.mp separate
    -- The loop ends with the first motor that cannot be configured.
    cases first : (board.configureChannel config index pwmMinUs).1 with
    | false =>
      rw [configureFrom, first] at configured
      cases configured
    | true =>
      have step : configureFrom config (index :: rest) board =
          configureFrom config rest (board.configureChannel config index pwmMinUs).2 := by
        rw [configureFrom, first]
        rfl
      rw [step] at configured
      obtain ⟨present, up, next, kept⟩ := configureChannel_up orderly first
      obtain ⟨ups, last, others⟩ := ih next separateRest configured
      dsimp only
      rw [step]
      refine ⟨?_, last, ?_⟩
      · intro motor member
        rcases List.mem_cons.mp member with rfl | later
        · exact ⟨present, others _ apart up⟩
        · exact ups motor later
      · intro other differs before
        simp only [List.map_cons, List.mem_cons, not_or] at differs
        exact others other differs.2 (kept other differs.1 before)

/-- A backend that came up drives every motor. -/
theorem backendInit_driven (orderly : Orderly config board)
    (ready : (board.backendInit config).1 = true) :
    Driven config (board.backendInit config).2 motorOrder := by
  unfold backendInit at ready ⊢
  -- Channels that are used twice are refused first.
  cases distinct : config.hasDuplicateChannels with
  | true => simp [distinct] at ready
  | false =>
    simp only [distinct, Bool.false_eq_true, if_false] at ready ⊢
    have separate := separate_of_distinct distinct (configureFrom_present motorOrder ready)
    obtain ⟨ups, last, -⟩ := configureFrom_up motorOrder orderly separate ready
    exact ⟨fun motor member => (ups motor member).1, fun motor member => (ups motor member).2,
      separate, last⟩

/-- Writing to motors that are driven succeeds, and they stay so. -/
theorem write_driven (driven : Driven config board motorOrder) (pwmUs : MotorPwm) :
    (board.write config pwmUs).1 = true ∧
      Driven config (board.write config pwmUs).2 motorOrder ∧
      ∀ motor, (board.write config pwmUs).2.told (config.hardwareChannel motor) =
        some (pulseOf config motor (pwmUs.get motor)) := by
  -- All four motors are written, in their order.
  obtain ⟨done, ready, period, orderly, told, -⟩ := writeFrom_driven pwmUs motorOrder driven
  refine ⟨done, ⟨driven.present, ?_, driven.separate, orderly⟩, ?_⟩
  · intro motor member
    have before := driven.up motor member
    refine ⟨before.bound, ?_, ?_⟩
    · rw [write, ready]
      exact before.ready
    · rw [write, period]
      exact before.period
  · exact fun motor => told motor (mem_motorOrder motor)

/-- So does an actuator that came up. -/
theorem actuatorInit_driven (orderly : Orderly config board)
    (ready : (board.actuatorInit config).1 = true) :
    Driven config (board.actuatorInit config).2 motorOrder := by
  -- Without a backend the actuator does not come up.
  cases opened : (board.backendInit config).1 with
  | false => simp [actuatorInit, opened] at ready
  | true =>
    have driven := backendInit_driven orderly opened
    have whole : board.actuatorInit config =
        (board.backendInit config).2.write config idlePwm := by
      simp [actuatorInit, opened]
    rw [whole]
    exact (write_driven driven idlePwm).2.1

end BoardPwm

end Port

section Runs

open BoardPwm

variable {F : Type} [FloatArith F]

/-- The port after a number of calls of the actuator. -/
def boardAt (config : PwmOutputConfig) (start : BoardPwm) (calls : Nat → MotorCall) (n : Nat) :
    BoardPwm :=
  stateAt (BoardPwm.perform config) start calls n

/-- The pulses of a call. -/
def MotorCall.pulses : MotorCall → MotorPwm
  | .output pwmUs => pwmUs
  | .enterFailsafe => idlePwm

/-- Every call writes its pulses to the port. -/
theorem perform_eq (config : PwmOutputConfig) (board : BoardPwm) (call : MotorCall) :
    board.perform config call = (board.write config call.pulses).2 := by
  cases call <;> rfl

/-- On a board that refuses nothing, every call is what the actuator remembers and has set. -/
theorem drivenAt_healthy {config : PwmOutputConfig} (present : ∀ motor ∈ motorOrder,
    0 ≤ config.channels.get motor) (separate : SeparateChannels config motorOrder)
    (start : DrivenNode F) (calls : Nat → MotorCall) (n : Nat) (motor : Fin 4) :
    let driven := drivenAt config start (fun k => ⟨calls k, healthyBoard⟩) (n + 1)
    driven.node.actuator.lastPwm = (calls n).pulses ∧
      driven.duties (config.hardwareChannel motor) =
        PwmOutputConfig.highTimeNs ((calls n).pulses.get motor) := by
  -- A healthy board accepts every write to a channel that is there.
  have accepts : ∀ index pwmUs, config.accepts healthyBoard index pwmUs = true := by
    intro index pwmUs
    have channel := present index (mem_motorOrder index)
    simp [PwmOutputConfig.accepts, healthyBoard, channel]
  have duty : ∀ duties pwmUs, (config.write healthyBoard duties pwmUs).2
      (config.hardwareChannel motor) = PwmOutputConfig.highTimeNs (pwmUs.get motor) := by
    intro duties pwmUs
    unfold PwmOutputConfig.write
    rw [writeFrom_duty motorOrder duties separate (mem_motorOrder motor)]
    exact if_pos ⟨fun earlier _ => accepts earlier _, accepts motor _⟩
  have step : drivenAt config start (fun k => ⟨calls k, healthyBoard⟩) (n + 1) =
      (drivenAt config start (fun k => ⟨calls k, healthyBoard⟩) n).perform config
        ⟨calls n, healthyBoard⟩ := stateAt_succ _ _ _ n
  dsimp only
  rw [step]
  generalize drivenAt config start (fun k => ⟨calls k, healthyBoard⟩) n = before
  unfold DrivenNode.perform MotorCall.pulses
  cases calls n with
  | output pwmUs => exact ⟨Actuator.output_lastPwm before.backed pwmUs, duty _ pwmUs⟩
  | enterFailsafe => exact ⟨Actuator.stop_lastPwm before.backed, duty _ idlePwm⟩

/-- The SDK is told what the actuator remembers: behind an actuator that came up, every call of the
node succeeds, and after it each motor's channel has last been given the configured period and a
hundred ticks for each microsecond of its pulse, which is what the plain model of the board shows as
its duty; and never in the run is any other channel, another period, or a pulse out of range
told. -/
theorem board_follows_actuator {config : PwmOutputConfig} {found : BoardPwm}
    (fresh : found.calls = []) (ready : (found.actuatorInit config).1 = true)
    (start : DrivenNode F) (calls : Nat → MotorCall) (n : Nat) (motor : Fin 4) :
    let board := boardAt config (found.actuatorInit config).2 calls
    let driven := drivenAt config start (fun k => ⟨calls k, healthyBoard⟩) (n + 1)
    ((board n).write config (calls n).pulses).1 = true ∧
      (∃ cfg, (board (n + 1)).told (config.hardwareChannel motor) = some cfg ∧
        cfg.period = nsToPwmTicks (UInt32.ofNat config.periodNs) ∧
        cfg.pulse.toNat = 100 * max 1000 (min (driven.node.actuator.lastPwm.get motor).toNat 2000) ∧
        driven.duties (config.hardwareChannel motor) = 10 * cfg.pulse.toNat) ∧
      ∀ call ∈ (board (n + 1)).calls, WellFormed config call.cfg := by
  have orderly : Orderly config found := by
    intro call member
    rw [fresh] at member
    cases member
  have opened := actuatorInit_driven orderly ready
  -- The induction is on the calls, each of which finds every motor driven.
  have before : ∀ k, Driven config (boardAt config (found.actuatorInit config).2 calls k)
      motorOrder := by
    intro k
    induction k with
    | zero => exact opened
    | succ k ih =>
      have step : boardAt config (found.actuatorInit config).2 calls (k + 1) =
          (boardAt config (found.actuatorInit config).2 calls k).perform config (calls k) :=
        stateAt_succ _ _ _ k
      rw [step, perform_eq]
      exact (write_driven ih (calls k).pulses).2.1
  obtain ⟨remembered, duty⟩ := drivenAt_healthy opened.present opened.separate start calls n motor
  obtain ⟨done, -, told⟩ := write_driven (before n) (calls n).pulses
  have ticks := nsToPwmTicks_highTimeNs ((calls n).pulses.get motor)
  refine ⟨done, ⟨pulseOf config motor ((calls n).pulses.get motor), ?_, rfl, ?_, ?_⟩,
    (before (n + 1)).orderly⟩
  · have step : boardAt config (found.actuatorInit config).2 calls (n + 1) =
        (boardAt config (found.actuatorInit config).2 calls n).perform config (calls n) :=
      stateAt_succ _ _ _ n
    rw [step, perform_eq]
    exact told motor
  · rw [remembered]
    exact ticks
  · rw [duty]
    show _ = 10 * (nsToPwmTicks _).toNat
    rw [ticks]
    unfold PwmOutputConfig.highTimeNs
    omega

/-- The four motors of `main` behind a failsafe on a fresh port. -/
theorem board_follows_actuator_boardConfig :
    ∃ cfg, (boardAt boardConfig ((({} : BoardPwm).actuatorInit boardConfig).2)
      (fun _ => .enterFailsafe) 1).told 10 = some cfg ∧ cfg.pulse.toNat = 100000 := by
  obtain ⟨-, ⟨cfg, told, -, pulse, -⟩, -⟩ := @board_follows_actuator ℚ _ boardConfig {} rfl
    (by decide +kernel) drivenBench (fun _ => .enterFailsafe) 0 2
  refine ⟨cfg, told, pulse.trans ?_⟩
  decide +kernel

end Runs

end AmpFc
