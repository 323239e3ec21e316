import AmpFc.Common.Ibus
import AmpFc.Lib.Counter

/-! Constants, tick arithmetic, and the static variables of the bring-up firmware. -/

namespace AmpFc.Firmware

/--
The part of the kernel configuration the firmware relies on.

`FreeRTOSConfig.h` is not part of the repository, so rate and width stay parameters.
-/
structure RtosConfig where
  /-- `configTICK_RATE_HZ`. -/
  tickRateHz : Nat
  /-- The width of `TickType_t`. -/
  tickBits : Nat
  tickRateHz_pos : 0 < tickRateHz
  /-- A narrower tick would be promoted before it is subtracted. -/
  tickBits_le : 32 ≤ tickBits

/-- `pdMS_TO_TICKS`. -/
def pdMsToTicks (rtos : RtosConfig) (ms : Nat) : Nat := ms * rtos.tickRateHz / 1000

/-- `portTICK_PERIOD_MS`. -/
def portTickPeriodMs (rtos : RtosConfig) : Nat := 1000 / rtos.tickRateHz

/-- Difference of two tick readings, in `TickType_t`. -/
def tickSub (rtos : RtosConfig) (later earlier : Nat) : Nat :=
  wrappingSub rtos.tickBits later earlier

/-- `(uint32_t)((later - earlier) * portTICK_PERIOD_MS)`. -/
def elapsedMs (rtos : RtosConfig) (later earlier : Nat) : Nat :=
  -- The product is taken in ticks' width and then cut to thirty-two bits.
  tickSub rtos later earlier * portTickPeriodMs rtos % 2 ^ rtos.tickBits % 2 ^ 32

/-- A number of ticks within a converted duration is within the duration itself. -/
theorem le_pdMsToTicks {rtos : RtosConfig} {ticks ms : Nat} :
    ticks ≤ pdMsToTicks rtos ms ↔ ticks * 1000 ≤ ms * rtos.tickRateHz := by
  unfold pdMsToTicks
  exact Nat.le_div_iff_mul_le (by omega)

/-- The computed elapsed time never exceeds the time that really passed. -/
theorem elapsedMs_real {rtos : RtosConfig} {later earlier ms : Nat} (ordered : earlier ≤ later)
    (fits : later < 2 ^ rtos.tickBits) (elapsed : ms ≤ elapsedMs rtos later earlier) :
    ms * rtos.tickRateHz ≤ (later - earlier) * 1000 := by
  -- Both reductions and the rounded period can only make the computed time smaller.
  have exact : tickSub rtos later earlier = later - earlier := wrappingSub_of_le ordered fits
  have product : ms ≤ (later - earlier) * portTickPeriodMs rtos := by
    unfold elapsedMs at elapsed
    rw [exact] at elapsed
    exact elapsed.trans ((Nat.mod_le _ _).trans (Nat.mod_le _ _))
  calc ms * rtos.tickRateHz
      ≤ (later - earlier) * portTickPeriodMs rtos * rtos.tickRateHz :=
        Nat.mul_le_mul_right _ product
    _ = (later - earlier) * (1000 / rtos.tickRateHz * rtos.tickRateHz) := Nat.mul_assoc _ _ _
    _ ≤ (later - earlier) * 1000 := Nat.mul_le_mul_left _ (Nat.div_mul_le_self _ _)

/-- `MOTOR_PWM_MIN_US`. -/
def motorPwmMinUs : Nat := 1000

/-- `MOTOR_PWM_IDLE_US`. -/
def motorPwmIdleUs : Nat := 1000

/-- `MOTOR_PWM_MAX_US`. -/
def motorPwmMaxUs : Nat := 2000

/-- `MOTOR_PWM_PERIOD_US`. -/
def motorPwmPeriodUs : Nat := 20000

/-- `MOTOR_PWM_SAFE_US`. -/
def motorPwmSafeUs : Nat := 1000

/-- `PWM_NS_PER_US`. -/
def pwmNsPerUs : Nat := 1000

/-- `MOTOR_TEST_MAX_US`. -/
def motorTestMaxUs : Nat := 1500

/-- `ESC_ARM_DELAY_MS`. -/
def escArmDelayMs : Nat := 3000

/-- `RC_THROTTLE_LOW_US`. -/
def rcThrottleLowUs : Nat := 1100

/-- `RC_THROTTLE_TEST_KILL_US`. -/
def rcThrottleTestKillUs : Nat := 1350

/-- `RC_ARM_SWITCH_THRESHOLD_US`. -/
def rcArmSwitchThresholdUs : Nat := 1500

/-- `RC_LOST_TIMEOUT_MS`. -/
def rcLostTimeoutMs : Nat := 300

/-- `MOTOR_SAFE_OK`. -/
def motorSafeOk : UInt32 := 0

/-- `MOTOR_SAFE_FAILSAFE`. -/
def motorSafeFailsafe : UInt32 := 1

/-- `MOTOR_SAFE_SENSOR_NOT_RDY`. -/
def motorSafeSensorNotRdy : UInt32 := 2

/-- `MOTOR_SAFE_NOT_ARMED`. -/
def motorSafeNotArmed : UInt32 := 3

/-- `clamp_i32`. -/
def clampI32 (value lo hi : Int) : Int :=
  if value < lo then lo else if value > hi then hi else value

/-- `clamp_u32`. -/
def clampU32 (value lo hi : Nat) : Nat :=
  if value < lo then lo else if value > hi then hi else value

/-- A clamped value lies within bounds that are in order. -/
theorem clampI32_bounds {value lo hi : Int} (ordered : lo ≤ hi) :
    lo ≤ clampI32 value lo hi ∧ clampI32 value lo hi ≤ hi := by
  unfold clampI32
  split_ifs <;> omega

/-- So does an unsigned one. -/
theorem clampU32_bounds {value lo hi : Nat} (ordered : lo ≤ hi) :
    lo ≤ clampU32 value lo hi ∧ clampU32 value lo hi ≤ hi := by
  unfold clampU32
  split_ifs <;> omega

/-- The receiver state: the `g_rc_*` variables. -/
structure Rc where
  ch0Us : Nat := 1500
  ch1Us : Nat := 1500
  ch3Us : Nat := 1500
  valid : Bool := false
  throttleUs : Nat := 1000
  armSwitch : Bool := false
  armAllowed : Bool := false
  frameAgeMs : Nat := 0
  seenArmLow : Bool := false
  armLatched : Bool := false
  prevArmSwitch : Bool := false

/-- The motor state: the `g_motor_*` variables that change. -/
structure Motor where
  pwmUs : Vector Nat 4 := .replicate 4 1000
  armed : Bool := false
  outputEnabled : Bool := false
  safetyReason : UInt32 := motorSafeOk

/-- Setpoints, corrections and mixer outputs: the `g_sp_*`, `g_pid_*`, `g_*_corr_*`, `g_mix_*`. -/
structure Control where
  spRollRateRaw : Int := 0
  spPitchRateRaw : Int := 0
  spRollCd : Int := 0
  spPitchCd : Int := 0
  spYawRateRaw : Int := 0
  spThrottleUs : Nat := 1000
  pidRoll : Int := 0
  pidPitch : Int := 0
  pidYaw : Int := 0
  angleCorrRoll : Int := 0
  angleCorrPitch : Int := 0
  rateCorrRoll : Int := 0
  rateCorrPitch : Int := 0
  rateCorrYaw : Int := 0
  mixM0 : Int := 1000
  mixM1 : Int := 1000
  mixM2 : Int := 1000
  mixM3 : Int := 1000

/-- Run-time tuning: the `g_config_*` variables. -/
structure Config where
  deadzoneUs : Nat := 20
  rateRollDiv : Nat := 12
  ratePitchDiv : Nat := 12
  rateYawDiv : Nat := 16
  angleDiv : Nat := 180

/-- Three readings, one for each axis. -/
structure Axes where
  x : Int := 0
  y : Int := 0
  z : Int := 0

/-- The bus probe and both sensors: the `g_i2c_*`, `g_hmc_*` and `g_mpu_*` variables. -/
structure Sensors where
  i2cProbeCount : UInt32 := 0
  i2cLastErr : UInt32 := 0
  hmcBus : UInt32 := 0xff
  hmcScanMask : UInt32 := 0
  hmcIdA : UInt8 := 0
  hmcIdB : UInt8 := 0
  hmcIdC : UInt8 := 0
  hmcOk : Bool := false
  hmcDataOk : Bool := false
  hmc : Axes := {}
  hmcCfgDone : Bool := false
  mpuWhoami : UInt8 := 0
  mpuOk : Bool := false
  mpuAddrFound : UInt8 := 0
  mpuDataOk : Bool := false
  mpuAcc : Axes := {}
  mpuGyro : Axes := {}
  mpuCfgDone : Bool := false
  mpuCalCount : Nat := 0
  mpuCalDone : Bool := false
  mpuAccSum : Axes := {}
  mpuGyroSum : Axes := {}
  mpuAccBias : Axes := {}
  mpuGyroBias : Axes := {}
  sensorReady : Bool := false
  mpuAccCorr : Axes := {}
  mpuGyroCorr : Axes := {}
  sensorStateError : UInt32 := 0

/-- Attitude, level trim and body axes: `g_att_*`, `g_rate_*_raw`, `g_level_*`, `g_body_*`. -/
structure Attitude where
  attOk : Bool := false
  attRollCd : Int := 0
  attPitchCd : Int := 0
  attYawCd : Int := 0
  rateRollRaw : Int := 0
  ratePitchRaw : Int := 0
  rateYawRaw : Int := 0
  levelTrimDone : Bool := false
  levelRollCd : Int := 0
  levelPitchCd : Int := 0
  bodyRollCd : Int := 0
  bodyPitchCd : Int := 0
  bodyYawCd : Int := 0
  bodyRateRollRaw : Int := 0
  bodyRatePitchRaw : Int := 0
  bodyRateYawRaw : Int := 0

/-- Everything the sensor pipeline maintains. -/
structure Sensing where
  sensors : Sensors := {}
  attitude : Attitude := {}

/-- Bookkeeping about the shared region: the `g_amp_*` variables. -/
structure AmpShm where
  shmPhys : UInt32 := 0
  shmReady : Bool := false
  pollCount : UInt32 := 0
  emergencyStopLatched : Bool := false
  lastEmergencySeq : UInt32 := 0
  lastConfigSlotSeq : UInt32 := 0
  lastConfigUpdateSeq : UInt32 := 0
  lastArmSeq : UInt32 := 0
  lastSetpointSeq : UInt32 := 0
  configSeq : UInt32 := 0
  configUpdateCount : UInt32 := 0
  rtReportSeq : UInt32 := 0
  statusFlags : UInt32 := 0
  lastRtReportTick : Nat := 0

/-- The stage-3 boundary hook: the `g_stage3_*` variables. -/
structure Stage3 where
  stepCount : UInt32 := 0
  actuatorMapOk : Bool := false
  externalEnabled : Bool := false

/-- One channel's `pwm_configuration_t`. -/
structure PwmConfiguration where
  pwmId : Nat := 0
  channel : Nat := 0
  period : Nat := 0
  pulse : Nat := 0
  deriving DecidableEq, Repr

/-- The PWM backend: `g_pwm_cfg` and the other `g_pwm_*` variables it reads or reports. -/
structure Pwm where
  cfg : Vector PwmConfiguration 4 := .replicate 4 {}
  backendReady : Bool := false
  backendErr : UInt32 := 0
  realEnabled : Bool := false
  periodUsDbg : Nat := 20000
  dutyUsDbg : Vector Nat 4 := .replicate 4 1000
  activeHighDbg : Nat := 1

/-- The start-up delay of the speed controllers: the `g_esc_arm_*` variables. -/
structure Esc where
  armDelayDone : Bool := false
  armDelayMs : Nat := 0
  armStartTick : Nat := 0

/--
What the received bytes determine: the parser's statics, the frame statics of the poll,
and `g_rc_last_frame_tick`.
-/
structure Reception where
  parser : FrameBuffer := .empty
  ch : Channels := .replicate 14 0
  lastFrameTick : Nat := 0
  goodFrames : UInt32 := 0
  badFrames : UInt32 := 0
  rcLastFrameTick : Nat := 0

/-- The static locals of `ibus_probe_poll_once` that pace the slower work. -/
structure PollStatics where
  lastI2cTick : Nat := 0
  lastStage3Tick : Nat := 0

end AmpFc.Firmware

namespace AmpFc

open Firmware in
/-- The whole static state of the firmware image, grouped as the source names its variables. -/
structure Firmware where
  reception : Reception := {}
  statics : PollStatics := {}
  rc : Rc := {}
  motor : Motor := {}
  control : Control := {}
  config : Config := {}
  sensing : Sensing := {}
  shm : AmpShm := {}
  stage3 : Stage3 := {}
  pwm : Pwm := {}
  esc : Esc := {}

namespace Firmware

/-- Every static variable at its initialiser. -/
def boot : Firmware := {}

end Firmware

end AmpFc
