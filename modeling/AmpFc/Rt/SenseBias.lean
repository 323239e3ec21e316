import AmpFc.Rt.SensePath

/-! The gyro bias of the sense is the mean of what the sensor answered while it was calibrated. -/

namespace AmpFc

/-- The data that the inertial sensor answered with in a transfer. -/
def imuData (imu : I2cBusConfig) : SdkTransfer → Option (List UInt8)
  | .write .. => none
  | .read bus dev reg length data =>
    if bus = imu.busId ∧ dev = imu.mpuAddr ∧ reg = 0x3B ∧ length = 14 then data else none

/-- The samples that the inertial sensor has answered with, the newest first. -/
def heardSamples (imu : I2cBusConfig) (log : List SdkTransfer) : List (RawImuSample ℚ) :=
  (log.filterMap (imuData imu)).map imuSample

/-- The sums of the rates, and how many there are. -/
def gyroSums (samples : List (RawImuSample ℚ)) : (ℚ × ℚ × ℚ) × Nat :=
  (((samples.map (·.gyroXDps)).sum, (samples.map (·.gyroYDps)).sum,
    (samples.map (·.gyroZDps)).sum), samples.length)

/-- The bound of a rate: the sixteen bits of the sensor at its scale. -/
def gyroRange : ℚ := 32768 / (655 / 10)

/-- The mean of values within a bound is within the bound. -/
theorem abs_mean_le {values : List ℚ} {bound : ℚ} (within : ∀ value ∈ values, |value| ≤ bound)
    (some : values ≠ []) : |values.sum * (1 / values.length)| ≤ bound := by
  have total : |values.sum| ≤ values.length * bound := by
    -- The induction is on the values, of which each adds at most the bound.
    clear some
    induction values with
    | nil => simp
    | cons value values ih =>
      rw [List.sum_cons, List.length_cons]
      have first := within value List.mem_cons_self
      have rest := ih fun value among => within value (List.mem_cons_of_mem _ among)
      calc |value + values.sum| ≤ |value| + |values.sum| := abs_add_le _ _
        _ ≤ bound + values.length * bound := add_le_add first rest
        _ = ((values.length + 1 : Nat) : ℚ) * bound := by push_cast; ring
  have counted : (0 : ℚ) < values.length := by
    exact_mod_cast List.length_pos_of_ne_nil some
  rw [abs_mul, abs_of_pos (one_div_pos.mpr counted), mul_one_div, div_le_iff₀ counted, mul_comm]
  exact total

/-- The mean of a rate over samples in which it is within the range of the sensor. -/
theorem mean_range {samples : List (RawImuSample ℚ)} {rate : RawImuSample ℚ → ℚ}
    (some : samples ≠ []) (within : ∀ sample ∈ samples, |rate sample| ≤ gyroRange) :
    |(samples.map rate).sum * (1 / samples.length)| ≤ gyroRange := by
  have each : ∀ value ∈ samples.map rate, |value| ≤ gyroRange := by
    simpa using within
  have mean := abs_mean_le each (by simpa using some)
  rwa [List.length_map] at mean

/-- A rate that the sensor spells is within its range. -/
theorem be16_rate (high low : UInt8) : |(be16 high low : ℚ) / (655 / 10)| ≤ gyroRange := by
  -- The value has sixteen bits with a sign.
  have least := Int16.le_toInt ((high.toUInt16 <<< 8) ||| low.toUInt16).toInt16
  have most := Int16.toInt_lt ((high.toUInt16 <<< 8) ||| low.toUInt16).toInt16
  have bound : |(be16 high low : ℚ)| ≤ 32768 := by
    rw [abs_le]
    constructor
    · exact_mod_cast least
    · exact_mod_cast most.le
  rw [abs_div, abs_of_pos (by norm_num : (0 : ℚ) < 655 / 10), gyroRange]
  gcongr

/-- Every rate that was heard is within the range of the sensor. -/
theorem heardSamples_range {imu : I2cBusConfig} {log : List SdkTransfer}
    {sample : RawImuSample ℚ} (heard : sample ∈ heardSamples imu log) :
    |sample.gyroXDps| ≤ gyroRange ∧ |sample.gyroYDps| ≤ gyroRange ∧
      |sample.gyroZDps| ≤ gyroRange := by
  obtain ⟨raw, -, rfl⟩ := List.mem_map.mp heard
  exact ⟨be16_rate _ _, be16_rate _ _, be16_rate _ _⟩

/-- A driver that brings its sensor up takes no sample from the inertial sensor. -/
theorem configures_unheard {driver : SensorDriver} (imu : I2cBusConfig)
    (apart : driver.idLength ≠ 14) (past : List SdkTransfer) (entry : SdkTransfer)
    (configures : driver.Configures past entry) : imuData imu entry = none := by
  obtain ⟨id, rfl⟩ | ⟨before, reg, value, after, done, -, -, -, rfl⟩ := configures
  · simp [imuData, apart]
  · rfl

namespace Sense

variable {W : Type} (sdk : I2cSdk W) {imu : I2cBusConfig} {mag : Hmc5883lConfig}

open BoardI2c

/-- A read of the sensor is heard when it succeeds, and is not when it fails. -/
theorem imuRead_heard (imu : I2cBusConfig) (board : BoardI2c W) :
    heardSamples imu (imuRead sdk imu board : Option (RawImuSample ℚ) × BoardI2c W).2.log =
      (imuRead sdk imu board : Option (RawImuSample ℚ) × BoardI2c W).1.toList ++
        heardSamples imu board.log := by
  unfold imuRead
  dsimp only
  -- A read that reaches the bus is heard if it is answered.
  obtain ⟨-, ⟨nothing, same⟩ | moved⟩ :=
    readRegisters_cases sdk board imu.busId imu.mpuAddr 0x3B 14
  · rw [nothing, same]
    rfl
  · rw [moved]
    cases (board.readRegisters sdk imu.busId imu.mpuAddr 0x3B 14).1 with
    | none => simp [heardSamples, imuData]
    | some raw => simp [heardSamples, imuData]

/-- The loop of the calibration carries the sums of what has been heard. -/
theorem calibrateFrom_sums (imu : I2cBusConfig) (turns : Nat) :
    ∀ (sums : (ℚ × ℚ × ℚ) × Nat) (board : BoardI2c W),
      sums = gyroSums (heardSamples imu board.log) →
        (calibrateFrom sdk imu turns sums board).1 =
          gyroSums (heardSamples imu (calibrateFrom sdk imu turns sums board).2.log) := by
  -- The induction is on the turns; one turn adds the sample that it hears, if it hears one.
  induction turns with
  | zero => exact fun _ _ carried => carried
  | succ turns ih =>
    intro sums board carried
    refine ih _ _ ?_
    rw [imuRead_heard, carried]
    cases (imuRead sdk imu board : Option (RawImuSample ℚ) × BoardI2c W).1 with
    | none => rfl
    | some sample =>
      simp only [gyroSums, Option.elim_some, Option.toList_some, List.cons_append, List.nil_append,
        List.map_cons, List.sum_cons, List.length_cons, Prod.mk.injEq, and_true]
      exact ⟨add_comm _ _, add_comm _ _, add_comm _ _⟩

/-- The calibration hears no more samples than it has turns. -/
theorem calibrateFrom_count (imu : I2cBusConfig) (turns : Nat) :
    ∀ (sums : (ℚ × ℚ × ℚ) × Nat) (board : BoardI2c W),
      (calibrateFrom sdk imu turns sums board).1.2 ≤ sums.2 + turns := by
  -- The induction is on the readings to go, each of which counts at most once.
  induction turns with
  | zero => exact fun _ _ => le_rfl
  | succ turns ih =>
    intro sums board
    refine (ih _ _).trans ?_
    cases (imuRead sdk imu board : Option (RawImuSample ℚ) × BoardI2c W).1 with
    | none =>
      simp only [Option.elim_none]
      omega
    | some sample =>
      simp only [Option.elim_some]
      omega

/-- A calibration that succeeds, where no sample has been heard before it, has the mean of the
samples it hears. -/
theorem calibrate_mean (turns : Nat) (board : BoardI2c W) (silent : heardSamples imu board.log = [])
    {biasDps : ℚ × ℚ × ℚ} (mean : (calibrate sdk imu turns board).1 = some biasDps) :
    let heard := heardSamples imu
      (calibrate sdk imu turns board : Option (ℚ × ℚ × ℚ) × BoardI2c W).2.log
    heard ≠ [] ∧ heard.length ≤ turns ∧
      biasDps = ((heard.map (·.gyroXDps)).sum * (1 / heard.length),
        (heard.map (·.gyroYDps)).sum * (1 / heard.length),
        (heard.map (·.gyroZDps)).sum * (1 / heard.length)) := by
  intro heard
  -- The loop sums what is heard, and the mean divides by its count.
  have sums := calibrateFrom_sums sdk imu turns ((0, 0, 0), 0) board (by rw [silent]; rfl)
  have count := calibrateFrom_count sdk imu turns ((0, 0, 0), 0) board
  have same : heard = heardSamples imu
      (calibrateFrom sdk imu turns (((0 : ℚ), 0, 0), 0) board).2.log :=
    congrArg (fun board => heardSamples imu board.log) (calibrate_board turns board)
  rw [← same] at sums
  clear_value heard
  unfold calibrate at mean
  simp only [FloatArith.ofRat] at mean
  rw [sums] at mean count
  rw [zero_add] at count
  by_cases empty : (gyroSums heard).2 = 0
  · rw [if_pos empty] at mean
    cases mean
  · rw [if_neg empty] at mean
    have whole : biasDps = _ := (Option.some.inj mean).symm
    exact ⟨fun nothing => empty (by rw [nothing]; rfl), count, whole⟩

/-- No call touches the bias. -/
theorem call_biasDps {F : Type} [FloatArith F] (s : Sense W F) (ask : SenseCall) :
    (s.call sdk ask).biasDps = s.biasDps := by
  -- Neither call writes to the bias.
  cases ask with
  | sample => rfl
  | sampleMag =>
    simp only [call, sampleMag]
    split_ifs <;> rfl

/-- Nothing but the loop of the calibration takes a sample while the sense comes up. -/
theorem init_mean (requireMag : Bool) (world : W)
    (ok : ((fresh imu mag requireMag world : Sense W ℚ).init sdk).1 = true) :
    let started := ((fresh imu mag requireMag world : Sense W ℚ).init sdk).2
    let heard := heardSamples imu started.board.log
    heard ≠ [] ∧ heard.length ≤ 400 ∧
      started.biasDps = ((heard.map (·.gyroXDps)).sum * (1 / heard.length),
        (heard.map (·.gyroYDps)).sum * (1 / heard.length),
        (heard.map (·.gyroZDps)).sum * (1 / heard.length)) := by
  intro started heard
  obtain ⟨opened, mean, opens, means, after⟩ := init_cases _ ok
  -- Nothing is heard before the calibration, and nothing after it.
  have configured := (imuInit_grows sdk imu ({ world := world } : BoardI2c W)).1
  have opens : imuInit sdk imu ({ world := world } : BoardI2c W) = (true, opened) := opens
  rw [opens] at configured
  have silent : heardSamples imu opened.log = [] := by
    unfold heardSamples
    rw [configured.unseen (configures_unheard imu (by simp [mpuDriver]))]
    rfl
  have compass := (magInit_grows sdk mag
    (calibrate sdk imu 400 opened : Option (ℚ × ℚ × ℚ) × BoardI2c W).2).1
  have kept : heard = heardSamples imu
      (calibrate sdk imu 400 opened : Option (ℚ × ℚ × ℚ) × BoardI2c W).2.log := by
    unfold heard started
    rw [after]
    unfold heardSamples
    exact congrArg _ (compass.unseen (configures_unheard imu (by simp [hmcDriver])))
  have same : started.biasDps = mean := congrArg (·.biasDps) after
  rw [same, kept]
  exact calibrate_mean sdk 400 opened silent means

/-- The bias that the sense comes up with is within the range of the sensor. -/
theorem init_biasDps_range (requireMag : Bool) (world : W)
    (ok : ((fresh imu mag requireMag world : Sense W ℚ).init sdk).1 = true) :
    let biasDps := ((fresh imu mag requireMag world : Sense W ℚ).init sdk).2.biasDps
    |biasDps.1| ≤ gyroRange ∧ |biasDps.2.1| ≤ gyroRange ∧ |biasDps.2.2| ≤ gyroRange := by
  obtain ⟨some, -, bias⟩ := init_mean sdk requireMag world ok
  dsimp only
  -- A mean is within the range that its samples are in.
  rw [bias]
  exact ⟨mean_range some fun _ among => (heardSamples_range among).1,
    mean_range some fun _ among => (heardSamples_range among).2.1,
    mean_range some fun _ among => (heardSamples_range among).2.2⟩

/-- The bias of a sense that came up is the mean of the rates that its sensor had answered with by
then, whatever the sense is asked for afterwards. -/
theorem bias_is_mean (imu : I2cBusConfig) (mag : Hmc5883lConfig) (requireMag : Bool) (world : W)
    (calls : List SenseCall)
    (ok : ((fresh imu mag requireMag world : Sense W ℚ).init sdk).1 = true) :
    let started := ((fresh imu mag requireMag world : Sense W ℚ).init sdk).2
    let heard := heardSamples imu started.board.log
    let biasDps := (calls.foldl (call sdk) started).biasDps
    heard ≠ [] ∧ heard.length ≤ 400 ∧
      biasDps = ((heard.map (·.gyroXDps)).sum * (1 / heard.length),
        (heard.map (·.gyroYDps)).sum * (1 / heard.length),
        (heard.map (·.gyroZDps)).sum * (1 / heard.length)) ∧
      |biasDps.1| ≤ gyroRange ∧ |biasDps.2.1| ≤ gyroRange ∧ |biasDps.2.2| ≤ gyroRange := by
  intro started heard biasDps
  have settled : biasDps = started.biasDps := by
    -- The induction is on the calls, none of which touches the bias.
    unfold biasDps
    clear_value started
    induction calls generalizing started with
    | nil => rfl
    | cons first rest ih => exact (ih _).trans (call_biasDps sdk started first)
  obtain ⟨some, count, bias⟩ := init_mean sdk requireMag world ok
  rw [settled]
  exact ⟨some, count, bias, init_biasDps_range sdk requireMag world ok⟩

set_option maxRecDepth 20000 in
/-- Over three hundred answered readings of the craft that turns, the bias is what it turns at. -/
theorem bias_is_mean_turning :
    let started := ((fresh {} {} false 0 : Sense Nat ℚ).init turningBus).2
    let heard := heardSamples {} started.board.log
    let biasDps := ([SenseCall.sample, .sampleMag].foldl (call turningBus) started).biasDps
    biasDps = (2, -2, 2 / 3) ∧ heard.length = 300 ∧
      biasDps = ((heard.map (·.gyroXDps)).sum * (1 / heard.length),
        (heard.map (·.gyroYDps)).sum * (1 / heard.length),
        (heard.map (·.gyroZDps)).sum * (1 / heard.length)) := by
  have all := bias_is_mean turningBus {} {} false 0 [.sample, .sampleMag] turningBus_up
  -- The three hundred answered readings are evaluated.
  exact ⟨by decide +kernel, by decide +kernel, all.2.2.1⟩

end Sense

end AmpFc
