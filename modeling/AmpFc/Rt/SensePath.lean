import AmpFc.Lib.History
import AmpFc.Rt.BoardI2c

/-! What the sense puts on the bus: only a sensor that identified itself and was set up is read. -/

namespace AmpFc

open FloatArith (ofRat)

namespace BoardI2c

variable {W : Type} {sdk : I2cSdk W} {board : BoardI2c W}

/-- The transfer that a register write comes to. -/
def writeTransfer (bus dev reg value : UInt8) (done : Bool) : SdkTransfer :=
  .write bus dev reg.toUInt16 [value] done

/-- Remembering a register reaches neither the bus nor which buses are ready. -/
theorem remember_frame (board : BoardI2c W) (bus dev : UInt8) (reg : UInt16) :
    (board.rememberI2cRegister bus dev reg).2.log = board.log ∧
      (board.rememberI2cRegister bus dev reg).2.ready = board.ready := by
  unfold rememberI2cRegister
  split_ifs
  · exact ⟨rfl, rfl⟩
  · exact ⟨rfl, rfl⟩

/-- A register write is one transfer on the bus, or none at all where it fails at once. -/
theorem writeRegister_cases (sdk : I2cSdk W) (board : BoardI2c W) (bus dev reg value : UInt8) :
    (board.writeRegister sdk bus dev reg value).2.ready = board.ready ∧
      ((board.writeRegister sdk bus dev reg value).1 = false ∧
          (board.writeRegister sdk bus dev reg value).2.log = board.log ∨
        (board.writeRegister sdk bus dev reg value).2.log =
          writeTransfer bus dev reg value (board.writeRegister sdk bus dev reg value).1 ::
            board.log) := by
  unfold writeRegister halI2cWrite
  by_cases up : board.busReady bus
  · have payload : ([value] : List UInt8).isEmpty = false := rfl
    simp only [up, Bool.not_true, Bool.false_eq_true, if_false, payload]
    -- The cursor that follows a write is no transfer.
    split_ifs
    · have frame := remember_frame (board.transferWrite sdk bus dev reg.toUInt16 [value]).2 bus dev
        (reg.toUInt16 + UInt16.ofNat [value].length)
      exact ⟨frame.2, Or.inr frame.1⟩
    · exact ⟨rfl, Or.inr rfl⟩
  · simp only [up, Bool.not_false, if_true]
    exact ⟨trivial, Or.inl ⟨trivial, trivial⟩⟩

/-- The register just named is the one that is remembered. -/
theorem named_register (sdk : I2cSdk W) (board : BoardI2c W) {bus : UInt8} (dev reg : UInt8)
    (up : board.busReady bus = true) :
    (board.halI2cWrite sdk bus dev [reg]).2.log = board.log ∧
      (board.halI2cWrite sdk bus dev [reg]).2.ready = board.ready ∧
      ((board.halI2cWrite sdk bus dev [reg]).1 = true →
        (board.halI2cWrite sdk bus dev [reg]).2.getI2cRegister bus dev = some reg.toUInt16) := by
  -- A write of a single byte only names a register.
  have named : board.halI2cWrite sdk bus dev [reg] =
      board.rememberI2cRegister bus dev reg.toUInt16 := by
    simp [halI2cWrite, up]
  rw [named]
  refine ⟨(remember_frame ..).1, (remember_frame ..).2, ?_⟩
  unfold rememberI2cRegister getI2cRegister
  split_ifs
  · simp
  · simp

/-- A read is one transfer from the register remembered for the device. -/
theorem halI2cRead_cases (sdk : I2cSdk W) (board : BoardI2c W) {bus dev : UInt8} {reg : UInt16}
    (length : Nat) (held : board.getI2cRegister bus dev = some reg) :
    (board.halI2cRead sdk bus dev length).2.ready = board.ready ∧
      ((board.halI2cRead sdk bus dev length).1 = none ∧
          (board.halI2cRead sdk bus dev length).2.log = board.log ∨
        (board.halI2cRead sdk bus dev length).2.log =
          .read bus dev reg length (board.halI2cRead sdk bus dev length).1 :: board.log) := by
  unfold halI2cRead
  rw [held]
  dsimp only
  split_ifs
  · exact ⟨rfl, Or.inl ⟨rfl, rfl⟩⟩
  · -- A read that succeeded also moves the register on, which is no transfer.
    have frame := remember_frame (board.transferRead sdk bus dev reg length).2 bus dev
      (reg + UInt16.ofNat length)
    exact ⟨frame.2, Or.inr frame.1⟩
  · exact ⟨rfl, Or.inr rfl⟩

/-- A register read is one transfer from the register named, whatever was remembered before. -/
theorem readRegisters_cases (sdk : I2cSdk W) (board : BoardI2c W) (bus dev reg : UInt8)
    (length : Nat) :
    (board.readRegisters sdk bus dev reg length).2.ready = board.ready ∧
      ((board.readRegisters sdk bus dev reg length).1 = none ∧
          (board.readRegisters sdk bus dev reg length).2.log = board.log ∨
        (board.readRegisters sdk bus dev reg length).2.log =
          .read bus dev reg.toUInt16 length (board.readRegisters sdk bus dev reg length).1 ::
            board.log) := by
  -- Naming the register moves nothing, so the read is the only transfer.
  unfold readRegisters
  by_cases up : board.busReady bus
  · obtain ⟨log, ready, held⟩ := named_register sdk board dev reg up
    dsimp only
    split_ifs with nothing refused
    · exact ⟨rfl, Or.inl ⟨rfl, rfl⟩⟩
    · exact ⟨ready, Or.inl ⟨rfl, log⟩⟩
    · have read := halI2cRead_cases sdk (board.halI2cWrite sdk bus dev [reg]).2
        length (held (by simpa using refused))
      rw [log, ready] at read
      exact read
  · have named : board.halI2cWrite sdk bus dev [reg] = (false, board) := by
      simp [halI2cWrite, up]
    rw [named]
    simp

end BoardI2c

/-- What a driver knows of its sensor: where it is, how it is identified, set up and read. -/
structure SensorDriver where
  bus : UInt8
  dev : UInt8
  idReg : UInt8
  idLength : Nat
  identity : List UInt8 → Bool
  setup : List (UInt8 × UInt8)
  dataReg : UInt8
  dataLength : Nat

/-- The driver of the inertial sensor. -/
def mpuDriver (imu : I2cBusConfig) : SensorDriver where
  bus := imu.busId
  dev := imu.mpuAddr
  idReg := 0x75
  idLength := 1
  identity := mpuIdentity
  setup := mpuSetup
  dataReg := 0x3B
  dataLength := 14

/-- The driver of the compass. -/
def hmcDriver (mag : Hmc5883lConfig) : SensorDriver where
  bus := mag.busId
  dev := mag.address
  idReg := 0x0A
  idLength := 3
  identity := hmcIdentity
  setup := hmcSetup
  dataReg := 0x03
  dataLength := 6

namespace SensorDriver

variable (driver : SensorDriver)

/-- The sensor has answered with an identity that the driver accepts. -/
def Identified (past : List SdkTransfer) : Prop :=
  ∃ id, driver.identity id = true ∧
    .read driver.bus driver.dev driver.idReg.toUInt16 driver.idLength (some id) ∈ past

/-- Every one of these registers has been written with success. -/
def Written (registers : List (UInt8 × UInt8)) (past : List SdkTransfer) : Prop :=
  ∀ entry ∈ registers,
    BoardI2c.writeTransfer driver.bus driver.dev entry.1 entry.2 true ∈ past

/-- The sensor is identified and set up. -/
def Ready (past : List SdkTransfer) : Prop :=
  driver.Identified past ∧ driver.Written driver.setup past

/-- What the driver puts on the bus while it brings its sensor up: it asks for the identity, and
writes a register of the set-up once the sensor is identified and the registers before are in. -/
def Configures (past : List SdkTransfer) (entry : SdkTransfer) : Prop :=
  (∃ id, entry = .read driver.bus driver.dev driver.idReg.toUInt16 driver.idLength id) ∨
    ∃ before reg value after done, driver.setup = before ++ (reg, value) :: after ∧
      driver.Identified past ∧ driver.Written before past ∧
      entry = BoardI2c.writeTransfer driver.bus driver.dev reg value done

/-- What the driver may put on the bus: it reads from the sensor once that is ready. -/
def Allowed (past : List SdkTransfer) (entry : SdkTransfer) : Prop :=
  driver.Configures past entry ∨
    (driver.Ready past ∧
      ∃ data, entry = .read driver.bus driver.dev driver.dataReg.toUInt16 driver.dataLength data)

variable {driver}

/-- A sensor that has identified itself stays identified. -/
theorem Identified.later {past later : List SdkTransfer} (known : driver.Identified past)
    (order : past ⊆ later) : driver.Identified later := by
  obtain ⟨id, accepted, read⟩ := known
  exact ⟨id, accepted, order read⟩

/-- A sensor that is set up stays set up. -/
theorem Ready.later {past later : List SdkTransfer} (ready : driver.Ready past)
    (order : past ⊆ later) : driver.Ready later :=
  ⟨ready.1.later order, fun entry among => order (ready.2 entry among)⟩

end SensorDriver

namespace BoardI2c

variable {W : Type} (sdk : I2cSdk W)

open SensorDriver

/-- A set-up that is written from some point on keeps to the driver, and when it succeeds the
whole of it has been written. -/
theorem writeRegisters_grows (driver : SensorDriver) (rest : List (UInt8 × UInt8)) :
    ∀ (before : List (UInt8 × UInt8)) (board : BoardI2c W), driver.setup = before ++ rest →
      driver.Identified board.log → driver.Written before board.log →
      Grows driver.Configures board.log
          (board.writeRegisters sdk driver.bus driver.dev rest).2.log ∧
        ((board.writeRegisters sdk driver.bus driver.dev rest).1 = true →
          driver.Written driver.setup
            (board.writeRegisters sdk driver.bus driver.dev rest).2.log) := by
  -- The induction is on the registers still to come; the ones before them have been written.
  induction rest with
  | nil =>
    intro before board split _ written
    rw [List.append_nil] at split
    exact ⟨.still, fun _ => split ▸ written⟩
  | cons entry rest ih =>
    intro before board split known written
    obtain ⟨reg, value⟩ := entry
    have one := (writeRegister_cases sdk board driver.bus driver.dev reg value).2
    simp only [writeRegisters]
    cases done : (board.writeRegister sdk driver.bus driver.dev reg value).1 with
    | false =>
      -- The first write that fails is the last one.
      rw [done] at one
      simp only [Bool.not_false, if_true, Bool.false_eq_true, false_implies, and_true]
      obtain ⟨-, same⟩ | moved := one
      · rw [same]
        exact .still
      · rw [moved]
        exact .single (.inr ⟨before, reg, value, rest, false, split, known, written, rfl⟩)
    | true =>
      rw [done] at one
      obtain ⟨wrong, -⟩ | moved := one
      · cases wrong
      have step : Grows driver.Configures board.log
          (board.writeRegister sdk driver.bus driver.dev reg value).2.log := by
        rw [moved]
        exact .single (.inr ⟨before, reg, value, rest, true, split, known, written, rfl⟩)
      have more : driver.Written (before ++ [(reg, value)])
          (board.writeRegister sdk driver.bus driver.dev reg value).2.log := by
        intro entry among
        obtain earlier | last := List.mem_append.mp among
        · exact step.subset (written entry earlier)
        · rw [List.mem_singleton.mp last, moved]
          exact List.mem_cons_self
      have onward := ih (before ++ [(reg, value)])
        (board.writeRegister sdk driver.bus driver.dev reg value).2
        (by rw [split, List.append_assoc]; rfl) (known.later step.subset) more
      simp only [Bool.not_true, Bool.false_eq_true, if_false]
      exact ⟨step.trans onward.1, onward.2⟩

end BoardI2c

namespace Sense

variable {W F : Type} [FloatArith F] (sdk : I2cSdk W)

open SensorDriver BoardI2c

/-- Bringing a sensor up keeps to its driver, and when it succeeds the sensor is ready. -/
theorem bringUp_grows (driver : SensorDriver) (board : BoardI2c W) :
    let up := bringUp sdk board driver.bus driver.dev driver.idReg driver.idLength driver.identity
      driver.setup
    Grows driver.Configures board.log up.2.log ∧ (up.1 = true → driver.Ready up.2.log) := by
  dsimp only [bringUp]
  have opens : (board.halI2cInit driver.bus).2.log = board.log := by
    unfold halI2cInit
    split_ifs <;> rfl
  split_ifs with shut unknown
  · rw [opens]
    exact ⟨.still, fun ok => by simp [ok] at shut⟩
  · -- A sensor that does not answer as expected is written nothing.
    obtain ⟨-, ⟨-, same⟩ | moved⟩ := readRegisters_cases sdk (board.halI2cInit driver.bus).2
      driver.bus driver.dev driver.idReg driver.idLength
    · rw [same, opens]
      exact ⟨.still, by simp⟩
    · rw [moved, opens]
      exact ⟨.single (.inl ⟨_, rfl⟩), by simp⟩
  · obtain ⟨-, ⟨nothing, -⟩ | moved⟩ := readRegisters_cases sdk (board.halI2cInit driver.bus).2
      driver.bus driver.dev driver.idReg driver.idLength
    · simp [nothing] at unknown
    rw [opens] at moved
    set identified := (board.halI2cInit driver.bus).2.readRegisters sdk driver.bus driver.dev
      driver.idReg driver.idLength with named
    have asked : Grows driver.Configures board.log identified.2.log := by
      rw [moved]
      exact .single (.inl ⟨_, rfl⟩)
    have known : driver.Identified identified.2.log := by
      cases answer : identified.1 with
      | none => simp [answer] at unknown
      | some id =>
        refine ⟨id, by simpa [answer] using unknown, ?_⟩
        rw [moved, answer]
        exact List.mem_cons_self
    obtain ⟨written, whole⟩ := writeRegisters_grows sdk driver driver.setup [] identified.2 rfl
      known (by intro entry among; cases among)
    exact ⟨asked.trans written, fun ok => ⟨known.later written.subset, whole ok⟩⟩

/-- A read from a sensor that is ready keeps to its driver; what it returns is the data of the
newest transfer. -/
theorem readRegisters_grows {driver : SensorDriver} {board : BoardI2c W}
    (ready : driver.Ready board.log) :
    let read := board.readRegisters sdk driver.bus driver.dev driver.dataReg driver.dataLength
    Grows driver.Allowed board.log read.2.log ∧
      ∀ raw, read.1 = some raw → read.2.log = .read driver.bus driver.dev driver.dataReg.toUInt16
        driver.dataLength (some raw) :: board.log := by
  intro read
  -- Either nothing was transferred, or one read that a sensor that is set up allows.
  obtain ⟨-, ⟨nothing, same⟩ | moved⟩ := readRegisters_cases sdk board driver.bus driver.dev
    driver.dataReg driver.dataLength
  · refine ⟨by rw [same]; exact .still, fun raw got => ?_⟩
    rw [nothing] at got
    cases got
  · refine ⟨by rw [moved]; exact .single (.inr ⟨ready, _, rfl⟩), fun raw got => ?_⟩
    rw [moved, got]

/-- What may be on the bus of a sense: the transfers of its two drivers. -/
def MayTransfer (imu : I2cBusConfig) (mag : Hmc5883lConfig) (past : List SdkTransfer)
    (entry : SdkTransfer) : Prop :=
  (mpuDriver imu).Allowed past entry ∨ (hmcDriver mag).Allowed past entry

/-- What the sense may ask for once it is up. -/
inductive SenseCall where
  | sample
  | sampleMag
  deriving DecidableEq, Repr

/-- The sense after a call. -/
def call (s : Sense W F) : SenseCall → Sense W F
  | .sample => (s.sample sdk).2
  | .sampleMag => (s.sampleMag sdk).2

/-- The sense before it is brought up, over a board that has not been used. -/
def fresh (imu : I2cBusConfig) (mag : Hmc5883lConfig) (requireMag : Bool) (world : W) :
    Sense W F where
  imu := imu
  mag := mag
  requireMag := requireMag
  magReady := false
  biasDps := (ofRat 0, ofRat 0, ofRat 0)
  board := { world := world }

/-- What holds of the bus from the moment the sense is up. -/
structure Up (imu : I2cBusConfig) (mag : Hmc5883lConfig) (s : Sense W F) : Prop where
  imu_eq : s.imu = imu
  mag_eq : s.mag = mag
  orderly : Grows (MayTransfer imu mag) [] s.board.log
  imuReady : (mpuDriver imu).Ready s.board.log
  magReady : s.magReady = true → (hmcDriver mag).Ready s.board.log

variable {sdk} {imu : I2cBusConfig} {mag : Hmc5883lConfig} {s : Sense W F}

/-- What the driver of the inertial sensor may do, the sense may do, -/
theorem mpu_may (past : List SdkTransfer) (entry : SdkTransfer)
    (allowed : (mpuDriver imu).Allowed past entry) : MayTransfer imu mag past entry :=
  .inl allowed

/-- and what that of the compass may do. -/
theorem hmc_may (past : List SdkTransfer) (entry : SdkTransfer)
    (allowed : (hmcDriver mag).Allowed past entry) : MayTransfer imu mag past entry :=
  .inr allowed

/-- The calls of a sense that is up leave it up. -/
theorem Up.call (up : Up imu mag s) (call : SenseCall) : Up imu mag (s.call sdk call) := by
  obtain ⟨rfl, rfl, orderly, imuReady, magReady⟩ := up
  cases call with
  | sample =>
    have grows := (readRegisters_grows sdk imuReady).1
    exact ⟨rfl, rfl, orderly.trans (grows.mono mpu_may), imuReady.later grows.subset,
      fun ready => (magReady ready).later grows.subset⟩
  | sampleMag =>
    simp only [Sense.call, Sense.sampleMag]
    split_ifs with absent
    · exact ⟨rfl, rfl, orderly, imuReady, magReady⟩
    · -- Only a compass that came up is read.
      have ready := magReady (by simpa using absent)
      have grows := (readRegisters_grows sdk ready).1
      exact ⟨rfl, rfl, orderly.trans (grows.mono hmc_may), imuReady.later grows.subset,
        fun _ => ready.later grows.subset⟩

/-- The loop of the calibration reads from a sensor that is ready. -/
theorem calibrateFrom_grows (sdk : I2cSdk W) (imu : I2cBusConfig) (turns : Nat) :
    ∀ (sums : (F × F × F) × Nat) (board : BoardI2c W), (mpuDriver imu).Ready board.log →
      Grows (mpuDriver imu).Allowed board.log (calibrateFrom sdk imu turns sums board).2.log := by
  -- The induction is on the readings to go, each of which may grow the log.
  induction turns with
  | zero => exact fun _ _ _ => .still
  | succ turns ih =>
    intro sums board ready
    have one := (readRegisters_grows sdk ready).1
    exact one.trans (ih _ _ (ready.later one.subset))

/-- The inertial sensor is ready once its `init` has returned true. -/
theorem imuInit_grows (sdk : I2cSdk W) (imu : I2cBusConfig) (board : BoardI2c W) :
    Grows (mpuDriver imu).Configures board.log (imuInit sdk imu board).2.log ∧
      ((imuInit sdk imu board).1 = true → (mpuDriver imu).Ready (imuInit sdk imu board).2.log) := by
  unfold imuInit
  split_ifs
  · exact ⟨.still, fun wrong => by cases wrong⟩
  · exact bringUp_grows sdk (mpuDriver imu) board

/-- The compass is ready once its `init` has returned true. -/
theorem magInit_grows (sdk : I2cSdk W) (mag : Hmc5883lConfig) (board : BoardI2c W) :
    Grows (hmcDriver mag).Configures board.log (magInit sdk mag board).2.log ∧
      ((magInit sdk mag board).1 = true → (hmcDriver mag).Ready (magInit sdk mag board).2.log) :=
  bringUp_grows sdk (hmcDriver mag) board

/-- The calibration leaves the board where its loop does. -/
theorem calibrate_board (turns : Nat) (board : BoardI2c W) :
    (calibrate sdk imu turns board : Option (F × F × F) × BoardI2c W).2 =
      (calibrateFrom sdk imu turns (((ofRat 0 : F), ofRat 0, ofRat 0), 0) board).2 := by
  unfold calibrate
  dsimp only
  split_ifs <;> rfl

/-- A sense that was brought up: its sensors came up in turn, with the calibration between. -/
theorem init_cases (s : Sense W F) (ok : (s.init sdk).1 = true) :
    ∃ opened : BoardI2c W, ∃ biasDps : F × F × F,
      imuInit sdk s.imu s.board = (true, opened) ∧
      (calibrate sdk s.imu 400 opened).1 = some biasDps ∧
      (s.init sdk).2 = { s with
        biasDps := biasDps
        magReady := (magInit sdk s.mag (calibrate sdk s.imu 400 opened :
          Option (F × F × F) × BoardI2c W).2).1
        board := (magInit sdk s.mag (calibrate sdk s.imu 400 opened :
          Option (F × F × F) × BoardI2c W).2).2 } := by
  unfold init at ok ⊢
  dsimp only at ok ⊢
  -- Only the last of the three exits reports success.
  split_ifs at ok ⊢ with shut
  generalize imuInit sdk s.imu s.board = first at shut ok ⊢
  obtain ⟨done, opened⟩ := first
  obtain rfl : done = true := by simpa using shut
  dsimp only at ok ⊢
  cases mean : (calibrate sdk s.imu 400 opened : Option (F × F × F) × BoardI2c W).1 with
  | none => simp [mean] at ok
  | some biasDps => exact ⟨opened, biasDps, rfl, mean, rfl⟩

/-- Once it is brought up the sense is up, whatever the bus did. -/
theorem init_up (requireMag : Bool) (world : W)
    (ok : ((fresh imu mag requireMag world : Sense W F).init sdk).1 = true) :
    Up imu mag ((fresh imu mag requireMag world : Sense W F).init sdk).2 := by
  -- The log grows in three parts: set-up, calibration, compass.
  obtain ⟨opened, biasDps, opens, -, after⟩ := init_cases _ ok
  rw [after]
  obtain ⟨configured, ready⟩ := imuInit_grows sdk imu ({ world := world } : BoardI2c W)
  have opens : imuInit sdk imu ({ world := world } : BoardI2c W) = (true, opened) := opens
  rw [opens] at configured ready
  have calibrated := calibrateFrom_grows sdk imu 400 (((ofRat 0 : F), ofRat 0, ofRat 0), 0) opened
    (ready rfl)
  rw [← calibrate_board] at calibrated
  have compass := magInit_grows sdk mag
    (calibrate sdk imu 400 opened : Option (F × F × F) × BoardI2c W).2
  refine ⟨rfl, rfl, ?_, ?_, ?_⟩
  · exact ((configured.mono fun _ _ may => mpu_may _ _ (.inl may)).trans
      (calibrated.mono mpu_may)).trans (compass.1.mono fun _ _ may => hmc_may _ _ (.inl may))
  · exact ((ready rfl).later calibrated.subset).later compass.1.subset
  · exact compass.2

/-- The data of a register read has the length that was asked for. -/
theorem readRegisters_whole (sdk : I2cSdk W) (board : BoardI2c W) {bus dev reg : UInt8}
    {length : Nat} {raw : List UInt8}
    (got : (board.readRegisters sdk bus dev reg length).1 = some raw) : raw.length = length := by
  unfold readRegisters halI2cRead at got
  dsimp only at got
  -- Of the exits only one hands out data.
  split_ifs at got
  split at got
  · cases got
  · exact sdk.whole got

/-- Every transfer of a sense that came up was in its place, over any calls that followed, and a
sample it hands out is what the sensor answered to the newest transfer. -/
theorem transfers_in_place (sdk : I2cSdk W) (imu : I2cBusConfig) (mag : Hmc5883lConfig)
    (requireMag : Bool) (world : W) (calls : List SenseCall)
    (ok : ((fresh imu mag requireMag world : Sense W F).init sdk).1 = true) :
    let s := calls.foldl (call sdk) ((fresh imu mag requireMag world : Sense W F).init sdk).2
    (∀ newer entry past, s.board.log = newer ++ entry :: past →
        (mpuDriver imu).Allowed past entry ∨ (hmcDriver mag).Allowed past entry) ∧
      (∀ sample, (s.sample sdk).1 = some sample → ∃ raw, raw.length = 14 ∧
        sample = imuSample raw ∧ (s.sample sdk).2.board.log =
          .read imu.busId imu.mpuAddr 0x3B 14 (some raw) :: s.board.log) ∧
      ∀ sample, (s.sampleMag sdk).1 = some sample → ∃ raw, raw.length = 6 ∧
        sample = magSample raw ∧ (s.sampleMag sdk).2.board.log =
          .read mag.busId mag.address 0x03 6 (some raw) :: s.board.log := by
  intro s
  have up : Up imu mag s := by
    -- The calls come one after the other upon a sense that is up.
    have starts := init_up requireMag world ok
    revert s
    generalize ((fresh imu mag requireMag world : Sense W F).init sdk).2 = start at starts
    induction calls generalizing start with
    | nil => exact starts
    | cons first rest ih => exact ih _ (starts.call first)
  clear_value s
  obtain ⟨rfl, rfl, orderly, imuReady, magReady⟩ := up
  refine ⟨?_, ?_, ?_⟩
  · intro newer entry past split
    rw [split] at orderly
    exact orderly.allows
  · intro sample got
    obtain ⟨raw, read, rfl⟩ := Option.map_eq_some_iff.mp got
    exact ⟨raw, readRegisters_whole sdk s.board read, rfl,
      (readRegisters_grows sdk imuReady).2 raw read⟩
  · intro sample got
    simp only [sampleMag] at got ⊢
    split_ifs at got ⊢ with absent
    obtain ⟨raw, read, rfl⟩ := Option.map_eq_some_iff.mp got
    exact ⟨raw, readRegisters_whole sdk s.board read, rfl,
      (readRegisters_grows sdk (magReady (by simpa using absent))).2 raw read⟩

/-- The calibration never takes a sample back. -/
theorem calibrateFrom_count_le (sdk : I2cSdk W) (imu : I2cBusConfig) (turns : Nat) :
    ∀ (sums : (F × F × F) × Nat) (board : BoardI2c W),
      sums.2 ≤ (calibrateFrom sdk imu turns sums board).1.2 := by
  -- The induction is on the readings to go, each of which may count.
  induction turns with
  | zero => exact fun _ _ => le_rfl
  | succ turns ih =>
    intro sums board
    refine le_trans ?_ (ih _ _)
    cases (imuRead sdk imu board : Option (RawImuSample F) × BoardI2c W).1 with
    | none => exact le_rfl
    | some sample => exact Nat.le_succ _

/-- A calibration whose first reading succeeds has a mean. -/
theorem calibrate_of_first_reading (sdk : I2cSdk W) (imu : I2cBusConfig) (turns : Nat)
    (board : BoardI2c W)
    (reads : (imuRead sdk imu board : Option (RawImuSample F) × BoardI2c W).1.isSome = true) :
    (calibrate sdk imu (turns + 1) board : Option (F × F × F) × BoardI2c W).1.isSome = true := by
  obtain ⟨sample, got⟩ := Option.isSome_iff_exists.mp reads
  -- The first reading counts, and the others take nothing back.
  have counted : (calibrateFrom sdk imu (turns + 1) (((ofRat 0 : F), ofRat 0, ofRat 0), 0)
      board).1.2 ≠ 0 := by
    rw [calibrateFrom, got]
    have later := calibrateFrom_count_le sdk imu turns ((ofRat 0 + sample.gyroXDps,
      ofRat 0 + sample.gyroYDps, ofRat 0 + sample.gyroZDps), 1)
      (imuRead sdk imu board : Option (RawImuSample F) × BoardI2c W).2
    exact Nat.pos_iff_ne_zero.mp later
  unfold calibrate
  dsimp only
  rw [if_neg counted]
  rfl

/-- A sense that requires no compass comes up when the first reading of its sensor succeeds. -/
theorem init_of_first_reading (sdk : I2cSdk W) (s : Sense W F) (optional : s.requireMag = false)
    (opens : (imuInit sdk s.imu s.board).1 = true)
    (reads : (imuRead sdk s.imu (imuInit sdk s.imu s.board).2 :
      Option (RawImuSample F) × BoardI2c W).1.isSome = true) :
    (s.init sdk).1 = true := by
  obtain ⟨biasDps, mean⟩ := Option.isSome_iff_exists.mp
    (calibrate_of_first_reading sdk s.imu 399 (imuInit sdk s.imu s.board).2 reads)
  -- With a mean, only a compass that is required could fail.
  unfold init
  simp only [opens, Bool.not_true, Bool.false_eq_true, if_false, optional, Bool.not_false,
    Bool.or_true]
  rw [mean]
  rfl

/-- A bus on which the craft turns: the compass always answers, and the inertial sensor three times
out of four. -/
def turningBus : I2cSdk Nat where
  write transfers _ _ _ _ := (true, transfers + 1)
  read transfers _ _ reg length :=
    let data : List UInt8 :=
      -- The identities of the two sensors, and then their data.
      if reg = 0x75 then [0x68]
      else if reg = 0x0A then [0x48, 0x34, 0x33]
      else if reg = 0x3B then
        [0, 0, 0, 0, 0x20, 0, 0, 0, 0, 131, 0xFF, 0x7D, 0, if transfers % 4 = 0 then 131 else 0]
      else [1, 0, 0, 0x80, 0, 0x20]
    let answer := (data ++ List.replicate length 0).take length
    (if reg = 0x3B ∧ transfers % 4 = 3 then none else some answer, transfers + 1)
  whole := by
    intro transfers bus dev reg length data read
    dsimp only at read
    split at read
    · cases read
    · cases read
      simp

/-- The sense comes up on this bus. -/
theorem turningBus_up : ((fresh {} {} false 0 : Sense Nat ℚ).init turningBus).1 = true :=
  init_of_first_reading turningBus _ rfl (by decide) (by decide)

/-- After a sample and one of the compass every transfer was in its place, and the next sample is
what the sensor answers. -/
theorem transfers_in_place_turning :
    let s := [SenseCall.sample, .sampleMag].foldl (call turningBus)
      ((fresh {} {} false 0 : Sense Nat ℚ).init turningBus).2
    (∀ newer entry past, s.board.log = newer ++ entry :: past →
        (mpuDriver {}).Allowed past entry ∨ (hmcDriver {}).Allowed past entry) ∧
      ∀ sample, (s.sample turningBus).1 = some sample → ∃ raw, raw.length = 14 ∧
        sample = imuSample raw ∧ (s.sample turningBus).2.board.log =
          .read 0 0x68 0x3B 14 (some raw) :: s.board.log := by
  have all := transfers_in_place (F := ℚ) turningBus {} {} false 0 [.sample, .sampleMag]
    turningBus_up
  exact ⟨all.1, all.2.1⟩

end Sense

end AmpFc
