import AmpFc.Firmware.BusTransactions

/-! The driver over devices made of registers is a store of registers. -/

namespace AmpFc.Firmware

/-- The address of a device has seven bits. -/
def sevenBits (dev : UInt8) : UInt8 := dev &&& 0x7F

/-- The device that a transaction is meant for. -/
def I2cTransfer.dev : I2cTransfer → UInt8
  | .readReg dev _ => dev
  | .writeReg dev _ _ => dev
  | .readRegs dev _ _ => dev

/-- What the devices hold, and for how many transactions they have done so. -/
structure RegisterStore where
  cells : Cells
  age : Nat

namespace RegisterStore

variable (registers : RegisterMap) (store : RegisterStore)

/-- A transaction is over, and the devices go on measuring. -/
def settled (cells : Cells) : RegisterStore := ⟨registers.settle store.age cells, store.age + 1⟩

/-- A transaction with a device that is there reads or writes its registers at once. -/
def answer (transfer : I2cTransfer) : I2cReply × RegisterStore :=
  let dev := sevenBits transfer.dev
  if registers.present dev then
    match transfer with
    | .readReg _ reg => (.ack [store.cells dev reg], store.settled registers store.cells)
    | .writeReg _ reg val =>
      let value := registers.latch dev reg (store.cells dev reg) val
      (.ack [], store.settled registers (store.cells.set dev reg value))
    | .readRegs _ reg len =>
      (.ack (store.cells.block dev reg len), store.settled registers store.cells)
  else (.nack .device, store.settled registers store.cells)

/-- What a transaction leaves behind; one that asks for nothing is refused. -/
def perform (transfer : I2cTransfer) : I2cOutcome × RegisterStore :=
  match transfer with
  | .readRegs _ _ 0 => ((-10, []), store)
  | _ =>
    let result := store.answer registers transfer
    (transfer.outcome result.1, result.2)

/-- Transactions with the store, each chosen by what the earlier ones left behind. -/
def run (next : List I2cOutcome → I2cTransfer) : Nat → RegisterStore →
    List I2cOutcome × RegisterStore
  | 0, store => ([], store)
  | count + 1, store =>
    let before := run next count store
    let result := before.2.perform registers (next before.1)
    (result.1 :: before.1, result.2)

/-- A transaction that asks for something is answered. -/
theorem perform_eq {transfer : I2cTransfer} (sized : transfer.Sized) :
    store.perform registers transfer = (transfer.outcome (store.answer registers transfer).1,
      (store.answer registers transfer).2) := by
  unfold perform
  split
  · exact absurd sized (Nat.lt_irrefl 0)
  · rfl

/-- One that asks for nothing is not. -/
theorem perform_refused {transfer : I2cTransfer} (nothing : ¬ transfer.Sized) :
    store.perform registers transfer = ((-10, []), store) := by
  -- Only a block read may ask for nothing.
  cases transfer with
  | readReg dev reg => exact absurd trivial nothing
  | writeReg dev reg val => exact absurd trivial nothing
  | readRegs dev reg len =>
    obtain rfl : len = 0 := Nat.eq_zero_of_not_pos nothing
    rfl

end RegisterStore

section Devices

variable {registers : RegisterMap} {bank : RegisterBank}

/-- The written address is that of the device. -/
theorem writeAddress_device (dev : UInt8) : (dev <<< 1) >>> 1 = sevenBits dev := by
  have every : ∀ bits : BitVec 8,
      (UInt8.ofBitVec bits <<< 1) >>> 1 = sevenBits (.ofBitVec bits) := by
    decide +kernel
  exact every dev.toBitVec

/-- So is the one that asks for a read. -/
theorem readAddress_device (dev : UInt8) : ((dev <<< 1) ||| 1) >>> 1 = sevenBits dev := by
  have every : ∀ bits : BitVec 8,
      ((UInt8.ofBitVec bits <<< 1) ||| 1) >>> 1 = sevenBits (.ofBitVec bits) := by
    decide +kernel
  exact every dev.toBitVec

/-- The state of the devices once one of them is chosen. -/
def choose (bank : RegisterBank) (dev : UInt8) : RegisterBank :=
  { bank with chosen := some dev, fresh := true }

/-- A device that is there acknowledges its address, and what follows is as the address says. -/
theorem send_present {byte dev : UInt8} (own : byte >>> 1 = dev)
    (present : registers.present dev = true) :
    registers.target.send byte ⟨.addressing, registers.target.start bank⟩ =
      (true, ⟨if byte &&& 1 != 0 then .reading else .writing, choose bank dev⟩) := by
  -- The address is that of the device.
  have acknowledged : registers.target.address byte (registers.target.start bank) =
      (true, choose bank dev) := by
    show (if registers.present (byte >>> 1) = true then _ else _) = _
    rw [own, if_pos present]
    rfl
  unfold ByteTarget.send
  dsimp only
  rw [acknowledged]

/-- Nobody acknowledges the address of a device that is not. -/
theorem send_absent {byte dev : UInt8} (own : byte >>> 1 = dev)
    (absent : registers.present dev ≠ true) :
    registers.target.send byte ⟨.addressing, registers.target.start bank⟩ =
      (false, ⟨.idle, { bank with chosen := none }⟩) := by
  -- The address is that of nobody.
  have refused : registers.target.address byte (registers.target.start bank) =
      (false, { bank with chosen := none }) := by
    show (if registers.present (byte >>> 1) = true then _ else _) = _
    rw [own, if_neg absent]
    rfl
  unfold ByteTarget.send
  dsimp only
  rw [refused]

/-- A device supplies its registers one after the other, from its pointer on. -/
theorem receiveAll_block (dev : UInt8) (count : Nat) :
    ∀ {mode : BusMode} {bank : RegisterBank}, bank.chosen = some dev →
      (registers.target.receiveAll count ⟨mode, bank⟩).1 =
          bank.cells.block dev bank.pointer count ∧
        (registers.target.receiveAll count ⟨mode, bank⟩).2.state.cells = bank.cells ∧
        (registers.target.receiveAll count ⟨mode, bank⟩).2.state.age = bank.age := by
  -- The induction is on the bytes to go, and each moves the pointer on.
  induction count with
  | zero => exact fun _ => ⟨rfl, rfl, rfl⟩
  | succ count ih =>
    intro mode bank chosen
    have received : ∀ more, registers.target.receive more ⟨mode, bank⟩ =
        (bank.cells dev bank.pointer,
          ⟨if more then .reading else .idle, { bank with pointer := bank.pointer + 1 }⟩) := by
      intro more
      unfold ByteTarget.receive
      rw [registers.supply_chosen chosen]
    unfold ByteTarget.receiveAll Cells.block
    dsimp only
    rw [received]
    obtain ⟨bytes, cells, age⟩ := @ih (if (count != 0) = true then .reading else .idle)
      { bank with pointer := bank.pointer + 1 } chosen
    exact ⟨congrArg (bank.cells dev bank.pointer :: ·) bytes, cells, age⟩

/-- The store that the devices amount to between two transactions. -/
def storeOf (bank : RegisterBank) : RegisterStore := ⟨bank.cells, bank.age⟩

/-- A read from a chosen device brings the registers from its pointer on. -/
theorem reading_block {dev : UInt8} (count : Nat)
    (present : registers.present (sevenBits dev) = true) :
    (registers.target.reading dev count ⟨.writing, bank⟩).1 =
        .ack (bank.cells.block (sevenBits dev) bank.pointer count) ∧
      storeOf (registers.target.reading dev count ⟨.writing, bank⟩).2 =
        (storeOf bank).settled registers bank.cells := by
  unfold ByteTarget.reading
  dsimp only
  rw [send_present (readAddress_device dev) present]
  -- The device stays chosen, and supplies its registers from the pointer on.
  obtain ⟨bytes, cells, age⟩ := @receiveAll_block registers (sevenBits dev) count
    (if ((dev <<< 1 ||| 1) &&& 1 != 0) = true then .reading else .writing)
    (choose bank (sevenBits dev)) rfl
  refine ⟨congrArg I2cReply.ack bytes, ?_⟩
  show RegisterStore.mk (registers.settle (registers.target.receiveAll count _).2.state.age
    (registers.target.receiveAll count _).2.state.cells)
      ((registers.target.receiveAll count _).2.state.age + 1) = _
  rw [cells, age]
  rfl

/-- Once its address is acknowledged, the device takes the next byte for its pointer. -/
theorem addressed_present (dev reg : UInt8)
    (rest : ByteSession RegisterBank → I2cReply × RegisterBank)
    (present : registers.present (sevenBits dev) = true) :
    registers.target.addressed dev reg rest bank =
      rest ⟨.writing,
        { bank with chosen := some (sevenBits dev), pointer := reg, fresh := false }⟩ := by
  unfold ByteTarget.addressed
  dsimp only
  rw [send_present (writeAddress_device dev) present, writeAddress_low]
  rfl

/-- A transaction with a device that is not there ends after its address. -/
theorem addressed_absent (dev reg : UInt8)
    (rest : ByteSession RegisterBank → I2cReply × RegisterBank)
    (absent : registers.present (sevenBits dev) ≠ true) :
    registers.target.addressed dev reg rest bank =
      (.nack .device, registers.target.stop { bank with chosen := none }) := by
  unfold ByteTarget.addressed
  dsimp only
  rw [send_absent (writeAddress_device dev) absent]
  rfl

/-- A register transaction with the devices is one with their store. -/
theorem answer_store (registers : RegisterMap) (transfer : I2cTransfer) (bank : RegisterBank) :
    (registers.target.answer transfer bank).1 = ((storeOf bank).answer registers transfer).1 ∧
      storeOf (registers.target.answer transfer bank).2 =
        ((storeOf bank).answer registers transfer).2 := by
  -- Absent devices answer no transaction, and present ones all of them.
  by_cases present : registers.present (sevenBits transfer.dev) = true
  · unfold RegisterStore.answer
    dsimp only
    rw [if_pos present]
    unfold ByteTarget.answer
    cases transfer with
    | readReg dev reg =>
      dsimp only
      rw [addressed_present dev reg _ present]
      exact reading_block 1 present
    | writeReg dev reg val =>
      dsimp only
      rw [addressed_present dev reg _ present]
      exact ⟨rfl, rfl⟩
    | readRegs dev reg len =>
      dsimp only
      rw [addressed_present dev reg _ present]
      exact reading_block len present
  · unfold RegisterStore.answer
    dsimp only
    rw [if_neg present]
    unfold ByteTarget.answer
    cases transfer with
    | readReg dev reg =>
      dsimp only
      rw [addressed_absent dev reg _ present]
      exact ⟨rfl, rfl⟩
    | writeReg dev reg val =>
      dsimp only
      rw [addressed_absent dev reg _ present]
      exact ⟨rfl, rfl⟩
    | readRegs dev reg len =>
      dsimp only
      rw [addressed_absent dev reg _ present]
      exact ⟨rfl, rfl⟩

/-- However transactions follow each other, the driver and the devices behind the two wires are a
store of registers: what it reads was written or measured, and only devices that are there
answer. -/
theorem line_run_eq_store_run {g : Gpioa (TargetPhase × RegisterBank)}
    (quiet : AtRest g.wires bank) (next : List I2cOutcome → I2cTransfer) (count : Nat) :
    (Gpioa.run registers.target.onWires next count g).1 =
      (RegisterStore.run registers next count (storeOf bank)).1 := by
  have both : ∃ last, AtRest (Gpioa.run registers.target.onWires next count g).2.wires last ∧
      storeOf last = (RegisterStore.run registers next count (storeOf bank)).2 ∧
      (Gpioa.run registers.target.onWires next count g).1 =
        (RegisterStore.run registers next count (storeOf bank)).1 := by
    -- The induction is on the transactions so far.
    induction count with
    | zero => exact ⟨bank, quiet, rfl, rfl⟩
    | succ count ih =>
      obtain ⟨last, rest, store, same⟩ := ih
      unfold Gpioa.run RegisterStore.run
      dsimp only
      rw [← same, ← store]
      by_cases sized : (next (Gpioa.run registers.target.onWires next count g).1).Sized
      · obtain ⟨outcome, after⟩ := perform_answer _ sized rest
        obtain ⟨reply, kept⟩ := answer_store registers
          (next (Gpioa.run registers.target.onWires next count g).1) last
        rw [RegisterStore.perform_eq _ _ sized, outcome, reply]
        exact ⟨_, after, kept, rfl⟩
      · rw [Gpioa.perform_refused _ _ sized, RegisterStore.perform_refused _ _ sized]
        exact ⟨last, rest, rfl, rfl⟩
  obtain ⟨_, _, _, same⟩ := both
  exact same

/-- The sensor is asleep before it is written to, and awake after. -/
theorem line_run_stores_wake_up :
    (Gpioa.run motionSensor.target.onWires wakeUp 3 (idlePort (.idle, motionBank))).1 =
      [(0, [0x01, 0, 0]), (0, []), (0, [0x40, 0, 0])] := by
  have stored : (RegisterStore.run motionSensor wakeUp 3 (storeOf motionBank)).1 =
      [(0, [0x01, 0, 0]), (0, []), (0, [0x40, 0, 0])] := by decide
  exact (line_run_eq_store_run ⟨idlePort_released _, rfl⟩ wakeUp 3).trans stored

end Devices

end AmpFc.Firmware
