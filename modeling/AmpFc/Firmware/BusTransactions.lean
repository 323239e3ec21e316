import AmpFc.Lib.RegisterBank
import AmpFc.Firmware.BusWires

/-! Bit by bit or transaction by transaction: what the sensor bus answers is the same. -/

namespace AmpFc

universe u

namespace ByteTarget

variable {τ : Type u} (target : ByteTarget τ)

/-- So many bytes from a target, of which all but the last are acknowledged. -/
def receiveAll : Nat → ByteSession τ → List UInt8 × ByteSession τ
  | 0, session => ([], session)
  | count + 1, session =>
    let first := target.receive (count != 0) session
    let others := receiveAll count first.2
    (first.1 :: others.1, others.2)

/-- Device and register are written first, whatever follows. -/
def addressed (dev reg : UInt8) (rest : ByteSession τ → Firmware.I2cReply × τ) (state : τ) :
    Firmware.I2cReply × τ :=
  let device := target.send (dev <<< 1) ⟨.addressing, target.start state⟩
  if !device.1 then (.nack .device, target.stop device.2.state)
  else
    let register := target.send reg device.2
    if !register.1 then (.nack .register, target.stop register.2.state) else rest register.2

/-- A read starts anew, and asks for bytes. -/
def reading (dev : UInt8) (count : Nat) (session : ByteSession τ) : Firmware.I2cReply × τ :=
  let device := target.send ((dev <<< 1) ||| 1) ⟨.addressing, target.start session.state⟩
  if !device.1 then (.nack .third, target.stop device.2.state)
  else
    let bytes := target.receiveAll count device.2
    (.ack bytes.1, target.stop bytes.2.state)

/-- A write goes on with the value. -/
def storing (val : UInt8) (session : ByteSession τ) : Firmware.I2cReply × τ :=
  let value := target.send val session
  (if value.1 then .ack [] else .nack .third, target.stop value.2.state)

/-- What the target answers to a register transaction, and its state afterwards. -/
def answer (transfer : Firmware.I2cTransfer) (state : τ) : Firmware.I2cReply × τ :=
  match transfer with
  | .readReg dev reg => target.addressed dev reg (target.reading dev 1) state
  | .writeReg dev reg val => target.addressed dev reg (target.storing val) state
  | .readRegs dev reg len => target.addressed dev reg (target.reading dev len) state

/-- The state that a target is left in by the transactions of a log. -/
def replay (state : τ) (log : Firmware.I2cLog) : τ :=
  log.foldr (fun entry state => (target.answer entry.1 state).2) state

/-- A target as the devices of the bus, which know all transactions so far. -/
def devices (state : τ) : Firmware.I2cDevices :=
  fun log transfer => (target.answer transfer (target.replay state log)).1

end ByteTarget

namespace Firmware

/-- What a transaction leaves behind: a return code, and the bytes that were read. -/
abbrev I2cOutcome := Int × List UInt8

/-- A transaction by the bit-banged driver. -/
def Gpioa.perform {σ : Type u} (on : WireDevice σ) (g : Gpioa σ) :
    I2cTransfer → I2cOutcome × Gpioa σ
  | .readReg dev reg =>
    let result := g.bbI2cReadReg on dev reg
    ((result.1, [result.2.1]), result.2.2)
  | .writeReg dev reg val =>
    let result := g.bbI2cWriteReg on dev reg val
    ((result.1, []), result.2)
  | .readRegs dev reg len =>
    let result := g.bbI2cReadRegs on dev reg len
    ((result.1, result.2.1), result.2.2)

/-- The same on the bus of transactions, whose codes are negated. -/
def I2cBus.perform (bus : I2cBus) : I2cTransfer → I2cOutcome × I2cBus
  | .readReg dev reg =>
    let result := Firmware.bbI2cReadReg bus dev reg
    ((-(result.1.toNat : Int), [result.2.1]), result.2.2)
  | .writeReg dev reg val =>
    let result := Firmware.bbI2cWriteReg bus dev reg val
    ((-(result.1.toNat : Int), []), result.2)
  | .readRegs dev reg len =>
    let result := Firmware.bbI2cReadRegs bus dev reg len
    ((-(result.1.toNat : Int), result.2.1), result.2.2)

/-- What a reply to a transaction leaves behind. -/
def I2cTransfer.outcome : I2cTransfer → I2cReply → I2cOutcome
  | .readReg _ _, .ack data => (0, [data.getD 0 0])
  | .readReg _ _, .nack byte => (-(byte.code.toNat : Int), [0])
  | .writeReg _ _ _, .ack _ => (0, [])
  | .readRegs _ _ len, .ack data => (0, data.take len)
  | _, .nack byte => (-(byte.code.toNat : Int), [])

/-- A transaction that asks for something. -/
def I2cTransfer.Sized : I2cTransfer → Prop
  | .readRegs _ _ len => 0 < len
  | _ => True

/-- On the bus of transactions that is all there is to it. -/
theorem I2cBus.perform_eq (bus : I2cBus) (transfer : I2cTransfer) (sized : transfer.Sized) :
    bus.perform transfer =
      (transfer.outcome (bus.devices bus.log transfer), (bus.transfer transfer).2) := by
  -- Each function looks at the reply once, and at nothing else.
  cases transfer with
  | readReg dev reg =>
    unfold I2cBus.perform bbI2cReadReg I2cBus.transfer
    dsimp only
    cases bus.devices bus.log (.readReg dev reg) <;> rfl
  | writeReg dev reg val =>
    unfold I2cBus.perform bbI2cWriteReg I2cBus.transfer
    dsimp only
    cases bus.devices bus.log (.writeReg dev reg val) <;> rfl
  | readRegs dev reg len =>
    unfold I2cBus.perform bbI2cReadRegs I2cBus.transfer
    dsimp only
    rw [if_neg (Nat.pos_iff_ne_zero.mp sized)]
    cases bus.devices bus.log (.readRegs dev reg len) <;> rfl

/-- A transaction that asks for nothing is refused on the bus of transactions, -/
theorem I2cBus.perform_refused (bus : I2cBus) {transfer : I2cTransfer}
    (nothing : ¬ transfer.Sized) : bus.perform transfer = ((-10, []), bus) := by
  -- Only a block read may ask for nothing.
  cases transfer with
  | readReg dev reg => exact absurd trivial nothing
  | writeReg dev reg val => exact absurd trivial nothing
  | readRegs dev reg len =>
    obtain rfl : len = 0 := Nat.eq_zero_of_not_pos nothing
    rfl

/-- and by the driver. -/
theorem Gpioa.perform_refused {σ : Type u} (on : WireDevice σ) (g : Gpioa σ)
    {transfer : I2cTransfer} (nothing : ¬ transfer.Sized) :
    g.perform on transfer = ((-10, []), g) := by
  -- Only a block read may ask for nothing.
  cases transfer with
  | readReg dev reg => exact absurd trivial nothing
  | writeReg dev reg val => exact absurd trivial nothing
  | readRegs dev reg len =>
    obtain rfl : len = 0 := Nat.eq_zero_of_not_pos nothing
    rfl

section Bytes

variable {τ : Type u} {target : ByteTarget τ} {g : Gpioa (TargetPhase × τ)}
  {session : ByteSession τ} {state : τ}

/-- The address that is written asks for a write. -/
theorem writeAddress_low (dev : UInt8) : ((dev <<< 1) &&& 1 != 0) = false := by
  have every : ∀ bits : BitVec 8, ((UInt8.ofBitVec bits <<< 1) &&& 1 != 0) = false := by
    decide +kernel
  exact every dev.toBitVec

/-- The address that is read asks for a read. -/
theorem readAddress_low (dev : UInt8) : (((dev <<< 1) ||| 1) &&& 1 != 0) = true := by
  have every : ∀ bits : BitVec 8, (((UInt8.ofBitVec bits <<< 1) ||| 1) &&& 1 != 0) = true := by
    decide +kernel
  exact every dev.toBitVec

/-- After a byte that is acknowledged the address tells what follows. -/
theorem send_address {byte : UInt8} (acknowledged :
    (target.send byte ⟨.addressing, state⟩).1 = true) :
    (target.send byte ⟨.addressing, state⟩).2.mode =
      if byte &&& 1 != 0 then .reading else .writing := by
  unfold ByteTarget.send at acknowledged ⊢
  dsimp only at acknowledged ⊢
  -- A byte that was refused is not acknowledged.
  split at acknowledged
  · rfl
  · cases acknowledged

/-- A byte that nobody acknowledges leaves the target idle. -/
theorem send_refused {byte : UInt8} (fresh : session.mode = .addressing ∨ session.mode = .writing)
    (refused : (target.send byte session).1 = false) :
    (target.send byte session).2.mode = .idle := by
  obtain ⟨mode, state⟩ := session
  unfold ByteTarget.send at refused ⊢
  rcases fresh with rfl | rfl
  -- Either way the session ends with the refusal.
  all_goals
    dsimp only at refused ⊢
    split at refused
    · cases refused
    · rfl

/-- A byte that is written and acknowledged may be followed by another. -/
theorem send_written {byte : UInt8} (writing : session.mode = .writing)
    (acknowledged : (target.send byte session).1 = true) :
    (target.send byte session).2.mode = .writing := by
  obtain ⟨mode, state⟩ := session
  cases writing
  unfold ByteTarget.send at acknowledged ⊢
  dsimp only at acknowledged ⊢
  -- A byte that was refused is not acknowledged.
  split at acknowledged
  · rfl
  · cases acknowledged

/-- A byte that the driver writes is a byte of the session. -/
theorem bbI2cWriteByte_attends (attends : Attends target g.wires session)
    (free : session.mode ≠ .reading) (byte : UInt8) :
    (g.bbI2cWriteByte target.onWires byte).1 = (if (target.send byte session).1 then 0 else -1) ∧
      Attends target (g.bbI2cWriteByte target.onWires byte).2.wires
        (target.send byte session).2 := by
  obtain ⟨acknowledged, after⟩ := attends.writeByte free byte
  rw [Gpioa.bbI2cWriteByte_code, Gpioa.bbI2cWriteByte_wires, acknowledged]
  exact ⟨rfl, after⟩

/-- The bytes that the driver reads are those of the session. -/
theorem bbReadBytes_attends (count : Nat) :
    ∀ {g : Gpioa (TargetPhase × τ)} {session : ByteSession τ}, Attends target g.wires session →
      session.mode = .reading → 0 < count →
      (Gpioa.bbReadBytes target.onWires count g).1 = (target.receiveAll count session).1 ∧
        Attends target (Gpioa.bbReadBytes target.onWires count g).2.wires
          (target.receiveAll count session).2 ∧
        (target.receiveAll count session).2.mode = .idle := by
  -- The induction is on the bytes to go; the last one ends the reading.
  induction count with
  | zero => exact fun _ _ none => absurd none (Nat.lt_irrefl 0)
  | succ count ih =>
    intro g session attends reads _
    obtain ⟨byte, after⟩ := attends.readByte reads (count != 0)
    unfold Gpioa.bbReadBytes ByteTarget.receiveAll
    dsimp only
    rw [← Gpioa.bbI2cReadByte_byte] at byte
    rw [← Gpioa.bbI2cReadByte_wires] at after
    rw [byte]
    cases count with
    | zero => exact ⟨rfl, after, rfl⟩
    | succ count =>
      obtain ⟨bytes, last, idle⟩ := ih after rfl (Nat.succ_pos count)
      rw [bytes]
      exact ⟨rfl, last, idle⟩

end Bytes

section Transactions

variable {τ : Type u} {target : ByteTarget τ} {g : Gpioa (TargetPhase × τ)} {state : τ}

/-- What is at rest stays at rest while the lines are let go, and then starts. -/
theorem attends_start (rest : AtRest g.wires state) :
    Attends target ((g.bbI2cIdle target.onWires).bbI2cStart target.onWires).wires
      ⟨.addressing, target.start state⟩ := by
  rw [Gpioa.bbI2cStart_wires, Gpioa.bbI2cIdle_wires, rest.released.idle]
  exact rest.start

/-- A stop after a session that is not reading brings everything to rest. -/
theorem atRest_stop {session : ByteSession τ} (attends : Attends target g.wires session)
    (free : session.mode ≠ .reading) :
    AtRest (g.bbI2cStop target.onWires).wires (target.stop session.state) := by
  rw [Gpioa.bbI2cStop_wires]
  exact attends.stop free

/-- The first two bytes of a transaction, before what follows or what a refusal leads to. -/
def Gpioa.addressed {σ α : Type u} (on : WireDevice σ) (g : Gpioa σ) (dev reg : UInt8)
    (fail : Int → Gpioa σ → α) (rest : Gpioa σ → α) : α :=
  let device := ((g.bbI2cIdle on).bbI2cStart on).bbI2cWriteByte on (dev <<< 1)
  if device.1 ≠ 0 then fail (-1) (device.2.bbI2cStop on)
  else
    let register := device.2.bbI2cWriteByte on reg
    if register.1 ≠ 0 then fail (-2) (register.2.bbI2cStop on) else rest register.2

/-- The two bytes go on exactly if the target acknowledges both. -/
theorem addressed_answer {α : Type u} {fail : Int → Gpioa (TargetPhase × τ) → α}
    {rest : Gpioa (TargetPhase × τ) → α} {expected : ByteSession τ → I2cReply × τ}
    {agree : α → I2cReply × τ → Prop} {dev reg : UInt8} (quiet : AtRest g.wires state)
    (refused : ∀ (byte : I2cNack) g state, AtRest g.wires state →
      agree (fail (-(byte.code.toNat : Int)) g) (.nack byte, state))
    (goes : ∀ g session, Attends target g.wires session → session.mode = .writing →
      agree (rest g) (expected session)) :
    agree (g.addressed target.onWires dev reg fail rest)
      (target.addressed dev reg expected state) := by
  obtain ⟨code, after⟩ := bbI2cWriteByte_attends (attends_start quiet) nofun (dev <<< 1)
  unfold Gpioa.addressed ByteTarget.addressed
  dsimp only
  rw [code]
  -- The first byte is the address, and the second the register.
  cases acknowledged : (target.send (dev <<< 1) ⟨.addressing, target.start state⟩).1 with
  | false =>
    have idle := send_refused (Or.inl rfl) acknowledged
    exact refused .device _ _ (atRest_stop after (by rw [idle]; nofun))
  | true =>
    have writing := send_address acknowledged
    rw [writeAddress_low] at writing
    obtain ⟨code, last⟩ := bbI2cWriteByte_attends after (by rw [writing]; nofun) reg
    simp only [if_true, ne_eq, not_true_eq_false, if_false, Bool.not_true, Bool.false_eq_true]
    rw [code]
    cases taken : (target.send reg
        (target.send (dev <<< 1) ⟨.addressing, target.start state⟩).2).1 with
    | false =>
      have idle := send_refused (Or.inr writing) taken
      exact refused .register _ _ (atRest_stop last (by rw [idle]; nofun))
    | true => exact goes _ _ last (send_written writing taken)

/-- The repeated start of a read, before its bytes or what a refusal leads to. -/
def Gpioa.reading {σ α : Type u} (on : WireDevice σ) (g : Gpioa σ) (dev : UInt8)
    (fail : Int → Gpioa σ → α) (rest : Gpioa σ → α) : α :=
  let device := (g.bbI2cStart on).bbI2cWriteByte on ((dev <<< 1) ||| 1)
  if device.1 ≠ 0 then fail (-3) (device.2.bbI2cStop on) else rest device.2

/-- The bytes follow exactly if the target acknowledges its address again. -/
theorem reading_answer {α : Type u} {fail : Int → Gpioa (TargetPhase × τ) → α}
    {rest : Gpioa (TargetPhase × τ) → α} {agree : α → I2cReply × τ → Prop} {dev : UInt8}
    {count : Nat} (asks : 0 < count) {session : ByteSession τ}
    (attends : Attends target g.wires session) (writing : session.mode = .writing)
    (refused : ∀ g state, AtRest g.wires state → agree (fail (-3) g) (.nack .third, state))
    (goes : ∀ g bytes state,
      AtRest ((Gpioa.bbReadBytes target.onWires count g).2.bbI2cStop target.onWires).wires state →
      (Gpioa.bbReadBytes target.onWires count g).1 = bytes → agree (rest g) (.ack bytes, state)) :
    agree (g.reading target.onWires dev fail rest) (target.reading dev count session) := by
  -- A session that was written to may start anew.
  have free : session.mode ≠ .reading := by
    rw [writing]
    nofun
  have anew := attends.start free
  rw [← Gpioa.bbI2cStart_wires] at anew
  obtain ⟨code, after⟩ := bbI2cWriteByte_attends anew nofun ((dev <<< 1) ||| 1)
  unfold Gpioa.reading ByteTarget.reading
  dsimp only
  rw [code]
  cases acknowledged : (target.send ((dev <<< 1) ||| 1)
      ⟨.addressing, target.start session.state⟩).1 with
  | false =>
    have idle := send_refused (Or.inl rfl) acknowledged
    exact refused _ _ (atRest_stop after (by rw [idle]; nofun))
  | true =>
    have reads := send_address acknowledged
    rw [readAddress_low] at reads
    obtain ⟨bytes, last, idle⟩ := bbReadBytes_attends count after reads asks
    exact goes _ _ _ (atRest_stop last (by rw [idle]; nofun)) bytes

/-- A register is read by its two bytes, a repeated start and one more byte. -/
theorem Gpioa.bbI2cReadReg_eq {σ : Type u} (on : WireDevice σ) (g : Gpioa σ) (dev reg : UInt8) :
    g.bbI2cReadReg on dev reg =
      g.addressed on dev reg (fun code g => (code, 0, g)) fun g =>
        g.reading on dev (fun code g => (code, 0, g)) fun g =>
          (0, (g.bbI2cReadByte on false).1, (g.bbI2cReadByte on false).2.bbI2cStop on) := rfl

/-- A register is written by three bytes. -/
theorem Gpioa.bbI2cWriteReg_eq {σ : Type u} (on : WireDevice σ) (g : Gpioa σ)
    (dev reg val : UInt8) :
    g.bbI2cWriteReg on dev reg val =
      g.addressed on dev reg (fun code g => (code, g)) fun g =>
        if (g.bbI2cWriteByte on val).1 ≠ 0 then
          (-3, (g.bbI2cWriteByte on val).2.bbI2cStop on)
        else (0, (g.bbI2cWriteByte on val).2.bbI2cStop on) := rfl

/-- Several registers are read as one is, with more bytes at the end. -/
theorem Gpioa.bbI2cReadRegs_eq {σ : Type u} (on : WireDevice σ) (g : Gpioa σ) (dev reg : UInt8)
    {len : Int} (asks : 0 < len) :
    g.bbI2cReadRegs on dev reg len =
      g.addressed on dev reg (fun code g => (code, [], g)) fun g =>
        g.reading on dev (fun code g => (code, [], g)) fun g =>
          (0, (bbReadBytes on len.toNat g).1, (bbReadBytes on len.toNat g).2.bbI2cStop on) := by
  unfold bbI2cReadRegs
  rw [if_neg (by omega)]
  rfl

/-- A transaction on the wires leaves what the target's answer leaves, and ends at rest. -/
theorem perform_answer (transfer : I2cTransfer) (sized : transfer.Sized)
    (quiet : AtRest g.wires state) :
    (g.perform target.onWires transfer).1 = transfer.outcome (target.answer transfer state).1 ∧
      AtRest (g.perform target.onWires transfer).2.wires (target.answer transfer state).2 := by
  cases transfer with
  | readReg dev reg =>
    let agree (result : Int × UInt8 × Gpioa (TargetPhase × τ)) (expected : I2cReply × τ) : Prop :=
      (result.1, [result.2.1]) = I2cTransfer.outcome (.readReg dev reg) expected.1 ∧
        AtRest result.2.2.wires expected.2
    show agree (g.bbI2cReadReg target.onWires dev reg) (target.answer (.readReg dev reg) state)
    rw [Gpioa.bbI2cReadReg_eq]
    refine addressed_answer quiet ?_ ?_
    · exact fun _ _ _ rest => ⟨rfl, rest⟩
    · intro g session attends writing
      refine reading_answer Nat.one_pos attends writing ?_ ?_
      · exact fun _ _ rest => ⟨rfl, rest⟩
      · rintro g bytes state rest rfl
        exact ⟨rfl, rest⟩
  | writeReg dev reg val =>
    let agree (result : Int × Gpioa (TargetPhase × τ)) (expected : I2cReply × τ) : Prop :=
      (result.1, []) = I2cTransfer.outcome (.writeReg dev reg val) expected.1 ∧
        AtRest result.2.wires expected.2
    show agree (g.bbI2cWriteReg target.onWires dev reg val)
      (target.answer (.writeReg dev reg val) state)
    rw [Gpioa.bbI2cWriteReg_eq]
    refine addressed_answer quiet ?_ ?_
    · exact fun _ _ _ rest => ⟨rfl, rest⟩
    · intro g session attends writing
      obtain ⟨code, after⟩ := bbI2cWriteByte_attends attends (by rw [writing]; nofun) val
      unfold ByteTarget.storing
      dsimp only
      rw [code]
      cases taken : (target.send val session).1 with
      | false =>
        have idle := send_refused (Or.inr writing) taken
        exact ⟨rfl, atRest_stop after (by rw [idle]; nofun)⟩
      | true =>
        have last := send_written writing taken
        exact ⟨rfl, atRest_stop after (by rw [last]; nofun)⟩
  | readRegs dev reg len =>
    let agree (result : Int × List UInt8 × Gpioa (TargetPhase × τ)) (expected : I2cReply × τ) :
        Prop :=
      (result.1, result.2.1) = I2cTransfer.outcome (.readRegs dev reg len) expected.1 ∧
        AtRest result.2.2.wires expected.2
    show agree (g.bbI2cReadRegs target.onWires dev reg len)
      (target.answer (.readRegs dev reg len) state)
    have asks : 0 < len := sized
    rw [Gpioa.bbI2cReadRegs_eq target.onWires g dev reg (Int.natCast_pos.mpr asks)]
    refine addressed_answer quiet ?_ ?_
    · exact fun _ _ _ rest => ⟨rfl, rest⟩
    · intro g session attends writing
      refine reading_answer asks attends writing ?_ ?_
      · exact fun _ _ rest => ⟨rfl, rest⟩
      · rintro g bytes state rest rfl
        -- As many bytes are read as are asked for.
        have room : (Gpioa.bbReadBytes target.onWires len g).1.length = len :=
          Gpioa.length_bbReadBytes len g
        refine ⟨?_, rest⟩
        show (0, (Gpioa.bbReadBytes target.onWires len g).1) =
          ((0, (Gpioa.bbReadBytes target.onWires len g).1.take len) : I2cOutcome)
        rw [List.take_of_length_le room.le]

end Transactions

section Runs

variable {τ : Type u} (target : ByteTarget τ)

/-- Transactions by the driver, each chosen by what the earlier ones left behind. -/
def Gpioa.run {σ : Type u} (on : WireDevice σ) (next : List I2cOutcome → I2cTransfer) :
    Nat → Gpioa σ → List I2cOutcome × Gpioa σ
  | 0, g => ([], g)
  | count + 1, g =>
    let before := Gpioa.run on next count g
    let result := before.2.perform on (next before.1)
    (result.1 :: before.1, result.2)

/-- The same on the bus of transactions. -/
def I2cBus.run (next : List I2cOutcome → I2cTransfer) : Nat → I2cBus → List I2cOutcome × I2cBus
  | 0, bus => ([], bus)
  | count + 1, bus =>
    let before := I2cBus.run next count bus
    let result := before.2.perform (next before.1)
    (result.1 :: before.1, result.2)

variable {target} {g : Gpioa (TargetPhase × τ)} {state : τ}

/-- However transactions follow each other, the driver obtains from the wires what the bus of
transactions answers, and leaves the wires at rest with a target that has seen just these. -/
theorem line_run_eq_bus_run (quiet : AtRest g.wires state)
    (next : List I2cOutcome → I2cTransfer) (count : Nat) :
    (Gpioa.run target.onWires next count g).1 =
        (I2cBus.run next count ⟨target.devices state, []⟩).1 ∧
      AtRest (Gpioa.run target.onWires next count g).2.wires
        (target.replay state (I2cBus.run next count ⟨target.devices state, []⟩).2.log) := by
  have devices : ∀ count, (I2cBus.run next count ⟨target.devices state, []⟩).2.devices =
      target.devices state := by
    intro count
    induction count with
    | zero => rfl
    | succ count ih =>
      unfold I2cBus.run
      dsimp only
      by_cases sized : (next (I2cBus.run next count ⟨target.devices state, []⟩).1).Sized
      · rw [I2cBus.perform_eq _ _ sized]
        exact ih
      · rw [I2cBus.perform_refused _ sized]
        exact ih
  -- The induction is on the transactions so far.
  induction count with
  | zero => exact ⟨rfl, quiet⟩
  | succ count ih =>
    obtain ⟨same, rest⟩ := ih
    unfold Gpioa.run I2cBus.run
    dsimp only
    by_cases sized : (next (Gpioa.run target.onWires next count g).1).Sized
    · obtain ⟨outcome, after⟩ := perform_answer _ sized rest
      rw [← same, outcome, I2cBus.perform_eq _ _ sized, devices]
      exact ⟨rfl, after⟩
    · -- Neither side does anything but refuse.
      rw [← same, Gpioa.perform_refused _ _ sized, I2cBus.perform_refused _ sized]
      exact ⟨rfl, rest⟩

/-- A motion sensor alone on the bus, whose registers keep what is written to them. -/
def motionSensor : RegisterMap := ⟨(· == 0x68), fun _ _ _ new => new, fun _ cells => cells⟩

/-- Its registers when it wakes up: it sleeps, and tells who it is. -/
def motionBank : RegisterBank :=
  ⟨fun _ reg => if reg = 0x75 then 0x68 else if reg = 0x6B then 0x40 else 0, 0, 0, none, false⟩

/-- The port before it is used. -/
def idlePort {σ : Type u} (device : σ) : Gpioa σ := ⟨0, 0, 0, device, []⟩

/-- It leaves the bus alone. -/
theorem idlePort_released {σ : Type u} (device : σ) : (idlePort device).wires.Released := by
  -- Without an output no line is held.
  have holds : ∀ line, (idlePort device).holds line = false := by
    intro line
    show ((0 : UInt32) &&& line.mask != 0 && (0 : UInt32) &&& line.mask == 0) = false
    cases line <;> decide
  show Held.mk ((idlePort device).holds .scl) ((idlePort device).holds .sda) = ⟨false, false⟩
  rw [holds, holds]

/-- The sensor is woken up, and asked for what it has become, until it has been asked enough. -/
def wakeUp (outcomes : List I2cOutcome) : I2cTransfer :=
  if outcomes.length % 2 = 0 then .readRegs 0x68 0x6B 3 else .writeReg 0x68 0x6B 0x01

/-- Bit by bit the sensor answers what it answers on the bus of transactions. -/
theorem line_run_wakes_sensor :
    (Gpioa.run motionSensor.target.onWires wakeUp 3 (idlePort (.idle, motionBank))).1 =
        (I2cBus.run wakeUp 3 ⟨motionSensor.target.devices motionBank, []⟩).1 ∧
      AtRest (Gpioa.run motionSensor.target.onWires wakeUp 3 (idlePort (.idle, motionBank))).2.wires
        (motionSensor.target.replay motionBank
          (I2cBus.run wakeUp 3 ⟨motionSensor.target.devices motionBank, []⟩).2.log) :=
  line_run_eq_bus_run ⟨idlePort_released _, rfl⟩ wakeUp 3

end Runs

end Firmware

end AmpFc
