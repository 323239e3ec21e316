import AmpFc.Firmware.BusTransactions

/-! Open drain: whatever hangs on the bus, the port never drives one of its lines up. -/

namespace AmpFc.Firmware

universe u

/-- The port as the bus wants it: no pin of the bus is an output that is up. -/
def DrainsOnly (registers : UInt32 × UInt32) : Prop := registers.1 &&& registers.2 &&& busMask = 0

/-- Two states of the registers differ in nothing but the pins of the bus. -/
def SameElsewhere (before after : UInt32 × UInt32) : Prop :=
  after.1 &&& ~~~busMask = before.1 &&& ~~~busMask ∧
    after.2 &&& ~~~busMask = before.2 &&& ~~~busMask

section Words

variable {x y mask whole : UInt32}

/-- Clearing some of the pins of the bus shows nowhere else. -/
theorem clear_within (within : mask &&& whole = mask) :
    (x &&& ~~~mask) &&& ~~~whole = x &&& ~~~whole := by
  -- Bit by bit.
  apply word_ext
  intro place
  have bit := congrArg (fun word => word.toBitVec.getLsbD place) within
  simp at bit ⊢
  grind

/-- Nor does setting them. -/
theorem set_within (within : mask &&& whole = mask) :
    (x ||| mask) &&& ~~~whole = x &&& ~~~whole := by
  -- Bit by bit.
  apply word_ext
  intro place
  have bit := congrArg (fun word => word.toBitVec.getLsbD place) within
  simp at bit ⊢
  grind

/-- What is cleared on one side of a conjunction stays empty. -/
theorem clear_left_empty (empty : x &&& y &&& whole = 0) : (x &&& ~~~mask) &&& y &&& whole = 0 := by
  -- Bit by bit.
  apply word_ext
  intro place
  have bit := congrArg (fun word => word.toBitVec.getLsbD place) empty
  simp at bit ⊢
  grind

/-- A bit may be set on the other side once it is cleared here. -/
theorem clear_set_empty (empty : x &&& y &&& whole = 0) :
    (x &&& ~~~mask) &&& (y ||| mask) &&& whole = 0 := by
  -- Bit by bit.
  apply word_ext
  intro place
  have bit := congrArg (fun word => word.toBitVec.getLsbD place) empty
  simp at bit ⊢
  grind

end Words

/-- The pins of the bus are among its pins. -/
theorem BusLine.mask_within (line : BusLine) : line.mask &&& busMask = line.mask := by
  cases line <;> decide

namespace Gpioa

variable {σ : Type u} {on : WireDevice σ} {g h : Gpioa σ}

/-- The registers as they stand. -/
def registers (g : Gpioa σ) : UInt32 × UInt32 := (g.dr, g.ddr)

/-- What the driver does to the port: it drives a line low, or lets it go. -/
inductive Move (on : WireDevice σ) (g : Gpioa σ) : Gpioa σ → Prop where
  | low (line : BusLine) : Move on g (g.bbGpioOutputLow on line.mask)
  | release (line : BusLine) : Move on g (g.bbGpioRelease on line.mask)

/-- Any number of moves. -/
abbrev Moves (on : WireDevice σ) : Gpioa σ → Gpioa σ → Prop := Relation.ReflTransGen (Move on)

/-- Everything that was ever written drains only, and leaves the other pins as they were. -/
structure Drained (first : UInt32 × UInt32) (g : Gpioa σ) : Prop where
  now : DrainsOnly g.registers
  same : SameElsewhere first g.registers
  ever : ∀ registers ∈ g.written, DrainsOnly registers ∧ SameElsewhere first registers

/-- A write of such registers leaves the port drained. -/
theorem Drained.write {first : UInt32 × UInt32} (drained : Drained first g) (off : PortRegister)
    (val : UInt32) (only : DrainsOnly (g.gpioaWrite on off val).registers)
    (same : SameElsewhere first (g.gpioaWrite on off val).registers) :
    Drained first (g.gpioaWrite on off val) := by
  refine ⟨only, same, ?_⟩
  intro registers written
  -- The registers are those of the new write, or were written before.
  have parts : registers = (g.gpioaWrite on off val).registers ∨ registers ∈ g.written := by
    cases off <;> exact List.mem_cons.mp written
  rcases parts with rfl | earlier
  · exact ⟨only, same⟩
  · exact drained.ever registers earlier

/-- One move keeps the port drained, after each of its writes. -/
theorem Drained.move {first : UInt32 × UInt32} (drained : Drained first g) (move : Move on g h) :
    Drained first h := by
  cases move with
  | low line =>
    -- The output goes low before the pin becomes one.
    have cleared : Drained first (g.gpioaWrite on .dr (g.dr &&& ~~~line.mask)) := by
      refine drained.write .dr _ (clear_left_empty drained.now) ⟨?_, drained.same.2⟩
      exact (clear_within line.mask_within).trans drained.same.1
    refine cleared.write .ddr _ (clear_set_empty drained.now) ⟨cleared.same.1, ?_⟩
    exact (set_within line.mask_within).trans drained.same.2
  | release line =>
    refine drained.write .ddr _ ?_ ⟨drained.same.1, ?_⟩
    · show g.dr &&& (g.ddr &&& ~~~line.mask) &&& busMask = 0
      rw [UInt32.and_comm g.dr]
      refine clear_left_empty ?_
      rw [UInt32.and_comm g.ddr]
      exact drained.now
    · exact (clear_within line.mask_within).trans drained.same.2

/-- So do any number of moves. -/
theorem Drained.moves {first : UInt32 × UInt32} (drained : Drained first g) (moves : Moves on g h) :
    Drained first h := by
  induction moves with
  | refl => exact drained
  | tail _ move ih => exact ih.move move

/-- A start moves the lines as they may be moved, -/
theorem moves_start (on : WireDevice σ) (g : Gpioa σ) : Moves on g (g.bbI2cStart on) :=
  (((Relation.ReflTransGen.single (.release .sda)).tail (.release .scl)).tail (.low .sda)).tail
    (.low .scl)

/-- and so does a stop, -/
theorem moves_stop (on : WireDevice σ) (g : Gpioa σ) : Moves on g (g.bbI2cStop on) :=
  ((Relation.ReflTransGen.single (.low .sda)).tail (.release .scl)).tail (.release .sda)

/-- a written bit, -/
theorem moves_writeBit (on : WireDevice σ) (g : Gpioa σ) (bit : Bool) :
    Moves on g (g.bbI2cWriteBit on bit) := by
  -- The data line first, and then the clock up and down.
  cases bit with
  | false =>
    exact ((Relation.ReflTransGen.single (.low .sda)).tail (.release .scl)).tail (.low .scl)
  | true =>
    exact ((Relation.ReflTransGen.single (.release .sda)).tail (.release .scl)).tail (.low .scl)

/-- a bit that is read, -/
theorem moves_readBit (on : WireDevice σ) (g : Gpioa σ) : Moves on g (g.bbI2cReadBit on).2 :=
  ((Relation.ReflTransGen.single (.release .sda)).tail (.release .scl)).tail (.low .scl)

/-- the bits of a byte that is written, -/
theorem moves_writeBits (on : WireDevice σ) (v : UInt8) (count : Nat) (g : Gpioa σ) :
    Moves on g (bbWriteBits on v count g) := by
  -- The induction is on the bits to go.
  induction count generalizing g with
  | zero => exact .refl
  | succ count ih => exact (moves_writeBit on g _).trans (ih _)

/-- the bits of a byte that is read, -/
theorem moves_readBits (on : WireDevice σ) (v : UInt8) (count : Nat) (g : Gpioa σ) :
    Moves on g (bbReadBits on count v g).2 := by
  induction count generalizing g v with
  | zero => exact .refl
  | succ count ih => exact (moves_readBit on g).trans (ih _ _)

/-- a whole byte with its acknowledgement, written -/
theorem moves_writeByte (on : WireDevice σ) (g : Gpioa σ) (v : UInt8) :
    Moves on g (g.bbI2cWriteByte on v).2 :=
  (moves_writeBits on v 8 g).trans (moves_readBit on _)

/-- or read, -/
theorem moves_readByte (on : WireDevice σ) (g : Gpioa σ) (ack : Bool) :
    Moves on g (g.bbI2cReadByte on ack).2 :=
  (moves_readBits on 0 8 g).trans (moves_writeBit on _ _)

/-- and a block of them. -/
theorem moves_readBytes (on : WireDevice σ) (count : Nat) (g : Gpioa σ) :
    Moves on g (bbReadBytes on count g).2 := by
  -- The induction is on the bytes to go.
  induction count generalizing g with
  | zero => exact .refl
  | succ count ih => exact (moves_readByte on g _).trans (ih _)

/-- The end of a transaction: the port has only moved, and both lines are let go. -/
def Ended (on : WireDevice σ) (g h : Gpioa σ) : Prop := Moves on g h ∧ h.wires.Released

/-- A stop ends a transaction. -/
theorem ended_stop (moves : Moves on g h) : Ended on g (h.bbI2cStop on) := by
  refine ⟨moves.trans (moves_stop on h), ?_⟩
  rw [bbI2cStop_wires]
  exact Wires.stop_released on h.wires

/-- Whether or not the first two bytes are acknowledged, the port only moves. -/
theorem addressed_ended {α : Type u} {fail : Int → Gpioa σ → α} {rest : Gpioa σ → α}
    {motive : α → Prop} {dev reg : UInt8} (refused : ∀ code h, Ended on g h → motive (fail code h))
    (goes : ∀ h, Moves on g h → motive (rest h)) : motive (g.addressed on dev reg fail rest) := by
  -- Whichever byte is refused, a stop follows.
  have begun : Moves on g ((g.bbI2cIdle on).bbI2cStart on) :=
    ((Relation.ReflTransGen.single (.release .sda)).tail (.release .scl)).trans (moves_start on _)
  have device := begun.trans (moves_writeByte on _ (dev <<< 1))
  have register := device.trans (moves_writeByte on _ reg)
  unfold addressed
  dsimp only
  split
  · exact refused _ _ (ended_stop device)
  split
  · exact refused _ _ (ended_stop register)
  · exact goes _ register

/-- The same for the repeated start of a read. -/
theorem reading_ended {α : Type u} {fail : Int → Gpioa σ → α} {rest : Gpioa σ → α}
    {motive : α → Prop} {dev : UInt8} (moves : Moves on g h)
    (refused : ∀ code h, Ended on g h → motive (fail code h))
    (goes : ∀ h, Moves on g h → motive (rest h)) : motive (h.reading on dev fail rest) := by
  -- If the address is refused, a stop follows.
  have device := (moves.trans (moves_start on h)).trans
    (moves_writeByte on _ ((dev <<< 1) ||| 1))
  unfold reading
  dsimp only
  split
  · exact refused _ _ (ended_stop device)
  · exact goes _ device

/-- Every transaction ends, whatever is answered; one that asks for nothing does not begin. -/
theorem perform_ended (on : WireDevice σ) (g : Gpioa σ) (transfer : I2cTransfer) :
    Ended on g (g.perform on transfer).2 ∨ (g.perform on transfer).2 = g := by
  -- The last bytes are followed by a stop like all refusals.
  cases transfer with
  | readReg dev reg =>
    left
    show Ended on g (g.bbI2cReadReg on dev reg).2.2
    rw [bbI2cReadReg_eq]
    refine addressed_ended (motive := fun result : Int × UInt8 × Gpioa σ => Ended on g result.2.2)
      (fun _ _ ended => ended) fun h moves => ?_
    refine reading_ended (motive := fun result : Int × UInt8 × Gpioa σ => Ended on g result.2.2)
      moves (fun _ _ ended => ended) fun h moves => ?_
    exact ended_stop (moves.trans (moves_readByte on h false))
  | writeReg dev reg val =>
    left
    show Ended on g (g.bbI2cWriteReg on dev reg val).2
    rw [bbI2cWriteReg_eq]
    refine addressed_ended (motive := fun result : Int × Gpioa σ => Ended on g result.2)
      (fun _ _ ended => ended) fun h moves => ?_
    have ended := ended_stop (moves.trans (moves_writeByte on h val))
    split <;> exact ended
  | readRegs dev reg len =>
    rcases Nat.eq_zero_or_pos len with rfl | asks
    · exact .inr rfl
    left
    show Ended on g (g.bbI2cReadRegs on dev reg len).2.2
    rw [bbI2cReadRegs_eq on g dev reg (Int.natCast_pos.mpr asks)]
    refine addressed_ended (motive := fun result : Int × List UInt8 × Gpioa σ =>
      Ended on g result.2.2) (fun _ _ ended => ended) fun h moves => ?_
    refine reading_ended (motive := fun result : Int × List UInt8 × Gpioa σ =>
      Ended on g result.2.2) moves (fun _ _ ended => ended) fun h moves => ?_
    exact ended_stop (moves.trans (moves_readBytes on len h))

/-- However transactions follow each other and whatever answers them, the port never drives a line
of the bus up, after any write, touches no other pin, and lets both lines go in the end. -/
theorem run_open_drain (on : WireDevice σ) (g : Gpioa σ) (fresh : g.written = [])
    (released : g.wires.Released) (drains : DrainsOnly g.registers)
    (next : List I2cOutcome → I2cTransfer) (count : Nat) :
    (∀ registers ∈ (Gpioa.run on next count g).2.written,
        DrainsOnly registers ∧ SameElsewhere g.registers registers) ∧
      (Gpioa.run on next count g).2.wires.Released := by
  have drained : Drained g.registers (Gpioa.run on next count g).2 ∧
      (Gpioa.run on next count g).2.wires.Released := by
    -- The induction is on the transactions so far.
    induction count with
    | zero =>
      refine ⟨⟨drains, ⟨rfl, rfl⟩, ?_⟩, released⟩
      show ∀ registers ∈ g.written, _
      rw [fresh]
      exact nofun
    | succ count ih =>
      obtain ⟨before, rest⟩ := ih
      rcases perform_ended on (Gpioa.run on next count g).2
        (next (Gpioa.run on next count g).1) with ⟨moves, ended⟩ | same
      · exact ⟨before.moves moves, ended⟩
      · have still : (Gpioa.run on next (count + 1) g).2 = (Gpioa.run on next count g).2 := same
        rw [still]
        exact ⟨before, rest⟩
  exact ⟨drained.1.ever, drained.2⟩

/-- Waking up a sensor drives no line up. -/
theorem open_drain_wakes_sensor :
    (∀ registers ∈
        (Gpioa.run motionSensor.target.onWires wakeUp 3 (idlePort (.idle, motionBank))).2.written,
        DrainsOnly registers ∧ SameElsewhere (0, 0) registers) ∧
      (Gpioa.run motionSensor.target.onWires wakeUp 3
        (idlePort (.idle, motionBank))).2.wires.Released :=
  run_open_drain motionSensor.target.onWires (idlePort (.idle, motionBank)) rfl
    (idlePort_released _) rfl wakeUp 3

end Gpioa

end AmpFc.Firmware
