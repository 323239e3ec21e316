import AmpFc.Firmware.BitBang

/-! What the port's registers do to the bus: one line at a time, never against another driver. -/

namespace AmpFc.Firmware

universe u

/-- Words are equal if their bits are. -/
theorem word_ext {x y : UInt32}
    (bits : ∀ place, x.toBitVec.getLsbD place = y.toBitVec.getLsbD place) : x = y :=
  UInt32.toBitVec_inj.mp (BitVec.eq_of_getLsbD_eq fun place _ => bits place)

section Masks

variable {x mask other : UInt32}

/-- Clearing bits leaves the others alone. -/
theorem clear_and_disjoint (disjoint : mask &&& other = 0) :
    (x &&& ~~~mask) &&& other = x &&& other := by
  -- Bit by bit.
  apply word_ext
  intro place
  have bit := congrArg (fun word => word.toBitVec.getLsbD place) disjoint
  simp at bit ⊢
  grind

/-- Setting bits leaves the others alone. -/
theorem set_and_disjoint (disjoint : mask &&& other = 0) :
    (x ||| mask) &&& other = x &&& other := by
  -- Bit by bit.
  apply word_ext
  intro place
  have bit := congrArg (fun word => word.toBitVec.getLsbD place) disjoint
  simp at bit ⊢
  grind

/-- A bit that was cleared is not set. -/
theorem clear_and_self : (x &&& ~~~mask) &&& mask = 0 := by
  apply word_ext
  intro place
  simp

/-- A bit that was set is set. -/
theorem set_and_self : (x ||| mask) &&& mask = mask := by
  apply word_ext
  intro place
  simp
  grind

end Masks

/-- The two lines are different pins. -/
theorem BusLine.mask_disjoint {line other : BusLine} (different : line ≠ other) :
    line.mask &&& other.mask = 0 := by
  cases line <;> cases other <;> first | exact absurd rfl different | decide

/-- Each line has a pin. -/
theorem BusLine.mask_ne_zero (line : BusLine) : line.mask ≠ 0 := by
  cases line <;> decide

/-- What is held once one of the lines is held or not. -/
def BusLine.setIn (line : BusLine) (held : Held) (down : Bool) : Held :=
  match line with
  | .scl => ⟨down, held.data⟩
  | .sda => ⟨held.clock, down⟩

namespace Gpioa

variable {σ : Type u} {on : WireDevice σ} {g : Gpioa σ}

/-- What is held follows from what is held of each line. -/
theorem held_eq {h : Gpioa σ} {line : BusLine} {down : Bool} (own : h.holds line = down)
    (rest : ∀ other, other ≠ line → h.holds other = g.holds other) :
    h.held = line.setIn g.held down := by
  unfold held BusLine.setIn
  cases line with
  | scl => rw [own, rest .sda nofun]
  | sda => rw [own, rest .scl nofun]

/-- Two moves of the lines, one of which is none, are one. -/
theorem drive_twice {wires : Wires σ} {first last : Held}
    (one : first = wires.held ∨ first = last) :
    (wires.drive on first).drive on last = wires.drive on last := by
  rcases one with same | same
  · rw [same, Wires.drive_held]
  · rw [same]
    exact Wires.drive_held on (wires.drive on last)

/-- A write is one move of the lines. -/
theorem gpioaWrite_wires (g : Gpioa σ) (off : PortRegister) (val : UInt32) :
    (g.gpioaWrite on off val).wires = g.wires.drive on (g.gpioaWrite on off val).held := by
  cases off <;> rfl

/-- What is held when a pin's output has gone low. -/
theorem holds_clear_dr (g : Gpioa σ) (line : BusLine) :
    (g.gpioaWrite on .dr (g.dr &&& ~~~line.mask)).holds line = (g.ddr &&& line.mask != 0) := by
  show (g.ddr &&& line.mask != 0 && (g.dr &&& ~~~line.mask) &&& line.mask == 0) = _
  rw [clear_and_self]
  simp

/-- Clearing the output of one line does not move the other. -/
theorem holds_clear_dr_other (g : Gpioa σ) {line other : BusLine} (different : other ≠ line) :
    (g.gpioaWrite on .dr (g.dr &&& ~~~line.mask)).holds other = g.holds other := by
  show (g.ddr &&& other.mask != 0 && (g.dr &&& ~~~line.mask) &&& other.mask == 0) = _
  rw [clear_and_disjoint (BusLine.mask_disjoint different.symm)]
  rfl

/-- Driving a pin low holds its line down, and moves no other. -/
theorem bbGpioOutputLow_wires (g : Gpioa σ) (line : BusLine) :
    (g.bbGpioOutputLow on line.mask).wires = g.wires.drive on (line.setIn g.held true) := by
  have own : (g.bbGpioOutputLow on line.mask).holds line = true := by
    show ((g.ddr ||| line.mask) &&& line.mask != 0 &&
      (g.dr &&& ~~~line.mask) &&& line.mask == 0) = true
    rw [set_and_self, clear_and_self]
    simpa using line.mask_ne_zero
  have rest : ∀ other, other ≠ line →
      (g.bbGpioOutputLow on line.mask).holds other = g.holds other := by
    intro other different
    have disjoint := BusLine.mask_disjoint different.symm
    show ((g.ddr ||| line.mask) &&& other.mask != 0 &&
      (g.dr &&& ~~~line.mask) &&& other.mask == 0) = _
    rw [set_and_disjoint disjoint, clear_and_disjoint disjoint]
    rfl
  have last := held_eq own rest
  -- The first write moves the line if the pin is an output already, else the second one does.
  have first : (g.gpioaWrite on .dr (g.dr &&& ~~~line.mask)).held = g.held ∨
      (g.gpioaWrite on .dr (g.dr &&& ~~~line.mask)).held = line.setIn g.held true := by
    have others := fun other => @holds_clear_dr_other σ on g line other
    cases output : g.ddr &&& line.mask != 0 with
    | false =>
      left
      have none : g.holds line = false := by
        unfold holds
        rw [output]
        rfl
      have low := held_eq ((holds_clear_dr g line).trans output) others
      rw [low]
      unfold BusLine.setIn held
      cases line <;> rw [none]
    | true =>
      right
      exact held_eq ((holds_clear_dr g line).trans output) others
  unfold bbGpioOutputLow at last ⊢
  dsimp only at last ⊢
  rw [gpioaWrite_wires, last, gpioaWrite_wires]
  exact drive_twice first

/-- Releasing a pin lets its line go, and moves no other. -/
theorem bbGpioRelease_wires (g : Gpioa σ) (line : BusLine) :
    (g.bbGpioRelease on line.mask).wires = g.wires.drive on (line.setIn g.held false) := by
  -- The pin becomes an input, and the other line keeps its own.
  have own : (g.bbGpioRelease on line.mask).holds line = false := by
    show ((g.ddr &&& ~~~line.mask) &&& line.mask != 0 && g.dr &&& line.mask == 0) = false
    rw [clear_and_self]
    rfl
  have rest : ∀ other, other ≠ line →
      (g.bbGpioRelease on line.mask).holds other = g.holds other := by
    intro other different
    show ((g.ddr &&& ~~~line.mask) &&& other.mask != 0 && g.dr &&& other.mask == 0) = _
    rw [clear_and_disjoint (BusLine.mask_disjoint different.symm)]
    rfl
  rw [← held_eq own rest]
  exact gpioaWrite_wires g .ddr _

/-- The driver pulls the clock down on the wires, -/
@[simp] theorem bbSclLow_wires (g : Gpioa σ) :
    (g.bbSclLow on).wires = g.wires.setClock on true := bbGpioOutputLow_wires g .scl

/-- lets it go, -/
@[simp] theorem bbSclRelease_wires (g : Gpioa σ) :
    (g.bbSclRelease on).wires = g.wires.setClock on false := bbGpioRelease_wires g .scl

/-- pulls the data line down, -/
@[simp] theorem bbSdaLow_wires (g : Gpioa σ) :
    (g.bbSdaLow on).wires = g.wires.setData on true := bbGpioOutputLow_wires g .sda

/-- and lets that go. -/
@[simp] theorem bbSdaRelease_wires (g : Gpioa σ) :
    (g.bbSdaRelease on).wires = g.wires.setData on false := bbGpioRelease_wires g .sda

/-- Of all pins, the data pin alone decides what is read. -/
theorem bbSdaRead_eq (g : Gpioa σ) :
    g.bbSdaRead on = on.dataLevel g.wires.held g.wires.device := by
  show ((((g.others &&& ~~~busMask) ||| (if g.held.clock then 0 else BusLine.scl.mask)) |||
    (if on.dataLevel g.held g.device then BusLine.sda.mask else 0)) &&& BusLine.sda.mask != 0) =
      on.dataLevel g.held g.device
  -- Of the three parts of the input only the data line's has this bit.
  have outside : (g.others &&& ~~~busMask) &&& BusLine.sda.mask = 0 := by
    have whole : busMask &&& BusLine.sda.mask = BusLine.sda.mask := by decide
    rw [← whole, ← UInt32.and_assoc, clear_and_self, UInt32.zero_and]
  have clock : (if g.held.clock then 0 else BusLine.scl.mask) &&& BusLine.sda.mask = 0 := by
    split <;> decide
  have both : ((g.others &&& ~~~busMask) ||| (if g.held.clock then 0 else BusLine.scl.mask)) &&&
      BusLine.sda.mask = 0 := (set_and_disjoint clock).trans outside
  have data : ∀ level : Bool, (((g.others &&& ~~~busMask) |||
      (if g.held.clock then 0 else BusLine.scl.mask)) ||| (if level then BusLine.sda.mask else 0)) &&&
        BusLine.sda.mask = if level then BusLine.sda.mask else 0 := by
    intro level
    cases level with
    | true => exact set_and_self
    | false => exact (set_and_disjoint UInt32.zero_and).trans both
  rw [data]
  cases on.dataLevel g.held g.device <;> rfl

/-- The driver's idle is that of the two wires, -/
@[simp] theorem bbI2cIdle_wires (g : Gpioa σ) : (g.bbI2cIdle on).wires = g.wires.idle on := by
  simp [bbI2cIdle, Wires.idle]

/-- and so is its start, -/
@[simp] theorem bbI2cStart_wires (g : Gpioa σ) : (g.bbI2cStart on).wires = g.wires.start on := by
  simp [bbI2cStart, Wires.start]

/-- its stop, -/
@[simp] theorem bbI2cStop_wires (g : Gpioa σ) : (g.bbI2cStop on).wires = g.wires.stop on := by
  simp [bbI2cStop, Wires.stop]

/-- and what a written bit does to them. -/
@[simp] theorem bbI2cWriteBit_wires (g : Gpioa σ) (bit : Bool) :
    (g.bbI2cWriteBit on bit).wires = g.wires.writeBit on bit := by
  cases bit <;> simp [bbI2cWriteBit, Wires.writeBit]

/-- The bit that the driver reads is the one on the wires. -/
@[simp] theorem bbI2cReadBit_bit (g : Gpioa σ) :
    (g.bbI2cReadBit on).1 = (g.wires.readBit on).1 := by
  simp [bbI2cReadBit, Wires.readBit, bbSdaRead_eq]

/-- Reading it moves the wires as reading a bit does. -/
@[simp] theorem bbI2cReadBit_wires (g : Gpioa σ) :
    (g.bbI2cReadBit on).2.wires = (g.wires.readBit on).2 := by
  simp [bbI2cReadBit, Wires.readBit]

/-- The loop writes the bits of the byte from the highest to the lowest. -/
theorem bbWriteBits_wires (g : Gpioa σ) (v : UInt8) :
    (bbWriteBits on v 8 g).wires = g.wires.writeBits on (bitsOf v) := by
  simp [bbWriteBits, Wires.writeBits, bitsOf]

/-- The return code tells whether the byte was acknowledged. -/
theorem bbI2cWriteByte_code (g : Gpioa σ) (v : UInt8) :
    (g.bbI2cWriteByte on v).1 = if (g.wires.writeByte on v).1 then 0 else -1 := by
  -- The acknowledgement is a low bit.
  have codes : ∀ bit : Bool, (if bit = false then (0 : Int) else -1) =
      if !bit then 0 else -1 := by decide
  unfold bbI2cWriteByte Wires.writeByte
  dsimp only
  rw [bbI2cReadBit_bit, bbWriteBits_wires]
  exact codes _

/-- A byte that the driver writes is a byte on the wires. -/
@[simp] theorem bbI2cWriteByte_wires (g : Gpioa σ) (v : UInt8) :
    (g.bbI2cWriteByte on v).2.wires = (g.wires.writeByte on v).2 := by
  unfold bbI2cWriteByte Wires.writeByte
  dsimp only
  rw [bbI2cReadBit_wires, bbWriteBits_wires]

/-- The loop appends the bits that it reads to those it has. -/
theorem bbReadBits_eq (count : Nat) (g : Gpioa σ) (v : UInt8) :
    (bbReadBits on count v g).1 = (Wires.readBits on count g.wires).1.foldl
        (fun value bit => if bit then (value <<< 1) ||| 1 else value <<< 1) v ∧
      (bbReadBits on count v g).2.wires = (Wires.readBits on count g.wires).2 := by
  -- The induction is on the bits to go.
  induction count generalizing g v with
  | zero => exact ⟨rfl, rfl⟩
  | succ count ih =>
    have next := ih (g.bbI2cReadBit on).2
      (if (g.bbI2cReadBit on).1 then (v <<< 1) ||| 1 else v <<< 1)
    unfold bbReadBits Wires.readBits
    dsimp only
    rw [next.1, next.2, bbI2cReadBit_wires, bbI2cReadBit_bit, List.foldl_cons]
    exact ⟨rfl, rfl⟩

/-- A byte that the driver reads is the one on the wires. -/
@[simp] theorem bbI2cReadByte_byte (g : Gpioa σ) (ack : Bool) :
    (g.bbI2cReadByte on ack).1 = (g.wires.readByte on ack).1 := (bbReadBits_eq 8 g 0).1

/-- Reading it moves the wires as reading a byte does. -/
@[simp] theorem bbI2cReadByte_wires (g : Gpioa σ) (ack : Bool) :
    (g.bbI2cReadByte on ack).2.wires = (g.wires.readByte on ack).2 := by
  unfold bbI2cReadByte Wires.readByte
  dsimp only
  rw [bbI2cWriteBit_wires, (bbReadBits_eq 8 g 0).2]
  cases ack <;> rfl

/-- As many bytes are read as are asked for. -/
theorem length_bbReadBytes (count : Nat) (g : Gpioa σ) :
    (bbReadBytes on count g).1.length = count := by
  induction count generalizing g with
  | zero => rfl
  | succ count ih => exact congrArg (· + 1) (ih _)

end Gpioa

end AmpFc.Firmware
