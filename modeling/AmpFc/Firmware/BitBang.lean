import AmpFc.Lib.ByteTarget
import AmpFc.Firmware.Bus

/-! The sensor bus below its transactions: two pins of the port, driven bit by bit. -/

namespace AmpFc.Firmware

universe u

/-- The two pins of the bus. -/
inductive BusLine where
  | scl
  | sda
  deriving DecidableEq, Repr

/-- `BB_SCL_MASK` and `BB_SDA_MASK`. -/
def BusLine.mask : BusLine → UInt32
  | .scl => (1 : UInt32) <<< 28
  | .sda => (1 : UInt32) <<< 29

/-- The pins that belong to the bus. -/
def busMask : UInt32 := BusLine.scl.mask ||| BusLine.sda.mask

/-- The registers of the port that the driver writes. -/
inductive PortRegister where
  /-- `GPIO_SWPORTA_DR`. -/
  | dr
  /-- `GPIO_SWPORTA_DDR`. -/
  | ddr

/-- The port, with what hangs on the bus and the registers as they were after each write. -/
structure Gpioa (σ : Type u) where
  dr : UInt32
  ddr : UInt32
  /-- The levels of the pins that are not of the bus. -/
  others : UInt32
  device : σ
  written : List (UInt32 × UInt32) := []

namespace Gpioa

variable {σ : Type u} (on : WireDevice σ) (g : Gpioa σ)

/-- A pin holds its line down if it is an output, and its output is low. -/
def holds (line : BusLine) : Bool := g.ddr &&& line.mask != 0 && g.dr &&& line.mask == 0

/-- What the port holds down. -/
def held : Held := ⟨g.holds .scl, g.holds .sda⟩

/-- The bus behind the port. -/
def wires : Wires σ := ⟨g.held, g.device⟩

/-- `gpioa_write`, which everything on the bus notices as far as it moves a line. -/
def gpioaWrite (off : PortRegister) (val : UInt32) : Gpioa σ :=
  let after := match off with
    | .dr => { g with dr := val }
    | .ddr => { g with ddr := val }
  { after with
    device := on.change g.held after.held g.device
    written := (after.dr, after.ddr) :: g.written }

/-- `GPIO_EXT_PORTA`, the levels of all pins; the clock is up unless the port holds it down. -/
def extPorta : UInt32 :=
  (g.others &&& ~~~busMask) |||
    (if g.held.clock then 0 else BusLine.scl.mask) |||
    (if on.dataLevel g.held g.device then BusLine.sda.mask else 0)

/-- `bb_gpio_output_low`: the output is low before the pin becomes one. -/
def bbGpioOutputLow (mask : UInt32) : Gpioa σ :=
  let g := g.gpioaWrite on .dr (g.dr &&& ~~~mask)
  g.gpioaWrite on .ddr (g.ddr ||| mask)

/-- `bb_gpio_release`. -/
def bbGpioRelease (mask : UInt32) : Gpioa σ := g.gpioaWrite on .ddr (g.ddr &&& ~~~mask)

/-- `bb_gpio_read`. -/
def bbGpioRead (mask : UInt32) : Bool := g.extPorta on &&& mask != 0

/-- `bb_scl_low`. -/
def bbSclLow : Gpioa σ := g.bbGpioOutputLow on BusLine.scl.mask

/-- `bb_scl_release`. -/
def bbSclRelease : Gpioa σ := g.bbGpioRelease on BusLine.scl.mask

/-- `bb_sda_low`. -/
def bbSdaLow : Gpioa σ := g.bbGpioOutputLow on BusLine.sda.mask

/-- `bb_sda_release`. -/
def bbSdaRelease : Gpioa σ := g.bbGpioRelease on BusLine.sda.mask

/-- `bb_sda_read`. -/
def bbSdaRead : Bool := g.bbGpioRead on BusLine.sda.mask

/-- `bb_i2c_idle`. -/
def bbI2cIdle : Gpioa σ := (g.bbSdaRelease on).bbSclRelease on

/-- `bb_i2c_start`. -/
def bbI2cStart : Gpioa σ :=
  (((g.bbSdaRelease on).bbSclRelease on).bbSdaLow on).bbSclLow on

/-- `bb_i2c_stop`. -/
def bbI2cStop : Gpioa σ := ((g.bbSdaLow on).bbSclRelease on).bbSdaRelease on

/-- `bb_i2c_write_bit`. -/
def bbI2cWriteBit (bit : Bool) : Gpioa σ :=
  let g := if bit then g.bbSdaRelease on else g.bbSdaLow on
  (g.bbSclRelease on).bbSclLow on

/-- `bb_i2c_read_bit`. -/
def bbI2cReadBit : Bool × Gpioa σ :=
  let g := (g.bbSdaRelease on).bbSclRelease on
  (g.bbSdaRead on, g.bbSclLow on)

/-- The loop of `bb_i2c_write_byte`, with `i + 1` bits to go. -/
def bbWriteBits (v : UInt8) : Nat → Gpioa σ → Gpioa σ
  | 0, g => g
  | i + 1, g => bbWriteBits v i (g.bbI2cWriteBit on ((v >>> UInt8.ofNat i) &&& 1 != 0))

/-- `bb_i2c_write_byte`. -/
def bbI2cWriteByte (v : UInt8) : Int × Gpioa σ :=
  let answer := (bbWriteBits on v 8 g).bbI2cReadBit on
  -- The acknowledgement is active low.
  (if answer.1 = false then 0 else -1, answer.2)

/-- The loop of `bb_i2c_read_byte`, with so many bits to go. -/
def bbReadBits : Nat → UInt8 → Gpioa σ → UInt8 × Gpioa σ
  | 0, v, g => (v, g)
  | i + 1, v, g =>
    let v := v <<< 1
    let answer := g.bbI2cReadBit on
    bbReadBits i (if answer.1 then v ||| 1 else v) answer.2

/-- `bb_i2c_read_byte`. -/
def bbI2cReadByte (ack : Bool) : UInt8 × Gpioa σ :=
  let answer := bbReadBits on 8 0 g
  (answer.1, answer.2.bbI2cWriteBit on (if ack then false else true))

/-- `bb_i2c_read_reg`: its return code and the value it leaves. -/
def bbI2cReadReg (dev reg : UInt8) : Int × UInt8 × Gpioa σ :=
  let device := ((g.bbI2cIdle on).bbI2cStart on).bbI2cWriteByte on (dev <<< 1)
  if device.1 ≠ 0 then (-1, 0, device.2.bbI2cStop on)
  else
    let register := device.2.bbI2cWriteByte on reg
    if register.1 ≠ 0 then (-2, 0, register.2.bbI2cStop on)
    else
      let again := (register.2.bbI2cStart on).bbI2cWriteByte on ((dev <<< 1) ||| 1)
      if again.1 ≠ 0 then (-3, 0, again.2.bbI2cStop on)
      else
        -- The only byte is not acknowledged.
        let val := again.2.bbI2cReadByte on false
        (0, val.1, val.2.bbI2cStop on)

/-- `bb_i2c_write_reg`. -/
def bbI2cWriteReg (dev reg val : UInt8) : Int × Gpioa σ :=
  let device := ((g.bbI2cIdle on).bbI2cStart on).bbI2cWriteByte on (dev <<< 1)
  if device.1 ≠ 0 then (-1, device.2.bbI2cStop on)
  else
    let register := device.2.bbI2cWriteByte on reg
    if register.1 ≠ 0 then (-2, register.2.bbI2cStop on)
    else
      let value := register.2.bbI2cWriteByte on val
      if value.1 ≠ 0 then (-3, value.2.bbI2cStop on) else (0, value.2.bbI2cStop on)

/-- The loop of `bb_i2c_read_regs`, with so many bytes to go: all but the last are acknowledged. -/
def bbReadBytes : Nat → Gpioa σ → List UInt8 × Gpioa σ
  | 0, g => ([], g)
  | count + 1, g =>
    let first := g.bbI2cReadByte on (count != 0)
    let others := bbReadBytes count first.2
    (first.1 :: others.1, others.2)

/-- `bb_i2c_read_regs`: its return code and the bytes that it has put into the buffer. -/
def bbI2cReadRegs (dev reg : UInt8) (len : Int) : Int × List UInt8 × Gpioa σ :=
  if len ≤ 0 then (-10, [], g)
  else
    let device := ((g.bbI2cIdle on).bbI2cStart on).bbI2cWriteByte on (dev <<< 1)
    if device.1 ≠ 0 then (-1, [], device.2.bbI2cStop on)
    else
      let register := device.2.bbI2cWriteByte on reg
      if register.1 ≠ 0 then (-2, [], register.2.bbI2cStop on)
      else
        let again := (register.2.bbI2cStart on).bbI2cWriteByte on ((dev <<< 1) ||| 1)
        if again.1 ≠ 0 then (-3, [], again.2.bbI2cStop on)
        else
          let buf := bbReadBytes on len.toNat again.2
          (0, buf.1, buf.2.bbI2cStop on)

end Gpioa

end AmpFc.Firmware
