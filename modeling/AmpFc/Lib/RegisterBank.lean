import AmpFc.Lib.ByteTarget

/-! Devices made of registers: a pointer that a write sets, and that every byte moves on. -/

namespace AmpFc

/-- The registers of all devices, by the address of the device and that of the register. -/
abbrev Cells := UInt8 → UInt8 → UInt8

/-- The devices of a bus, as far as their registers show it. -/
structure RegisterMap where
  present : UInt8 → Bool
  /-- What a register of a device makes of its value and one that is written to it. -/
  latch : (dev reg old new : UInt8) → UInt8
  /-- What the devices do to their registers themselves after so many transfers. -/
  settle : Nat → Cells → Cells

/-- The devices between two bytes. -/
structure RegisterBank where
  cells : Cells
  age : Nat
  pointer : UInt8
  /-- The device that is addressed. -/
  chosen : Option UInt8
  /-- The next byte that is written is the pointer. -/
  fresh : Bool

namespace Cells

/-- A register is set, and no other. -/
def set (cells : Cells) (dev reg value : UInt8) : Cells :=
  fun other place => if other = dev ∧ place = reg then value else cells other place

/-- So many registers of a device from one on, counted modulo 256. -/
def block (cells : Cells) (dev : UInt8) : UInt8 → Nat → List UInt8
  | _, 0 => []
  | reg, count + 1 => cells dev reg :: cells.block dev (reg + 1) count

end Cells

namespace RegisterMap

variable (registers : RegisterMap)

/-- The devices answer by the upper seven bits of the first byte. -/
def target : ByteTarget RegisterBank where
  start bank := { bank with chosen := none }
  address byte bank :=
    let dev := byte >>> 1
    if registers.present dev then (true, { bank with chosen := some dev, fresh := true })
    else (false, { bank with chosen := none })
  accept byte bank :=
    match bank.chosen, bank.fresh with
    | none, _ => (false, bank)
    | some _, true => (true, { bank with pointer := byte, fresh := false })
    | some dev, false =>
      let value := registers.latch dev bank.pointer (bank.cells dev bank.pointer) byte
      (true, { bank with
        cells := bank.cells.set dev bank.pointer value
        pointer := bank.pointer + 1 })
  supply bank :=
    match bank.chosen with
    | none => (0xFF, bank)
    | some dev => (bank.cells dev bank.pointer, { bank with pointer := bank.pointer + 1 })
  stop bank := { bank with
    cells := registers.settle bank.age bank.cells
    age := bank.age + 1
    chosen := none }

/-- A chosen device supplies the register that its pointer names, and moves it on. -/
theorem supply_chosen {bank : RegisterBank} {dev : UInt8} (chosen : bank.chosen = some dev) :
    registers.target.supply bank =
      (bank.cells dev bank.pointer, { bank with pointer := bank.pointer + 1 }) := by
  simp [target, chosen]

end RegisterMap

end AmpFc
