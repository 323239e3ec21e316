import Mathlib.Tactic

/-! Two-wire buses: a clock and a data line with pull-ups, which whoever wants to holds down. -/

namespace AmpFc

universe u v

/-- What a device notices on the two lines. -/
inductive WireEvent where
  /-- The data line falls while the clock is up. -/
  | start
  /-- The data line rises while the clock is up. -/
  | stop
  | clockRise (data : Bool)
  | clockFall
  deriving DecidableEq, Repr

/-- The lines that the controller of the bus holds down. -/
@[ext]
structure Held where
  clock : Bool
  data : Bool
  deriving DecidableEq, Repr

/-- Something on the bus: it may hold the data line down, and it reacts to what it notices. -/
structure WireDevice (σ : Type u) where
  pulls : σ → Bool
  react : WireEvent → σ → σ

namespace WireDevice

variable {σ : Type u} (device : WireDevice σ)

/-- The data line is up as long as nobody holds it down. -/
def dataLevel (held : Held) (state : σ) : Bool := !(held.data || device.pulls state)

/-- What the device notices when the controller changes what it holds. -/
def noticed (before after : Held) (state : σ) : Option WireEvent :=
  match before.clock, after.clock with
  | true, true => none
  | true, false => some (.clockRise (device.dataLevel after state))
  | false, true => some .clockFall
  | false, false =>
    -- With the clock up, a change of the data line is a condition.
    match device.dataLevel before state, device.dataLevel after state with
    | true, false => some .start
    | false, true => some .stop
    | _, _ => none

/-- The device after such a change. -/
def change (before after : Held) (state : σ) : σ :=
  match device.noticed before after state with
  | none => state
  | some event => device.react event state

/-- Where nothing is changed, nothing is noticed. -/
@[simp] theorem change_self (held : Held) (state : σ) : device.change held held state = state := by
  unfold change noticed
  cases held.clock
  · cases device.dataLevel held state <;> rfl
  · rfl

end WireDevice

/-- The bus as its controller leaves it. -/
@[ext]
structure Wires (σ : Type u) where
  held : Held
  device : σ

namespace Wires

variable {σ : Type u} (on : WireDevice σ) (wires : Wires σ)

/-- Hold down these lines from now on. -/
def drive (held : Held) : Wires σ := ⟨held, on.change wires.held held wires.device⟩

/-- Hold the clock down, or let it go. -/
def setClock (down : Bool) : Wires σ := wires.drive on ⟨down, wires.held.data⟩

/-- Hold the data line down, or let it go. -/
def setData (down : Bool) : Wires σ := wires.drive on ⟨wires.held.clock, down⟩

/-- Driving what is driven already changes nothing. -/
@[simp] theorem drive_held : wires.drive on wires.held = wires := by
  unfold drive
  rw [WireDevice.change_self]

/-- Let both lines go. -/
def idle : Wires σ := (wires.setData on false).setClock on false

/-- The start condition, which may follow other traffic. -/
def start : Wires σ :=
  ((((wires.setData on false).setClock on false).setData on true).setClock on true)

/-- The stop condition. -/
def stop : Wires σ := ((wires.setData on true).setClock on false).setData on false

/-- One bit to the device, which reads it while the clock is up. -/
def writeBit (bit : Bool) : Wires σ :=
  ((wires.setData on !bit).setClock on false).setClock on true

/-- One bit from the device, read while the clock is up. -/
def readBit : Bool × Wires σ :=
  let up := (wires.setData on false).setClock on false
  (on.dataLevel up.held up.device, up.setClock on true)

/-- Several bits to the device. -/
def writeBits (bits : List Bool) : Wires σ :=
  bits.foldl (fun wires bit => wires.writeBit on bit) wires

/-- Several bits from the device. -/
def readBits : Nat → Wires σ → List Bool × Wires σ
  | 0, wires => ([], wires)
  | count + 1, wires =>
    let first := wires.readBit on
    let others := readBits count first.2
    (first.1 :: others.1, others.2)

/-- The bus is at rest: the controller holds neither line. -/
def Released : Prop := wires.held = ⟨false, false⟩

/-- Between two bits the controller holds the clock down. -/
def Clocked : Prop := wires.held.clock = true

variable {on wires}

/-- While the clock is down, the data line may change unnoticed. -/
theorem Clocked.setData (clocked : wires.Clocked) (down : Bool) :
    wires.setData on down = ⟨⟨true, down⟩, wires.device⟩ := by
  unfold Clocked at clocked
  simp [Wires.setData, drive, WireDevice.change, WireDevice.noticed, clocked]

/-- A bit from the controller is one rise and one fall of the clock. -/
theorem Clocked.writeBit (clocked : wires.Clocked) (on : WireDevice σ) (bit : Bool) :
    wires.writeBit on bit = ⟨⟨true, !bit⟩,
      on.react .clockFall (on.react (.clockRise (bit && !on.pulls wires.device)) wires.device)⟩ := by
  unfold Wires.writeBit
  rw [clocked.setData]
  -- What the device reads is the bit, unless it holds the line down itself.
  simp [Wires.setClock, drive, WireDevice.change, WireDevice.noticed, WireDevice.dataLevel]

/-- A bit from the device is what it leaves on the line when the clock has risen. -/
theorem Clocked.readBit (clocked : wires.Clocked) (on : WireDevice σ) :
    wires.readBit on =
      (!on.pulls (on.react (.clockRise !on.pulls wires.device) wires.device),
        ⟨⟨true, false⟩,
          on.react .clockFall (on.react (.clockRise !on.pulls wires.device) wires.device)⟩) := by
  unfold Wires.readBit
  rw [clocked.setData]
  simp [Wires.setClock, drive, WireDevice.change, WireDevice.noticed, WireDevice.dataLevel]

/-- After a bit the clock is down again. -/
theorem Clocked.clocked_writeBit (clocked : wires.Clocked) (on : WireDevice σ) (bit : Bool) :
    (wires.writeBit on bit).Clocked := by
  rw [clocked.writeBit]
  rfl

/-- A start on a bus at rest is noticed as such by a device that leaves the data line alone. -/
theorem Released.start (released : wires.Released) (quiet : on.pulls wires.device = false) :
    wires.start on = ⟨⟨true, true⟩, on.react .clockFall (on.react .start wires.device)⟩ := by
  unfold Released at released
  -- Letting go of lines that nobody holds is not noticed.
  simp [Wires.start, Wires.setClock, Wires.setData, drive, WireDevice.change, WireDevice.noticed,
    WireDevice.dataLevel, released, quiet]

/-- A repeated start lets the clock rise once on the released data line. -/
theorem Clocked.start (clocked : wires.Clocked) (quiet : on.pulls wires.device = false)
    (still : on.pulls (on.react (.clockRise true) wires.device) = false) :
    wires.start on = ⟨⟨true, true⟩, on.react .clockFall
      (on.react .start (on.react (.clockRise true) wires.device))⟩ := by
  unfold Wires.start
  rw [clocked.setData]
  simp [Wires.setClock, Wires.setData, drive, WireDevice.change, WireDevice.noticed,
    WireDevice.dataLevel, quiet, still]

/-- A stop lets the clock rise once on the data line that is held down. -/
theorem Clocked.stop (clocked : wires.Clocked)
    (still : on.pulls (on.react (.clockRise false) wires.device) = false) :
    wires.stop on = ⟨⟨false, false⟩,
      on.react .stop (on.react (.clockRise false) wires.device)⟩ := by
  unfold Wires.stop
  rw [clocked.setData]
  simp [Wires.setClock, Wires.setData, drive, WireDevice.change, WireDevice.noticed,
    WireDevice.dataLevel, still]

/-- Whatever is on the bus, a stop leaves it at rest. -/
theorem stop_released (on : WireDevice σ) (wires : Wires σ) : (wires.stop on).Released := by
  unfold Released Wires.stop Wires.setClock Wires.setData drive
  rfl

/-- Letting both lines go on a bus at rest is not noticed. -/
theorem Released.idle (released : wires.Released) : wires.idle on = wires := by
  unfold Released at released
  -- Driving the lines as they are changes nothing.
  have same : ∀ held, held = wires.held → wires.drive on held = wires := by
    rintro held rfl
    exact wires.drive_held on
  unfold Wires.idle Wires.setData
  rw [same _ (by rw [released])]
  exact same _ (by rw [released])

end Wires

end AmpFc
