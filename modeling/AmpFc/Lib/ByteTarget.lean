import AmpFc.Lib.TwoWire

/-! Targets that a two-wire bus reaches byte by byte, and what the wires make of them. -/

namespace AmpFc

universe u

/-- The bits of a byte, the highest one first. -/
def bitsOf (byte : UInt8) : List Bool :=
  [7, 6, 5, 4, 3, 2, 1, 0].map fun place => (byte >>> place) &&& 1 != 0

/-- The byte that bits spell, the highest one first. -/
def byteOf (bits : List Bool) : UInt8 :=
  bits.foldl (fun value bit => if bit then (value <<< 1) ||| 1 else value <<< 1) 0

/-- A byte is spelt by its bits. -/
theorem byteOf_bitsOf (byte : UInt8) : byteOf (bitsOf byte) = byte := by
  -- There are 256 bytes to look at.
  have every : ∀ bits : BitVec 8, byteOf (bitsOf (.ofBitVec bits)) = .ofBitVec bits := by
    decide +kernel
  exact every byte.toBitVec

/-- A byte has eight bits. -/
@[simp] theorem length_bitsOf (byte : UInt8) : (bitsOf byte).length = 8 := rfl

/-- So there is a first one. -/
theorem bitsOf_ne_nil (byte : UInt8) : bitsOf byte ≠ [] := nofun

/-- What answers on a bus, one byte at a time. -/
structure ByteTarget (τ : Type u) where
  start : τ → τ
  /-- The first byte after a start, and whether it is acknowledged. -/
  address : UInt8 → τ → Bool × τ
  /-- A byte that is written, and whether it is acknowledged. -/
  accept : UInt8 → τ → Bool × τ
  /-- The next byte that is read. -/
  supply : τ → UInt8 × τ
  stop : τ → τ

/-- Where a target stands between two edges of the clock. -/
inductive TargetPhase where
  | idle
  | receiving (addressed : Bool) (bits : List Bool)
  | acknowledging (sends : Bool)
  | sending (bits : List Bool)
  | listening (more : Bool)

/-- What the bytes of a transfer are taken for. -/
inductive BusMode where
  | idle
  | addressing
  | writing
  | reading
  deriving DecidableEq, Repr

/-- A target between two bytes. -/
structure ByteSession (τ : Type u) where
  mode : BusMode
  state : τ

namespace ByteTarget

variable {τ : Type u} (target : ByteTarget τ)

/-- The target puts its next byte on the wire. -/
def offer (state : τ) : TargetPhase × τ :=
  (.sending (bitsOf (target.supply state).1), (target.supply state).2)

/-- The target decides about a byte that it has received. -/
def judge (addressed : Bool) (byte : UInt8) (state : τ) : TargetPhase × τ :=
  let (acknowledged, state) :=
    if addressed then target.accept byte state else target.address byte state
  -- The lowest bit of an address asks for a read.
  if acknowledged then (.acknowledging (!addressed && byte &&& 1 != 0), state) else (.idle, state)

/-- The target as a device on the wires. -/
def onWires : WireDevice (TargetPhase × τ) where
  pulls
    | (.acknowledging _, _) => true
    | (.sending bits, _) => !bits.headD true
    | _ => false
  react
    | .start, (_, state) => (.receiving false [], target.start state)
    | .stop, (_, state) => (.idle, target.stop state)
    | .clockRise data, (.receiving addressed bits, state) =>
      (.receiving addressed (bits ++ [data]), state)
    | .clockRise data, (.listening _, state) => (.listening !data, state)
    | .clockRise _, standing => standing
    | .clockFall, (.receiving addressed bits, state) =>
      if bits.length = 8 then target.judge addressed (byteOf bits) state
      else (.receiving addressed bits, state)
    | .clockFall, (.acknowledging sends, state) =>
      if sends then target.offer state else (.receiving true [], state)
    | .clockFall, (.sending (_ :: bit :: bits), state) => (.sending (bit :: bits), state)
    | .clockFall, (.sending _, state) => (.listening false, state)
    | .clockFall, (.listening more, state) =>
      if more then target.offer state else (.idle, state)
    | .clockFall, (.idle, state) => (.idle, state)

/-- A byte from the controller, and whether anyone acknowledges it. -/
def send (byte : UInt8) (session : ByteSession τ) : Bool × ByteSession τ :=
  match session.mode with
  | .addressing =>
    match target.address byte session.state with
    | (true, state) => (true, ⟨if byte &&& 1 != 0 then .reading else .writing, state⟩)
    | (false, state) => (false, ⟨.idle, state⟩)
  | .writing =>
    match target.accept byte session.state with
    | (true, state) => (true, ⟨.writing, state⟩)
    | (false, state) => (false, ⟨.idle, state⟩)
  | _ => (false, session)

/-- A byte from a target that is being read, which goes on as long as more is asked for. -/
def receive (more : Bool) (session : ByteSession τ) : UInt8 × ByteSession τ :=
  match target.supply session.state with
  | (byte, state) => (byte, ⟨if more then .reading else .idle, state⟩)

/-- How a target stands on the wires between two bytes. -/
def placed (session : ByteSession τ) : TargetPhase × τ :=
  match session.mode with
  | .idle => (.idle, session.state)
  | .addressing => (.receiving false [], session.state)
  | .writing => (.receiving true [], session.state)
  | .reading => target.offer session.state

end ByteTarget

namespace Wires

variable {σ : Type u} (on : WireDevice σ) (wires : Wires σ)

/-- A byte to the device, and whether it pulls the line down afterwards. -/
def writeByte (byte : UInt8) : Bool × Wires σ :=
  let answer := (wires.writeBits on (bitsOf byte)).readBit on
  (!answer.1, answer.2)

/-- A byte from the device, which is acknowledged if more are to follow. -/
def readByte (more : Bool) : UInt8 × Wires σ :=
  let answer := readBits on 8 wires
  (byteOf answer.1, answer.2.writeBit on !more)

end Wires

section Sessions

variable {τ : Type u} {target : ByteTarget τ} {wires : Wires (TargetPhase × τ)}
  {session : ByteSession τ} {state : τ}

/-- The wires are between two bytes of a session. -/
structure Attends (target : ByteTarget τ) (wires : Wires (TargetPhase × τ))
    (session : ByteSession τ) : Prop where
  clocked : wires.Clocked
  device : wires.device = target.placed session

/-- The wires are at rest, and so is the target. -/
structure AtRest (wires : Wires (TargetPhase × τ)) (state : τ) : Prop where
  released : wires.Released
  device : wires.device = (.idle, state)

/-- A target that is not being read leaves the data line alone between two bytes. -/
theorem pulls_placed (free : session.mode ≠ .reading) :
    target.onWires.pulls (target.placed session) = false := by
  unfold ByteTarget.placed
  cases mode : session.mode with
  | reading => exact absurd mode free
  | _ => rfl

/-- Nor does it pull once the clock has risen. -/
theorem pulls_rise (free : session.mode ≠ .reading) (data : Bool) :
    target.onWires.pulls
      (target.onWires.react (.clockRise data) (target.placed session)) = false := by
  unfold ByteTarget.placed
  cases mode : session.mode with
  | reading => exact absurd mode free
  | _ => rfl

/-- The state of a target that is not being read stays when the clock rises. -/
theorem state_rise (target : ByteTarget τ) (free : session.mode ≠ .reading) (data : Bool) :
    (target.onWires.react (.clockRise data) (target.placed session)).2 = session.state := by
  unfold ByteTarget.placed
  cases mode : session.mode with
  | reading => exact absurd mode free
  | _ => rfl

/-- On a bus at rest a start is followed by the address. -/
theorem AtRest.start (rest : AtRest wires state) :
    Attends target (wires.start target.onWires) ⟨.addressing, target.start state⟩ := by
  -- A device at rest pulls no line.
  have quiet : target.onWires.pulls wires.device = false := by
    rw [rest.device]
    rfl
  rw [rest.released.start quiet, rest.device]
  exact ⟨rfl, rfl⟩

/-- So it is by a repeated start. -/
theorem Attends.start (attends : Attends target wires session) (free : session.mode ≠ .reading) :
    Attends target (wires.start target.onWires) ⟨.addressing, target.start session.state⟩ := by
  have quiet : target.onWires.pulls wires.device = false := by
    rw [attends.device]
    exact pulls_placed free
  have still : target.onWires.pulls (target.onWires.react (.clockRise true) wires.device) =
      false := by
    rw [attends.device]
    exact pulls_rise free true
  rw [attends.clocked.start quiet still, attends.device]
  -- A start is noticed in any phase, with the state of the target.
  have kept := state_rise target free true
  generalize target.onWires.react (.clockRise true) (target.placed session) = standing at kept ⊢
  obtain ⟨phase, last⟩ := standing
  subst kept
  exact ⟨rfl, rfl⟩

/-- A stop brings wires and target to rest. -/
theorem Attends.stop (attends : Attends target wires session) (free : session.mode ≠ .reading) :
    AtRest (wires.stop target.onWires) (target.stop session.state) := by
  -- A device that is not being read leaves the data line alone.
  have still : target.onWires.pulls (target.onWires.react (.clockRise false) wires.device) =
      false := by
    rw [attends.device]
    exact pulls_rise free false
  rw [attends.clocked.stop still, attends.device]
  have kept := state_rise target free false
  generalize target.onWires.react (.clockRise false) (target.placed session) = standing at kept ⊢
  obtain ⟨phase, last⟩ := standing
  subst kept
  exact ⟨rfl, rfl⟩

/-- An idle target lets bits pass. -/
theorem writeBits_idle (clocked : wires.Clocked) (idle : wires.device = (.idle, state))
    (bits : List Bool) : (wires.writeBits target.onWires bits).Clocked ∧
      (wires.writeBits target.onWires bits).device = (.idle, state) := by
  unfold Wires.writeBits
  -- The induction is on the bits, none of which wakes the device.
  induction bits generalizing wires with
  | nil => exact ⟨clocked, idle⟩
  | cons bit bits ih =>
    have next := clocked.writeBit target.onWires bit
    refine ih (clocked.clocked_writeBit _ bit) ?_
    show (wires.writeBit target.onWires bit).device = _
    rw [next, idle]
    rfl

/-- A receiving target collects bits until they are eight. -/
theorem writeBits_receiving {addressed : Bool} {bits : List Bool} (more : bits ≠ []) :
    ∀ {earlier : List Bool} {wires : Wires (TargetPhase × τ)}, wires.Clocked →
      wires.device = (.receiving addressed earlier, state) →
      earlier.length + bits.length = 8 →
      (wires.writeBits target.onWires bits).Clocked ∧
        (wires.writeBits target.onWires bits).device =
          target.judge addressed (byteOf (earlier ++ bits)) state := by
  -- The induction is on the bits that are left, the last of which completes the byte.
  induction bits with
  | nil => exact absurd rfl more
  | cons bit bits ih =>
    intro earlier wires clocked receiving eight
    have next := clocked.writeBit target.onWires bit
    have after : (wires.writeBit target.onWires bit).device =
        if (earlier ++ [bit]).length = 8 then
          target.judge addressed (byteOf (earlier ++ [bit])) state
        else (.receiving addressed (earlier ++ [bit]), state) := by
      rw [next, receiving]
      -- The target does not pull, so it reads the bit itself.
      simp [ByteTarget.onWires]
    have still := clocked.clocked_writeBit target.onWires bit
    show ((wires.writeBit target.onWires bit).writeBits target.onWires bits).Clocked ∧
      ((wires.writeBit target.onWires bit).writeBits target.onWires bits).device = _
    rw [List.length_cons] at eight
    cases bits with
    | nil =>
      have full : (earlier ++ [bit]).length = 8 := by simpa using eight
      rw [if_pos full] at after
      exact ⟨still, after⟩
    | cons following bits =>
      have short : (earlier ++ [bit]).length ≠ 8 := by
        rw [List.length_append, List.length_singleton]
        rw [List.length_cons] at eight
        omega
      rw [if_neg short] at after
      have rest := ih (nofun) still after (by
        rw [List.length_append, List.length_singleton]
        omega)
      rw [List.append_assoc] at rest
      exact rest

/-- A judged byte is acknowledged by pulling, or leaves the target idle. -/
theorem readBit_judge {addressed : Bool} {byte : UInt8} (clocked : wires.Clocked)
    (judged : wires.device = target.judge addressed byte state) :
    wires.readBit target.onWires =
      (!(target.send byte ⟨if addressed then .writing else .addressing, state⟩).1,
        ⟨⟨true, false⟩, target.placed
          (target.send byte ⟨if addressed then .writing else .addressing, state⟩).2⟩) := by
  rw [clocked.readBit, judged]
  unfold ByteTarget.judge
  cases addressed with
  | true =>
    simp only [if_true, ByteTarget.send]
    rcases target.accept byte state with ⟨acknowledged, after⟩
    cases acknowledged <;> rfl
  | false =>
    simp only [Bool.false_eq_true, if_false, ByteTarget.send]
    rcases target.address byte state with ⟨acknowledged, after⟩
    cases acknowledged with
    | false => rfl
    | true =>
      -- The lowest bit decides who sends next.
      simp only [if_true]
      cases asks : byte &&& 1 != 0 <;> rfl

/-- A byte on the wires is a byte of the session. -/
theorem Attends.writeByte (attends : Attends target wires session) (free : session.mode ≠ .reading)
    (byte : UInt8) : (wires.writeByte target.onWires byte).1 = (target.send byte session).1 ∧
      Attends target (wires.writeByte target.onWires byte).2 (target.send byte session).2 := by
  unfold Wires.writeByte
  obtain ⟨mode, state⟩ := session
  -- Addressed or not, a device that listens judges the whole byte.
  have receiving : ∀ addressed, mode = (if addressed then .writing else .addressing) →
      wires.device = (.receiving addressed [], state) →
      (!((wires.writeBits target.onWires (bitsOf byte)).readBit target.onWires).1) =
          (target.send byte ⟨mode, state⟩).1 ∧
        Attends target ((wires.writeBits target.onWires (bitsOf byte)).readBit target.onWires).2
          (target.send byte ⟨mode, state⟩).2 := by
    rintro addressed rfl device
    obtain ⟨clocked, judged⟩ := writeBits_receiving (bitsOf_ne_nil byte) attends.clocked device rfl
    rw [List.nil_append, byteOf_bitsOf] at judged
    rw [readBit_judge clocked judged, Bool.not_not]
    exact ⟨rfl, rfl, rfl⟩
  dsimp only
  cases mode with
  | idle =>
    have device : wires.device = (.idle, state) := attends.device
    obtain ⟨clocked, idle⟩ := writeBits_idle attends.clocked device (bitsOf byte)
    have answer := clocked.readBit target.onWires
    rw [idle] at answer
    rw [answer]
    exact ⟨rfl, rfl, rfl⟩
  | addressing =>
    have device : wires.device = (.receiving false [], state) := attends.device
    exact receiving false rfl device
  | writing => exact receiving true rfl attends.device
  | reading => exact absurd rfl free

/-- A sending target is read bit by bit, and then listens. -/
theorem readBits_sending {bits : List Bool} (nonempty : bits ≠ []) :
    ∀ {wires : Wires (TargetPhase × τ)}, wires.Clocked →
      wires.device = (.sending bits, state) →
      (Wires.readBits target.onWires bits.length wires).1 = bits ∧
        (Wires.readBits target.onWires bits.length wires).2.Clocked ∧
        (Wires.readBits target.onWires bits.length wires).2.device =
          (.listening false, state) := by
  -- The induction is on the bits that are left.
  induction bits with
  | nil => exact absurd rfl nonempty
  | cons bit bits ih =>
    intro wires clocked sending
    have first := clocked.readBit target.onWires
    rw [sending] at first
    have level : (!target.onWires.pulls (target.onWires.react
        (.clockRise !target.onWires.pulls (.sending (bit :: bits), state))
        (.sending (bit :: bits), state))) = bit := by
      simp [ByteTarget.onWires]
    rw [level] at first
    rw [List.length_cons]
    unfold Wires.readBits
    rw [first]
    dsimp only
    cases bits with
    | nil => exact ⟨rfl, rfl, rfl⟩
    | cons following bits =>
      let later : Wires (TargetPhase × τ) := ⟨⟨true, false⟩, (.sending (following :: bits), state)⟩
      have clocked : later.Clocked := rfl
      obtain ⟨read, still, after⟩ := ih nofun clocked rfl
      exact ⟨congrArg (bit :: ·) read, still, after⟩

/-- A byte is read from the wires as it is from the session. -/
theorem Attends.readByte (attends : Attends target wires session) (reads : session.mode = .reading)
    (more : Bool) : (wires.readByte target.onWires more).1 = (target.receive more session).1 ∧
      Attends target (wires.readByte target.onWires more).2 (target.receive more session).2 := by
  obtain ⟨mode, state⟩ := session
  cases reads
  have sending : wires.device =
      (.sending (bitsOf (target.supply state).1), (target.supply state).2) := attends.device
  obtain ⟨read, clocked, listening⟩ := readBits_sending
    (bitsOf_ne_nil (target.supply state).1) attends.clocked sending
  rw [length_bitsOf] at read clocked listening
  unfold Wires.readByte ByteTarget.receive
  dsimp only
  rw [read, byteOf_bitsOf]
  refine ⟨rfl, clocked.clocked_writeBit _ _, ?_⟩
  rw [clocked.writeBit, listening]
  -- The acknowledgement of the controller is a bit that is low.
  cases more <;> rfl

end Sessions

end AmpFc
