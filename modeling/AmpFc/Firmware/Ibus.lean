import AmpFc.Firmware.State

/-! Reception in the firmware: the byte parser, and the loop that drains the serial port. -/

namespace AmpFc.Firmware

/-- What `ibus_parse_byte` returns: zero, minus one, or one. -/
inductive IbusResult where
  | pending
  | rejected
  | accepted
  deriving DecidableEq, Repr

/-- The checksum of the first thirty bytes, subtracted from all ones. -/
def ibusChecksum (frame : List UInt8) : UInt16 :=
  (frame.take 30).foldl (fun checksum byte => checksum - byte.toUInt16) 0xffff

/-- `ibus_parse_byte`: store one byte, and judge the frame it completes. -/
def ibusParseByte (buffer : FrameBuffer) (b : UInt8) (ch : Channels) :
    IbusResult × FrameBuffer × Channels :=
  -- Only the length byte may start a frame, so anything else between frames is skipped.
  if buffer.bytes.length = 0 ∧ b ≠ 0x20 then (.pending, buffer, ch)
  else
    match buffer.push b with
    | .inl buffer => (.pending, buffer, ch)
    | .inr frame =>
      if frame.getD 0 0 ≠ 0x20 ∨ frame.getD 1 0 ≠ ibusCmd then (.rejected, .empty, ch)
      else if ibusChecksum frame ≠ frameHalf frame 30 then (.rejected, .empty, ch)
      else (.accepted, .empty, frameChannels frame)

/-- One turn of the receive loop, in the poll that started at tick `now`. -/
def receiveByte (now : Nat) (reception : Reception) (rx : RxByte) : Reception :=
  -- An accepted frame is stamped twice: with the poll's tick, and with a tick read just now.
  match ibusParseByte reception.parser rx.byte reception.ch with
  | (.accepted, parser, ch) =>
    { reception with
      parser := parser
      ch := ch
      lastFrameTick := now
      rcLastFrameTick := rx.reading % 2 ^ 32
      goodFrames := reception.goodFrames + 1 }
  | (.rejected, parser, ch) =>
    { reception with parser := parser, ch := ch, badFrames := reception.badFrames + 1 }
  | (.pending, parser, ch) => { reception with parser := parser, ch := ch }

/-- The number of bytes one poll reads at most. -/
def receiveBudget : Nat := 128

/-- The receive loop: at most `receiveBudget` of the bytes that are waiting. -/
def receiveBytes (now : Nat) (reception : Reception) (waiting : List RxByte) : Reception :=
  (waiting.take receiveBudget).foldl (receiveByte now) reception

/-- The last frame the parser accepts in a sequence of bytes, with the tick read at its end. -/
def lastFrame : FrameBuffer → Channels → List RxByte → Option (Channels × Nat)
  -- The frame that completes last replaces every earlier one.
  | _, _, [] => none
  | parser, ch, rx :: rest =>
    match ibusParseByte parser rx.byte ch with
    | (.accepted, parser, ch) => (lastFrame parser ch rest).getD (ch, rx.reading)
    | (_, parser, ch) => lastFrame parser ch rest

/-- The bytes of one poll carried a frame, and the reception now shows the last one. -/
def Shows (now : Nat) (reception : Reception) (frame : Channels × Nat) : Prop :=
  reception.ch = frame.1 ∧ reception.lastFrameTick = now ∧
    reception.rcLastFrameTick = frame.2 % 2 ^ 32

/-- Without a frame, everything but the parser and the count of bad frames stays. -/
def Silent (before after : Reception) : Prop :=
  after.ch = before.ch ∧ after.lastFrameTick = before.lastFrameTick ∧
    after.rcLastFrameTick = before.rcLastFrameTick ∧ after.goodFrames = before.goodFrames

/-- The channels change only when a frame is accepted. -/
theorem ibusParseByte_channels {buffer parser : FrameBuffer} {b : UInt8} {ch ch' : Channels}
    {result : IbusResult} (parsed : ibusParseByte buffer b ch = (result, parser, ch'))
    (refused : result ≠ .accepted) : ch' = ch := by
  -- Every exit but the last hands the channels back.
  unfold ibusParseByte at parsed
  split at parsed
  · simp only [Prod.mk.injEq] at parsed
    exact parsed.2.2.symm
  · split at parsed
    · simp only [Prod.mk.injEq] at parsed
      exact parsed.2.2.symm
    · split_ifs at parsed
      · simp only [Prod.mk.injEq] at parsed
        exact parsed.2.2.symm
      · simp only [Prod.mk.injEq] at parsed
        exact parsed.2.2.symm
      · simp only [Prod.mk.injEq] at parsed
        exact absurd parsed.1.symm refused

/-- The receive loop shows the last frame it accepted, and without one changes nothing visible. -/
theorem receiveByte_foldl (now : Nat) (bytes : List RxByte) :
    ∀ reception, match lastFrame reception.parser reception.ch bytes with
      | some frame => Shows now (bytes.foldl (receiveByte now) reception) frame
      | none => Silent reception (bytes.foldl (receiveByte now) reception) := by
  -- The induction is on the bytes; a frame is shown until a later one replaces it.
  induction bytes with
  | nil => exact fun reception => ⟨rfl, rfl, rfl, rfl⟩
  | cons rx rest ih =>
    intro reception
    have tail := ih (receiveByte now reception rx)
    rcases parsed : ibusParseByte reception.parser rx.byte reception.ch with ⟨result, parser, ch⟩
    cases result with
    | accepted =>
      simp only [lastFrame, List.foldl_cons, receiveByte, parsed] at tail ⊢
      cases later : lastFrame parser ch rest with
      | some frame =>
        simp only [later] at tail
        exact tail
      | none =>
        simp only [later] at tail
        exact ⟨tail.1, tail.2.1, tail.2.2.1⟩
    | rejected =>
      have kept := ibusParseByte_channels parsed (by decide)
      simp only [lastFrame, List.foldl_cons, receiveByte, parsed] at tail ⊢
      subst kept
      exact tail
    | pending =>
      have kept := ibusParseByte_channels parsed (by decide)
      simp only [lastFrame, List.foldl_cons, receiveByte, parsed] at tail ⊢
      subst kept
      exact tail

end AmpFc.Firmware
