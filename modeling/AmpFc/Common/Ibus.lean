import AmpFc.Common.Protocol

/-! The iBUS frame layout, and the buffer in which either parser collects a frame. -/

namespace AmpFc

/-- `IBUS_FRAME_SIZE`, also `kIbusFrameSize`; it is the first byte of every frame. -/
def ibusFrameSize : Nat := 32

/-- `IBUS_CMD`, the second byte of every frame. -/
def ibusCmd : UInt8 := 0x40

/-- The bytes of a frame received so far; a full buffer is never stored. -/
structure FrameBuffer where
  bytes : List UInt8
  short : bytes.length < ibusFrameSize

/-- Nothing received yet. -/
def FrameBuffer.empty : FrameBuffer := ⟨[], by decide⟩

/-- Store one byte, which either leaves room or completes a frame. -/
def FrameBuffer.push (buffer : FrameBuffer) (byte : UInt8) : FrameBuffer ⊕ List UInt8 :=
  -- The write index after storing the byte is the number of bytes held.
  if room : (buffer.bytes ++ [byte]).length < ibusFrameSize then
    .inl ⟨buffer.bytes ++ [byte], room⟩
  else
    .inr (buffer.bytes ++ [byte])

/-- The little-endian half word stored at a position of a frame. -/
def frameHalf (frame : List UInt8) (position : Nat) : UInt16 :=
  (frame.getD position 0).toUInt16 ||| ((frame.getD (position + 1) 0).toUInt16 <<< 8)

/-- The channel values of a frame, two bytes each after the header. -/
def frameChannels (frame : List UInt8) : Channels :=
  Vector.ofFn fun channel => frameHalf frame (2 + channel.val * 2)

/-- `encodeIbusFrame`: header, channels, and the sum subtracted from all ones. -/
def encodeIbusFrame (channels : Channels) : List UInt8 :=
  let body := [0x20, ibusCmd] ++ channels.toList.flatMap halfBytes
  let sum := body.foldl (fun sum byte => sum + byte.toUInt16) 0
  body ++ halfBytes (0xFFFF - sum)

/-- A byte for which there is room is stored. -/
theorem FrameBuffer.push_of_room {buffer : FrameBuffer} {byte : UInt8}
    (room : (buffer.bytes ++ [byte]).length < ibusFrameSize) :
    buffer.push byte = .inl ⟨buffer.bytes ++ [byte], room⟩ := dif_pos room

/-- The byte that leaves no room completes a frame. -/
theorem FrameBuffer.push_of_full {buffer : FrameBuffer} {byte : UInt8}
    (full : (buffer.bytes ++ [byte]).length = ibusFrameSize) :
    buffer.push byte = .inr (buffer.bytes ++ [byte]) :=
  dif_neg (Nat.not_lt.mpr (Nat.le_of_eq full.symm))

/-- A byte received with the tick or clock reading taken when it completes a frame. -/
structure RxByte where
  byte : UInt8
  reading : Nat

end AmpFc
