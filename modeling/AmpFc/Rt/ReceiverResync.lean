import AmpFc.Common.IbusCodec
import AmpFc.Rt.FrameHistory

/-! The realtime receiver finds its way into a stream of frames within one frame. -/

namespace AmpFc

section Header

/-- Two neighbouring bytes that are not the two header bytes. -/
def NoHeader (first second : UInt8) : Prop :=
  ¬ (first = 0x20 ∧ second = ibusCmd)

/-- A channel value that leaves the three upper bits of its high byte clear. -/
def Plain (value : UInt16) : Prop :=
  value < 0x2000

/-- A channel is plain by its value alone. -/
instance (value : UInt16) : Decidable (Plain value) :=
  inferInstanceAs (Decidable (_ < _))

/-- The high byte counts the whole 256s. -/
theorem highByte_toNat (value : UInt16) : (value >>> 8).toUInt8.toNat = value.toNat / 256 := by
  have bound : value.toNat < 2 ^ 16 := value.toNat_lt
  have shift : (8 : UInt16).toNat % 16 = 8 := by decide
  rw [UInt16.toNat_toUInt8, UInt16.toNat_shiftRight, shift, Nat.shiftRight_eq_div_pow]
  omega

/-- The high byte of a plain value is neither of the header bytes. -/
theorem Plain.highByte {value : UInt16} (plain : Plain value) :
    (value >>> 8).toUInt8.toNat < 32 := by
  have below : value.toNat < 0x2000 := UInt16.lt_iff_toNat_lt.mp plain
  rw [highByte_toNat]
  omega

/-- A sum of bytes in sixteen bits is at most their sum. -/
theorem foldl_add_le (bytes : List UInt8) (start : UInt16) :
    (bytes.foldl (fun sum byte => sum + byte.toUInt16) start).toNat ≤
      start.toNat + (bytes.map UInt8.toNat).sum := by
  induction bytes generalizing start with
  | nil => simp
  | cons byte rest ih =>
    have step := ih (start + byte.toUInt16)
    -- A wrapped sum is only smaller.
    have added : (start + byte.toUInt16).toNat ≤ start.toNat + byte.toNat := by
      rw [UInt16.toNat_add, UInt8.toNat_toUInt16]
      exact Nat.mod_le _ _
    rw [List.foldl_cons, List.map_cons, List.sum_cons]
    omega

/-- The bytes of plain values are small on average. -/
theorem sum_flatMap_halfBytes_le (values : List UInt16) (plain : ∀ value ∈ values, Plain value) :
    ((values.flatMap halfBytes).map UInt8.toNat).sum ≤ 286 * values.length := by
  induction values with
  | nil => simp
  | cons value rest ih =>
    have tail := ih fun other member => plain other (List.mem_cons_of_mem _ member)
    -- A high byte is below 32 and a low byte below 256.
    have high := (plain value List.mem_cons_self).highByte
    have low : value.toUInt8.toNat < 256 := value.toUInt8.toNat_lt
    simp only [List.flatMap_cons, halfBytes, List.cons_append, List.nil_append, List.map_cons,
      List.sum_cons, List.length_cons] at tail ⊢
    omega

/-- The checksum that closes a frame. -/
def closingSum (channels : Channels) : UInt16 :=
  0xFFFF - (frameBody channels).foldl (fun sum byte => sum + byte.toUInt16) 0

/-- The last byte of a frame of plain values is neither of the header bytes. -/
theorem closingSum_highByte {channels : Channels} (plain : ∀ value ∈ channels.toList, Plain value) :
    224 ≤ (closingSum channels >>> 8).toUInt8.toNat := by
  have small := foldl_add_le (frameBody channels) 0
  have bytes := sum_flatMap_halfBytes_le channels.toList plain
  -- Fourteen plain values and the header sum to at most 4100, far from wrapping.
  have total : ((frameBody channels).map UInt8.toNat).sum ≤ 4100 := by
    rw [Vector.length_toList] at bytes
    simp only [frameBody, ibusCmd, List.cons_append, List.nil_append, List.map_cons, List.sum_cons]
    have header : (0x20 : UInt8).toNat + (0x40 : UInt8).toNat = 96 := by decide
    omega
  rw [highByte_toNat, closingSum]
  generalize (frameBody channels).foldl (fun sum byte => sum + byte.toUInt16) 0 = sum at small ⊢
  have zero : (0 : UInt16).toNat = 0 := rfl
  have full : (0xFFFF : UInt16).toNat = 65535 := rfl
  have below : sum ≤ 0xFFFF := UInt16.le_iff_toNat_le.mpr (by omega)
  rw [UInt16.toNat_sub_of_le _ _ below]
  omega

/-- Behind a byte that is not the length byte, plain values hide no header. -/
theorem isChain_noHeader (values : List UInt16) (plain : ∀ value ∈ values, Plain value)
    {before : UInt8} (other : before ≠ 0x20) {close : List UInt8}
    (closed : ∀ last : UInt8, last ≠ 0x20 → List.IsChain NoHeader (last :: close)) :
    List.IsChain NoHeader (before :: (values.flatMap halfBytes ++ close)) := by
  -- The induction is on the values, each of which ends in a byte that is no length byte.
  induction values generalizing before with
  -- What closes the frame is known to hide no header.
  | nil => exact closed before other
  | cons value rest ih =>
    have high := (plain value List.mem_cons_self).highByte
    -- The high byte can neither complete a header nor begin one.
    have notCmd : (value >>> 8).toUInt8 ≠ ibusCmd := by
      intro same
      rw [same] at high
      exact absurd high (by decide)
    have notLength : (value >>> 8).toUInt8 ≠ 0x20 := by
      intro same
      rw [same] at high
      exact absurd high (by decide)
    simp only [List.flatMap_cons, halfBytes, List.cons_append, List.nil_append]
    refine .cons_cons (fun header => other header.1) (.cons_cons (fun header => notCmd header.2) ?_)
    exact ih (fun value member => plain value (List.mem_cons_of_mem _ member)) notLength

/-- A frame is its header, its channels, and two more bytes. -/
theorem encodeIbusFrame_bytes (channels : Channels) : encodeIbusFrame channels =
    0x20 :: ibusCmd :: (channels.toList.flatMap halfBytes ++ halfBytes (closingSum channels)) := by
  rw [encodeIbusFrame_eq, frameBody]
  rfl

/-- Behind its first byte a frame of plain values hides no header. -/
theorem isChain_encodeIbusFrame {channels : Channels}
    (plain : ∀ value ∈ channels.toList, Plain value) :
    List.IsChain NoHeader ((encodeIbusFrame channels).drop 1) := by
  have high := closingSum_highByte plain
  rw [encodeIbusFrame_bytes]
  refine isChain_noHeader channels.toList plain (by decide) ?_
  intro last other
  -- The checksum's low byte may be anything, but its high byte is large.
  have notCmd : (closingSum channels >>> 8).toUInt8 ≠ ibusCmd := by
    intro same
    rw [same] at high
    exact absurd high (by decide)
  exact .cons_cons (fun header => other header.1)
    (.cons_cons (fun header => notCmd header.2) (.singleton _))

/-- Nor does it end in a length byte. -/
theorem getLast?_encodeIbusFrame {channels : Channels}
    (plain : ∀ value ∈ channels.toList, Plain value) :
    (encodeIbusFrame channels).getLast? ≠ some 0x20 := by
  have high := closingSum_highByte plain
  -- The frame ends with the high byte of its checksum.
  have last : (encodeIbusFrame channels).getLast? =
      some (closingSum channels >>> 8).toUInt8 := by
    rw [encodeIbusFrame_eq]
    change (frameBody channels ++ halfBytes (closingSum channels)).getLast? = _
    rw [List.getLast?_append]
    rfl
  rw [last]
  intro same
  rw [Option.some.inj same] at high
  exact absurd high (by decide)

end Header

section Buffer

/-- The frame buffer after one byte: what is stored so far, or nothing behind a complete frame. -/
def bufferAfter (buffer : FrameBuffer) (byte : UInt8) : FrameBuffer :=
  match Receiver.pushBuffer buffer byte with
  | .inl buffer => buffer
  | .inr _ => .empty

/-- Between frames any byte but the length byte is skipped. -/
theorem bufferAfter_skip {byte : UInt8} (other : byte ≠ 0x20) :
    bufferAfter .empty byte = .empty := by
  rw [bufferAfter, Receiver.pushBuffer, if_pos ⟨rfl, other⟩]

/-- A length byte without its successor is dropped together with what came instead. -/
theorem bufferAfter_restart {buffer : FrameBuffer} {byte : UInt8} (one : buffer.bytes.length = 1)
    (other : byte ≠ ibusCmd) : bufferAfter buffer byte = .empty := by
  have started : ¬ (buffer.bytes.length = 0 ∧ byte ≠ 0x20) := by
    intro skipped
    omega
  rw [bufferAfter, Receiver.pushBuffer, if_neg started, if_pos ⟨one, other⟩]

/-- What follows the right bytes is stored, and a thirty-second byte empties the buffer. -/
theorem bufferAfter_bytes (buffer : FrameBuffer) (byte : UInt8)
    (first : buffer.bytes.length = 0 → byte = 0x20)
    (second : buffer.bytes.length = 1 → byte = ibusCmd) :
    (bufferAfter buffer byte).bytes =
      if buffer.bytes.length + 1 < ibusFrameSize then buffer.bytes ++ [byte] else [] := by
  have kept : ¬ (buffer.bytes.length = 0 ∧ byte ≠ 0x20) := by
    intro skipped
    exact skipped.2 (first skipped.1)
  have kept' : ¬ (buffer.bytes.length = 1 ∧ byte ≠ ibusCmd) := by
    intro dropped
    exact dropped.2 (second dropped.1)
  have long : (buffer.bytes ++ [byte]).length = buffer.bytes.length + 1 := by simp
  rw [bufferAfter, Receiver.pushBuffer, if_neg kept, if_neg kept']
  by_cases room : buffer.bytes.length + 1 < ibusFrameSize
  · -- There is room for the byte.
    rw [FrameBuffer.push_of_room (by rw [long]; exact room), if_pos room]
  · have short := buffer.short
    -- It is the thirty-second, and the frame leaves the buffer.
    rw [FrameBuffer.push_of_full (by rw [long]; omega), if_neg room]
    rfl

/-- Behind the header, bytes are stored as long as there is room. -/
theorem foldl_bufferAfter_collect (bytes : List UInt8) : ∀ buffer : FrameBuffer,
    2 ≤ buffer.bytes.length → buffer.bytes.length + bytes.length < ibusFrameSize →
      (bytes.foldl bufferAfter buffer).bytes = buffer.bytes ++ bytes := by
  -- The induction is on the bytes, and the buffer takes over one after the other.
  induction bytes with
  | nil =>
    intro buffer _ _
    simp
  | cons byte rest ih =>
    intro buffer header room
    rw [List.length_cons] at room
    have stored := bufferAfter_bytes buffer byte (by omega) (by omega)
    rw [if_pos (by omega)] at stored
    rw [List.foldl_cons, ih _ (by rw [stored]; simp; omega) (by rw [stored]; simp; omega), stored]
    simp

/-- The byte that fills the buffer empties it. -/
theorem bufferAfter_complete {buffer : FrameBuffer} (byte : UInt8)
    (long : buffer.bytes.length = ibusFrameSize - 1) : bufferAfter buffer byte = .empty := by
  apply FrameBuffer.eq_empty
  have size : ibusFrameSize = 32 := rfl
  rw [bufferAfter_bytes buffer byte (by omega) (by omega), if_neg (by omega)]

/-- A string that hides no header and does not end in a length byte is skipped as a whole. -/
theorem foldl_bufferAfter_hunt : ∀ bytes : List UInt8, List.IsChain NoHeader bytes →
    bytes.getLast? ≠ some 0x20 → bytes.foldl bufferAfter .empty = .empty
  | [], _, _ => rfl
  | [byte], _, last => by
    have other : byte ≠ 0x20 := by
      intro length
      exact last (by rw [length]; rfl)
    rw [List.foldl_cons, bufferAfter_skip other]
    rfl
  | byte :: next :: rest, hidden, last => by
    rw [List.isChain_cons_cons] at hidden
    by_cases length : byte = 0x20
    · -- The byte behind a length byte is no command byte, and is dropped with it.
      have other : next ≠ ibusCmd := by
        intro cmd
        exact hidden.1 ⟨length, cmd⟩
      have stored : (bufferAfter .empty byte).bytes = [byte] := by
        rw [bufferAfter_bytes _ _ (fun _ => length) (fun one => absurd one (by decide))]
        rfl
      -- The rest ends as the whole does, if there is any rest.
      have behind : rest.getLast? ≠ some 0x20 := by
        intro same
        cases rest with
        | nil => cases same
        | cons third others => exact last (by simpa using same)
      rw [List.foldl_cons, List.foldl_cons, bufferAfter_restart (by rw [stored]; rfl) other]
      exact foldl_bufferAfter_hunt rest (List.isChain_of_isChain_cons hidden.2) behind
    · -- Any other byte is skipped.
      rw [List.foldl_cons, bufferAfter_skip length]
      exact foldl_bufferAfter_hunt (next :: rest) hidden.2 (by simpa using last)

/-- From between frames, a frame is stored up to its last byte. -/
theorem foldl_bufferAfter_frame (channels : Channels) :
    (((encodeIbusFrame channels).take 31).foldl bufferAfter .empty).bytes =
      (encodeIbusFrame channels).take 31 := by
  have full := encodeIbusFrame_length channels
  obtain ⟨rest, split⟩ : ∃ rest, encodeIbusFrame channels = 0x20 :: ibusCmd :: rest := ⟨_, rfl⟩
  rw [split] at full ⊢
  have long : rest.length = 30 := by
    simp only [List.length_cons, ibusFrameSize] at full
    omega
  -- The header is stored byte by byte, and the rest as it comes.
  have first : (bufferAfter .empty 0x20).bytes = [0x20] := rfl
  have second : (bufferAfter (bufferAfter .empty 0x20) ibusCmd).bytes = [0x20, ibusCmd] := rfl
  rw [List.take_succ_cons, List.take_succ_cons, List.foldl_cons, List.foldl_cons,
    foldl_bufferAfter_collect _ _ (by rw [second]; decide)
      (by rw [second]; simp [long, ibusFrameSize]), second]
  rfl

/-- Whatever the buffer holds, a frame of plain values leaves it empty. -/
theorem foldl_bufferAfter_resync (buffer : FrameBuffer) {channels : Channels}
    (plain : ∀ value ∈ channels.toList, Plain value) :
    (encodeIbusFrame channels).foldl bufferAfter buffer = .empty := by
  have full := encodeIbusFrame_length channels
  have short := buffer.short
  have hidden := isChain_encodeIbusFrame plain
  have last := getLast?_encodeIbusFrame plain
  by_cases idle : buffer.bytes.length = 0
  · -- In step, the frame is collected and completed.
    rw [FrameBuffer.eq_empty (List.eq_nil_of_length_eq_zero idle)]
    have inside : 31 < (encodeIbusFrame channels).length := by
      rw [full]
      decide
    have split := List.take_append_drop 31 (encodeIbusFrame channels)
    rw [List.drop_eq_getElem_cons inside, List.drop_eq_nil_of_le (by rw [full]; decide)] at split
    rw [← split, List.foldl_append, List.foldl_cons, List.foldl_nil]
    apply bufferAfter_complete
    rw [foldl_bufferAfter_frame, List.length_take, full]
    rfl
  · -- Out of step, whatever is left of the frame behind the restart hides no header.
    have hunted : ∀ start, 1 ≤ start →
        ((encodeIbusFrame channels).drop start).foldl bufferAfter .empty = .empty := by
      intro start behind
      have suffix : (encodeIbusFrame channels).drop start =
          ((encodeIbusFrame channels).drop 1).drop (start - 1) := by
        rw [List.drop_drop]
        congr 1
        omega
      apply foldl_bufferAfter_hunt
      · rw [suffix]
        exact hidden.drop _
      · rw [List.getLast?_drop]
        split
        · exact nofun
        · exact last
    by_cases one : buffer.bytes.length = 1
    · -- A lone length byte meets the next one, and both are dropped.
      have first : encodeIbusFrame channels = 0x20 :: (encodeIbusFrame channels).drop 1 := rfl
      rw [first, List.foldl_cons, bufferAfter_restart one (by decide)]
      exact hunted 1 le_rfl
    · -- Otherwise the frame underway is completed inside the new one, and the rest is skipped.
      obtain ⟨head, byte, split, long⟩ :=
        split_at_completion full (Nat.pos_of_ne_zero idle) short
      have stored := foldl_bufferAfter_collect head buffer (by omega) (by omega)
      rw [split, List.foldl_append, List.foldl_cons, bufferAfter_complete byte
        (by rw [stored, List.length_append]; omega)]
      exact hunted _ (by omega)

/-- After the first frame of a stream the buffer is empty whenever a frame begins. -/
theorem foldl_bufferAfter_stream {sent : List Channels}
    (plain : ∀ channels ∈ sent, ∀ value ∈ channels.toList, Plain value) (begun : sent ≠ [])
    (buffer : FrameBuffer) :
    (sent.flatMap encodeIbusFrame).foldl bufferAfter buffer = .empty := by
  -- The induction is on the frames, each of which ends in an empty buffer.
  induction sent generalizing buffer with
  | nil => exact absurd rfl begun
  | cons channels rest ih =>
    rw [List.flatMap_cons, List.foldl_append,
      foldl_bufferAfter_resync buffer (plain channels List.mem_cons_self)]
    -- Nothing follows, or a stream that begins in step.
    cases rest with
    | nil => rfl
    | cons next others =>
      exact ih (fun channels member => plain channels (List.mem_cons_of_mem _ member))
        (List.cons_ne_nil _ _) _

/-- A frame has thirty-two bytes. -/
theorem flatMap_encodeIbusFrame_length (sent : List Channels) :
    (sent.flatMap encodeIbusFrame).length = 32 * sent.length := by
  -- The induction is on the frames.
  induction sent with
  | nil => rfl
  | cons first rest ih =>
    rw [List.flatMap_cons, List.length_append, ih, encodeIbusFrame_length, List.length_cons,
      ibusFrameSize]
    omega

end Buffer

namespace Receiver

variable {F : Type} [FloatArith F]

/-- What a call of `pushByte` returns, next to the sample it leaves behind. -/
abbrev PushReply := Bool × ReceiverSample

/-- Calls of `pushByte`, one for each byte, with receiver and sample at the end. -/
def pushBytes (r : Receiver F) (sample : ReceiverSample) :
    List RxByte → List PushReply × Receiver F × ReceiverSample
  | [] => ([], r, sample)
  | rx :: rest =>
    let pushed := r.pushByte rx sample
    let tail := pushBytes pushed.2.1 pushed.2.2 rest
    ((pushed.1, pushed.2.2) :: tail.1, tail.2)

/-- Feeding two strings one after the other. -/
theorem pushBytes_append (r : Receiver F) (sample : ReceiverSample) (first second : List RxByte) :
    r.pushBytes sample (first ++ second) =
      let head := r.pushBytes sample first
      let tail := head.2.1.pushBytes head.2.2 second
      (head.1 ++ tail.1, tail.2) := by
  -- The induction is on the first string, over any receiver.
  induction first generalizing r sample with
  | nil => rfl
  | cons rx rest ih => simp only [List.cons_append, pushBytes, ih]

/-- Every byte has an answer. -/
@[simp] theorem pushBytes_length (r : Receiver F) (sample : ReceiverSample) (rx : List RxByte) :
    (r.pushBytes sample rx).1.length = rx.length := by
  induction rx generalizing r sample with
  | nil => rfl
  | cons byte rest ih => simp only [pushBytes, List.length_cons, ih]

/-- The configuration decides how the channels are shaped, and no byte changes it. -/
def SameShaping (before after : Receiver F) : Prop :=
  after.deadzoneUs = before.deadzoneUs ∧ after.throttleExpo = before.throttleExpo

/-- A call moves the buffer on, and leaves the configuration alone. -/
theorem pushByte_buffer (r : Receiver F) (rx : RxByte) (sample : ReceiverSample) :
    (r.pushByte rx sample).2.1.buffer = bufferAfter r.buffer rx.byte ∧
      SameShaping r (r.pushByte rx sample).2.1 := by
  rw [pushByte_eq, bufferAfter]
  cases pushBuffer r.buffer rx.byte with
  | inl buffer => exact ⟨rfl, rfl, rfl⟩
  -- A complete frame empties the buffer, whether its checksum matches or not.
  | inr frame =>
    dsimp only
    split
    · exact ⟨rfl, rfl, rfl⟩
    · exact ⟨rfl, rfl, rfl⟩

/-- So do many calls. -/
theorem pushBytes_buffer (r : Receiver F) (sample : ReceiverSample) (rx : List RxByte) :
    (r.pushBytes sample rx).2.1.buffer = (rx.map RxByte.byte).foldl bufferAfter r.buffer ∧
      SameShaping r (r.pushBytes sample rx).2.1 := by
  -- The induction is on the bytes; each one moves the buffer and leaves the shaping.
  induction rx generalizing r sample with
  | nil => exact ⟨rfl, rfl, rfl⟩
  | cons byte rest ih =>
    obtain ⟨moved, deadzone, expo⟩ := pushByte_buffer r byte sample
    obtain ⟨movedOn, deadzone', expo'⟩ :=
      ih (r.pushByte byte sample).2.1 (r.pushByte byte sample).2.2
    simp only [pushBytes, List.map_cons, List.foldl_cons]
    rw [movedOn, moved]
    exact ⟨rfl, deadzone'.trans deadzone, expo'.trans expo⟩

/-- A channel after shaping: the deadzone on the sticks, the expo on the throttle. -/
def shapedChannel (r : Receiver F) (channels : Channels) (place : Nat) : UInt16 :=
  if place = 0 ∨ place = 1 ∨ place = 3 then applyCenterDeadzone (channels.us place) r.deadzoneUs
  else if place = 2 then applyThrottleExpo (channels.us place) r.throttleExpo
  else channels.us place

/-- Shaping treats every channel on its own. -/
theorem shapeChannels_us (r : Receiver F) (channels : Channels) {place : Nat}
    (inside : place < 14) :
    (r.shapeChannels channels).us place = r.shapedChannel channels place := by
  unfold shapeChannels shapedChannel
  -- The four channels written are looked at one by one, and all others pass.
  by_cases throttle : place = 2
  · subst throttle
    simp [Channels.us]
  · by_cases yaw : place = 3
    · subst yaw
      simp [Channels.us]
    · by_cases pitch : place = 1
      · subst pitch
        simp [Channels.us]
      · by_cases roll : place = 0
        · subst roll
          simp [Channels.us]
        · have others : 2 ≠ place ∧ 3 ≠ place ∧ 1 ≠ place ∧ 0 ≠ place := by omega
          simp [Channels.us, throttle, yaw, pitch, roll, others, inside]

/-- A call that completes a frame whose checksum matches returns true, with the frame's sample. -/
theorem pushByte_complete {r : Receiver F} {rx : RxByte} {frame : List UInt8}
    (completed : pushBuffer r.buffer rx.byte = .inr frame)
    (sums : receiverChecksum frame = frameHalf frame 30) (sample : ReceiverSample) :
    (r.pushByte rx sample).1 = true ∧
      (r.pushByte rx sample).2.2.channels = r.shapeChannels (frameChannels frame) := by
  -- The checksum matches, so the frame is decoded.
  have reply : r.pushByte rx sample =
      (true, r.heard .empty (some ⟨frameChannels frame, rx.reading⟩),
        r.sampleOf ⟨frameChannels frame, rx.reading⟩) := by
    rw [pushByte_eq, completed]
    simp only [sums, ne_eq, not_true_eq_false, if_false]
  rw [reply]
  exact ⟨rfl, rfl⟩

/-- With a frame stored up to its last byte, that byte makes the call return true. -/
theorem pushByte_last {r : Receiver F} {channels : Channels}
    (stored : r.buffer.bytes = (encodeIbusFrame channels).take 31) {rx : RxByte}
    (last : (encodeIbusFrame channels).drop 31 = [rx.byte]) (sample : ReceiverSample) :
    (r.pushByte rx sample).1 = true ∧
      (r.pushByte rx sample).2.2.channels = r.shapeChannels channels := by
  have full := encodeIbusFrame_length channels
  have long : r.buffer.bytes.length = 31 := by
    rw [stored, List.length_take, full]
    rfl
  -- Buffer and byte make up the frame that was sent.
  have whole : r.buffer.bytes ++ [rx.byte] = encodeIbusFrame channels := by
    rw [stored, ← last, List.take_append_drop]
  have completed : pushBuffer r.buffer rx.byte = .inr (encodeIbusFrame channels) := by
    rw [pushBuffer, if_neg (by omega), if_neg (by omega),
      FrameBuffer.push_of_full (by rw [whole, full]), whole]
  have sums : receiverChecksum (encodeIbusFrame channels) =
      frameHalf (encodeIbusFrame channels) 30 := (wellFormedFrame_encodeIbusFrame channels).2.2
  have pushed := pushByte_complete completed sums sample
  rw [frameChannels_encodeIbusFrame] at pushed
  exact pushed

/--
At most one frame is lost, whatever state the receiver starts in.

From the second frame on each call with a frame's last byte returns true, with its shaped channels.
-/
theorem pushBytes_resync (r : Receiver F) (sample : ReceiverSample) {sent : List Channels}
    (plain : ∀ channels ∈ sent, ∀ value ∈ channels.toList, Plain value) {rx : List RxByte}
    (fed : rx.map RxByte.byte = sent.flatMap encodeIbusFrame) {k : Nat} (later : 1 ≤ k)
    {channels : Channels} (turn : sent[k]? = some channels) :
    ∃ reply, (r.pushBytes sample rx).1[32 * k + 31]? = some (true, reply) ∧
      ∀ place < 14, reply.channels.us place = r.shapedChannel channels place := by
  have full := encodeIbusFrame_length channels
  obtain ⟨inside, found⟩ := List.getElem?_eq_some_iff.mp turn
  -- The bytes up to the last one of the frame, that byte, and what follows.
  have frames : sent.flatMap encodeIbusFrame =
      ((sent.take k).flatMap encodeIbusFrame ++ (encodeIbusFrame channels).take 31) ++
        ((encodeIbusFrame channels).drop 31 ++ (sent.drop (k + 1)).flatMap encodeIbusFrame) := by
    have split := List.take_append_drop k sent
    rw [List.drop_eq_getElem_cons inside, found] at split
    conv_lhs => rw [← split]
    rw [List.flatMap_append, List.flatMap_cons, List.append_assoc, ← List.append_assoc
      ((encodeIbusFrame channels).take 31), List.take_append_drop]
  -- It is preceded by thirty-two bytes for each earlier frame and thirty-one of its own.
  have before : ((sent.take k).flatMap encodeIbusFrame ++
      (encodeIbusFrame channels).take 31).length = 32 * k + 31 := by
    rw [List.length_append, flatMap_encodeIbusFrame_length, List.length_take, List.length_take,
      full, Nat.min_eq_left (Nat.le_of_lt inside)]
    rfl
  obtain ⟨last, ends⟩ : ∃ last, (encodeIbusFrame channels).drop 31 = [last] := by
    have one : 31 < (encodeIbusFrame channels).length := by
      rw [full]
      decide
    rw [List.drop_eq_getElem_cons one, List.drop_eq_nil_of_le (by rw [full]; decide)]
    exact ⟨_, rfl⟩
  rw [frames, ends, List.map_eq_append_iff] at fed
  obtain ⟨head, closing, rfl, headBytes, closingBytes⟩ := fed
  obtain ⟨byte, rest, rfl, rfl, -⟩ := List.map_eq_cons_iff.mp closingBytes
  -- When the last byte comes, the earlier frames are gone and this one is stored.
  have stored := (pushBytes_buffer r sample head).1
  have sameShaping := (pushBytes_buffer r sample head).2
  rw [headBytes, List.foldl_append, foldl_bufferAfter_stream
    (fun channels member => plain channels (List.mem_of_mem_take member))
    (by
      intro none
      rw [List.take_eq_nil_iff] at none
      rcases none with zero | empty
      · omega
      · rw [empty] at inside
        cases inside)] at stored
  have bytes := foldl_bufferAfter_frame channels
  rw [← stored] at bytes
  obtain ⟨accepted, shaped⟩ := pushByte_last bytes ends (r.pushBytes sample head).2.2
  refine ⟨((r.pushBytes sample head).2.1.pushByte byte (r.pushBytes sample head).2.2).2.2, ?_, ?_⟩
  · -- The reply is the one behind those of the bytes before.
    have place : 32 * k + 31 = (r.pushBytes sample head).1.length := by
      rw [pushBytes_length, ← before, ← headBytes, List.length_map]
    rw [pushBytes_append]
    simp only [pushBytes]
    rw [place, List.getElem?_append_right le_rfl, Nat.sub_self, List.getElem?_cons_zero, accepted]
  · -- The shaping is that of the start, because no byte changes the configuration.
    intro place inside
    rw [shaped, shapeChannels_us _ _ inside]
    unfold shapedChannel
    rw [sameShaping.1, sameShaping.2]

/-- A receiver that joined a stream of neutral frames in the middle. -/
def joinedReceiver : Receiver ℚ :=
  { Receiver.initial 1500 with
    buffer := ⟨(encodeIbusFrame (.replicate 14 1500)).drop 7, by decide +kernel⟩ }

/-- A receiver that joined in the middle of a frame takes the second of two frames. -/
theorem pushBytes_resync_joinedReceiver :
    ∃ reply, (joinedReceiver.pushBytes {} ((List.replicate 2 (.replicate 14 1500)).flatMap
        encodeIbusFrame |>.map fun byte => ⟨byte, 5⟩)).1[32 * 1 + 31]? = some (true, reply) ∧
      ∀ place < 14, reply.channels.us place =
        joinedReceiver.shapedChannel (.replicate 14 1500) place := by
  have plain : ∀ channels ∈ List.replicate 2 (.replicate 14 1500 : Channels),
      ∀ value ∈ channels.toList, Plain value := by
    intro channels sent value member
    rw [List.eq_of_mem_replicate sent, Vector.toList_replicate] at member
    rw [List.eq_of_mem_replicate member]
    decide
  -- The second frame is the one that has to come through.
  have turn : (List.replicate 2 (.replicate 14 1500 : Channels))[1]? =
      some (.replicate 14 1500) :=
    List.getElem?_replicate_of_lt (by decide)
  refine pushBytes_resync joinedReceiver {} plain ?_ le_rfl turn
  rw [List.map_map]
  exact List.map_id _

end Receiver

end AmpFc
