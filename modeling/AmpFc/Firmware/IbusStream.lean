import AmpFc.Common.IbusCodec
import AmpFc.Firmware.Ibus

/-! The firmware's byte parser on whole streams: it accepts the encoder's frames and no others. -/

namespace AmpFc.Firmware

/-- What a call of `ibus_parse_byte` returns, next to the channels it leaves behind. -/
abbrev IbusReply := IbusResult × Channels

/-- Calls of `ibus_parse_byte`, one for each byte, with the parser's statics at the end. -/
def ibusParseBytes (buffer : FrameBuffer) (ch : Channels) :
    List UInt8 → List IbusReply × FrameBuffer × Channels
  | [] => ([], buffer, ch)
  | b :: rest =>
    match ibusParseByte buffer b ch with
    | (result, buffer, ch) =>
      let tail := ibusParseBytes buffer ch rest
      ((result, ch) :: tail.1, tail.2)

/-- The channels of the frames that a sequence of calls accepted. -/
def acceptedChannels (replies : List IbusReply) : List Channels :=
  replies.filterMap fun reply => if reply.1 = .accepted then some reply.2 else none

/-- Feeding two strings one after the other. -/
theorem ibusParseBytes_append (buffer : FrameBuffer) (ch : Channels) (first second : List UInt8) :
    ibusParseBytes buffer ch (first ++ second) =
      let head := ibusParseBytes buffer ch first
      let tail := ibusParseBytes head.2.1 head.2.2 second
      (head.1 ++ tail.1, tail.2) := by
  -- The induction is on the first string, over any state of the parser.
  induction first generalizing buffer ch with
  | nil => rfl
  | cons b rest ih => simp only [List.cons_append, ibusParseBytes, ih]

/-- Up to its thirty-first byte a frame is only collected. -/
theorem ibusParseBytes_collect (ch : Channels) (bytes : List UInt8) : ∀ buffer : FrameBuffer,
    (buffer.bytes = [] → bytes.getD 0 0x20 = 0x20) →
    (short : (buffer.bytes ++ bytes).length < ibusFrameSize) →
      ibusParseBytes buffer ch bytes =
        (.replicate bytes.length (.pending, ch), ⟨buffer.bytes ++ bytes, short⟩, ch) := by
  -- The induction is on the bytes, and the buffer takes over one after the other.
  induction bytes with
  | nil =>
    intro buffer started short
    simp [ibusParseBytes]
  | cons b rest ih =>
    intro buffer started short
    have room : (buffer.bytes ++ [b]).length < ibusFrameSize := by
      simp only [List.length_append, List.length_cons, List.length_nil] at short ⊢
      omega
    -- The hunt for the length byte only drops bytes while the buffer is empty.
    have goesOn : ¬ (buffer.bytes.length = 0 ∧ b ≠ 0x20) := by
      rintro ⟨empty, other⟩
      exact other (started (List.eq_nil_of_length_eq_zero empty))
    have parsed : ibusParseByte buffer b ch = (.pending, ⟨buffer.bytes ++ [b], room⟩, ch) := by
      rw [ibusParseByte, if_neg goesOn, FrameBuffer.push_of_room room]
    have later := ih ⟨buffer.bytes ++ [b], room⟩ (by simp) (by simpa using short)
    simp only [ibusParseBytes, parsed, later, List.length_cons, List.replicate_succ]
    simp

/-- The thirty-second byte decides, and leaves the parser between frames. -/
theorem ibusParseByte_last {buffer : FrameBuffer} {b : UInt8} (ch : Channels)
    (full : (buffer.bytes ++ [b]).length = ibusFrameSize) :
    ibusParseByte buffer b ch =
      if encodeIbusFrame (frameChannels (buffer.bytes ++ [b])) = buffer.bytes ++ [b] then
        (.accepted, .empty, frameChannels (buffer.bytes ++ [b]))
      else (.rejected, .empty, ch) := by
  have long : buffer.bytes.length = 31 := by
    simp only [List.length_append, List.length_cons, List.length_nil, ibusFrameSize] at full
    omega
  have goesOn : ¬ (buffer.bytes.length = 0 ∧ b ≠ 0x20) := by
    rintro ⟨empty, -⟩
    omega
  -- Subtracting the bytes one by one is subtracting their sum.
  have checksum : ibusChecksum (buffer.bytes ++ [b]) = 0xFFFF -
      ((buffer.bytes ++ [b]).take 30).foldl (fun sum byte => sum + byte.toUInt16) 0 :=
    foldl_sub _ _
  -- The checks of the parser are those of a well-formed frame, one after the other.
  rw [ibusParseByte, if_neg goesOn, FrameBuffer.push_of_full full]
  have judged := wellFormedFrame_iff full
  unfold WellFormedFrame at judged
  rw [← checksum] at judged
  simp only [← judged]
  generalize buffer.bytes ++ [b] = frame
  by_cases first : frame.getD 0 0 = 0x20
  · by_cases second : frame.getD 1 0 = ibusCmd
    · by_cases sums : ibusChecksum frame = frameHalf frame 30
      · simp only [first, second, sums, ne_eq, not_true_eq_false, or_self, if_false, and_self,
          if_true]
      · simp only [first, second, sums, ne_eq, not_true_eq_false, or_self, if_false, and_false,
          not_false_eq_true, if_true]
    · simp only [second, ne_eq, not_false_eq_true, or_true, if_true, false_and, and_false, if_false]
  · simp only [first, ne_eq, not_false_eq_true, true_or, if_true, false_and, if_false]

/-- Thirty-two bytes, fed from between two frames: thirty-one silent calls, and a verdict. -/
theorem ibusParseBytes_block (ch : Channels) {block : List UInt8}
    (full : block.length = ibusFrameSize) (started : block.getD 0 0 = 0x20) :
    ibusParseBytes .empty ch block =
      if encodeIbusFrame (frameChannels block) = block then
        (.replicate 31 (.pending, ch) ++ [(.accepted, frameChannels block)], .empty,
          frameChannels block)
      else (.replicate 31 (.pending, ch) ++ [(.rejected, ch)], .empty, ch) := by
  obtain ⟨init, b, rfl⟩ : ∃ init b, block = init ++ [b] := by
    rcases List.eq_nil_or_concat block with empty | ⟨init, b, split⟩
    · rw [empty] at full
      cases full
    · exact ⟨init, b, by rw [split, List.concat_eq_append]⟩
  have long : init.length = 31 := by
    simp only [List.length_append, List.length_cons, List.length_nil, ibusFrameSize] at full
    omega
  -- The first thirty-one bytes are collected, and the last one is judged with them.
  have collected := ibusParseBytes_collect ch init .empty
    (fun _ => by
      rw [← started]
      simp [List.getD_eq_getElem?_getD, long])
    (by simp only [FrameBuffer.empty, List.nil_append, long, ibusFrameSize]; omega)
  rw [ibusParseBytes_append, collected]
  simp only [ibusParseBytes, FrameBuffer.empty, List.nil_append, long]
  rw [ibusParseByte_last ch full]
  split
  · rfl
  · rfl

/-- An encoded frame is accepted with its channels, whatever was received before. -/
theorem ibusParseBytes_encodeIbusFrame (ch c : Channels) :
    ibusParseBytes .empty ch (encodeIbusFrame c) =
      (.replicate 31 (.pending, ch) ++ [(.accepted, c)], .empty, c) := by
  rw [ibusParseBytes_block ch (encodeIbusFrame_length c) rfl, frameChannels_encodeIbusFrame,
    if_pos rfl]

/-- Only the last reply to a frame counts. -/
theorem acceptedChannels_frame (ch c : Channels) (rest : List IbusReply) :
    acceptedChannels (.replicate 31 (.pending, ch) ++ [(.accepted, c)] ++ rest) =
      c :: acceptedChannels rest := by
  simp [acceptedChannels]

/--
The parser accepts exactly the encoder's image.

Fed from between two frames with thirty-two bytes that start with the length byte, it judges them
at the last byte. Streams of encoded frames come out as the channels they were made of.
-/
theorem ibusParseBytes_exact :
    (∀ (ch : Channels) (block : List UInt8), block.length = ibusFrameSize →
      block.getD 0 0 = 0x20 → ∃ last ch',
        ibusParseBytes .empty ch block =
          (.replicate 31 (.pending, ch) ++ [(last, ch')], .empty, ch') ∧
        (∀ c, block = encodeIbusFrame c ↔ last = .accepted ∧ ch' = c) ∧
        (last = .accepted ∧ encodeIbusFrame ch' = block ∨ last = .rejected ∧ ch' = ch)) ∧
      (∀ (ch : Channels) (sent : List Channels),
        acceptedChannels (ibusParseBytes .empty ch (sent.flatMap encodeIbusFrame)).1 = sent) := by
  constructor
  · intro ch block full started
    rw [ibusParseBytes_block ch full started]
    by_cases made : encodeIbusFrame (frameChannels block) = block
    · refine ⟨.accepted, frameChannels block, by rw [if_pos made], fun c => ?_, .inl ⟨rfl, made⟩⟩
      constructor
      · rintro rfl
        exact ⟨rfl, frameChannels_encodeIbusFrame c⟩
      · rintro ⟨-, rfl⟩
        exact made.symm
    · -- An encoded block would be its own channels encoded again.
      refine ⟨.rejected, ch, by rw [if_neg made], fun c => ?_, .inr ⟨rfl, rfl⟩⟩
      constructor
      · rintro rfl
        exact absurd (congrArg encodeIbusFrame (frameChannels_encodeIbusFrame c)) made
      · rintro ⟨impossible, -⟩
        cases impossible
  · intro ch sent
    -- The induction is on the frames, each of which leaves the parser between frames again.
    induction sent generalizing ch with
    | nil => rfl
    | cons c rest ih =>
      rw [List.flatMap_cons, ibusParseBytes_append, ibusParseBytes_encodeIbusFrame]
      simp only
      rw [acceptedChannels_frame, ih]

/-- A frame of centred channels is accepted with its last byte, and not before. -/
theorem ibusParseBytes_exact_neutral :
    ∃ last ch', ibusParseBytes .empty (.replicate 14 0) (encodeIbusFrame (.replicate 14 1500)) =
        (.replicate 31 (.pending, .replicate 14 0) ++ [(last, ch')], .empty, ch') ∧
      last = .accepted ∧ ch' = .replicate 14 1500 := by
  obtain ⟨last, ch', parsed, judged, -⟩ := ibusParseBytes_exact.1 (.replicate 14 0)
    (encodeIbusFrame (.replicate 14 1500)) (encodeIbusFrame_length _) rfl
  exact ⟨last, ch', parsed, (judged _).mp rfl⟩

end AmpFc.Firmware
