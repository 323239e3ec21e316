import AmpFc.Firmware.IbusStream
import Mathlib.Data.List.DropRight

/-! How the firmware's parser gets into step with a stream of frames it joined in the middle. -/

namespace AmpFc.Firmware

/-- What is left of a string from its first length byte on. -/
def fromLengthByte (bytes : List UInt8) : List UInt8 :=
  bytes.dropWhile (· ≠ 0x20)

/-- Nothing is left exactly if the string holds no length byte. -/
theorem fromLengthByte_eq_nil {bytes : List UInt8} : fromLengthByte bytes = [] ↔ 0x20 ∉ bytes := by
  unfold fromLengthByte
  rw [List.dropWhile_eq_nil_iff]
  constructor
  · intro others found
    simpa using others _ found
  · intro absent byte member
    rw [decide_eq_true_iff]
    rintro rfl
    exact absent member

/-- Every call has its reply. -/
@[simp] theorem ibusParseBytes_length (buffer : FrameBuffer) (ch : Channels)
    (bytes : List UInt8) : (ibusParseBytes buffer ch bytes).1.length = bytes.length := by
  induction bytes generalizing buffer ch with
  | nil => rfl
  | cons b rest ih => simp only [ibusParseBytes, List.length_cons, ih]

/-- From between two frames, fewer bytes than a frame are collected from a length byte on. -/
theorem ibusParseBytes_hunt (ch : Channels) (bytes : List UInt8)
    (few : bytes.length < ibusFrameSize) :
    ∃ buffer : FrameBuffer, buffer.bytes = fromLengthByte bytes ∧
      ibusParseBytes .empty ch bytes = (.replicate bytes.length (.pending, ch), buffer, ch) := by
  -- The induction is on the bytes, and ends at the first length byte.
  induction bytes with
  | nil => exact ⟨.empty, rfl, rfl⟩
  | cons b rest ih =>
    by_cases length : b = 0x20
    · -- From the length byte on everything is collected, as it does not fill a frame.
      subst length
      have collected := ibusParseBytes_collect ch (0x20 :: rest) .empty (fun _ => rfl)
        (by simpa [FrameBuffer.empty] using few)
      exact ⟨_, by simp [FrameBuffer.empty, fromLengthByte], collected⟩
    · -- Any other byte is skipped, and the search goes on behind it.
      obtain ⟨buffer, held, hunted⟩ := ih (by
        simp only [List.length_cons] at few
        omega)
      have skipped : ibusParseByte .empty b ch = (.pending, .empty, ch) := by
        rw [ibusParseByte, if_pos ⟨rfl, length⟩]
      refine ⟨buffer, by simp [fromLengthByte, length, held], ?_⟩
      simp only [ibusParseBytes, skipped, hunted, List.length_cons, List.replicate_succ]

/--
A frame fed while another is being collected.

The frame underway is judged in the middle of the new one, and behind that place the search for a
length byte begins again.
-/
theorem ibusParseBytes_astride (buffer : FrameBuffer) (ch : Channels) {frame : List UInt8}
    (full : frame.length = ibusFrameSize) (underway : buffer.bytes ≠ []) :
    ∃ verdict ch' after,
      after.bytes = fromLengthByte (frame.drop (ibusFrameSize - buffer.bytes.length)) ∧
      ibusParseBytes buffer ch frame =
        (.replicate (ibusFrameSize - 1 - buffer.bytes.length) (.pending, ch) ++
          (verdict, ch') :: .replicate buffer.bytes.length (.pending, ch'), after, ch') := by
  have short := buffer.short
  have started : 0 < buffer.bytes.length := List.length_pos_of_ne_nil underway
  obtain ⟨head, b, split, long⟩ := split_at_completion full started short
  have rest : (frame.drop (ibusFrameSize - buffer.bytes.length)).length = buffer.bytes.length := by
    rw [List.length_drop, full]
    omega
  -- First the frame underway is filled up to its last byte.
  have room : (buffer.bytes ++ head).length < ibusFrameSize := by
    rw [List.length_append, long]
    omega
  have collected := ibusParseBytes_collect ch head buffer (fun empty => absurd empty underway) room
  -- Then that byte decides, and in either case the parser is between frames.
  have complete : ((buffer.bytes ++ head) ++ [b]).length = ibusFrameSize := by
    simp only [List.length_append, List.length_cons, List.length_nil, long]
    omega
  obtain ⟨verdict, ch', judged⟩ : ∃ verdict ch',
      ibusParseByte ⟨buffer.bytes ++ head, room⟩ b ch = (verdict, .empty, ch') := by
    rw [ibusParseByte_last ch complete]
    split
    · exact ⟨_, _, rfl⟩
    · exact ⟨_, _, rfl⟩
  obtain ⟨after, held, hunted⟩ := ibusParseBytes_hunt ch'
    (frame.drop (ibusFrameSize - buffer.bytes.length)) (by rw [rest]; exact short)
  refine ⟨verdict, ch', after, held, ?_⟩
  conv_lhs => rw [split]
  rw [ibusParseBytes_append, collected]
  simp only [ibusParseBytes, judged, hunted, rest, long]

/-- A call, counted from zero, accepted a frame and left its channels behind. -/
def IsAcceptedAt (replies : List IbusReply) (call : Nat) (c : Channels) : Prop :=
  replies[call]? = some (.accepted, c)

/-- A frame is accepted at its own last byte exactly if it began between two frames. -/
theorem isAcceptedAt_last_iff (buffer : FrameBuffer) (ch c : Channels) (rest : List IbusReply) :
    IsAcceptedAt ((ibusParseBytes buffer ch (encodeIbusFrame c)).1 ++ rest) 31 c ↔
      buffer.bytes = [] := by
  by_cases underway : buffer.bytes = []
  · -- In step, the last reply is the acceptance.
    rw [FrameBuffer.eq_empty underway, ibusParseBytes_encodeIbusFrame]
    simp [IsAcceptedAt, FrameBuffer.empty]
  · obtain ⟨verdict, ch', after, -, parsed⟩ :=
      ibusParseBytes_astride buffer ch (encodeIbusFrame_length c) underway
    have started : 0 < buffer.bytes.length := List.length_pos_of_ne_nil underway
    have short := buffer.short
    -- The last reply is one of those given behind the verdict.
    have place : 31 = (List.replicate (ibusFrameSize - 1 - buffer.bytes.length)
        ((.pending, ch) : IbusReply)).length + 1 + (buffer.bytes.length - 1) := by
      simp only [List.length_replicate, ibusFrameSize] at short ⊢
      omega
    have pending : ((ibusParseBytes buffer ch (encodeIbusFrame c)).1 ++ rest)[31]? =
        some (.pending, ch') := by
      rw [parsed, List.append_assoc]
      nth_rewrite 1 [place]
      rw [Nat.add_assoc, List.getElem?_append_right (by omega), Nat.add_sub_cancel_left,
        Nat.add_comm 1, List.cons_append, List.getElem?_cons_succ,
        List.getElem?_append_left (by rw [List.length_replicate]; omega)]
      simp [started]
    simp [IsAcceptedAt, pending, underway]

/-- A frame fed from between two frames leaves the parser there. -/
theorem ibusParseBytes_idle {buffer : FrameBuffer} (ch c : Channels) (idle : buffer.bytes = []) :
    (ibusParseBytes buffer ch (encodeIbusFrame c)).2.1.bytes = [] := by
  rw [FrameBuffer.eq_empty idle, ibusParseBytes_encodeIbusFrame]
  rfl

/-- Where the search for a length byte that begins at some offset of a frame ends. -/
def lockOffset (frame : List UInt8) (start : Nat) : Nat :=
  ibusFrameSize - (fromLengthByte (frame.drop start)).length

/-- What the parser holds after a frame is the part of it from the offset it locked on. -/
theorem ibusParseBytes_locked {buffer : FrameBuffer} (ch c : Channels)
    (underway : buffer.bytes ≠ []) :
    (ibusParseBytes buffer ch (encodeIbusFrame c)).2.1.bytes =
      fromLengthByte ((encodeIbusFrame c).drop (ibusFrameSize - buffer.bytes.length)) := by
  obtain ⟨verdict, ch', after, held, parsed⟩ :=
    ibusParseBytes_astride buffer ch (encodeIbusFrame_length c) underway
  rw [parsed]
  exact held

/--
The parser starts between two frames, or finds its way there.

It is in step after two frames if the second holds no length byte from the offset on where the
search in the first one ended.
-/
def FallsIntoStep (buffer : FrameBuffer) (first second : Channels) : Prop :=
  buffer.bytes = [] ∨ 0x20 ∉ (encodeIbusFrame second).drop
    (lockOffset (encodeIbusFrame first) (ibusFrameSize - buffer.bytes.length))

/-- The bytes in question can be looked through. -/
instance (buffer : FrameBuffer) (first second : Channels) :
    Decidable (FallsIntoStep buffer first second) :=
  inferInstanceAs (Decidable (_ ∨ _))

/-- After two frames the parser is between frames exactly if it falls into step. -/
theorem ibusParseBytes_second (buffer : FrameBuffer) (ch first second : Channels) :
    (ibusParseBytes (ibusParseBytes buffer ch (encodeIbusFrame first)).2.1
        (ibusParseBytes buffer ch (encodeIbusFrame first)).2.2 (encodeIbusFrame second)).2.1.bytes =
      [] ↔ FallsIntoStep buffer first second := by
  unfold FallsIntoStep
  by_cases idle : buffer.bytes = []
  · -- Once between frames, the parser is there after every frame.
    simp only [idle, true_or, iff_true]
    exact ibusParseBytes_idle _ _ (ibusParseBytes_idle ch first idle)
  · have locked := ibusParseBytes_locked ch first idle
    simp only [idle, false_or]
    by_cases found : fromLengthByte
        ((encodeIbusFrame first).drop (ibusFrameSize - buffer.bytes.length)) = []
    · -- Without a length byte behind the first completion the second frame starts in step.
      rw [found] at locked
      rw [lockOffset, found]
      simp only [ibusParseBytes_idle _ _ locked, List.length_nil, Nat.sub_zero, true_iff]
      rw [List.drop_eq_nil_of_le (encodeIbusFrame_length second).le]
      exact List.not_mem_nil
    · -- Otherwise the second frame is searched from where the first one left off.
      rw [ibusParseBytes_locked _ _ (by rw [locked]; exact found), locked, fromLengthByte_eq_nil]
      rfl

/-- One of three frames fed in a row is accepted, at its own last byte and with its channels. -/
def AcceptsOneOfThree (buffer : FrameBuffer) (ch first second third : Channels) : Prop :=
  let replies := (ibusParseBytes buffer ch
    (encodeIbusFrame first ++ encodeIbusFrame second ++ encodeIbusFrame third)).1
  IsAcceptedAt replies 31 first ∨ IsAcceptedAt replies 63 second ∨ IsAcceptedAt replies 95 third

/-- Behind the replies to a frame, calls are counted anew. -/
theorem isAcceptedAt_behind {head tail : List IbusReply} {call : Nat} {c : Channels}
    (long : head.length = 32) : IsAcceptedAt (head ++ tail) (32 + call) c ↔
      IsAcceptedAt tail call c := by
  unfold IsAcceptedAt
  rw [List.getElem?_append_right (by omega), long, Nat.add_sub_cancel_left]

/-- One of three frames is accepted exactly if the parser falls into step by the third. -/
theorem acceptsOneOfThree_iff (buffer : FrameBuffer) (ch first second third : Channels) :
    AcceptsOneOfThree buffer ch first second third ↔ FallsIntoStep buffer first second := by
  have step := ibusParseBytes_second buffer ch first second
  unfold AcceptsOneOfThree
  simp only [ibusParseBytes_append, List.append_assoc]
  -- Every frame takes thirty-two replies, whatever the parser holds.
  have long : ∀ (buffer : FrameBuffer) (ch c : Channels),
      (ibusParseBytes buffer ch (encodeIbusFrame c)).1.length = 32 := by
    intro buffer ch c
    rw [ibusParseBytes_length]
    exact encodeIbusFrame_length c
  -- Each frame is accepted exactly if the parser is between frames when it begins.
  rw [isAcceptedAt_last_iff, show (63 : Nat) = 32 + 31 by rfl, isAcceptedAt_behind (long _ _ _),
    isAcceptedAt_last_iff, show (95 : Nat) = 32 + (32 + 31) by rfl,
    isAcceptedAt_behind (long _ _ _), isAcceptedAt_behind (long _ _ _),
    ← List.append_nil (ibusParseBytes _ _ (encodeIbusFrame third)).1, isAcceptedAt_last_iff, step]
  -- Once it is, it stays so, and the third frame is the last chance.
  constructor
  · intro accepted
    -- An earlier acceptance keeps the parser in step, so it would be in step for the third too.
    rcases accepted with atFirst | atSecond | atThird
    · exact .inl atFirst
    · exact step.mp (ibusParseBytes_idle _ _ atSecond)
    · exact atThird
  · intro falls
    exact .inr (.inr falls)

/-- What begins with its first length byte is left alone by the search for one. -/
theorem fromLengthByte_idempotent (bytes : List UInt8) :
    fromLengthByte (fromLengthByte bytes) = fromLengthByte bytes :=
  List.dropWhile_idempotent _ bytes

/-- The search that locked on an offset locks on it again when it begins there. -/
theorem lockOffset_self {frame : List UInt8} (full : frame.length = ibusFrameSize) (start : Nat) :
    lockOffset frame (lockOffset frame start) = lockOffset frame start := by
  -- What the search leaves is a suffix of the frame.
  have tail : fromLengthByte (frame.drop start) <:+ frame :=
    (List.dropWhile_suffix _).trans (List.drop_suffix start frame)
  -- Behind the offset lies exactly what the search has left.
  have behind : frame.drop (lockOffset frame start) = fromLengthByte (frame.drop start) := by
    rw [lockOffset, ← full]
    exact (List.suffix_iff_eq_drop.mp tail).symm
  rw [lockOffset, behind, fromLengthByte_idempotent]
  rfl

/-- Out of step with a frame, the parser is still out of step with it when it is repeated. -/
theorem not_fallsIntoStep_repeat {buffer : FrameBuffer} (ch : Channels) {c : Channels}
    (out : ¬ FallsIntoStep buffer c c) :
    ¬ FallsIntoStep (ibusParseBytes buffer ch (encodeIbusFrame c)).2.1 c c := by
  unfold FallsIntoStep at out ⊢
  rw [not_or, not_not] at out ⊢
  obtain ⟨underway, found⟩ := out
  have locked := ibusParseBytes_locked ch c underway
  have same := lockOffset_self (encodeIbusFrame_length c) (ibusFrameSize - buffer.bytes.length)
  constructor
  · intro idle
    -- An empty buffer would mean that the search ran to the end of the frame.
    rw [locked] at idle
    rw [lockOffset, idle, List.length_nil, Nat.sub_zero,
      List.drop_eq_nil_of_le (encodeIbusFrame_length c).le] at found
    cases found
  · -- The next search begins at the offset where this one ended.
    have offset : ibusFrameSize -
        (ibusParseBytes buffer ch (encodeIbusFrame c)).2.1.bytes.length =
        lockOffset (encodeIbusFrame c) (ibusFrameSize - buffer.bytes.length) := by
      rw [locked]
      rfl
    rw [offset, same]
    exact found

/-- A frame that repeats unchanged is then never accepted, however often it comes. -/
theorem not_isAcceptedAt_repeat {buffer : FrameBuffer} {c : Channels}
    (out : ¬ FallsIntoStep buffer c c) (ch : Channels) (turns : Nat) :
    ∀ k < turns, ¬ IsAcceptedAt
      (ibusParseBytes buffer ch ((List.replicate turns c).flatMap encodeIbusFrame)).1
      (32 * k + 31) c := by
  -- The induction is on the repetitions, over any parser that is out of step.
  induction turns generalizing buffer ch with
  | zero =>
    intro k below
    cases below
  | succ turns ih =>
    intro k below
    rw [List.replicate_succ, List.flatMap_cons, ibusParseBytes_append]
    cases k with
    -- The first repetition is not accepted, because the parser is out of step when it begins.
    | zero =>
      rw [Nat.mul_zero, Nat.zero_add, isAcceptedAt_last_iff]
      intro idle
      exact out (.inl idle)
    | succ k =>
      rw [show 32 * (k + 1) + 31 = 32 + (32 * k + 31) by omega, isAcceptedAt_behind
        (by rw [ibusParseBytes_length, encodeIbusFrame_length]; rfl)]
      -- Behind it the parser is still out of step, as at the start.
      exact ih (not_fallsIntoStep_repeat ch out) _ k (Nat.lt_of_succ_lt_succ below)

/-- A frame whose last channel has a length byte for its low byte. -/
def lockingFrame : Channels :=
  (Vector.replicate 14 1500).setIfInBounds 13 0x0520

/-- A parser that started reading at that byte. -/
def joinedLate : FrameBuffer :=
  ⟨(encodeIbusFrame lockingFrame).drop 28, by decide +kernel⟩

/-- Repeated unchanged, the frame is never accepted. -/
theorem not_acceptsOneOfThree_lockingFrame :
    ¬ ∀ (buffer : FrameBuffer) (ch first second third : Channels),
      (∀ value ∈ first, value < 0x2000) → (∀ value ∈ second, value < 0x2000) →
      (∀ value ∈ third, value < 0x2000) → AcceptsOneOfThree buffer ch first second third := by
  intro always
  have small : ∀ value ∈ lockingFrame, value < 0x2000 := by
    have checked : lockingFrame.toList.all (· < 0x2000) = true := by decide +kernel
    intro value member
    exact of_decide_eq_true (List.all_eq_true.mp checked value (Vector.mem_toList_iff.mpr member))
  -- All its values are small, so one of three copies would be accepted.
  have accepted := always joinedLate lockingFrame lockingFrame lockingFrame lockingFrame small
    small small
  have out : ¬ FallsIntoStep joinedLate lockingFrame lockingFrame := by decide +kernel
  have never := not_isAcceptedAt_repeat out lockingFrame 3
  have thrice : (List.replicate 3 lockingFrame).flatMap encodeIbusFrame =
      encodeIbusFrame lockingFrame ++ encodeIbusFrame lockingFrame ++
        encodeIbusFrame lockingFrame := by
    simp [List.replicate]
  rw [thrice] at never
  -- The three frames end with the calls 31, 63 and 95.
  rcases accepted with atFirst | atSecond | atThird
  · exact never 0 (by decide) atFirst
  · exact never 1 (by decide) atSecond
  · exact never 2 (by decide) atThird

end AmpFc.Firmware
