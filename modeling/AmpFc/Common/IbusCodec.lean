import AmpFc.Common.Ibus
import Mathlib.Tactic

/-! The iBUS layout both ways: channels as byte pairs, the checksum, and encoded frames. -/

namespace AmpFc

/-- The half word of a low and a high byte. -/
def joinBytes (low high : UInt8) : UInt16 :=
  low.toUInt16 ||| (high.toUInt16 <<< 8)

/-- A half word of a frame joins its two bytes. -/
theorem frameHalf_eq (frame : List UInt8) (position : Nat) :
    frameHalf frame position = joinBytes (frame.getD position 0) (frame.getD (position + 1) 0) :=
  rfl

/-- The two bytes occupy disjoint bits. -/
theorem joinBytes_toNat (low high : UInt8) :
    (joinBytes low high).toNat = high.toNat * 256 + low.toNat := by
  have small : low.toNat < 2 ^ 8 := low.toNat_lt
  have tall : high.toNat < 2 ^ 8 := high.toNat_lt
  -- The high byte leaves the low eight bits free, so the `or` is a sum.
  have fits : high.toNat <<< 8 < 2 ^ 16 := by
    rw [Nat.shiftLeft_eq]
    omega
  have shifted : (high.toUInt16 <<< 8).toNat = high.toNat <<< 8 := by
    rw [UInt16.toNat_shiftLeft, UInt8.toNat_toUInt16]
    exact Nat.mod_eq_of_lt fits
  rw [joinBytes, UInt16.toNat_or, shifted, UInt8.toNat_toUInt16, Nat.or_comm,
    ← Nat.shiftLeft_add_eq_or_of_lt small, Nat.shiftLeft_eq]

/-- Splitting a half word and joining its bytes gives it back. -/
theorem joinBytes_halves (value : UInt16) :
    joinBytes value.toUInt8 (value >>> 8).toUInt8 = value := by
  have bound : value.toNat < 2 ^ 16 := value.toNat_lt
  apply UInt16.toNat_inj.mp
  rw [joinBytes_toNat, UInt16.toNat_toUInt8, UInt16.toNat_toUInt8, UInt16.toNat_shiftRight]
  have shift : (8 : UInt16).toNat % 16 = 8 := by decide
  -- The low half is the remainder by 256, and the high half the quotient.
  rw [shift, Nat.shiftRight_eq_div_pow]
  omega

/-- Joining two bytes and splitting the half word gives them back. -/
theorem halfBytes_joinBytes (low high : UInt8) : halfBytes (joinBytes low high) = [low, high] := by
  have small : low.toNat < 2 ^ 8 := low.toNat_lt
  have tall : high.toNat < 2 ^ 8 := high.toNat_lt
  have first : (joinBytes low high).toUInt8 = low := by
    apply UInt8.toNat_inj.mp
    rw [UInt16.toNat_toUInt8, joinBytes_toNat]
    omega
  -- The shift drops the low byte.
  have second : (joinBytes low high >>> 8).toUInt8 = high := by
    apply UInt8.toNat_inj.mp
    have shift : (8 : UInt16).toNat % 16 = 8 := by decide
    rw [UInt16.toNat_toUInt8, UInt16.toNat_shiftRight, joinBytes_toNat, shift,
      Nat.shiftRight_eq_div_pow]
    omega
  rw [halfBytes, first, second]

/-- The half words of a byte string, two bytes each. -/
def joinPairs : List UInt8 → List UInt16
  -- A single byte at the end does not make a half word.
  | low :: high :: rest => joinBytes low high :: joinPairs rest
  | _ => []

/-- Half words read back from the bytes they were written as. -/
theorem joinPairs_flatMap (values : List UInt16) :
    joinPairs (values.flatMap halfBytes) = values := by
  -- The induction is on the values, each of which takes two bytes.
  induction values with
  | nil => rfl
  | cons value rest ih =>
    rw [List.flatMap_cons, halfBytes, List.cons_append, List.cons_append, List.nil_append,
      joinPairs, joinBytes_halves, ih]

/-- An even number of bytes is written again as it was read. -/
theorem flatMap_joinPairs (bytes : List UInt8) (even : bytes.length % 2 = 0) :
    (joinPairs bytes).flatMap halfBytes = bytes := by
  -- The induction takes two bytes at a time.
  fun_induction joinPairs bytes with
  | case1 low high rest ih =>
    have shorter : rest.length % 2 = 0 := by
      simp only [List.length_cons] at even
      omega
    rw [List.flatMap_cons, halfBytes_joinBytes, ih shorter]
    rfl
  | case2 bytes short =>
    -- What is left is empty, or a single byte, which is not even.
    rcases bytes with _ | ⟨byte, _ | ⟨next, rest⟩⟩
    · rfl
    · cases even
    · exact absurd rfl (short byte next rest)

/-- Two bytes make one value. -/
theorem joinPairs_length (bytes : List UInt8) : (joinPairs bytes).length = bytes.length / 2 := by
  fun_induction joinPairs bytes with
  | case1 low high rest ih =>
    simp only [List.length_cons, ih]
    omega
  | case2 bytes short =>
    -- The recursion ends with no byte or with a single one.
    rcases bytes with _ | ⟨byte, _ | ⟨next, rest⟩⟩
    · rfl
    · simp
    · exact absurd rfl (short byte next rest)

/-- Each half word is joined from the two bytes at twice its place. -/
theorem joinPairs_getD (bytes : List UInt8) :
    ∀ place, 2 * place + 1 < bytes.length →
      (joinPairs bytes).getD place 0 =
        joinBytes (bytes.getD (2 * place) 0) (bytes.getD (2 * place + 1) 0) := by
  -- The induction takes two bytes at a time, and the place moves by one.
  fun_induction joinPairs bytes with
  | case1 low high rest ih =>
    intro place inside
    cases place with
    | zero => rfl
    | succ place =>
      have inside' : 2 * place + 1 < rest.length := by
        simp only [List.length_cons] at inside
        omega
      have first : 2 * (place + 1) = 2 * place + 1 + 1 := by omega
      rw [first]
      simp only [List.getD_cons_succ]
      exact ih place inside'
  | case2 bytes short =>
    intro place inside
    rcases bytes with _ | ⟨byte, _ | ⟨next, rest⟩⟩
    · simp only [List.length_nil] at inside
      omega
    · simp only [List.length_cons, List.length_nil] at inside
      omega
    · exact absurd rfl (short byte next rest)

/-- The channels of a frame are the half words between its header and its checksum. -/
theorem frameChannels_toList {frame : List UInt8} (full : frame.length = ibusFrameSize) :
    (frameChannels frame).toList = joinPairs ((frame.drop 2).take 28) := by
  have inner : ((frame.drop 2).take 28).length = 28 := by
    rw [List.length_take, List.length_drop, full]
    rfl
  apply List.ext_getElem
  · rw [Vector.length_toList, joinPairs_length, inner]
  · intro place inside inside'
    have bound : place < 14 := by
      rw [Vector.length_toList] at inside
      exact inside
    have joined := joinPairs_getD ((frame.drop 2).take 28) place (by omega)
    -- Dropping the header moves every position by two.
    have moved : ∀ position < 28, ((frame.drop 2).take 28).getD position 0 =
        frame.getD (2 + position) 0 := by
      intro position below
      simp [List.getD_eq_getElem?_getD, below]
    rw [moved _ (by omega), moved _ (by omega)] at joined
    have right := (List.getElem_eq_getD (h := inside') 0).trans joined
    rw [right]
    simp only [frameChannels, Vector.toList_ofFn, List.getElem_ofFn, frameHalf_eq]
    rw [Nat.mul_comm place 2]
    rfl

/-- Adding up bytes from a start is adding the start to their sum. -/
theorem foldl_add (bytes : List UInt8) (start : UInt16) :
    bytes.foldl (fun sum byte => sum + byte.toUInt16) start =
      start + bytes.foldl (fun sum byte => sum + byte.toUInt16) 0 := by
  -- The induction is on the bytes, with any start.
  induction bytes generalizing start with
  | nil => exact (UInt16.add_zero start).symm
  | cons byte rest ih =>
    rw [List.foldl_cons, List.foldl_cons, ih, ih (0 + byte.toUInt16), UInt16.zero_add,
      UInt16.add_assoc]

/-- Subtracting bytes one by one is subtracting their sum. -/
theorem foldl_sub (bytes : List UInt8) (start : UInt16) :
    bytes.foldl (fun checksum byte => checksum - byte.toUInt16) start =
      start - bytes.foldl (fun sum byte => sum + byte.toUInt16) 0 := by
  -- The induction is on the bytes, with any start.
  induction bytes generalizing start with
  | nil => exact (UInt16.sub_zero start).symm
  | cons byte rest ih =>
    rw [List.foldl_cons, List.foldl_cons, ih, foldl_add rest (0 + byte.toUInt16), UInt16.zero_add]
    grind

/-- The last two bytes of a string. -/
theorem drop_last_two {bytes : List UInt8} {length : Nat} (long : bytes.length = length + 2) :
    bytes.drop length = [bytes.getD length 0, bytes.getD (length + 1) 0] := by
  have first : length < bytes.length := by omega
  have second : length + 1 < bytes.length := by omega
  rw [List.drop_eq_getElem_cons first, List.drop_eq_getElem_cons second,
    List.drop_eq_nil_of_le (by omega), List.getElem_eq_getD 0, List.getElem_eq_getD 0]

/-- The part of a frame that its checksum covers. -/
def frameBody (channels : Channels) : List UInt8 :=
  [0x20, ibusCmd] ++ channels.toList.flatMap halfBytes

/-- A frame is its body with the checksum over the body behind it. -/
theorem encodeIbusFrame_eq (channels : Channels) :
    encodeIbusFrame channels = frameBody channels ++
      halfBytes (0xFFFF - (frameBody channels).foldl (fun sum byte => sum + byte.toUInt16) 0) := rfl

/-- One value makes two bytes. -/
theorem flatMap_halfBytes_length (values : List UInt16) :
    (values.flatMap halfBytes).length = 2 * values.length := by
  -- The induction is on the values.
  induction values with
  | nil => rfl
  | cons value rest ih =>
    rw [List.flatMap_cons, List.length_append, ih, List.length_cons]
    simp only [halfBytes, List.length_cons, List.length_nil]
    omega

/-- The body of a frame has thirty bytes. -/
theorem frameBody_length (channels : Channels) : (frameBody channels).length = 30 := by
  rw [frameBody, List.length_append, flatMap_halfBytes_length, Vector.length_toList]
  rfl

/-- Every encoded frame has thirty-two bytes. -/
theorem encodeIbusFrame_length (channels : Channels) :
    (encodeIbusFrame channels).length = ibusFrameSize := by
  rw [encodeIbusFrame_eq, List.length_append, frameBody_length]
  rfl

/-- An encoded frame carries its channels. -/
theorem frameChannels_encodeIbusFrame (channels : Channels) :
    frameChannels (encodeIbusFrame channels) = channels := by
  -- Between the header and the checksum lie the channels alone.
  have pairs : ((encodeIbusFrame channels).drop 2).take 28 = channels.toList.flatMap halfBytes := by
    have exact : (channels.toList.flatMap halfBytes).length = 28 := by
      rw [flatMap_halfBytes_length, Vector.length_toList]
    simp [encodeIbusFrame, exact]
  apply Vector.toList_inj.mp
  rw [frameChannels_toList (encodeIbusFrame_length channels), pairs, joinPairs_flatMap]

/-- Different channels have different frames. -/
theorem encodeIbusFrame_injective : Function.Injective encodeIbusFrame :=
  Function.LeftInverse.injective frameChannels_encodeIbusFrame

/-- A buffer that holds nothing is the empty one. -/
theorem FrameBuffer.eq_empty {buffer : FrameBuffer} (idle : buffer.bytes = []) :
    buffer = .empty := by
  cases buffer
  simp only at idle
  subst idle
  rfl

/-- A string cut into what completes a started frame, its last byte, and what follows. -/
theorem split_at_completion {bytes : List UInt8} {held : Nat} (full : bytes.length = ibusFrameSize)
    (started : 0 < held) (short : held < ibusFrameSize) :
    ∃ head b, bytes = head ++ b :: bytes.drop (ibusFrameSize - held) ∧
      head.length = ibusFrameSize - 1 - held := by
  have inside : ibusFrameSize - 1 - held < bytes.length := by
    rw [full]
    omega
  -- The byte that completes the frame stands before those that are still held.
  refine ⟨bytes.take (ibusFrameSize - 1 - held), bytes[ibusFrameSize - 1 - held], ?_, ?_⟩
  · have next : ibusFrameSize - held = ibusFrameSize - 1 - held + 1 := by omega
    rw [next, ← List.drop_eq_getElem_cons inside, List.take_append_drop]
  · rw [List.length_take]
    omega

/-- What a receiver checks of thirty-two bytes: the header, and the checksum over the rest. -/
def WellFormedFrame (frame : List UInt8) : Prop :=
  frame.getD 0 0 = 0x20 ∧ frame.getD 1 0 = ibusCmd ∧
    0xFFFF - (frame.take 30).foldl (fun sum byte => sum + byte.toUInt16) 0 = frameHalf frame 30

/-- Every encoded frame is well formed. -/
theorem wellFormedFrame_encodeIbusFrame (channels : Channels) :
    WellFormedFrame (encodeIbusFrame channels) := by
  have covered : (encodeIbusFrame channels).take 30 = frameBody channels := by
    rw [encodeIbusFrame_eq, List.take_left' (frameBody_length channels)]
  -- The last two bytes are the halves of the checksum.
  have last := drop_last_two (encodeIbusFrame_length channels)
  rw [encodeIbusFrame_eq, List.drop_left' (frameBody_length channels), ← encodeIbusFrame_eq,
    halfBytes] at last
  have low := (List.cons.inj last).1
  have high := (List.cons.inj (List.cons.inj last).2).1
  refine ⟨rfl, rfl, ?_⟩
  rw [covered, frameHalf_eq, ← low, ← high, joinBytes_halves]

/-- Thirty-two bytes are well formed exactly if the encoder makes them of their own channels. -/
theorem wellFormedFrame_iff {frame : List UInt8} (full : frame.length = ibusFrameSize) :
    WellFormedFrame frame ↔ encodeIbusFrame (frameChannels frame) = frame := by
  have head : frame.take 2 = [frame.getD 0 0, frame.getD 1 0] := by
    have two : (frame.take 2).length = 0 + 2 := by
      rw [List.length_take, full]
      rfl
    have pair := drop_last_two two
    simpa [List.getD_eq_getElem?_getD] using pair
  have last : frame.drop 30 = [frame.getD 30 0, frame.getD 31 0] := drop_last_two full
  have inner : ((frame.drop 2).take 28).length = 28 := by
    rw [List.length_take, List.length_drop, full]
    rfl
  -- The body written again from the channels differs from the frame's own in the header at most.
  have body : frameBody (frameChannels frame) = [0x20, ibusCmd] ++ (frame.drop 2).take 28 := by
    rw [frameBody, frameChannels_toList full, flatMap_joinPairs _ (by rw [inner])]
  have split : frame.take 30 = frame.take 2 ++ (frame.drop 2).take 28 := by
    rw [← List.take_add]
  constructor
  · rintro ⟨first, second, checksum⟩
    have same : frameBody (frameChannels frame) = frame.take 30 := by
      rw [body, split, head, first, second]
    rw [encodeIbusFrame_eq, same, checksum, frameHalf_eq, halfBytes_joinBytes, ← last,
      List.take_append_drop]
  · intro encoded
    exact encoded ▸ wellFormedFrame_encodeIbusFrame (frameChannels frame)

end AmpFc
