import AmpFc.Lib.ShiftRegister
import AmpFc.Common.Protocol

/-! The slot checksum as a shift register, and the corruptions it cannot miss. -/

namespace AmpFc

/-- The polynomial of the checksum, as the register feeds it back. -/
def crcPolynomial : BitVec 32 := 0xEDB88320#32

/-- The polynomial reaches the top bit of the register. -/
theorem crcPolynomial_msb : crcPolynomial.msb = true := by
  decide

/-- The masked bit step is one step of the register. -/
theorem crcBit_toBitVec (crc : UInt32) :
    (crcBit crc).toBitVec = shiftStep crcPolynomial crc.toBitVec := by
  have lowBit : (crc &&& 1).toBitVec =
      (BitVec.ofBool (crc.toBitVec.getLsbD 0)).setWidth 32 := by
    rw [UInt32.toBitVec_and]
    exact BitVec.and_one_eq_setWidth_ofBool_getLsbD
  have unfolded : (crcBit crc).toBitVec = (crc.toBitVec >>> 1) ^^^
      (crcPolynomial &&& (0 - (crc &&& 1).toBitVec)) := rfl
  rw [unfolded, lowBit, shiftStep]
  -- The mask is all ones when a one falls out, and zero when a zero does.
  cases crc.toBitVec.getLsbD 0 with
  | false =>
    have mask : crcPolynomial &&& (0 - (BitVec.ofBool false).setWidth 32) = 0#32 := by decide
    rw [mask, BitVec.xor_zero]
    rfl
  | true =>
    have mask : crcPolynomial &&& (0 - (BitVec.ofBool true).setWidth 32) = crcPolynomial := by
      decide
    rw [mask]
    rfl

/-- One byte of the checksum is one symbol read into the register. -/
theorem crcByte_toBitVec (crc : UInt32) (byte : UInt8) :
    (crcByte crc byte).toBitVec = absorb crcPolynomial crc.toBitVec byte.toBitVec := by
  have steps : Function.Semiconj UInt32.toBitVec crcBit (shiftStep crcPolynomial) :=
    crcBit_toBitVec
  exact (steps.iterate_right 8) (crc ^^^ byte.toUInt32)

/-- The loop over the bytes reads them all into the register. -/
theorem foldl_crcByte_toBitVec (data : List UInt8) (crc : UInt32) :
    (data.foldl crcByte crc).toBitVec =
      (data.map UInt8.toBitVec).foldl (absorb crcPolynomial) crc.toBitVec := by
  induction data generalizing crc with
  | nil => rfl
  | cons byte data ih => rw [List.foldl_cons, ih, crcByte_toBitVec, List.map_cons, List.foldl_cons]

/-- Equal checksums come from equal registers, before the final complement. -/
theorem crc32_eq_iff (data other : List UInt8) :
    crc32 data = crc32 other ↔
      (data.map UInt8.toBitVec).foldl (absorb crcPolynomial) 0xFFFFFFFF#32 =
        (other.map UInt8.toBitVec).foldl (absorb crcPolynomial) 0xFFFFFFFF#32 := by
  rw [crc32, crc32, UInt32.not_inj, ← UInt32.toBitVec_inj, foldl_crcByte_toBitVec,
    foldl_crcByte_toBitVec]
  rfl

/-- Two byte strings of one length that agree everywhere outside a window. -/
structure AgreeOutside (data other : List UInt8) (start width : Nat) : Prop where
  length_eq : data.length = other.length
  outside : ∀ place, place < start ∨ start + width ≤ place → data[place]? = other[place]?

section Window

variable {data other : List UInt8} {start width : Nat}

/-- In front of the window the two strings are the same. -/
theorem AgreeOutside.take_eq (agree : AgreeOutside data other start width) :
    data.take start = other.take start := by
  apply List.ext_getElem?
  intro place
  -- Only places before the window remain.
  by_cases before : place < start
  · simpa [List.getElem?_take, before] using agree.outside place (Or.inl before)
  · simp [before]

/-- Behind the window the two strings are the same. -/
theorem AgreeOutside.drop_eq (agree : AgreeOutside data other start width) :
    data.drop (start + width) = other.drop (start + width) := by
  apply List.ext_getElem?
  intro place
  rw [List.getElem?_drop, List.getElem?_drop]
  exact agree.outside _ (Or.inr (by omega))

/-- A string is what lies in front of the window, in it, and behind it. -/
theorem split_at_window (data : List UInt8) (start width : Nat) :
    data = data.take start ++ (data.drop start).take width ++ data.drop (start + width) := by
  rw [List.append_assoc, ← List.drop_drop, List.take_append_drop, List.take_append_drop]

/-- Different strings that agree outside a window of four bytes have different checksums. -/
theorem crc32_ne_of_agreeOutside (narrow : width ≤ 4) (agree : AgreeOutside data other start width)
    (apart : data ≠ other) : crc32 data ≠ crc32 other := by
  intro same
  rw [crc32_eq_iff, split_at_window data start width, split_at_window other start width,
    ← agree.take_eq, ← agree.drop_eq] at same
  simp only [List.map_append] at same
  have long : (data.drop start).length = (other.drop start).length := by
    rw [List.length_drop, List.length_drop, agree.length_eq]
  -- All that differs is the window, no longer than the register.
  refine fold_ne_of_burst crcPolynomial_msb _ _ ?_ ?_ ?_ _ same
  · rw [List.length_map, List.length_map, List.length_take, List.length_take, long]
  · rw [List.length_map, List.length_take]
    omega
  · intro inside
    apply apart
    have window := List.map_injective_iff.mpr (fun _ _ => UInt8.toBitVec_inj.mp) inside
    rw [split_at_window data start width, split_at_window other start width, agree.take_eq,
      agree.drop_eq, window]

end Window

/-- The four bytes of a word determine it. -/
theorem wordBytes_injective : Function.Injective wordBytes := by
  intro word other same
  simp only [wordBytes, List.cons.injEq, and_true] at same
  obtain ⟨first, second, third, fourth⟩ := same
  -- The four bytes are the digits of the word to base 256.
  have places (value : UInt32) : value.toNat = value.toUInt8.toNat +
      256 * (value >>> 8).toUInt8.toNat + 65536 * (value >>> 16).toUInt8.toNat +
      16777216 * (value >>> 24).toUInt8.toNat := by
    have small := value.toNat_lt
    simp only [UInt32.toNat_toUInt8, UInt32.toNat_shiftRight, Nat.shiftRight_eq_div_pow]
    simp
    omega
  apply UInt32.toNat_inj.mp
  rw [places word, places other, first, second, third, fourth]

/-- Four bytes are a window of their own. -/
theorem agreeOutside_of_four {data other : List UInt8} (four : data.length = 4)
    (same : other.length = 4) : AgreeOutside data other 0 4 where
  length_eq := by rw [four, same]
  outside := by
    intro place out
    rw [List.getElem?_eq_none (by omega), List.getElem?_eq_none (by omega)]

/-- Four bytes are determined by their checksum. -/
theorem eq_of_crc32_eq {data other : List UInt8} (four : data.length = 4)
    (also : other.length = 4) (same : crc32 data = crc32 other) : data = other := by
  by_contra apart
  exact crc32_ne_of_agreeOutside (le_refl 4) (agreeOutside_of_four four also) apart same

/-- Every checksum is that of some word. -/
theorem exists_crc32_wordBytes (crc : UInt32) : ∃ word, crc32 (wordBytes word) = crc := by
  have finite : Finite UInt32 :=
    Finite.of_injective UInt32.toFin fun _ _ same => UInt32.toFin_inj.mp same
  have injective : Function.Injective fun word => crc32 (wordBytes word) :=
    fun _ _ same => wordBytes_injective (eq_of_crc32_eq rfl rfl same)
  -- There are as many checksums as words.
  exact Finite.surjective_of_injective injective crc

/-- A slot is accepted exactly when it is numbered and carries the checksum of its payload. -/
theorem verifySlot_iff {α : Type} [Packed α] (slot : SharedSlot α) :
    verifySlot slot = true ↔ slot.seq ≠ 0 ∧ slot.payloadCrc = payloadCrc slot.payload := by
  by_cases zero : slot.seq = 0 <;> simp [verifySlot, zero]

/-- If the payloads are just the words, each checksum is accepted with exactly one of them. -/
theorem existsUnique_verifySlot {α : Type} [Packed α] (ofWord : UInt32 → α)
    (bytes_ofWord : ∀ word, Packed.bytes (ofWord word) = wordBytes word)
    (four : ∀ payload : α, (Packed.bytes payload).length = 4)
    (injective : Function.Injective (Packed.bytes : α → List UInt8)) (crc : UInt32)
    {seq : UInt32} (numbered : seq ≠ 0) :
    ∃! payload : α, verifySlot { seq := seq, payload := payload, payloadCrc := crc } = true := by
  obtain ⟨word, sum⟩ := exists_crc32_wordBytes crc
  have crc_ofWord : payloadCrc (ofWord word) = crc := by
    rw [payloadCrc, bytes_ofWord, sum]
  refine ⟨ofWord word, ?_, ?_⟩
  -- The word with this checksum is accepted.
  · exact (verifySlot_iff _).mpr ⟨numbered, crc_ofWord.symm⟩
  -- Whatever else is accepted has the same checksum, hence the same bytes.
  · intro payload accepted
    have sum' : crc = payloadCrc payload := ((verifySlot_iff _).mp accepted).2
    apply injective
    apply eq_of_crc32_eq (four _) (four _)
    exact sum'.symm.trans crc_ofWord.symm

/-- The arm command that the four bytes of a word spell. -/
def CommandArm.ofWord (word : UInt32) : CommandArm where
  state := word.toUInt8
  reserved0 := (word >>> 8).toUInt8
  reserved1 := (word >>> 16).toUInt8
  reserved2 := (word >>> 24).toUInt8

/-- An arm command is its four bytes. -/
theorem CommandArm.bytes_injective :
    Function.Injective (Packed.bytes : CommandArm → List UInt8) := by
  intro payload other same
  cases payload
  cases other
  simpa [Packed.bytes] using same

/-- An emergency stop is its four bytes. -/
theorem CommandEmergencyStop.bytes_injective :
    Function.Injective (Packed.bytes : CommandEmergencyStop → List UInt8) := by
  intro payload other same
  cases payload
  cases other
  rw [CommandEmergencyStop.mk.injEq]
  exact wordBytes_injective same

/-- Under a kept checksum, no other bytes within one window are accepted. -/
theorem payloadCrc_ne_of_agreeOutside {α : Type} [Packed α] {slot : SharedSlot α}
    (accepted : verifySlot slot = true) {bytes : List UInt8} {start width : Nat}
    (narrow : width ≤ 4) (agree : AgreeOutside (Packed.bytes slot.payload) bytes start width)
    (apart : Packed.bytes slot.payload ≠ bytes) : slot.payloadCrc ≠ crc32 bytes := by
  rw [((verifySlot_iff _).mp accepted).2]
  exact crc32_ne_of_agreeOutside narrow agree apart

/--
The slot checksum detects every corruption within four consecutive bytes.

An accepted slot whose payload is corrupted so is rejected.
A payload of four bytes is therefore the only one its checksum accepts.
-/
theorem checksum_detects_window :
    (∀ (data other : List UInt8) (start width : Nat), width ≤ 4 →
      AgreeOutside data other start width → data ≠ other → crc32 data ≠ crc32 other) ∧
    (∀ (α : Type) [Packed α] (slot : SharedSlot α), verifySlot slot = true →
      ∀ (bytes : List UInt8) (start width : Nat), width ≤ 4 →
        AgreeOutside (Packed.bytes slot.payload) bytes start width →
        Packed.bytes slot.payload ≠ bytes →
        slot.payloadCrc ≠ crc32 bytes ∧
        ∀ payload : α, Packed.bytes payload = bytes →
          verifySlot { slot with payload := payload } = false) ∧
    (∀ crc seq : UInt32, seq ≠ 0 → ∃! payload : CommandArm,
      verifySlot { seq := seq, payload := payload, payloadCrc := crc } = true) ∧
    (∀ crc seq : UInt32, seq ≠ 0 → ∃! payload : CommandEmergencyStop,
      verifySlot { seq := seq, payload := payload, payloadCrc := crc } = true) := by
  refine ⟨?_, ?_, ?_, ?_⟩
  · intro data other start width narrow agree apart
    exact crc32_ne_of_agreeOutside narrow agree apart
  · intro α _ slot accepted bytes start width narrow agree apart
    have differs := payloadCrc_ne_of_agreeOutside accepted narrow agree apart
    refine ⟨differs, ?_⟩
    intro payload spelled
    apply Bool.eq_false_iff.mpr
    -- An accepted slot would carry the checksum of the other bytes.
    intro other
    have sum := ((verifySlot_iff _).mp other).2
    apply differs
    rw [← spelled]
    exact sum
  · intro crc seq numbered
    exact existsUnique_verifySlot CommandArm.ofWord (fun _ => rfl) (fun _ => rfl)
      CommandArm.bytes_injective crc numbered
  · intro crc seq numbered
    exact existsUnique_verifySlot CommandEmergencyStop.mk (fun _ => rfl) (fun _ => rfl)
      CommandEmergencyStop.bytes_injective crc numbered

/-- A stop published with reason 1 is rejected as soon as its first byte reads 2. -/
theorem checksum_detects_reason_byte :
    crc32 [1, 0, 0, 0] ≠ crc32 [2, 0, 0, 0] ∧
    verifySlot (⟨1, ⟨2⟩, payloadCrc (CommandEmergencyStop.mk 1)⟩ :
      SharedSlot CommandEmergencyStop) = false ∧
    (∃! payload : CommandArm,
      verifySlot { seq := 1, payload := payload, payloadCrc := 0 } = true) ∧
    (∃! payload : CommandEmergencyStop,
      verifySlot { seq := 1, payload := payload, payloadCrc := 0 } = true) := by
  -- The two payloads differ within four bytes.
  have agree : AgreeOutside [1, 0, 0, 0] [2, 0, 0, 0] 0 4 := agreeOutside_of_four rfl rfl
  have published : verifySlot (⟨1, ⟨1⟩, payloadCrc (CommandEmergencyStop.mk 1)⟩ :
      SharedSlot CommandEmergencyStop) = true := verifySlot_of_crc (by decide) rfl
  refine ⟨checksum_detects_window.1 _ _ 0 4 (le_refl 4) agree (by decide), ?_,
    checksum_detects_window.2.2.1 0 1 (by decide), checksum_detects_window.2.2.2 0 1 (by decide)⟩
  exact (checksum_detects_window.2.1 _ _ published [2, 0, 0, 0] 0 4 (le_refl 4) agree
    (by decide)).2 ⟨2⟩ rfl

end AmpFc
