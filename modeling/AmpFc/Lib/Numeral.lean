import AmpFc.Lib.Scanning
import Mathlib.Data.Rat.Floor

/-! Numerals as the C library reads them in its own locale, one character for each byte. -/

namespace AmpFc

/-- What a floating-point numeral stands for, before any rounding. -/
inductive Numeral
  | nan
  | infinite (negative : Bool)
  | finite (value : ℚ)
  deriving DecidableEq, Repr

namespace Numeral

/-- `isspace`. -/
def isSpace (c : Char) : Bool :=
  c = ' ' || c = '\t' || c = '\n' || c = '\x0b' || c = '\x0c' || c = '\r'

/-- Whether a text begins with a minus, and the text behind its sign, if it has one. -/
def unsigned : List Char → Bool × List Char
  | '-' :: digits => (true, digits)
  | '+' :: digits => (false, digits)
  | digits => (false, digits)

/-- The value of a lower-case digit, if the base has it. -/
def digitValue (base : Nat) (c : Char) : Option Nat :=
  let value :=
    if c.isDigit then c.toNat - '0'.toNat
    else if 'a' ≤ c ∧ c ≤ 'f' then c.toNat - 'a'.toNat + 10
    else base
  if value < base then some value else none

/-- A sequence of digits, possibly empty. -/
def readDigits (base : Nat) (digits : List Char) : Option Nat :=
  digits.foldlM (fun value c => (digitValue base c).map (base * value + ·)) 0

/-- A decimal integer with an optional sign, as `strtol` expects it in base ten. -/
def readInteger (text : List Char) : Option Int :=
  let (negative, digits) := unsigned text
  -- A sign alone is no integer.
  if digits = [] then none
  else (readDigits 10 digits).map fun value => if negative then -(value : Int) else value

/-- Digits around an optional point, at least one of them. -/
def readMantissa (base : Nat) (text : List Char) : Option ℚ :=
  let whole := text.takeWhile (· ≠ '.')
  let fraction := (text.dropWhile (· ≠ '.')).drop 1
  if whole = [] ∧ fraction = [] then none
  else (readDigits base (whole ++ fraction)).map fun value =>
    (value : ℚ) / (base : ℚ) ^ fraction.length

/-- An exponent behind its marker; without the marker it is zero. -/
def readExponent : List Char → Option Int
  | [] => some 0
  | _ :: exponent => readInteger exponent

/-- A mantissa in some base, scaled by a power of the radix that `marker` announces. -/
def readScaled (base : Nat) (marker : Char) (radix : ℚ) (text : List Char) : Option ℚ :=
  match readMantissa base (text.takeWhile (· ≠ marker)),
    readExponent (text.dropWhile (· ≠ marker)) with
  | some mantissa, some exponent => some (mantissa * radix ^ exponent)
  | _, _ => none

/-- What may stand between the parentheses behind `nan`. -/
def isPayload (c : Char) : Bool :=
  c.isAlphanum || c = '_'

/-- A lower-case text behind `nan`: nothing, or a payload in parentheses. -/
def isNanTail (tail : List Char) : Bool :=
  tail.isEmpty ||
    (tail.head? == some '(' && tail.getLast? == some ')' && (tail.drop 1).dropLast.all isPayload)

/-- An unsigned lower-case numeral. -/
def readMagnitude : List Char → Option Numeral
  | 'n' :: 'a' :: 'n' :: tail => if isNanTail tail then some nan else none
  | '0' :: 'x' :: hexadecimal => (readScaled 16 'p' 2 hexadecimal).map finite
  | text =>
    if text = "inf".toList ∨ text = "infinity".toList then some (infinite false)
    else (readScaled 10 'e' 10 text).map finite

/-- A numeral under its sign. -/
def signed (negative : Bool) : Numeral → Numeral
  | nan => nan
  | infinite _ => infinite negative
  | finite value => finite (if negative then -value else value)

/-- A numeral of any form that `strtof` expects, in upper or lower case. -/
def readFloat (text : List Char) : Option Numeral :=
  let (negative, magnitude) := unsigned text
  (readMagnitude (magnitude.map Char.toLower)).map (signed negative)

example : readFloat "-0x1.8P+1".toList = some (finite (-3)) := by decide +kernel

/-- `strtof` before rounding: the longest numeral behind white space. -/
def strtof (text : List Char) : Option (Numeral × List Char) :=
  readLongest readFloat (text.dropWhile isSpace)

/-- `strtol` in base ten, without a bound on the result. -/
def strtol (text : List Char) : Option (Int × List Char) :=
  readLongest readInteger (text.dropWhile isSpace)

example : strtof "  5abc".toList = some (finite 5, "abc".toList) := by decide +kernel

example : strtof "1e+".toList = some (finite 1, "e+".toList) := by decide +kernel

section Beginning

/-- The six characters that count as white space. -/
theorem of_isSpace {c : Char} (space : isSpace c = true) :
    c = ' ' ∨ c = '\t' ∨ c = '\n' ∨ c = '\x0b' ∨ c = '\x0c' ∨ c = '\r' := by
  simpa [isSpace, or_assoc] using space

/-- There is no integer in no text, -/
@[simp] theorem readInteger_nil : readInteger [] = none := rfl

/-- and no number either. -/
@[simp] theorem readFloat_nil : readFloat [] = none := by decide

/-- No sequence of digits begins with a character that is none. -/
theorem readDigits_eq_none {base : Nat} {c : Char} (other : digitValue base c = none)
    (digits : List Char) : readDigits base (c :: digits) = none := by
  -- The fold stops at the first character.
  simp [readDigits, other]

/-- Nor does a scaled number, unless it begins with its point. -/
theorem readScaled_eq_none {base : Nat} {marker c : Char} {radix : ℚ}
    (other : digitValue base c = none) (unmarked : c ≠ marker) (unpointed : c ≠ '.')
    (text : List Char) : readScaled base marker radix (c :: text) = none := by
  -- The character is the first of the mantissa, and there of its whole part.
  have mantissa : readMantissa base ((c :: text).takeWhile (· ≠ marker)) = none := by
    simp [readMantissa, unmarked, unpointed, readDigits_eq_none other]
  rw [readScaled, mantissa]

/-- A text that begins with neither sign is left as it is. -/
theorem unsigned_cons_of_ne {c : Char} (minus : c ≠ '-') (plus : c ≠ '+') (text : List Char) :
    unsigned (c :: text) = (false, c :: text) := by
  simp [unsigned, minus, plus]

/-- White space is no sign. -/
theorem unsigned_of_isSpace {c : Char} (space : isSpace c = true) (text : List Char) :
    unsigned (c :: text) = (false, c :: text) := by
  apply unsigned_cons_of_ne
  · rintro rfl
    cases space
  · rintro rfl
    cases space

/-- No integer begins with white space. -/
theorem readInteger_of_isSpace {c : Char} (space : isSpace c = true) (text : List Char) :
    readInteger (c :: text) = none := by
  have other : digitValue 10 c = none := by
    rcases of_isSpace space with rfl | rfl | rfl | rfl | rfl | rfl <;> decide
  simp [readInteger, unsigned_of_isSpace space, readDigits_eq_none other]

/-- Nor does any other numeral. -/
theorem readFloat_of_isSpace {c : Char} (space : isSpace c = true) (text : List Char) :
    readFloat (c :: text) = none := by
  have other : digitValue 10 c = none := by
    rcases of_isSpace space with rfl | rfl | rfl | rfl | rfl | rfl <;> decide
  have magnitude : readMagnitude (c :: text.map Char.toLower) = none := by
    -- No special form begins with white space either, so a scaled number is all it could be.
    have unscaled : readScaled 10 'e' 10 (c :: text.map Char.toLower) = none := by
      apply readScaled_eq_none other
      · rintro rfl
        cases space
      · rintro rfl
        cases space
    rcases of_isSpace space with rfl | rfl | rfl | rfl | rfl | rfl <;>
      simp [readMagnitude, unscaled]
  -- White space has no case, so it still stands in front of the magnitude.
  have lower : c.toLower = c := by
    rcases of_isSpace space with rfl | rfl | rfl | rfl | rfl | rfl <;> rfl
  simp [readFloat, unsigned_of_isSpace space, lower, magnitude]

end Beginning

section Unordered

/-- A text that begins with `nan` under an optional sign, in upper or lower case. -/
def beginsNan (text : List Char) : Bool :=
  ((unsigned text).2.take 3).map Char.toLower = "nan".toList

/-- What follows a text does not change its sign. -/
theorem unsigned_append {text : List Char} (nonempty : text ≠ []) (rest : List Char) :
    unsigned (text ++ rest) = ((unsigned text).1, (unsigned text).2 ++ rest) := by
  cases text with
  | nil => exact absurd rfl nonempty
  | cons c text =>
    rw [List.cons_append]
    -- The sign is decided by the first character, which stays in front.
    by_cases minus : c = '-'
    · subst minus
      rfl
    · by_cases plus : c = '+'
      · subst plus
        rfl
      · rw [unsigned_cons_of_ne minus plus, unsigned_cons_of_ne minus plus]
        rfl

/-- What follows does not matter to how a text begins. -/
theorem beginsNan_append {text : List Char} (begins : beginsNan text = true) (rest : List Char) :
    beginsNan (text ++ rest) = true := by
  have nonempty : text ≠ [] := by
    rintro rfl
    cases begins
  simp only [beginsNan, decide_eq_true_eq] at begins ⊢
  -- The three letters are within the text, so what follows does not reach them.
  rw [unsigned_append nonempty, List.take_append_of_le_length]
  · exact begins
  · have length := congrArg List.length begins
    simp at length
    omega

/-- Three letters under a sign are a numeral by themselves. -/
theorem readFloat_nan {text : List Char}
    (letters : (unsigned text).2.map Char.toLower = "nan".toList) : readFloat text = some nan := by
  simp only [readFloat, letters]
  rfl

/-- A text that begins with `nan` has a numeral at its beginning. -/
theorem beginsNan_split {text : List Char} (begins : beginsNan text = true) :
    ∃ beginning rest, text = beginning ++ rest ∧ beginsNan beginning = true ∧
      readFloat beginning = some nan := by
  -- The letters are cut off behind the third one, together with the sign.
  have cut : ∃ beginning rest, text = beginning ++ rest ∧
      (unsigned beginning).2 = (unsigned text).2.take 3 := by
    unfold unsigned
    split
    · rename_i digits
      exact ⟨'-' :: digits.take 3, digits.drop 3, by simp, rfl⟩
    · rename_i digits
      exact ⟨'+' :: digits.take 3, digits.drop 3, by simp, rfl⟩
    · -- Without a sign the letters are the text's first three.
      rename_i minus plus
      refine ⟨text.take 3, text.drop 3, by simp, ?_⟩
      cases text with
      | nil => rfl
      | cons c tail =>
        have unsignedTake : unsigned (c :: tail.take 2) = (false, c :: tail.take 2) := by
          apply unsigned_cons_of_ne
          · intro same
            exact minus tail (by rw [same])
          · intro same
            exact plus tail (by rw [same])
        exact congrArg Prod.snd unsignedTake
  obtain ⟨beginning, rest, split, letters⟩ := cut
  simp only [beginsNan, decide_eq_true_eq] at begins
  refine ⟨beginning, rest, split, ?_, ?_⟩
  · rw [beginsNan, letters, List.take_take, Nat.min_self, begins]
    rfl
  · apply readFloat_nan
    rw [letters, begins]

/-- Of all magnitudes, those that begin with `nan` are unordered. -/
theorem readMagnitude_nan_iff {text : List Char} {numeral : Numeral}
    (reads : readMagnitude text = some numeral) :
    numeral = nan ↔ text.take 3 = "nan".toList := by
  unfold readMagnitude at reads
  split at reads
  · -- The letters, and a tail that may follow them.
    simp at reads
    simp [← reads.2]
  · -- A hexadecimal number is finite, and does not begin with a letter.
    obtain ⟨value, -, rfl⟩ := Option.map_eq_some_iff.mp reads
    simp
  · rename_i other _
    have letters : text.take 3 ≠ "nan".toList := by
      intro begins
      apply other (text.drop 3)
      rw [← List.take_append_drop 3 text, begins]
      rfl
    -- What is not spelled so is infinite or finite.
    split at reads
    · cases reads
      exact iff_of_false (by simp) letters
    · obtain ⟨value, -, rfl⟩ := Option.map_eq_some_iff.mp reads
      exact iff_of_false (by simp) letters

/-- So are, under their sign, the numerals that begin so. -/
theorem readFloat_nan_iff {text : List Char} {numeral : Numeral}
    (reads : readFloat text = some numeral) : numeral = nan ↔ beginsNan text = true := by
  simp only [readFloat, Option.map_eq_some_iff] at reads
  obtain ⟨magnitude, reads, rfl⟩ := reads
  rw [beginsNan, decide_eq_true_eq, List.map_take, ← readMagnitude_nan_iff reads]
  -- A sign turns no other magnitude into a NaN.
  cases magnitude <;> simp [signed]

/-- The longest numeral is unordered exactly if the text begins so behind its white space. -/
theorem strtof_nan_iff (text : List Char) :
    (∃ rest, strtof text = some (nan, rest)) ↔ beginsNan (text.dropWhile isSpace) = true := by
  unfold strtof
  generalize text.dropWhile isSpace = text
  constructor
  · -- The numeral that was read begins with the letters, so the text does.
    intro found
    obtain ⟨rest, found⟩ := found
    obtain ⟨beginning, reads, splits⟩ := readLongest_eq_some.mp found
    rw [splits.split]
    exact beginsNan_append ((readFloat_nan_iff reads).mp rfl) rest
  · intro begins
    obtain ⟨beginning, rest, split, spelled, reads⟩ := beginsNan_split begins
    -- Something is read, because the letters alone can be.
    cases found : readLongest readFloat text with
    | none =>
      rw [readLongest_eq_none.mp found beginning rest split] at reads
      cases reads
    | some result =>
      obtain ⟨numeral, rest'⟩ := result
      obtain ⟨longest, reads', splits⟩ := readLongest_eq_some.mp found
      -- The longest numeral extends the one that was found.
      have extended : beginning <+: longest := by
        have short : beginning <+: text := ⟨rest, split.symm⟩
        have long : longest <+: text := ⟨rest', splits.split.symm⟩
        exact List.prefix_of_prefix_length_le short long
          (splits.longest beginning rest split (by simp [reads]))
      obtain ⟨more, rfl⟩ := extended
      rw [(readFloat_nan_iff reads').mpr (beginsNan_append spelled more)]
      exact ⟨rest', rfl⟩

end Unordered

end Numeral

end AmpFc
