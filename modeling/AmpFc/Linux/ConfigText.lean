import AmpFc.Common.Protocol
import AmpFc.Common.Single
import AmpFc.Lib.Numeral

/-! A line of configuration text, and what the telemetry node makes of it. -/

namespace AmpFc

open Numeral (isSpace)

/-- How `strtof` rounds a numeral; without a result it is out of range. -/
class FloatText (F : Type) where
  ofNumeral : Numeral → Option F

/--
A finite numeral is out of range if it rounds to an infinity or loses digits below the normal range.

What rounds up to the smallest normal value counts as normal.
-/
def Single.ofNumeral : Numeral → Option Single
  | .nan => some .nan
  | .infinite negative => some (.infinite negative)
  | .finite value =>
    let overflows := 2 ^ 128 - 2 ^ 103 ≤ |value|
    let underflows := |value| < 1 / 2 ^ 126 - 1 / 2 ^ 151 ∧ (value * 2 ^ 149).den ≠ 1
    if overflows ∨ underflows then none else some (.finite value)

/-- A numeral is its value, unless single precision has no room for it. -/
instance : FloatText Single where
  ofNumeral := Single.ofNumeral

/-- The fields of a configuration that a line of text can assign. -/
inductive ConfigField where
  | angleP
  | rateP
  | rateI
  | rateD
  | throttleExpo
  | deadzoneUs
  deriving DecidableEq, Repr

/-- What a field holds: the deadzone is an integer, all others are floats. -/
abbrev ConfigField.Value (F : Type) : ConfigField → Type
  | .deadzoneUs => UInt16
  | _ => F

/-- The keys that name a field, in lower case. -/
def ConfigField.spellings : ConfigField → List (List Char)
  | .angleP => ["angle_p".toList, "anglep".toList]
  | .rateP => ["rate_p".toList, "ratep".toList]
  | .rateI => ["rate_i".toList, "ratei".toList]
  | .rateD => ["rate_d".toList, "rated".toList]
  | .throttleExpo => ["throttle_expo".toList, "throttleexpo".toList, "expo".toList]
  | .deadzoneUs => ["deadzone".toList, "deadzone_us".toList]

namespace FlightConfig

variable {F : Type}

/-- The value of a field. -/
def value (config : FlightConfig F) : (field : ConfigField) → field.Value F
  | .angleP => config.angleP
  | .rateP => config.rateP
  | .rateI => config.rateI
  | .rateD => config.rateD
  | .throttleExpo => config.throttleExpo
  | .deadzoneUs => config.deadzoneUs

/-- A configuration with one field set. -/
def assign (config : FlightConfig F) : (field : ConfigField) → field.Value F → FlightConfig F
  | .angleP, gain => { config with angleP := gain }
  | .rateP, gain => { config with rateP := gain }
  | .rateI, gain => { config with rateI := gain }
  | .rateD, gain => { config with rateD := gain }
  | .throttleExpo, expo => { config with throttleExpo := expo }
  | .deadzoneUs, deadzone => { config with deadzoneUs := deadzone }

/-- What is assigned to a field is its value. -/
@[simp] theorem value_assign_self (config : FlightConfig F) (field : ConfigField)
    (assigned : field.Value F) : (config.assign field assigned).value field = assigned := by
  cases field <;> rfl

/-- Setting one field leaves the others. -/
theorem value_assign_of_ne (config : FlightConfig F) {field other : ConfigField}
    (different : other ≠ field) (assigned : field.Value F) :
    (config.assign field assigned).value other = config.value other := by
  cases field <;> cases other <;> first | rfl | exact absurd rfl different

end FlightConfig

namespace TelemetryNode

/-- The blanks that `trim` removes, fewer than `isspace` accepts. -/
def isTrimmed (c : Char) : Bool :=
  c = ' ' || c = '\t' || c = '\r' || c = '\n'

/-- `TelemetryNode::trim`. -/
def trim (text : List Char) : List Char :=
  trimBlanks isTrimmed text

/-- `toLower`. -/
def toLower (text : List Char) : List Char :=
  text.map Char.toLower

/-- `std::stof`; without a result it threw. -/
def stof (F : Type) [FloatText F] (value : List Char) : Option F :=
  (Numeral.strtof value).bind fun converted => FloatText.ofNumeral converted.1

/-- Whether an integer fits into `int`. -/
def inIntRange (value : Int) : Bool :=
  -2 ^ 31 ≤ value && value < 2 ^ 31

/-- `std::stoi`; without a result it threw. -/
def stoi (value : List Char) : Option Int :=
  (Numeral.strtol value).bind fun converted =>
    if inIntRange converted.1 then some converted.1 else none

/-- A line without its comment and the blanks around it. -/
def workingText (line : List Char) : List Char :=
  trim (line.takeWhile fun c => !(c = '#' || c = ';'))

/--
Key and value of a line, and the text behind the value that nothing reads.

Both are as they stand in the line, before they are trimmed and the key is put in lower case.
-/
def splitLine (working : List Char) : Option (List Char × List Char × List Char) :=
  if working = [] ∨ working.head? = some '[' then none
  else if "set ".toList.isPrefixOf working then
    -- Two words are taken from the stream, and what remains in it is dropped.
    let key := nextWord isSpace (working.drop 4)
    let value := nextWord isSpace key.2
    if key.1 = [] ∨ value.1 = [] then none else some (key.1, value.1, value.2)
  else if '=' ∈ working then
    some (trim (working.takeWhile (· ≠ '=')), trim ((working.dropWhile (· ≠ '=')).drop 1), [])
  else none

section Conversion

variable {F : Type} [FloatText F]

/-- A value converted for the field it is meant for. -/
def convert (F : Type) [FloatText F] :
    (field : ConfigField) → List Char → Option (field.Value F)
  | .angleP, value => stof F value
  | .rateP, value => stof F value
  | .rateI, value => stof F value
  | .rateD, value => stof F value
  | .throttleExpo, value => stof F value
  | .deadzoneUs, value =>
    (stoi value).map fun parsed => UInt16.ofNat (max 0 (min parsed 500)).toNat

/-- The assignment that a key selects; without a result the key is unknown or a conversion threw. -/
def assignKey (key value : List Char) (config : FlightConfig F) : Option (FlightConfig F) :=
  if key = "angle_p".toList ∨ key = "anglep".toList then
    (stof F value).map fun gain => { config with angleP := gain }
  else if key = "rate_p".toList ∨ key = "ratep".toList then
    (stof F value).map fun gain => { config with rateP := gain }
  else if key = "rate_i".toList ∨ key = "ratei".toList then
    (stof F value).map fun gain => { config with rateI := gain }
  else if key = "rate_d".toList ∨ key = "rated".toList then
    (stof F value).map fun gain => { config with rateD := gain }
  else if key = "throttle_expo".toList ∨ key = "throttleexpo".toList ∨ key = "expo".toList then
    (stof F value).map fun expo => { config with throttleExpo := expo }
  else if key = "deadzone".toList ∨ key = "deadzone_us".toList then
    (stoi value).map fun parsed =>
      { config with deadzoneUs := UInt16.ofNat (max 0 (min parsed 500)).toNat }
  else none

/-- `TelemetryNode::parseConfigLine`. -/
def parseConfigLine (line : List Char) (config : FlightConfig F) : Bool × FlightConfig F :=
  match splitLine (workingText line) with
  | none => (false, config)
  | some (key, value, _) =>
    let key := toLower (trim key)
    let value := trim value
    if key = [] ∨ value = [] then (false, config)
    else
      match assignKey key value config with
      | some config => (true, config)
      | none => (false, config)

/-- A key that names a field selects the assignment of that field. -/
theorem assignKey_spelled {field : ConfigField} {key : List Char} (spelled : key ∈ field.spellings)
    (value : List Char) (config : FlightConfig F) :
    assignKey key value config = (convert F field value).map (config.assign field) := by
  -- No key names two fields, so all tests before the field's own one fail.
  cases field with
  -- The deadzone has two spellings and an integer value, throttle expo three spellings.
  | deadzoneUs =>
    simp only [ConfigField.spellings, List.mem_cons, List.not_mem_nil, or_false] at spelled
    rcases spelled with rfl | rfl <;> simp [assignKey, convert] <;> cases stoi value <;> rfl
  | throttleExpo =>
    simp only [ConfigField.spellings, List.mem_cons, List.not_mem_nil, or_false] at spelled
    rcases spelled with rfl | rfl | rfl <;> simp [assignKey, convert] <;> rfl
  | _ =>
    simp only [ConfigField.spellings, List.mem_cons, List.not_mem_nil, or_false] at spelled
    rcases spelled with rfl | rfl <;> simp [assignKey, convert] <;> rfl

/-- An assignment is selected by no other key. -/
theorem spelled_of_assignKey {key value : List Char} {config result : FlightConfig F}
    (assigned : assignKey key value config = some result) :
    ∃ field : ConfigField, key ∈ field.spellings := by
  unfold assignKey at assigned
  -- Every branch that assigns has tested for the spellings of its field.
  split_ifs at assigned with angleP rateP rateI rateD throttleExpo deadzoneUs
  · exact ⟨.angleP, by simpa [ConfigField.spellings] using angleP⟩
  · exact ⟨.rateP, by simpa [ConfigField.spellings] using rateP⟩
  · exact ⟨.rateI, by simpa [ConfigField.spellings] using rateI⟩
  · exact ⟨.rateD, by simpa [ConfigField.spellings] using rateD⟩
  · exact ⟨.throttleExpo, by simpa [ConfigField.spellings] using throttleExpo⟩
  · exact ⟨.deadzoneUs, by simpa [ConfigField.spellings] using deadzoneUs⟩

end Conversion

section Syntax

/--
The two forms of a line: key, value, and what stands behind the value.

Key and value are what is left of them without the blanks at their ends.
-/
inductive LineReads (line : List Char) : List Char → List Char → List Char → Prop
  | equation {left right : List Char} (text : workingText line = left ++ '=' :: right)
      (first : '=' ∉ left) : LineReads line (trim left) (trim right) []
  | command {tail gap key more gap' value rest : List Char}
      (text : workingText line = "set ".toList ++ tail)
      (keyBehind : WordBehind isSpace tail gap key more)
      (valueBehind : WordBehind isSpace more gap' value rest) : LineReads line key value rest

/-- A line assigns to a field if its key, in any case, is one of the field's spellings. -/
def Spells (key : List Char) (field : ConfigField) : Prop :=
  toLower key ∈ field.spellings

/-- Each field has two spellings to compare with. -/
instance (key : List Char) (field : ConfigField) : Decidable (Spells key field) :=
  inferInstanceAs (Decidable (_ ∈ _))

/-- What `splitLine` finds is in the line. -/
theorem lineReads_of_splitLine {line key value rest : List Char}
    (found : splitLine (workingText line) = some (key, value, rest)) :
    LineReads line key value rest := by
  generalize same : workingText line = working at found
  unfold splitLine at found
  split_ifs at found with skipped command marked
  · -- The stream behind the command word gave two words.
    dsimp only at found
    split_ifs at found with missing
    rw [not_or] at missing
    simp only [Option.some.injEq, Prod.mk.injEq] at found
    obtain ⟨rfl, rfl, rfl⟩ := found
    have text : working = "set ".toList ++ working.drop 4 := by
      obtain ⟨tail, split⟩ := List.isPrefixOf_iff_prefix.mp command
      rw [← split]
      rfl
    exact .command (same.trans text) (nextWord_behind missing.1) (nextWord_behind missing.2)
  · -- An equation is split at its first mark, so none stands to the left.
    simp only [Option.some.injEq, Prod.mk.injEq] at found
    obtain ⟨rfl, rfl, rfl⟩ := found
    refine .equation (same.trans (split_at_mark marked)) ?_
    intro member
    simpa using List.mem_takeWhile_imp member

/-- A known key is not empty, and begins neither like a section header nor like a command. -/
theorem Spells.head {key : List Char} {field : ConfigField} (spells : Spells key field) :
    ∃ c tail, key = c :: tail ∧ c ≠ '[' ∧ c ≠ 's' := by
  cases key with
  -- Every spelling is checked for its first letter.
  | nil => cases field <;> simp [Spells, toLower, ConfigField.spellings] at spells
  | cons c tail =>
    refine ⟨c, tail, rfl, ?_, ?_⟩
    · rintro rfl
      cases field <;> simp [Spells, toLower, ConfigField.spellings] at spells
    · rintro rfl
      cases field <;> simp [Spells, toLower, ConfigField.spellings] at spells

/-- No key names two fields. -/
theorem Spells.unique {key : List Char} {field other : ConfigField} (spells : Spells key field)
    (spells' : Spells key other) : field = other := by
  have disjoint : ∀ spelling ∈ field.spellings, spelling ∈ other.spellings → field = other := by
    cases field <;> cases other <;> decide
  exact disjoint _ spells spells'

/-- The first character of a trimmed line that begins with a known key is that of the key. -/
theorem working_head {line left right : List Char} {field : ConfigField}
    (text : workingText line = left ++ '=' :: right) (spells : Spells (trim left) field) :
    ∃ c tail, workingText line = c :: tail ∧ c ≠ '[' ∧ c ≠ 's' := by
  obtain ⟨c, keyTail, key, unsectioned, uncommanded⟩ := spells.head
  cases left with
  | nil => cases key
  | cons head tail =>
    -- The line is trimmed already, so its first character stays when the key is trimmed.
    have solid : isTrimmed head = false := trimBlanks_solid text
    obtain ⟨more, kept⟩ := trimBlanks_head solid tail
    rw [trim, kept, List.cons.injEq] at key
    rw [key.1] at text
    exact ⟨c, _, text, unsectioned, uncommanded⟩

/-- A line in one of the two forms whose key is known is taken apart accordingly. -/
theorem splitLine_of_lineReads {line key value rest : List Char} {field : ConfigField}
    (reads : LineReads line key value rest) (spells : Spells key field) :
    splitLine (workingText line) = some (key, value, rest) := by
  cases reads with
  -- No section header and no command begins like a known key.
  | @equation left right text first =>
    obtain ⟨c, tail, begins, unsectioned, uncommanded⟩ := working_head text spells
    have skipped : ¬ (workingText line = [] ∨ (workingText line).head? = some '[') := by
      simpa [begins] using unsectioned
    have uncommand : ¬ "set ".toList.isPrefixOf (workingText line) = true := by
      simpa [begins] using fun same : 's' = c => absurd same.symm uncommanded
    have marked : '=' ∈ workingText line := by
      simp [text]
    rw [splitLine, if_neg skipped, if_neg uncommand, if_pos marked, text, takeWhile_mark first,
      dropWhile_mark first]
    rfl
  | @command tail _ _ _ _ _ _ text keyBehind valueBehind =>
    -- Words are never empty, so neither is missing from the stream.
    have missing : ¬ (key = [] ∨ value = []) :=
      not_or.mpr ⟨keyBehind.nonempty, valueBehind.nonempty⟩
    rw [text]
    simp [splitLine, nextWord_eq keyBehind, nextWord_eq valueBehind, missing]

/-- Trimming what the two forms yield changes nothing. -/
theorem LineReads.trimmed {line key value rest : List Char}
    (reads : LineReads line key value rest) : trim key = key ∧ trim value = value := by
  cases reads with
  | equation text first => exact ⟨trimBlanks_trimBlanks _ _, trimBlanks_trimBlanks _ _⟩
  | command text keyBehind valueBehind =>
    -- Every blank that `trim` removes ends a word.
    have solid : ∀ c, isSpace c = false → isTrimmed c = false := by
      intro c word
      simp only [isSpace, isTrimmed, Bool.or_eq_false_iff] at word ⊢
      exact ⟨⟨⟨word.1.1.1.1.1, word.1.1.1.1.2⟩, word.2⟩, word.1.1.1.2⟩
    constructor
    · exact trimBlanks_word fun c member => solid c (keyBehind.wordSolid c member)
    · exact trimBlanks_word fun c member => solid c (valueBehind.wordSolid c member)

end Syntax

section Acceptance

variable {F : Type} [FloatText F] {line key value rest : List Char} {field : ConfigField}

/-- An empty value cannot be converted. -/
theorem convert_nil (field : ConfigField) : convert F field [] = none := by
  have unread : stof F [] = none := by
    simp [stof, Numeral.strtof, readLongest]
  have unread' : stoi [] = none := by
    simp [stoi, Numeral.strtol, readLongest]
  cases field with
  | deadzoneUs =>
    rw [convert, unread']
    rfl
  | _ => exact unread

/-- A line with a known key assigns the converted value, and nothing if the conversion throws. -/
theorem parseConfigLine_of_reads (reads : LineReads line key value rest)
    (spells : Spells key field) (config : FlightConfig F) :
    parseConfigLine line config =
      match convert F field value with
      | some assigned => (true, config.assign field assigned)
      | none => (false, config) := by
  obtain ⟨trimmedKey, trimmedValue⟩ := reads.trimmed
  -- A key that names a field is not empty, so only the value can be.
  have keyed : toLower key ≠ [] := by
    obtain ⟨c, tail, rfl, -, -⟩ := spells.head
    simp [toLower]
  rw [parseConfigLine, splitLine_of_lineReads reads spells]
  simp only [trimmedKey, trimmedValue, assignKey_spelled spells]
  by_cases empty : value = []
  · -- An empty value is rejected before the conversion, which would throw on it as well.
    subst empty
    rw [if_pos (Or.inr rfl), convert_nil]
  · rw [if_neg (not_or.mpr ⟨keyed, empty⟩)]
    cases convert F field value <;> rfl

/-- A line assigns a value to a field: its key names the field, and its value can be converted. -/
def LineAssigns (line : List Char) (field : ConfigField) (assigned : field.Value F) : Prop :=
  ∃ key value rest, LineReads line key value rest ∧ Spells key field ∧
    convert F field value = some assigned

/-- Such a line is accepted, whatever the configuration. -/
theorem LineAssigns.parse {assigned : field.Value F} (assigns : LineAssigns line field assigned)
    (config : FlightConfig F) :
    parseConfigLine line config = (true, config.assign field assigned) := by
  obtain ⟨key, value, rest, reads, spells, converted⟩ := assigns
  rw [parseConfigLine_of_reads reads spells, converted]

/-- A line either assigns to one field and is accepted, or is rejected and assigns nothing. -/
theorem parseConfigLine_cases (line : List Char) (config : FlightConfig F) :
    (∃ field, ∃ assigned : field.Value F, LineAssigns line field assigned) ∨
      parseConfigLine line config = (false, config) := by
  cases found : splitLine (workingText line) with
  | none =>
    -- Neither form fits, or nothing is left of the line.
    right
    simp [parseConfigLine, found]
  | some split =>
    obtain ⟨key, value, rest⟩ := split
    have reads := lineReads_of_splitLine found
    by_cases known : ∃ field, Spells key field
    · obtain ⟨field, spells⟩ := known
      cases converted : convert F field value with
      | none =>
        -- The conversion throws, and the catch block rejects the line.
        right
        rw [parseConfigLine_of_reads reads spells, converted]
      | some assigned =>
        left
        exact ⟨field, assigned, key, value, rest, reads, spells, converted⟩
    · -- An unknown key runs through all tests and assigns nothing.
      right
      obtain ⟨trimmedKey, trimmedValue⟩ := reads.trimmed
      simp only [parseConfigLine, found, trimmedKey, trimmedValue]
      split_ifs
      · rfl
      · cases assigned : assignKey (toLower key) value config with
        | none => rfl
        | some result => exact absurd (spelled_of_assignKey assigned) known

end Acceptance

end TelemetryNode

end AmpFc
