import AmpFc.Linux.ConfigText

/-! Which accepted configuration lines assign less than what they say. -/

namespace AmpFc.TelemetryNode

open Numeral (isSpace readFloat readInteger)

section Conversion

variable {Value : Type} {read : List Char → Option Value} {inRange : Value → Prop}

/-- What a conversion takes from a value: the longest numeral behind white space, if in range. -/
structure ConvertsFrom (read : List Char → Option Value) (inRange : Value → Prop)
    (value numeral : List Char) : Prop where
  longest : ∃ more, SplitsLongest read (value.dropWhile isSpace) numeral more
  inRange : ∃ converted, read numeral = some converted ∧ inRange converted

/-- A conversion succeeds exactly if there is such a numeral. -/
theorem convertsFrom_iff {value : List Char} :
    (∃ numeral, ConvertsFrom read inRange value numeral) ↔
      ∃ converted more, readLongest read (value.dropWhile isSpace) = some (converted, more) ∧
        inRange converted := by
  constructor
  · -- The numeral and what stands behind it are the two parts of the longest reading.
    intro converts
    obtain ⟨numeral, ⟨more, splits⟩, ⟨converted, reads, ranged⟩⟩ := converts
    exact ⟨converted, more, readLongest_eq_some.mpr ⟨numeral, reads, splits⟩, ranged⟩
  · intro found
    obtain ⟨converted, more, found, ranged⟩ := found
    obtain ⟨numeral, reads, splits⟩ := readLongest_eq_some.mp found
    exact ⟨numeral, ⟨more, splits⟩, ⟨converted, reads, ranged⟩⟩

/-- The numeral is the whole value exactly if the whole value can be read. -/
theorem ConvertsFrom.whole_iff
    (blank : ∀ c text, isSpace c = true → read (c :: text) = none) {value numeral : List Char}
    (converts : ConvertsFrom read inRange value numeral) :
    numeral = value ↔ (read value).isSome = true := by
  obtain ⟨⟨more, splits⟩, ⟨converted, reads, -⟩⟩ := converts
  constructor
  · -- The numeral itself can be read.
    rintro rfl
    simp [reads]
  · intro whole
    -- A value that can be read does not begin with white space.
    have solid : value.dropWhile isSpace = value := by
      cases value with
      | nil => rfl
      | cons c text =>
        cases space : isSpace c with
        | true => simp [blank c text space] at whole
        | false => exact List.dropWhile_cons_of_neg (by simp [space])
    rw [solid] at splits
    -- The whole value is a candidate too, and the numeral is at least as long.
    have length := splits.longest value [] (List.append_nil value).symm whole
    have split := splits.split
    rw [split, List.length_append] at length
    have rest : more = [] := List.eq_nil_of_length_eq_zero (by omega)
    rw [rest, List.append_nil] at split
    exact split.symm

end Conversion

section Fields

/-- A text is a numeral of the type that a field needs. -/
def IsNumeral : ConfigField → List Char → Prop
  | .deadzoneUs, text => (readInteger text).isSome = true
  | _, text => (readFloat text).isSome = true

/-- The numeral that is converted for a field. -/
def NumeralOf (F : Type) [FloatText F] : ConfigField → List Char → List Char → Prop
  | .deadzoneUs => ConvertsFrom readInteger (inIntRange · = true)
  | _ =>
    ConvertsFrom readFloat fun numeral => (FloatText.ofNumeral numeral : Option F).isSome = true

variable {F : Type} [FloatText F]

/-- `std::stof` succeeds exactly if there is a numeral in range to convert. -/
theorem stof_isSome_iff (value : List Char) :
    (stof F value).isSome = true ↔ ∃ numeral, ConvertsFrom readFloat
      (fun numeral => (FloatText.ofNumeral numeral : Option F).isSome = true) value numeral := by
  rw [convertsFrom_iff, stof, Numeral.strtof]
  cases readLongest readFloat (value.dropWhile isSpace) with
  | none => simp
  | some found =>
    obtain ⟨converted, more⟩ := found
    simp

/-- So does `std::stoi`. -/
theorem stoi_isSome_iff (value : List Char) :
    (stoi value).isSome = true ↔
      ∃ numeral, ConvertsFrom readInteger (inIntRange · = true) value numeral := by
  rw [convertsFrom_iff, stoi, Numeral.strtol]
  cases readLongest readInteger (value.dropWhile isSpace) with
  | none => simp
  | some found =>
    obtain ⟨converted, more⟩ := found
    simp

/-- A value can be converted for a field exactly if there is a numeral to convert. -/
theorem convert_isSome_iff (field : ConfigField) (value : List Char) :
    (convert F field value).isSome = true ↔ ∃ numeral, NumeralOf F field value numeral := by
  cases field with
  | deadzoneUs =>
    rw [convert, Option.isSome_map]
    exact stoi_isSome_iff value
  | _ => exact stof_isSome_iff value

/-- What is converted is the whole value exactly if the value is a numeral. -/
theorem numeralOf_whole_iff {field : ConfigField} {value numeral : List Char}
    (converts : NumeralOf F field value numeral) : numeral = value ↔ IsNumeral field value := by
  cases field with
  | deadzoneUs =>
    exact ConvertsFrom.whole_iff
      (fun _ text space => Numeral.readInteger_of_isSpace space text) converts
  | _ =>
    exact ConvertsFrom.whole_iff
      (fun _ text space => Numeral.readFloat_of_isSpace space text) converts

end Fields

/-- `key = value` or `set key value`, with a known key, a numeral, and nothing behind it. -/
def Complete (line : List Char) : Prop :=
  ∃ key value rest field, LineReads line key value rest ∧ (∀ c ∈ rest, isSpace c = true) ∧
    Spells key field ∧ IsNumeral field value

/-- Only complete lines are accepted, and all others change nothing. -/
def TakesWholeNumerals {F : Type} [FloatText F] (line : List Char) (config : FlightConfig F) :
    Prop :=
  ((parseConfigLine line config).1 = true → Complete line) ∧
    (¬ Complete line → parseConfigLine line config = (false, config))

/--
A line with a known key and more in it than the numeral that is converted.

The rest stands around the numeral within the value, or is a further word of a `set` command.
-/
def HalfAccepted (F : Type) [FloatText F] (line : List Char) : Prop :=
  ∃ key value rest field numeral, LineReads line key value rest ∧ Spells key field ∧
    NumeralOf F field value numeral ∧ (numeral ≠ value ∨ ∃ c ∈ rest, isSpace c = false)

/-- Whole numerals are all that is accepted exactly if the line leaves nothing unread. -/
theorem takesWholeNumerals_iff {F : Type} [FloatText F] (line : List Char)
    (config : FlightConfig F) : TakesWholeNumerals line config ↔ ¬ HalfAccepted F line := by
  constructor
  · intro takes half
    obtain ⟨key, value, rest, field, numeral, reads, spells, converts, more⟩ := half
    -- The numeral is converted whatever stands around it, so the line is accepted.
    obtain ⟨assigned, converted⟩ :=
      Option.isSome_iff_exists.mp ((convert_isSome_iff field value).mpr ⟨numeral, converts⟩)
    have assigns : LineAssigns line field assigned :=
      ⟨key, value, rest, reads, spells, converted⟩
    have accepted : (parseConfigLine line config).1 = true := by
      rw [assigns.parse]
    obtain ⟨key', value', rest', field', reads', blank, spells', numeral'⟩ := takes.1 accepted
    -- Both ways of reading the line are the one that it is split by.
    have same := (splitLine_of_lineReads reads spells).symm.trans
      (splitLine_of_lineReads reads' spells')
    simp only [Option.some.injEq, Prod.mk.injEq] at same
    obtain ⟨rfl, rfl, rfl⟩ := same
    obtain rfl := spells.unique spells'
    rcases more with part | word
    · -- A value that is a numeral leaves nothing around it.
      exact part ((numeralOf_whole_iff converts).mpr numeral')
    · -- Behind the value of a complete line there are only blanks.
      obtain ⟨c, member, solid⟩ := word
      rw [blank c member] at solid
      cases solid
  · intro whole
    rcases parseConfigLine_cases line config with accepted | rejected
    · obtain ⟨field, assigned, key, value, rest, reads, spells, converted⟩ := accepted
      obtain ⟨numeral, converts⟩ :=
        (convert_isSome_iff field value).mp (Option.isSome_iff_exists.mpr ⟨assigned, converted⟩)
      have complete : Complete line := by
        refine ⟨key, value, rest, field, reads, ?_, spells, (numeralOf_whole_iff converts).mp ?_⟩
        · -- A further word would be left unread.
          intro c member
          by_contra solid
          rw [Bool.not_eq_true] at solid
          exact whole ⟨key, value, rest, field, numeral, reads, spells, converts,
            Or.inr ⟨c, member, solid⟩⟩
        · -- So would the rest of a value that is no numeral.
          by_contra part
          exact whole ⟨key, value, rest, field, numeral, reads, spells, converts, Or.inl part⟩
      exact ⟨fun _ => complete, fun incomplete => absurd complete incomplete⟩
    · -- A rejected line changes nothing, complete or not.
      constructor
      · intro accepted
        rw [rejected] at accepted
        cases accepted
      · intro _
        exact rejected

/-- A decimal comma ends the numeral, and a rate gain of `0,35` is accepted as zero. -/
theorem not_takesWholeNumerals_decimalComma :
    ¬ TakesWholeNumerals "rate_p = 0,35".toList (defaultFlightConfig : FlightConfig Single) := by
  intro takes
  have accepted : (parseConfigLine "rate_p = 0,35".toList
      (defaultFlightConfig : FlightConfig Single)).1 = true := by
    decide +kernel
  obtain ⟨key, value, rest, field, reads, -, spells, numeral⟩ := takes.1 accepted
  -- There is one way to take the line apart, and its value is no numeral of any type.
  have split : splitLine (workingText "rate_p = 0,35".toList) =
      some ("rate_p".toList, "0,35".toList, []) := by
    decide +kernel
  have same := (splitLine_of_lineReads reads spells).symm.trans split
  simp only [Option.some.injEq, Prod.mk.injEq] at same
  have named : Spells key .rateP := by
    rw [same.1]
    decide
  obtain rfl := spells.unique named
  rw [same.2.1] at numeral
  have unread : ¬ (readFloat "0,35".toList).isSome = true := by
    decide +kernel
  exact unread numeral

end AmpFc.TelemetryNode
