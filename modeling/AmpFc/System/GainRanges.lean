import AmpFc.Linux.ConfigCycles
import AmpFc.System.ConfigAgreement

/-! Both cores confine the gains to their ranges, except for unordered values. -/

namespace AmpFc

open TelemetryNode (AcceptedFor LineAssigns LineReads Spells limited parseConfigLine)

section Ranges

variable {F : Type} [FloatArith F]

/-- All gains of a configuration are in their ranges. -/
def GainsInRange (config : FlightConfig F) : Prop :=
  ∀ field, field ≠ .deadzoneUs → PushRange field (config.value field)

/-- A value that is not a NaN; the deadzone never is. -/
def GainOrdered : (field : ConfigField) → field.Value F → Prop
  | .angleP, gain => isNan gain = false
  | .rateP, gain => isNan gain = false
  | .rateI, gain => isNan gain = false
  | .rateD, gain => isNan gain = false
  | .throttleExpo, gain => isNan gain = false
  | .deadzoneUs, _ => True

/-- No gain of a configuration is a NaN. -/
def GainsOrdered (config : FlightConfig F) : Prop :=
  ∀ field, GainOrdered field (config.value field)

/-- Everything the realtime node has stored of a configuration is in its range. -/
structure AppliedConfig.InRange (applied : AppliedConfig F) : Prop where
  angleP : ∀ gain ∈ [applied.gains.1, applied.rollAngleP, applied.pitchAngleP],
    Between gain (1 / 2) 20
  rates : ∀ gains ∈ [applied.gains.2, applied.rollRate, applied.pitchRate, applied.yawRate],
    Between gains.1 (1 / 100) 1 ∧ Between gains.2.1 0 1 ∧ Between gains.2.2 0 (1 / 10)
  throttleExpo : Between applied.throttleExpo 0 (95 / 100)

/-- A node that runs a configuration is in range exactly if the configuration is. -/
theorem asApplied_inRange_iff (config : FlightConfig F) :
    config.asApplied.InRange ↔ GainsInRange config := by
  constructor
  · -- Each gain of the configuration is among those that the node stores.
    intro inRange field gain
    -- The yaw rates stand for all four, which are the same triple.
    have rates := inRange.rates (config.rateP, config.rateI, config.rateD) (by
      simp [FlightConfig.asApplied])
    cases field with
    | angleP => exact inRange.angleP config.angleP (by simp [FlightConfig.asApplied])
    | rateP => exact rates.1
    | rateI => exact rates.2.1
    | rateD => exact rates.2.2
    | throttleExpo => exact inRange.throttleExpo
    | deadzoneUs => exact absurd rfl gain
  · -- The node stores nothing but these gains, each axis its own copy.
    intro inRange
    refine ⟨?_, ?_, inRange .throttleExpo (by decide)⟩
    · intro gain member
      simp only [FlightConfig.asApplied, List.mem_cons, List.not_mem_nil, or_false, or_self]
        at member
      rw [member]
      exact inRange .angleP (by decide)
    · intro gains member
      simp only [FlightConfig.asApplied, List.mem_cons, List.not_mem_nil, or_false, or_self]
        at member
      rw [member]
      exact ⟨inRange .rateP (by decide), inRange .rateI (by decide), inRange .rateD (by decide)⟩

/-- Limiting confines every gain but a NaN. -/
theorem gainsInRange_limited_iff [FloatOrder F] (config : FlightConfig F) :
    GainsInRange (limited config) ↔ GainsOrdered config := by
  -- Field by field it is the clamp's law, with the bounds of the source.
  have confines : ∀ field, field ≠ .deadzoneUs →
      (PushRange field ((limited config).value field) ↔
        GainOrdered field (config.value field)) := by
    intro field gain
    cases field with
    | angleP => exact clamp_between_iff (by norm_num) config.angleP
    | rateP => exact clamp_between_iff (by norm_num) config.rateP
    | rateI => exact clamp_between_iff (by norm_num) config.rateI
    | rateD => exact clamp_between_iff (by norm_num) config.rateD
    | throttleExpo => exact clamp_between_iff (by norm_num) config.throttleExpo
    | deadzoneUs => exact absurd rfl gain
  constructor
  · -- The deadzone is an integer and always ordered.
    intro inRange field
    by_cases deadzone : field = .deadzoneUs
    · subst deadzone
      trivial
    · exact (confines field deadzone).mp (inRange field deadzone)
  · intro ordered field gain
    exact (confines field gain).mpr (ordered field)

/-- Controller and receiver store a configuration limited as the telemetry node would limit it. -/
theorem applied_applyConfig (node : FlightRtNode F) (config : FlightConfig F) :
    (node.applyConfig (some config)).applied = (limited config).asApplied := rfl

/-- A push that gets as far as its slot. -/
def TelemetryNode.Publishes (node : TelemetryNode F) (region : SharedCommandRegion F)
    (config : FlightConfig F) : Prop :=
  region.wellMarked = true ∧ ¬ (node.unchanged (limited config) && node.configSent) = true

/-- Such a push writes its slot, whether or not the doorbell is acknowledged. -/
theorem pushConfig_publishes {node : TelemetryNode F} {region : SharedCommandRegion F}
    {config : FlightConfig F} (publishes : node.Publishes region config) (outcome : SendOutcome) :
    (node.pushConfig region config outcome).2.2.config = node.nextConfigSlot config := by
  have written := node.sendConfig_candidate publishes.1 config outcome
  unfold TelemetryNode.pushConfig
  -- Both exits behind the send leave the slot that it wrote.
  rw [if_neg publishes.2]
  dsimp only
  split <;> exact congrArg SharedCommandRegion.config (congrArg Prod.snd written)

/-- What is published has the limited gains. -/
theorem gainsInRange_published_iff [FloatOrder F] {node : TelemetryNode F}
    {region : SharedCommandRegion F} {config : FlightConfig F}
    (publishes : node.Publishes region config) (outcome : SendOutcome) :
    GainsInRange (node.pushConfig region config outcome).2.2.config.payload ↔
      GainsOrdered config := by
  -- So the question is what limiting does to the incoming configuration.
  rw [← gainsInRange_limited_iff, pushConfig_publishes publishes]
  -- The payload differs from the limited configuration in its number only.
  have same : ∀ field, (node.nextConfigSlot config).payload.value field =
      (limited config).value field := by
    intro field
    cases field <;> rfl
  simp only [GainsInRange, same]

end Ranges

section Spelling

variable {line : List Char} {field : ConfigField}

/-- A line whose key names a gain and whose value begins with `nan` behind its white space. -/
def AssignsNan (line : List Char) (field : ConfigField) : Prop :=
  field ≠ .deadzoneUs ∧ ∃ key value rest, LineReads line key value rest ∧ Spells key field ∧
    Numeral.beginsNan (value.dropWhile Numeral.isSpace) = true

/-- `std::stof` yields a NaN exactly from a value that begins so. -/
theorem stof_eq_nan_iff (value : List Char) :
    TelemetryNode.stof Single value = some .nan ↔
      Numeral.beginsNan (value.dropWhile Numeral.isSpace) = true := by
  rw [← Numeral.strtof_nan_iff, TelemetryNode.stof]
  -- Without a numeral `std::stof` throws, and with one the numeral decides.
  cases converted : Numeral.strtof value with
  | none => simp
  | some found =>
    obtain ⟨numeral, more⟩ := found
    -- Rounding makes a NaN from nothing else.
    cases numeral with
    | nan => simp [FloatText.ofNumeral, Single.ofNumeral]
    | infinite negative => simp [FloatText.ofNumeral, Single.ofNumeral]
    | finite rational => simp [FloatText.ofNumeral, Single.ofNumeral]

/-- A gain's value is a NaN exactly if it is converted from such a value. -/
theorem convert_unordered_iff (gain : field ≠ .deadzoneUs) (value : List Char) :
    (∃ assigned, TelemetryNode.convert Single field value = some assigned ∧
        ¬ GainOrdered field assigned) ↔
      Numeral.beginsNan (value.dropWhile Numeral.isSpace) = true := by
  have unordered : ∀ converted : Option Single,
      (∃ assigned, converted = some assigned ∧ ¬ isNan assigned = false) ↔
        converted = some .nan := by
    -- A `Single` that is not ordered is the one NaN.
    intro converted
    simp [Single.isNan_iff]
  rw [← stof_eq_nan_iff]
  cases field with
  | deadzoneUs => exact absurd rfl gain
  | _ => exact unordered _

/-- A line assigns a NaN to a field exactly if its value is spelled so. -/
theorem assignsNan_iff :
    AssignsNan line field ↔
      ∃ assigned : field.Value Single, LineAssigns line field assigned ∧
        ¬ GainOrdered field assigned := by
  constructor
  · intro assigns
    obtain ⟨gain, key, value, rest, reads, spells, begins⟩ := assigns
    obtain ⟨assigned, converted, unordered⟩ := (convert_unordered_iff gain value).mpr begins
    exact ⟨assigned, ⟨key, value, rest, reads, spells, converted⟩, unordered⟩
  · intro assigns
    obtain ⟨assigned, ⟨key, value, rest, reads, spells, converted⟩, unordered⟩ := assigns
    -- An unordered value cannot be a deadzone.
    have gain : field ≠ .deadzoneUs := by
      rintro rfl
      exact unordered trivial
    exact ⟨gain, key, value, rest, reads, spells,
      (convert_unordered_iff gain value).mp ⟨assigned, converted, unordered⟩⟩

/-- No line spells a NaN for a gain, and none of the gains it leaves alone is one already. -/
structure KeepsOrdered (start : FlightConfig Single) (line : List Char) : Prop where
  spelled : ∀ field, ¬ AssignsNan line field
  kept : ∀ field, ¬ AcceptedFor Single field line → GainOrdered field (start.value field)

/-- The gains behind an accepted line are ordered exactly under this condition. -/
theorem gainsOrdered_parse_iff {start incoming : FlightConfig Single}
    (accepted : parseConfigLine line start = (true, incoming)) :
    GainsOrdered incoming ↔ KeepsOrdered start line := by
  rcases TelemetryNode.parseConfigLine_cases line start with assigns | rejected
  · obtain ⟨field, assigned, assigns⟩ := assigns
    rw [assigns.parse, Prod.mk.injEq] at accepted
    obtain ⟨-, rfl⟩ := accepted
    constructor
    · intro ordered
      refine ⟨?_, ?_⟩
      · intro other nan
        obtain ⟨value, assigns', unordered⟩ := assignsNan_iff.mp nan
        obtain rfl := assigns.unique assigns'.acceptedFor
        -- Both values are the one that the line assigns.
        have same := congrArg (fun parsed => parsed.2.value other)
          ((assigns'.parse start).symm.trans (assigns.parse start))
        simp only [FlightConfig.value_assign_self] at same
        have held := ordered other
        rw [FlightConfig.value_assign_self, ← same] at held
        exact unordered held
      · intro other unaccepted
        -- A field that the line leaves alone keeps the value it started with.
        have different : other ≠ field := by
          rintro rfl
          exact unaccepted assigns.acceptedFor
        have held := ordered other
        rw [FlightConfig.value_assign_of_ne _ different] at held
        exact held
    · intro keeps other
      by_cases same : other = field
      · subst same
        rw [FlightConfig.value_assign_self]
        -- An unordered value can only come from the spelling of the line.
        by_contra unordered
        exact keeps.spelled other (assignsNan_iff.mpr ⟨assigned, assigns, unordered⟩)
      · rw [FlightConfig.value_assign_of_ne _ same]
        exact keeps.kept other fun accepted => same (assigns.unique accepted)
  · -- The line was accepted, so this case is void.
    rw [rejected] at accepted
    cases (Prod.mk.inj accepted).1

end Spelling

/--
Every gain that is published or stored is in its range exactly if no NaN went in.

On the Linux core it comes from the line or from the configuration the line is applied to, on the
realtime core from the configuration that was delivered.
-/
theorem gainsInRange_iff {line : List Char} {start incoming : FlightConfig Single}
    (accepted : parseConfigLine line start = (true, incoming)) {linux : TelemetryNode Single}
    {region : SharedCommandRegion Single} (publishes : linux.Publishes region incoming)
    (outcome : SendOutcome) {command : IncomingCommand Single}
    (calm : command.emergencyStop = false) {config : FlightConfig Single}
    (delivered : command.config = some config) (rt : FlightRtNode Single) (nowUs : Nat) :
    (GainsInRange (linux.pushConfig region incoming outcome).2.2.config.payload ↔
        KeepsOrdered start line) ∧
      ((rt.applyCommand command nowUs).applied.InRange ↔ GainsOrdered config) := by
  constructor
  · -- Linux core: the published gains are the incoming ones, limited.
    rw [gainsInRange_published_iff publishes]
    exact gainsOrdered_parse_iff accepted
  · -- Realtime core: so are the stored ones, from whatever the slot delivered.
    rw [rt.applied_applyCommand calm, delivered, applied_applyConfig, asApplied_inRange_iff]
    exact gainsInRange_limited_iff config

section Bench

/-- A telemetry node whose mailbox is open. -/
def gainBench : TelemetryNode Single :=
  .constructed { mode := .live }

/-- A configuration with one gain of its own. -/
def withAngleP (gain : Single) : FlightConfig Single :=
  { defaultFlightConfig with angleP := gain }

/-- The bench publishes whatever gain it is given. -/
theorem gainBench_publishes (gain : Single) :
    gainBench.Publishes MailboxTransport.freshRegion (withAngleP gain) :=
  ⟨by simp, by simp [gainBench, TelemetryNode.constructed]⟩

/-- A gain of seven passes on both cores. -/
theorem gainsInRange_iff_angleLine :
    (GainsInRange (gainBench.pushConfig MailboxTransport.freshRegion (withAngleP (.finite 7))
          ⟨true, true⟩).2.2.config.payload ↔
        KeepsOrdered defaultFlightConfig "angle_p = 7".toList) ∧
      ((FlightRtNode.constructed.applyCommand { config := some (withAngleP (.finite 7)) }
          0).applied.InRange ↔ GainsOrdered (withAngleP (.finite 7))) := by
  have assigns : LineAssigns "angle_p = 7".toList .angleP (Single.finite 7) :=
    ⟨"angle_p".toList, "7".toList, [], TelemetryNode.lineReads_of_splitLine (by decide +kernel),
      by decide, by decide +kernel⟩
  exact gainsInRange_iff (assigns.parse _) (gainBench_publishes _) ⟨true, true⟩ rfl rfl
    FlightRtNode.constructed 0

/-- The line `angle_p = nan` is accepted, published and stored as it is. -/
theorem not_gainsInRange_nanLine :
    parseConfigLine "angle_p = nan".toList defaultFlightConfig = (true, withAngleP .nan) ∧
      gainBench.Publishes MailboxTransport.freshRegion (withAngleP .nan) ∧
      ¬ GainsInRange (gainBench.pushConfig MailboxTransport.freshRegion (withAngleP .nan)
        ⟨true, true⟩).2.2.config.payload ∧
      ¬ (FlightRtNode.constructed.applyCommand { config := some (withAngleP .nan) }
        0).applied.InRange := by
  have assigns : LineAssigns "angle_p = nan".toList .angleP Single.nan :=
    ⟨"angle_p".toList, "nan".toList, [], TelemetryNode.lineReads_of_splitLine (by decide +kernel),
      by decide, by decide +kernel⟩
  refine ⟨assigns.parse _, gainBench_publishes _, ?_, ?_⟩
  · -- The push clamps a NaN to itself.
    intro inRange
    have published := inRange .angleP (by decide)
    rw [pushConfig_publishes (gainBench_publishes _)] at published
    exact absurd published (by decide +kernel : ¬ Between Single.nan (1 / 2) 20)
  · -- The controller clamps it to itself once more.
    intro inRange
    have stored := inRange.angleP Single.nan (List.mem_cons_self)
    exact absurd stored (by decide +kernel)

end Bench

end AmpFc
