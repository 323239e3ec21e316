import AmpFc.Linux.ConfigText
import AmpFc.Linux.TelemetryNode

/-! Loading a configuration text: for each field the last line that assigns to it counts. -/

namespace AmpFc

/-- `TelemetryNode` with the text file it watches and the text it loaded last. -/
structure IniTelemetryNode (F : Type) extends TelemetryNode F where
  iniPath : List Char
  iniCache : List Char

/-- What a load returns, with the configuration and the node it leaves behind. -/
abbrev LoadResult (F : Type) := Bool × FlightConfig F × IniTelemetryNode F

namespace TelemetryNode

variable {F : Type} [FloatText F]

/-- The loop over the lines of a text: whether one was accepted, and the configuration. -/
def parseLines (lines : List (List Char)) (config : FlightConfig F) : Bool × FlightConfig F :=
  lines.foldl
    (fun parsed line =>
      let next := parseConfigLine line parsed.2
      -- The line is parsed first, so an earlier acceptance skips nothing.
      (next.1 || parsed.1, next.2))
    (false, config)

/-- One more line is parsed after the others, on what they left. -/
theorem parseLines_concat (lines : List (List Char)) (line : List Char)
    (config : FlightConfig F) :
    parseLines (lines ++ [line]) config =
      ((parseConfigLine line (parseLines lines config).2).1 || (parseLines lines config).1,
        (parseConfigLine line (parseLines lines config).2).2) := by
  simp [parseLines]

section Lines

variable {line : List Char} {field : ConfigField}

/-- A line that is accepted whatever the configuration, under a key that names the field. -/
def AcceptedFor (F : Type) [FloatText F] (field : ConfigField) (line : List Char) : Prop :=
  (∀ config : FlightConfig F, (parseConfigLine line config).1 = true) ∧
    ∃ key value rest, LineReads line key value rest ∧ Spells key field

/-- Such a line assigns a value to the field. -/
theorem acceptedFor_iff [FloatArith F] :
    AcceptedFor F field line ↔ ∃ assigned : field.Value F, LineAssigns line field assigned := by
  constructor
  · intro accepted
    obtain ⟨accepted, key, value, rest, reads, spells⟩ := accepted
    -- One configuration is enough to see whether the conversion succeeds.
    have parsed := parseConfigLine_of_reads reads spells (defaultFlightConfig : FlightConfig F)
    cases converted : convert F field value with
    | none =>
      have rejected := accepted defaultFlightConfig
      rw [parsed, converted] at rejected
      cases rejected
    | some assigned => exact ⟨assigned, key, value, rest, reads, spells, converted⟩
  · intro assigns
    obtain ⟨assigned, assigns⟩ := assigns
    obtain ⟨key, value, rest, reads, spells, -⟩ := id assigns
    exact ⟨fun config => by rw [assigns.parse], key, value, rest, reads, spells⟩

/-- A line that assigns to a field is accepted for that field. -/
theorem LineAssigns.acceptedFor [FloatArith F] {assigned : field.Value F}
    (assigns : LineAssigns line field assigned) : AcceptedFor F field line :=
  acceptedFor_iff.mpr ⟨assigned, assigns⟩

/-- It assigns to no other field. -/
theorem LineAssigns.unique {assigned : field.Value F} (assigns : LineAssigns line field assigned)
    {other : ConfigField} (accepted : AcceptedFor F other line) : other = field := by
  obtain ⟨key, value, rest, reads, spells, -⟩ := assigns
  obtain ⟨-, key', value', rest', reads', spells'⟩ := accepted
  -- Both ways of reading the line are the one split, so the keys are the same.
  have same := (splitLine_of_lineReads reads spells).symm.trans
    (splitLine_of_lineReads reads' spells')
  simp only [Option.some.injEq, Prod.mk.injEq] at same
  obtain ⟨rfl, -, -⟩ := same
  exact spells'.unique spells

/-- Whether a line is accepted does not depend on the configuration, nor does what it assigns. -/
theorem parseConfigLine_acceptance (line : List Char) (config config' : FlightConfig F) :
    (parseConfigLine line config).1 = (parseConfigLine line config').1 := by
  rcases parseConfigLine_cases line config with assigns | rejected
  · -- What a line assigns is read off the line alone.
    obtain ⟨field, assigned, assigns⟩ := assigns
    rw [assigns.parse, assigns.parse]
  · rcases parseConfigLine_cases line config' with assigns' | rejected'
    · obtain ⟨field, assigned, assigns'⟩ := assigns'
      rw [assigns'.parse] at rejected
      cases (Prod.mk.inj rejected).1
    · rw [rejected, rejected']

end Lines

section Loop

variable (lines : List (List Char)) (config : FlightConfig F) (field : ConfigField)

/-- A line added at the end that assigns to a field decides its value. -/
theorem parseLines_concat_assigns {line : List Char} {assigned : field.Value F}
    (assigns : LineAssigns line field assigned) :
    (parseLines (lines ++ [line]) config).2 =
      (parseLines lines config).2.assign field assigned := by
  rw [parseLines_concat, assigns.parse]

/-- It reports an update exactly if some line was accepted. -/
theorem parseLines_updated :
    (parseLines lines config).1 = true ↔
      ∃ line ∈ lines, (parseConfigLine line config).1 = true := by
  induction lines using List.reverseRecOn with
  | nil => simp [parseLines]
  | append_singleton lines final ih =>
    have same := parseConfigLine_acceptance final (parseLines lines config).2 config
    rw [parseLines_concat, Bool.or_eq_true, ih, same]
    -- An accepted line is the last one, or it is among those before it.
    simp [or_comm, or_and_right, exists_or]

variable [FloatArith F]

/-- A line added at the end that does not leaves it as it was. -/
theorem parseLines_concat_value {line : List Char} (other : ¬ AcceptedFor F field line) :
    (parseLines (lines ++ [line]) config).2.value field =
      (parseLines lines config).2.value field := by
  rcases parseConfigLine_cases line (parseLines lines config).2 with assigns | rejected
  · -- The line assigns, but to another field.
    obtain ⟨field', assigned, assigns⟩ := assigns
    rw [parseLines_concat_assigns lines config field' assigns]
    apply FlightConfig.value_assign_of_ne
    rintro rfl
    exact other assigns.acceptedFor
  · -- A rejected line hands the configuration on.
    rw [parseLines_concat, rejected]

/-- The loop leaves each field with what the last line accepted for it assigns. -/
theorem parseLines_last {line : List Char} {assigned : field.Value F}
    (last : LastWith (AcceptedFor F field) lines line) (assigns : LineAssigns line field assigned) :
    (parseLines lines config).2.value field = assigned := by
  -- The induction is on the lines, from the last one backwards.
  induction lines using List.reverseRecOn with
  | nil => cases last.mem.1
  | append_singleton lines final ih =>
    by_cases accepted : AcceptedFor F field final
    · -- The final line is accepted for the field, so it is the last one and decides.
      obtain rfl := (lastWith_concat_pos accepted).mp last
      rw [parseLines_concat_assigns lines config field assigns]
      exact FlightConfig.value_assign_self _ field assigned
    · -- It is not, so the last one is among the lines before it.
      rw [parseLines_concat_value lines config field accepted]
      exact ih ((lastWith_concat_neg accepted).mp last)

end Loop

end TelemetryNode

namespace IniTelemetryNode

open TelemetryNode

variable {F : Type} [FloatText F]

/-- The node that `main` builds, watching a path that may be empty. -/
def constructed [FloatArith F] (mailbox : MailboxTransport) (path : List Char) :
    IniTelemetryNode F where
  toTelemetryNode := .constructed mailbox
  iniPath := path
  iniCache := []

/-- `maybeLoadIniConfig`; without a text the file could not be opened. -/
def maybeLoadIniConfig (node : IniTelemetryNode F)
    (file : Option (List Char)) (config : FlightConfig F) : LoadResult F :=
  if node.iniPath = [] then (false, config, node)
  else
    match file with
    | none => (false, config, node)
    | some text =>
      if text = node.iniCache then (false, config, node)
      else
        let parsed := parseLines (splitLines '\n' text) config
        (parsed.1, parsed.2, { node with iniCache := text })

end IniTelemetryNode

end AmpFc
