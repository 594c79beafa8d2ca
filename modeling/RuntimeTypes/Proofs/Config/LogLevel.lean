import RuntimeTypes.Proofs.Config.Reading
import RuntimeTypes.Proofs.TypeSystem.Attempts

/-!
The level of the log.  A text is parsed to the one level that it spells.  The
settings and the logger read the same variable on their own; they agree where the
settings can be read, and where they cannot the logger falls back.
-/

namespace RuntimeTypes

open Text (Padded SameLetter Spells)

theorem Environment.text?_eq_none_iff {env : Environment} {key : String} :
    env.text? key = none ↔
      ∀ bytes, env.bytes? key = some bytes → String.fromUTF8? bytes = none :=
  Option.bind_eq_none_iff

namespace Level

variable {text : String} {level : Level}

/-- The text is not taken for any level. -/
def Unknown (text : String) : Prop :=
  ∀ level, ¬ Means text level

theorem ofText?_eq_none_iff : ofText? text = none ↔ Unknown text := by
  simp only [Option.eq_none_iff_forall_ne_some, ne_eq, ofText?_eq_some_iff, Unknown]

theorem isBlank_of_mem_name (level : Level) : ∀ c ∈ level.name.toList, Text.isBlank c = false := by
  have solid : level.name.toList.all (!Text.isBlank ·) = true := by
    cases level <;> decide
  simpa using solid

/-- How a text is parsed: to the one level that it spells, in whatever letters and
between whatever blanks, or to a report of the text as it was given. -/
structure Parsed (text : String) (parsed : Except UnknownLevel Level) : Prop where
  spelled : ∀ level, parsed = .ok level ↔ Spells text level.name
  once : ∀ level level', Spells text (name level) → Spells text (name level') → level = level'
  written : ∀ level word, List.Forall₂ SameLetter word (name level).toList →
    Padded word text.toList → parsed = .ok level
  refused : ∀ e, parsed = .error e ↔ e = ⟨text⟩ ∧ Unknown text

theorem parse_eq_ok_iff : parse text = .ok level ↔ Means text level := by
  rw [← ofText?_eq_some_iff, parse]
  cases ofText? text <;> simp

theorem parse_eq_error_iff {e : UnknownLevel} :
    parse text = .error e ↔ e = ⟨text⟩ ∧ Unknown text := by
  rw [← ofText?_eq_none_iff, parse]
  cases ofText? text <;> simp [eq_comm]

theorem parsed_parse (text : String) : Parsed text (parse text) where
  spelled _ := parse_eq_ok_iff
  once _ _ := eq_of_spells
  written level _ alike padded :=
    parse_eq_ok_iff.2 (Text.spells_of_padded level.isBlank_of_mem_name alike padded)
  refused _ := parse_eq_error_iff

end Level

section Readers

variable {env : Environment} {raw : String} {level : Level}

theorem Logger.level_ofEnvironment (env : Environment) :
    (Logger.ofEnvironment env).level =
      ((env.text? "REFLEX_LOG").bind Level.ofText?).getD .warn := rfl

theorem Logger.level_ofEnvironment_of_said
    (said : Config.Says Level.Means (env.text? "REFLEX_LOG") .warn level) :
    (Logger.ofEnvironment env).level = level := by
  rw [level_ofEnvironment]
  cases value : env.text? "REFLEX_LOG" with
  | none =>
      rw [value] at said
      exact said.symm
  | some raw =>
      rw [value] at said
      rw [Option.bind_some, Level.ofText?_eq_some_iff.2 said, Option.getD_some]

theorem Logger.level_ofEnvironment_of_unknown (value : env.text? "REFLEX_LOG" = some raw)
    (unknown : Level.Unknown raw) : (Logger.ofEnvironment env).level = .warn := by
  rw [level_ofEnvironment, value, Option.bind_some, Level.ofText?_eq_none_iff.2 unknown,
    Option.getD_none]

theorem Config.ofEnvironment_of_unknown (value : env.text? "REFLEX_LOG" = some raw)
    (unknown : Level.Unknown raw) :
    Config.ofEnvironment env = .error (.invalidConfig "REFLEX_LOG" raw) := by
  have first : Config.FirstUnreadable env.text? Config.manual []
      ⟨"REFLEX_LOG", fun raw => ∃ level, Level.Means raw level⟩ raw :=
    ⟨⟨_, rfl⟩, List.forall_mem_nil _, value, not_exists.2 unknown⟩
  rw [Config.ofEnvironment, Config.read, Config.readFrom_of_firstUnreadable Config.described first]

/-- What the variable with the level makes of the settings and of the level of
the logger. -/
structure ReadersAgree (env : Environment) (level : Level) : Prop where
  agree : ∀ config, Config.ofEnvironment env = .ok config → level = config.logLevel
  absent : (∀ bytes, env.bytes? "REFLEX_LOG" = some bytes → String.fromUTF8? bytes = none) →
    level = .warn
  spelled : ∀ raw, env.text? "REFLEX_LOG" = some raw →
    ∀ other : Level, Spells raw other.name → level = other
  unknown : ∀ raw, env.text? "REFLEX_LOG" = some raw → Level.Unknown raw →
    Config.ofEnvironment env = .error (.invalidConfig "REFLEX_LOG" raw) ∧ level = .warn

theorem readersAgree (env : Environment) : ReadersAgree env (Logger.ofEnvironment env).level where
  agree _ read := Logger.level_ofEnvironment_of_said (Config.result_read_eq_ok_iff.1 read).logLevel
  absent missing := by
    apply Logger.level_ofEnvironment_of_said
    rw [Environment.text?_eq_none_iff.2 missing]
    rfl
  spelled raw value other spells := by
    apply Logger.level_ofEnvironment_of_said
    rw [value]
    exact spells
  unknown raw value unknown :=
    ⟨Config.ofEnvironment_of_unknown value unknown,
      Logger.level_ofEnvironment_of_unknown value unknown⟩

end Readers

/-- Whether an operation leaves the level of the log alone, whatever it is given. -/
def Operation.KeepsLevel : Operation → Prop
  | .configure _ | .setLevel _ => False
  | _ => True

namespace TypeSystem

variable {s : TypeSystem} {op : Operation} {ops : List Operation} {text : String}
  {environment : Environment}

theorem level_perform (sound : s.Sound) (admitted : s.Admits op) (keeps : op.KeepsLevel) :
    (s.perform op).2.logger.level = s.logger.level := by
  cases op with
  | configure | setLevel => exact keeps.elim
  | setColored => rfl
  | _ =>
      have proceeds : Proceeds .trace s _ :=
        .perform sound admitted (by simp) (by simp) (by simp)
      rw [proceeds.logger]

theorem level_performAll (sound : s.Sound) (admitted : s.AdmitsAll ops)
    (keep : ∀ op ∈ ops, op.KeepsLevel) :
    (s.performAll ops).2.logger.level = s.logger.level := by
  induction ops generalizing s with
  | nil => rfl
  | cons op rest ih =>
      rw [List.forall_mem_cons] at keep
      have later := ih (sound.perform admitted.1).1 admitted.2 keep.2
      exact later.trans (level_perform sound admitted.1 keep.1)

/-- How the level is set from a text: nothing else changes, and without a level
in the text nothing at all. -/
structure SetsLevel (s : TypeSystem) (text : String)
    (outcome : Except UnknownLevel Unit × TypeSystem) : Prop where
  spelled : ∀ level : Level, Spells text level.name → outcome = (.ok (), s.setLevel level)
  unknown : Level.Unknown text → outcome = (.error ⟨text⟩, s)

theorem setsLevel (s : TypeSystem) (text : String) :
    SetsLevel s text (s.setLevelFromText text) where
  spelled level spells := by
    rw [setLevelFromText, Logger.setLevelFromText, Level.parse_eq_ok_iff.2 spells]
    rfl
  unknown unknown := by
    rw [setLevelFromText, Logger.setLevelFromText, Level.parse_eq_error_iff.2 ⟨rfl, unknown⟩]

/-- Texts are read as levels in one way.  Parsing finds the level that a text
spells; as long as no operation sets the level, the logger of a process has the
level that its settings announce; and a text that names no level sets none. -/
theorem levels_read_alike (admitted : (start environment).AdmitsAll ops)
    (keep : ∀ op ∈ ops, op.KeepsLevel) :
    (∀ text, Level.Parsed text (Level.parse text)) ∧
      ReadersAgree environment ((start environment).performAll ops).2.logger.level ∧
      ∀ (s : TypeSystem) (text : String), SetsLevel s text (s.setLevelFromText text) := by
  refine ⟨Level.parsed_parse, ?_, setsLevel⟩
  rw [level_performAll (sound_start environment) admitted keep]
  exact readersAgree environment

/-- An environment with a level in mixed letters, and blanks on both sides. -/
def looselyWritten : Environment where
  entries := [("NO_COLOR", ⟨#[]⟩), ("REFLEX_LOG", "\u2003dEbUg\t".toUTF8)]

/-- A program that uses the logger and does not set its level. -/
def talking : List Operation :=
  [.addRegistry .any, .define (.isolated 0) { name := "Type" }, .setColored true,
    .emit .debug "app" "ready", .construct .root]

theorem levels_read_alike_looselyWritten :
    (start looselyWritten).AdmitsAll talking ∧ (∀ op ∈ talking, op.KeepsLevel) ∧
      Config.ofEnvironment looselyWritten = .ok { logLevel := .debug } ∧
      ((start looselyWritten).performAll talking).2.logger.level = .debug ∧
      Level.parse "\u2003dEbUg\t" = .ok .debug ∧
      (start looselyWritten).setLevelFromText " loud" =
        (.error ⟨" loud"⟩, start looselyWritten) := by
  have admitted : (start looselyWritten).AdmitsAll talking := by
    decide +kernel
  have keep : ∀ op ∈ talking, op.KeepsLevel := by
    simp [talking, Operation.KeepsLevel]
  have announced : Config.ofEnvironment looselyWritten = .ok { logLevel := .debug } := by
    decide +kernel
  obtain ⟨parsed, readers, sets⟩ := levels_read_alike admitted keep
  have unknown : Level.Unknown " loud" := by
    refine ((parsed " loud").refused ⟨" loud"⟩).1 ?_ |>.2
    decide +kernel
  refine ⟨admitted, keep, announced, readers.agree _ announced, ?_, (sets _ _).unknown unknown⟩
  exact (parsed _).written .debug "dEbUg".toList
    (Text.map_toLower_eq_iff.1 (by decide +kernel)) (Text.padded_append ['\u2003'] ['\t'] rfl)

end TypeSystem

end RuntimeTypes
