import RuntimeTypes.Event

/-!
The logger: a level up to which messages are written, and whether their tags
are coloured.
-/

namespace RuntimeTypes

structure Logger where
  level : Level
  colored : Bool
  deriving DecidableEq

namespace Logger

/-- The variable that turns colours off, whatever its value. -/
def plainKey : String :=
  "NO_COLOR"

/-- The logger of a process that starts in this environment.  A level that
cannot be read counts as none. -/
def ofEnvironment (env : Environment) : Logger where
  level := ((env.text? Config.levelVariable.key).bind Level.ofText?).getD .warn
  colored := !env.isSet plainKey

/-- Whether a message of this level is written. -/
def isEnabled (logger : Logger) (level : Level) : Bool :=
  level ≤ logger.level

/-- The line that an event leaves, if it is written. -/
def line? (logger : Logger) (event : Event) : Option Line :=
  if logger.isEnabled event.level then some ⟨event, logger.colored⟩ else none

/-- Takes the level from a text; a text that names none changes nothing. -/
def setLevelFromText (logger : Logger) (text : String) : Except UnknownLevel Unit × Logger :=
  match Level.parse text with
  | .ok level => (.ok (), { logger with level := level })
  | .error e => (.error e, logger)

end Logger

end RuntimeTypes
