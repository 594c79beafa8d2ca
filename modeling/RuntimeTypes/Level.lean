import RuntimeTypes.Text.Blank
import RuntimeTypes.Text.Inspect

/-!
Severity levels of log messages, and how they are read from text.
-/

namespace RuntimeTypes

/-- How severe a message is. -/
inductive Level where
  /-- The runtime cannot go on. -/
  | error
  /-- A definition was rejected, or other suspicious input. -/
  | warn
  /-- The runtime changed its stage of life. -/
  | info
  /-- A type was registered. -/
  | debug
  /-- Everything else. -/
  | trace
  deriving DecidableEq

namespace Level

/-- All levels, most severe first. -/
def all : List Level :=
  [error, warn, info, debug, trace]

/-- The place of a level in `all`: zero is the most severe. -/
def rank : Level → Nat
  | error => 0
  | warn => 1
  | info => 2
  | debug => 3
  | trace => 4

/-- A level is at most another when it is at least as severe. -/
instance : LE Level where
  le a b := a.rank ≤ b.rank

instance (a b : Level) : Decidable (a ≤ b) :=
  inferInstanceAs (Decidable (a.rank ≤ b.rank))

/-- The name that log lines and settings use. -/
def name : Level → String
  | error => "ERROR"
  | warn => "WARN"
  | info => "INFO"
  | debug => "DEBUG"
  | trace => "TRACE"

/-- The level as developers see it in a shown value. -/
def inspect : Level → String
  | error => "Error"
  | warn => "Warn"
  | info => "Info"
  | debug => "Debug"
  | trace => "Trace"

/-- The colour number of the level's tag. -/
def colour : Level → String
  | error => "31"
  | warn => "33"
  | info => "32"
  | debug => "36"
  | trace => "35"

/-- The level that a text names: blanks around it and the case of its letters do not count. -/
def ofText? (text : String) : Option Level :=
  all.find? fun level => Text.sameLetters level.name (Text.trim text)

/-- The level whose name is exactly the text. -/
def ofName? (text : String) : Option Level :=
  all.find? fun level => level.name == text

end Level

/-- A text that names no level, as it was given. -/
structure UnknownLevel where
  input : String
  deriving DecidableEq

namespace UnknownLevel

def message (e : UnknownLevel) : String :=
  s!"invalid log level: {Text.quoted e.input}"

def inspect (e : UnknownLevel) : String :=
  Text.recordText "ParseLevelError" [("input", Text.quoted e.input)]

end UnknownLevel

/-- Reads a level, or reports the text that is none. -/
def Level.parse (text : String) : Except UnknownLevel Level :=
  match Level.ofText? text with
  | some level => .ok level
  | none => .error ⟨text⟩

end RuntimeTypes
