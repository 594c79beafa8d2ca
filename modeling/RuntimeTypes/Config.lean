import RuntimeTypes.Environment
import RuntimeTypes.Error
import RuntimeTypes.Level
import RuntimeTypes.RootPolicy

/-!
The settings of a process, and how they are read from named variables.  Each
variable decides one setting and is asked for once; the first value that
cannot be read ends the reading.
-/

namespace RuntimeTypes

/-- When the built-in classes are registered. -/
inductive InitPolicy where
  /-- At the first use of each class. -/
  | onDemand
  /-- When the process is initialized. -/
  | eager
  deriving DecidableEq

namespace InitPolicy

def ofText? (text : String) : Option InitPolicy :=
  if Text.sameLetters (Text.trim text) "lazy" then some onDemand
  else if Text.sameLetters (Text.trim text) "eager" then some eager
  else none

/-- The policy as developers see it in a shown value. -/
def inspect : InitPolicy → String
  | onDemand => "Lazy"
  | eager => "Eager"

end InitPolicy

/-- The settings of a process. -/
structure Config where
  /-- How many descriptors the first chunk of the store holds. -/
  arenaChunkSize : Nat := 64
  /-- For how many types a new registry makes room. -/
  registryCapacity : Nat := 64
  rootPolicy : RootPolicy := RootPolicy.default
  initPolicy : InitPolicy := .onDemand
  logLevel : Level := .warn
  deriving DecidableEq

namespace Config

/-- The settings as developers see them in a shown value. -/
def inspect (config : Config) : String :=
  Text.recordText "RuntimeConfig"
    [("arena_chunk_size", toString config.arenaChunkSize),
     ("registry_capacity", toString config.registryCapacity),
     ("root_policy", config.rootPolicy.inspect),
     ("init_policy", config.initPolicy.inspect),
     ("log_level", config.logLevel.inspect)]

/-- A variable that decides a setting. -/
structure Variable where
  key : String
  /-- Puts the value of the variable into the settings, if it can be read. -/
  set? : String → Config → Option Config

/-- The variable with the log level. -/
def levelVariable : Variable where
  key := "REFLEX_LOG"
  set? raw config := (Level.ofText? raw).map fun level => { config with logLevel := level }

/-- The variable with the time of registration of the built-in classes. -/
def initVariable : Variable where
  key := "REFLEX_INIT"
  set? raw config := (InitPolicy.ofText? raw).map fun policy => { config with initPolicy := policy }

/-- The variable with the names that may be roots. -/
def rootsVariable : Variable where
  key := "REFLEX_ROOTS"
  set? raw config := (RootPolicy.ofText? raw).map fun policy => { config with rootPolicy := policy }

/-- The variables in the order in which they are asked for. -/
def readingOrder : List Variable :=
  [levelVariable, initVariable, rootsVariable]

/-- The outcome of a reading, with the keys that were asked for. -/
structure Reading where
  asked : List String
  result : Except Error Config

/-- Asks for the variables one after the other, and stops at the first value
that cannot be read. -/
def readFrom (lookup : String → Option String) : List Variable → Config → Reading
  | [], config => ⟨[], .ok config⟩
  | v :: rest, config =>
      match lookup v.key with
      | none =>
          let later := readFrom lookup rest config
          ⟨v.key :: later.asked, later.result⟩
      | some raw =>
          match v.set? raw config with
          | none => ⟨[v.key], .error (.invalidConfig v.key raw)⟩
          | some config =>
              let later := readFrom lookup rest config
              ⟨v.key :: later.asked, later.result⟩

/-- Reads the settings through a look-up of variables. -/
def read (lookup : String → Option String) : Reading :=
  readFrom lookup readingOrder {}

/-- Reads the settings from the environment of the process. -/
def ofEnvironment (env : Environment) : Except Error Config :=
  (read env.text?).result

end Config

end RuntimeTypes
