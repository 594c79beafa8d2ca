import RuntimeTypes.Instance
import RuntimeTypes.Logger
import RuntimeTypes.Registry

/-!
The state that all parts of a program share: one store of descriptors, the
global registry and the isolated ones, what is known about each class, the
settings, the logger, and the lines written so far.  The store and the global
registry come into being at their first use.
-/

namespace RuntimeTypes

/-- Which registry is meant. -/
inductive RegistryRef where
  | global
  | isolated (index : Nat)
  deriving DecidableEq

structure TypeSystem where
  environment : Environment
  logger : Logger
  /-- The store of all descriptors, once it is in use. -/
  store? : Option (Arena Descriptor) := none
  /-- The global registry, once it is in use. -/
  global? : Option Registry := none
  /-- The isolated registries in the order of their creation. -/
  isolated : Array Registry := #[]
  /-- The outcome of each class registration that was tried, latest first. -/
  classes : List (ExceptionClass × Except Error Descriptor) := []
  /-- The settings that took effect. -/
  config? : Option Config := none
  /-- The lines written so far. -/
  log : Array Line := #[]

namespace TypeSystem

/-- The state before anything has happened. -/
def start (environment : Environment) : TypeSystem where
  environment := environment
  logger := .ofEnvironment environment

/-- Writes a message if the logger lets it through. -/
def report (s : TypeSystem) (event : Event) : TypeSystem :=
  match s.logger.line? event with
  | none => s
  | some line => { s with log := s.log.push line }

/-- Reports an event if there is one. -/
def reportAny (s : TypeSystem) : Option Event → TypeSystem
  | none => s
  | some event => s.report event

/-- The store of all descriptors; a new one has the default chunk size. -/
def store (s : TypeSystem) : Arena Descriptor :=
  s.store?.getD (.ofChunkSize { : Config }.arenaChunkSize)

/-- The global registry; a new one has the default policy. -/
def globalRegistry (s : TypeSystem) : Registry :=
  s.global?.getD (.empty { : Config }.rootPolicy)

/-- Takes the global registry, and with it the store, into use. -/
def openGlobal (s : TypeSystem) : TypeSystem :=
  { s with store? := some s.store, global? := some s.globalRegistry }

/-- Makes an isolated registry, and takes the store into use. -/
def addRegistry (s : TypeSystem) (policy : RootPolicy) : RegistryRef × TypeSystem :=
  (.isolated s.isolated.size,
    { s with store? := some s.store, isolated := s.isolated.push (.empty policy) })

/-- The registry that is meant, if there is one. -/
def registryAt (s : TypeSystem) : RegistryRef → Option Registry
  | .global => some s.globalRegistry
  | .isolated index => s.isolated[index]?

/-- The state after a program has got hold of a registry. -/
def touch (s : TypeSystem) : RegistryRef → TypeSystem
  | .global => s.openGlobal
  | .isolated _ => s

/-- Puts a registry in the place of the one that is meant. -/
def setRegistry (s : TypeSystem) (r : Registry) : RegistryRef → TypeSystem
  | .global => { s with global? := some r }
  | .isolated index => { s with isolated := s.isolated.setIfInBounds index r }

/-- Records the outcome of a definition. -/
def settle (s : TypeSystem) (ref : RegistryRef) (outcome : Registry.Outcome) :
    Except Error Descriptor × TypeSystem :=
  (outcome.answer,
    ({ s with store? := some outcome.store }.setRegistry outcome.registry ref).reportAny
      outcome.event?)

/-- Defines a type in the global registry. -/
def defineGlobal (s : TypeSystem) (definition : Definition) :
    Except Error Descriptor × TypeSystem :=
  s.settle .global (s.globalRegistry.define s.store definition)

/-- Defines a type in a registry, if there is one. -/
def define? (s : TypeSystem) (ref : RegistryRef) (definition : Definition) :
    Option (Except Error Descriptor × TypeSystem) :=
  (s.registryAt ref).map fun r => s.settle ref (r.define s.store definition)

/-- Sets the level up to which messages are written. -/
def setLevel (s : TypeSystem) (level : Level) : TypeSystem :=
  { s with logger := { s.logger with level := level } }

/-- Sets the level from a text; a text that names none changes nothing. -/
def setLevelFromText (s : TypeSystem) (text : String) : Except UnknownLevel Unit × TypeSystem :=
  let done := s.logger.setLevelFromText text
  (done.1, { s with logger := done.2 })

/-- Turns coloured tags on or off. -/
def setColored (s : TypeSystem) (colored : Bool) : TypeSystem :=
  { s with logger := { s.logger with colored := colored } }

end TypeSystem

end RuntimeTypes
