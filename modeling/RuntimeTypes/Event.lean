import RuntimeTypes.Config
import RuntimeTypes.Descriptor

/-!
What the runtime reports while it works, and the wording of each report.
-/

namespace RuntimeTypes

/-- Something worth a log message. -/
inductive Event where
  /-- A type without a base was refused. -/
  | rejectedRoot (name : String)
  /-- A definition repeated an earlier one. -/
  | sameShape (name : String)
  /-- A definition gave a registered type other fields. -/
  | otherFields (name : String) (existing requested : List Field)
  /-- A definition gave a registered type another base. -/
  | otherBase (name : String) (existing requested : Option Descriptor)
  /-- A type was registered. -/
  | registered (d : Descriptor)
  /-- The settings ask for another chunk size than that of the store in use. -/
  | storeInUse (chunkSize requested : Nat)
  /-- The settings ask for another policy than that of the registry in use. -/
  | policyInUse (policy requested : RootPolicy)
  /-- The settings took effect. -/
  | initialized (policy : InitPolicy) (types : Nat)
  /-- A class that the program relies on cannot be registered. -/
  | classFailed (cause : Error)
  /-- A message of the host. -/
  | hostMessage (level : Level) (target text : String)

namespace Event

def level : Event → Level
  | rejectedRoot .. => .warn
  | sameShape .. => .trace
  | otherFields .. => .warn
  | otherBase .. => .warn
  | registered .. => .debug
  | storeInUse .. => .warn
  | policyInUse .. => .warn
  | initialized .. => .info
  | classFailed .. => .error
  | hostMessage level _ _ => level

/-- The part of the program that the message is about. -/
def target : Event → String
  | rejectedRoot .. => "reflex::runtime::registry"
  | sameShape .. => "reflex::runtime::registry"
  | otherFields .. => "reflex::runtime::registry"
  | otherBase .. => "reflex::runtime::registry"
  | registered .. => "reflex::runtime::registry"
  | storeInUse .. => "reflex::runtime"
  | policyInUse .. => "reflex::runtime"
  | initialized .. => "reflex::runtime"
  | classFailed .. => "reflex::runtime::instance"
  | hostMessage _ target _ => target

/-- The message that goes with the failure of a class registration. -/
def classFailedText (cause : Error) : String :=
  s!"cannot register built-in class descriptor: {cause.message}"

def text : Event → String
  | rejectedRoot name => s!"rejected root type `{name}`: not a designated root"
  | sameShape name => s!"`{name}` already defined with the same shape"
  | otherFields name existing requested =>
      s!"conflicting definition of `{name}`: " ++
        s!"registered fields ({Field.listText existing}), " ++
        s!"requested fields ({Field.listText requested})"
  | otherBase name existing requested =>
      s!"conflicting definition of `{name}`: " ++
        s!"registered base {Descriptor.baseText existing}, " ++
        s!"requested base {Descriptor.baseText requested}"
  | registered d =>
      s!"registered `{d.name}` (base {Descriptor.baseText d.base?}, {d.fields.length} fields)"
  | storeInUse chunkSize requested =>
      s!"descriptor arena already in use with chunk size {chunkSize}; requested {requested}"
  | policyInUse policy requested =>
      s!"global registry already in use with root policy {policy.inspect}; " ++
        s!"requested {requested.inspect}"
  | initialized policy types =>
      s!"runtime initialized ({policy.inspect}, {types} types registered)"
  | classFailed cause => classFailedText cause
  | hostMessage _ _ text => text

end Event

/-- A written message. -/
structure Line where
  event : Event
  colored : Bool

namespace Line

/-- The tag in front of a line, in its colour or without any. -/
def tag (line : Line) : String :=
  let level := line.event.level
  if line.colored then s!"\x1b[{level.colour}m[{level.name}]\x1b[0m" else s!"[{level.name}]"

def text (line : Line) : String :=
  s!"{line.tag} {line.event.target}: {line.event.text}"

end Line

end RuntimeTypes
