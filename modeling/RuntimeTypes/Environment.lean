/-!
The environment variables of a process.
-/

namespace RuntimeTypes

/-- Variables with their values, which are bytes and need not be text. -/
structure Environment where
  entries : List (String × ByteArray) := []

namespace Environment

/-- The bytes of a variable, if it is set. -/
def bytes? (env : Environment) (key : String) : Option ByteArray :=
  (env.entries.find? fun entry => entry.1 == key).map (·.2)

/-- The text of a variable.  A value that is not valid UTF-8 counts as not set. -/
def text? (env : Environment) (key : String) : Option String :=
  (env.bytes? key).bind String.fromUTF8?

/-- Whether a variable has a value at all. -/
def isSet (env : Environment) (key : String) : Bool :=
  (env.bytes? key).isSome

end Environment

end RuntimeTypes
