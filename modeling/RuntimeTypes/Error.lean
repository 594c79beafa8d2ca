import RuntimeTypes.Text.Inspect

/-!
Why an operation of the runtime fails.  The same request in the same situation
fails with the same error, so nothing is worth retrying.
-/

namespace RuntimeTypes

/-- A setting that only the first use of the runtime can choose. -/
inductive Setting where
  | arenaChunkSize
  | rootPolicy
  deriving DecidableEq

namespace Setting

def name : Setting → String
  | arenaChunkSize => "arena_chunk_size"
  | rootPolicy => "root_policy"

def ofName? : String → Option Setting
  | "arena_chunk_size" => some arenaChunkSize
  | "root_policy" => some rootPolicy
  | _ => none

end Setting

/-- The causes of failure. -/
inductive Error where
  /-- The name is taken by a type with another base. -/
  | duplicateType (name existingBase requestedBase : String)
  /-- The name is taken by a type with the same base and other fields. -/
  | duplicateFields (name existingFields requestedFields : String)
  /-- The name is not a qualified name. -/
  | invalidTypeName (name : String)
  /-- The type has no base, and the policy does not make its name a root. -/
  | undesignatedRoot (name : String)
  /-- The type was defined without a constructor. -/
  | notConstructible (name : String)
  /-- The constructor of one type made an object of another. -/
  | constructorMismatch (expected got : String)
  /-- A setting has a value that cannot be read. -/
  | invalidConfig (key value : String)
  /-- The runtime is in use with another value of the setting. -/
  | registryInUse (setting : Setting)
  /-- The runtime is initialized already. -/
  | alreadyInitialized
  deriving DecidableEq

namespace Error

/-- The short name of the cause. -/
def kind : Error → String
  | duplicateType .. => "DuplicateType"
  | duplicateFields .. => "DuplicateFields"
  | invalidTypeName .. => "InvalidTypeName"
  | undesignatedRoot .. => "UndesignatedRoot"
  | notConstructible .. => "NotConstructible"
  | constructorMismatch .. => "ConstructorMismatch"
  | invalidConfig .. => "InvalidConfig"
  | registryInUse .. => "RegistryInUse"
  | alreadyInitialized => "AlreadyInitialized"

/-- The message for users. -/
def message : Error → String
  | duplicateType name existing requested =>
      s!"type `{name}` is already registered with base {existing} (requested base {requested})"
  | duplicateFields name existing requested =>
      s!"type `{name}` is already registered with fields ({existing}) " ++
        s!"(requested fields ({requested}))"
  | invalidTypeName name => s!"invalid qualified type name: {Text.quoted name}"
  | undesignatedRoot name => s!"type `{name}` has no base type and is not a designated root"
  | notConstructible name => s!"type `{name}` has no constructor"
  | constructorMismatch expected got =>
      s!"constructor for `{expected}` produced an instance of `{got}`"
  | invalidConfig key value => s!"invalid value {Text.quoted value} for {key}"
  | registryInUse setting =>
      s!"runtime already in use with a different {setting.name}; initialize before first use"
  | alreadyInitialized => "runtime is already initialized"

/-- The labelled texts that the error carries. -/
def details : Error → List (String × String)
  | duplicateType name existing requested =>
      [("name", name), ("existing_base", existing), ("requested_base", requested)]
  | duplicateFields name existing requested =>
      [("name", name), ("existing_fields", existing), ("requested_fields", requested)]
  | invalidTypeName name => [("name", name)]
  | undesignatedRoot name => [("name", name)]
  | notConstructible name => [("name", name)]
  | constructorMismatch expected got => [("expected", expected), ("got", got)]
  | invalidConfig key value => [("key", key), ("value", value)]
  | registryInUse setting => [("setting", setting.name)]
  | alreadyInitialized => []

/-- The error as developers see it in a shown value. -/
def inspect (e : Error) : String :=
  match e.details with
  | [] => e.kind
  | parts => Text.recordText e.kind (parts.map fun part => (part.1, Text.quoted part.2))

/-- Whether the error reports a conflict with an earlier definition. -/
def isDuplicate : Error → Bool
  | duplicateType .. => true
  | duplicateFields .. => true
  | _ => false

end Error

end RuntimeTypes
