/-!
Exception classes: one root class, and classes declared on top of others.
-/

namespace RuntimeTypes

/-- A class that objects can be built of.  Two classes may be registered under
the same type name; it is the identifier of the declaration that tells them apart. -/
inductive ExceptionClass where
  | root
  | derived (ident typeName : String) (base : ExceptionClass)
  deriving DecidableEq

namespace ExceptionClass

/-- The identifier under which the class is declared. -/
def ident : ExceptionClass → String
  | root => "Exception"
  | derived ident _ _ => ident

/-- The qualified type name under which the class is registered. -/
def typeName : ExceptionClass → String
  | root => "System.Exception"
  | derived _ typeName _ => typeName

/-- The class it was declared on top of. -/
def base? : ExceptionClass → Option ExceptionClass
  | root => none
  | derived _ _ base => some base

/-- The class, its base, the base of that, down to the root class. -/
def lineage : ExceptionClass → List ExceptionClass
  | root => [root]
  | derived ident typeName base => derived ident typeName base :: base.lineage

/-- Base of the exceptions that the runtime itself raises. -/
def system : ExceptionClass :=
  derived "SystemException" "System.SystemException" root

/-- An operation ran out of time. -/
def timeout : ExceptionClass :=
  derived "TimeoutException" "System.TimeoutException" system

/-- The classes of the runtime itself, each after its base. -/
def builtins : List ExceptionClass :=
  [root, system, timeout]

end ExceptionClass

end RuntimeTypes
