import RuntimeTypes.Exception
import RuntimeTypes.Hierarchy

/-!
Objects whose class is not known statically, and the choice of a catch clause
for them.
-/

namespace RuntimeTypes

/-- Something that a constructor makes: an exception, or an object of the host
that carries the descriptor of its type. -/
inductive Instance where
  | exception (x : Exception)
  | foreign (label : String) (stamp : Descriptor)
  deriving DecidableEq

namespace Instance

/-- The type that the object reports. -/
def descriptor : Instance → Descriptor
  | exception x => x.descriptor
  | foreign _ stamp => stamp

/-- The identifier of the class that the object really has. -/
def classIdent : Instance → String
  | exception x => x.exceptionClass.ident
  | foreign label _ => label

/-- The object as an object of a class, if that is its exact class. -/
def ofClass? (c : ExceptionClass) : Instance → Option Exception
  | exception x => if x.exceptionClass = c then some x else none
  | foreign _ _ => none

/-- The object as developers see it in a shown value. -/
def inspect : Instance → String
  | exception x => x.inspect
  | foreign label stamp => Text.caseText label stamp.name

/-- Whether a clause for `handler` catches the object. -/
def isCaughtBy (x : Instance) (handler : Descriptor) : Bool :=
  x.descriptor.isSubtypeOf handler

/-- The place of the first clause that catches the object. -/
def catchClause? (x : Instance) (handlers : List Descriptor) : Option Nat :=
  handlers.findIdx? x.isCaughtBy

end Instance

end RuntimeTypes
