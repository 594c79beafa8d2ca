import RuntimeTypes.Arena
import RuntimeTypes.Event
import RuntimeTypes.Hierarchy
import RuntimeTypes.QualifiedName
import Std.Data.TreeMap.Basic

/-!
A registry maps qualified names to descriptors.  The first definition of a name
makes its descriptor; a later one of the same shape gets the same descriptor,
and any other is refused.
-/

namespace RuntimeTypes

/-- A request to register a type. -/
structure Definition where
  name : String
  base? : Option Descriptor := none
  fields : List Field := []
  handle? : Option Constructor := none
  deriving DecidableEq

/-- The part of a definition that goes into the descriptor as it is. -/
def Definition.info (definition : Definition) : TypeInfo where
  name := definition.name
  fields := definition.fields
  handle? := definition.handle?

/-- A table of types by name, and the rule for those without a base.  The table
is kept in the order of the names, character by character. -/
structure Registry where
  policy : RootPolicy
  types : Std.TreeMap String Descriptor := ∅

/-- How a registry judges a definition. -/
inductive Verdict where
  /-- The name is not a qualified name. -/
  | malformed
  /-- The type has no base and may not be a root. -/
  | undesignated
  /-- The name is registered with the same base and fields. -/
  | known (existing : Descriptor)
  /-- The name is registered with the same base and other fields. -/
  | otherFields (existing : Descriptor)
  /-- The name is registered with another base. -/
  | otherBase (existing : Descriptor)
  /-- The name is free. -/
  | fresh
  deriving DecidableEq

namespace Registry

/-- A registry without types. -/
def empty (policy : RootPolicy) : Registry where
  policy := policy

def lookup (r : Registry) (name : String) : Option Descriptor :=
  r.types[name]?

def contains (r : Registry) (name : String) : Bool :=
  r.types.contains name

def size (r : Registry) : Nat :=
  r.types.size

def isEmpty (r : Registry) : Bool :=
  r.types.isEmpty

/-- All types in the order of their names. -/
def allTypes (r : Registry) : List Descriptor :=
  r.types.values

/-- The types whose direct base is `base`, in the order of their names. -/
def subtypesOf (r : Registry) (base : Descriptor) : List Descriptor :=
  r.allTypes.filter fun d => Descriptor.sameBase d.base? (some base)

/-- The registry as developers see it in a shown value. -/
def inspect (r : Registry) : String :=
  Text.recordText "TypeRegistry"
    [("types", toString r.size), ("root_policy", r.policy.inspect)]

/-- The first objection to a definition, if there is one.  The name is looked
at first, then the right to be a root, then what is registered already. -/
def judge (r : Registry) (definition : Definition) : Verdict :=
  if !QualifiedName.isWellFormed definition.name then .malformed
  else if definition.base?.isNone && !r.policy.allows definition.name then .undesignated
  else
    match r.lookup definition.name with
    | none => .fresh
    | some existing =>
        if !Descriptor.sameBase existing.base? definition.base? then .otherBase existing
        else if existing.fields = definition.fields then .known existing
        else .otherFields existing

/-- The outcome of a definition: the answer, the registry and the store of all
descriptors afterwards, and what is worth reporting. -/
structure Outcome where
  answer : Except Error Descriptor
  registry : Registry
  store : Arena Descriptor
  event? : Option Event

/-- Enters a new descriptor into the store and the table. -/
def register (r : Registry) (store : Arena Descriptor) (definition : Definition) : Outcome :=
  let d := Descriptor.make store.size definition.info definition.base?
  { answer := .ok d
    registry := { r with types := r.types.insert definition.name d }
    store := (store.alloc d).2
    event? := some (.registered d) }

/-- Carries out a definition.  Only a free name changes the table and the store. -/
def define (r : Registry) (store : Arena Descriptor) (definition : Definition) : Outcome :=
  let name := definition.name
  match r.judge definition with
  | .malformed =>
      { answer := .error (.invalidTypeName name), registry := r, store, event? := none }
  | .undesignated =>
      { answer := .error (.undesignatedRoot name), registry := r, store,
        event? := some (.rejectedRoot name) }
  | .known existing =>
      { answer := .ok existing, registry := r, store, event? := some (.sameShape existing.name) }
  | .otherFields existing =>
      { answer := .error (.duplicateFields name (Field.listText existing.fields)
          (Field.listText definition.fields)),
        registry := r, store,
        event? := some (.otherFields existing.name existing.fields definition.fields) }
  | .otherBase existing =>
      { answer := .error (.duplicateType name (Descriptor.baseText existing.base?)
          (Descriptor.baseText definition.base?)),
        registry := r, store,
        event? := some (.otherBase existing.name existing.base? definition.base?) }
  | .fresh => r.register store definition

end Registry

end RuntimeTypes
