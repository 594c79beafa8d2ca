import RuntimeTypes.TypeSystem

/-!
Definitions as a program writes them down: the base of a type is told by its
name, and is the type that the same registry has under that name.  A script is
a sequence of such declarations for several registries.
-/

namespace RuntimeTypes

/-- A definition whose base is told by its name. -/
structure Declaration where
  name : String
  base? : Option String := none
  fields : List Field := []
  handle? : Option Constructor := none
  deriving DecidableEq

namespace Declaration

/-- The definition that is meant once the base is found. -/
def on (declaration : Declaration) (base? : Option Descriptor) : Definition where
  name := declaration.name
  base? := base?
  fields := declaration.fields
  handle? := declaration.handle?

end Declaration

/-- A definition with the name of its base in the place of the base. -/
def Definition.declaration (definition : Definition) : Declaration where
  name := definition.name
  base? := definition.base?.map Descriptor.name
  fields := definition.fields
  handle? := definition.handle?

/-- The definition that a declaration means in a registry, if its base is registered there. -/
def Registry.definition? (r : Registry) (declaration : Declaration) : Option Definition :=
  match declaration.base? with
  | none => some (declaration.on none)
  | some base => (r.lookup base).map fun d => declaration.on (some d)

/-- Declarations in the order in which they are carried out, each with its registry. -/
abbrev Script := List (RegistryRef × Declaration)

/-- What belongs to one registry, in order. -/
def own {α : Type} (ref : RegistryRef) (entries : List (RegistryRef × α)) : List α :=
  (entries.filter fun entry => entry.1 = ref).map Prod.snd

/-- What a script has for one registry, as a script for another registry and no more. -/
def Script.solo (script : Script) (ref place : RegistryRef) : Script :=
  (own ref script).map fun declaration => (place, declaration)

section Own

variable {α : Type} (ref : RegistryRef) {place : RegistryRef}

@[simp] theorem own_nil : own ref ([] : List (RegistryRef × α)) = [] := rfl

@[simp] theorem own_cons_self (x : α) (rest : List (RegistryRef × α)) :
    own ref ((ref, x) :: rest) = x :: own ref rest := by
  simp [own]

theorem own_cons_of_ne (other : place ≠ ref) (x : α) (rest : List (RegistryRef × α)) :
    own ref ((place, x) :: rest) = own ref rest := by
  simp [own, other]

end Own

namespace TypeSystem

/-- Carries out a declaration.  One whose base is not registered is no call, and has no answer. -/
def declare (s : TypeSystem) (ref : RegistryRef) (declaration : Declaration) :
    Option (Except Error Descriptor) × TypeSystem :=
  match (s.registryAt ref).bind fun r => r.definition? declaration with
  | none => (none, s)
  | some definition =>
      match s.define? ref definition with
      | none => (none, s)
      | some done => (some done.1, done.2)

/-- Carries out a script; each answer stands beside the registry that gave it. -/
def declareAll (s : TypeSystem) :
    Script → List (RegistryRef × Option (Except Error Descriptor)) × TypeSystem
  | [] => ([], s)
  | (ref, declaration) :: rest =>
      let done := s.declare ref declaration
      let later := done.2.declareAll rest
      ((ref, done.1) :: later.1, later.2)

end TypeSystem

end RuntimeTypes
