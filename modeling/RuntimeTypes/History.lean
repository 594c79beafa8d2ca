import RuntimeTypes.TypeSystem.Configure

/-!
What a program can do with the type system, and the states that any number of
operations lead to.
-/

namespace RuntimeTypes

/-- An operation of a program. -/
inductive Operation where
  | addRegistry (policy : RootPolicy)
  | touch (ref : RegistryRef)
  | define (ref : RegistryRef) (definition : Definition)
  | describe (c : ExceptionClass)
  | require (c : ExceptionClass)
  | construct (c : ExceptionClass)
  | instantiate (host : TypeSystem.Host) (d : Descriptor)
  | downcast (x : Instance) (c : ExceptionClass)
  | configure (config : Config)
  | setLevel (level : Level)
  | setColored (colored : Bool)
  | emit (level : Level) (target text : String)

/-- What an operation answers. -/
inductive Answer where
  | registry (ref : RegistryRef)
  | type (answer : Except Error Descriptor)
  | required (answer : Except String Descriptor)
  | built (answer : Except Error Exception)
  | object (answer : Except Error Instance)
  | cast (found : Option Exception)
  | configured (answer : Except Error Unit)
  | nothing

namespace TypeSystem

/-- Carries out an operation.  A definition in a registry that does not exist is no operation. -/
def perform (s : TypeSystem) (op : Operation) (find : Finder := descriptorOf) :
    Answer × TypeSystem :=
  match op with
  | .addRegistry policy =>
      let done := s.addRegistry policy
      (.registry done.1, done.2)
  | .touch ref => (.nothing, s.touch ref)
  | .define ref definition =>
      match s.define? ref definition with
      | none => (.nothing, s)
      | some done => (.type done.1, done.2)
  | .describe c =>
      let done := find s c
      (.type done.1, done.2)
  | .require c =>
      let done := s.requireDescriptor c find
      (.required done.1, done.2)
  | .construct c =>
      let done := s.construct c find
      (.built done.1, done.2)
  | .instantiate host d =>
      let done := s.instantiate host d find
      (.object done.1, done.2)
  | .downcast x c =>
      let done := s.downcast x c find
      (.cast done.1, done.2)
  | .configure config =>
      let done := s.configure config find
      (.configured done.1, done.2)
  | .setLevel level => (.nothing, s.setLevel level)
  | .setColored colored => (.nothing, s.setColored colored)
  | .emit level target text => (.nothing, s.report (.hostMessage level target text))

/-- The answers to operations in order, and the state after them. -/
def performAll (s : TypeSystem) (ops : List Operation) (find : Finder := descriptorOf) :
    List Answer × TypeSystem :=
  match ops with
  | [] => ([], s)
  | op :: rest =>
      let done := s.perform op find
      let later := done.2.performAll rest find
      (done.1 :: later.1, later.2)

/-- Whether a descriptor was made here. -/
def Holds (s : TypeSystem) (d : Descriptor) : Prop :=
  d ∈ s.store.toList

/-- What an operation may refer to: descriptors that were made here. -/
def Admits (s : TypeSystem) : Operation → Prop
  | .define _ definition => ∀ base, definition.base? = some base → s.Holds base
  | .instantiate _ d => s.Holds d
  | .downcast x _ => s.Holds x.descriptor
  | _ => True

instance (s : TypeSystem) (d : Descriptor) : Decidable (s.Holds d) :=
  inferInstanceAs (Decidable (d ∈ s.store.toList))

instance (s : TypeSystem) (op : Operation) : Decidable (s.Admits op) :=
  match op with
  | .define _ definition =>
      inferInstanceAs (Decidable (∀ base ∈ definition.base?, s.Holds base))
  | .instantiate _ d => inferInstanceAs (Decidable (s.Holds d))
  | .downcast x _ => inferInstanceAs (Decidable (s.Holds x.descriptor))
  | .addRegistry _ | .touch _ | .describe _ | .require _ | .construct _ | .configure _
  | .setLevel _ | .setColored _ | .emit _ _ _ => inferInstanceAs (Decidable True)

/-- Whether some operations lead from one state to another. -/
inductive Leads (s : TypeSystem) : TypeSystem → Prop where
  | refl : Leads s s
  | step {t : TypeSystem} {op : Operation} :
      Leads s t → t.Admits op → Leads s (t.perform op).2

/-- The states that a program may find in some environment. -/
def Reachable (s : TypeSystem) : Prop :=
  ∃ environment, Leads (start environment) s

/-- Whether each of some operations refers only to what was made before it. -/
def AdmitsAll (s : TypeSystem) : List Operation → Prop
  | [] => True
  | op :: rest => s.Admits op ∧ (s.perform op).2.AdmitsAll rest

instance decidableAdmitsAll :
    (s : TypeSystem) → (ops : List Operation) → Decidable (s.AdmitsAll ops)
  | _, [] => inferInstanceAs (Decidable True)
  | s, op :: rest =>
      have := decidableAdmitsAll (s.perform op).2 rest
      inferInstanceAs (Decidable (s.Admits op ∧ (s.perform op).2.AdmitsAll rest))

theorem Leads.trans {s t u : TypeSystem} (first : Leads s t) (second : Leads t u) :
    Leads s u := by
  induction second with
  | refl => exact first
  | step _ admits ih => exact .step ih admits

theorem leads_performAll {s : TypeSystem} {ops : List Operation} (admitted : s.AdmitsAll ops) :
    s.Leads (s.performAll ops).2 := by
  induction ops generalizing s with
  | nil => exact .refl
  | cons op rest ih =>
      obtain ⟨first, later⟩ := admitted
      exact (Leads.step .refl first).trans (ih later)

theorem reachable_performAll {environment : Environment} {ops : List Operation}
    (admitted : (start environment).AdmitsAll ops) :
    Reachable ((start environment).performAll ops).2 :=
  ⟨environment, leads_performAll admitted⟩

end TypeSystem

end RuntimeTypes
