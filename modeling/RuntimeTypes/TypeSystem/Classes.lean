import RuntimeTypes.TypeSystem

/-!
Classes and their objects: the registration of a class, which happens once, and
the construction of objects.
-/

namespace RuntimeTypes

namespace TypeSystem

/-- What is known about a class. -/
def known? (s : TypeSystem) (c : ExceptionClass) : Option (Except Error Descriptor) :=
  (s.classes.find? fun known => known.1 = c).map (·.2)

/-- Keeps the outcome of a class registration for good. -/
def remember (s : TypeSystem) (c : ExceptionClass) (outcome : Except Error Descriptor) :
    TypeSystem :=
  { s with classes := (c, outcome) :: s.classes }

/-- The definition that a class makes for itself: no fields of its own, and its
construction as constructor. -/
def classDefinition (c : ExceptionClass) (base? : Option Descriptor) : Definition where
  name := c.typeName
  base? := base?
  handle? := some (.ofClass c)

/-- Defines a class on top of a base, and keeps the outcome. -/
def registerClass (s : TypeSystem) (c : ExceptionClass) (base? : Option Descriptor) :
    Except Error Descriptor × TypeSystem :=
  let made := s.defineGlobal (classDefinition c base?)
  (made.1, made.2.remember c made.1)

/-- The descriptor of a class.  The first request registers the base and then
the class itself; later ones get the same answer, be it a descriptor or an error. -/
def descriptorOf (s : TypeSystem) : ExceptionClass → Except Error Descriptor × TypeSystem
  | .root =>
      match s.known? .root with
      | some outcome => (outcome, s)
      | none => s.registerClass .root none
  | .derived ident typeName base =>
      let c := ExceptionClass.derived ident typeName base
      match s.known? c with
      | some outcome => (outcome, s)
      | none =>
          match s.descriptorOf base with
          | (.error e, s) => (.error e, s.remember c (.error e))
          | (.ok d, s) => s.registerClass c (some d)

/-- A way to find the descriptor of a class: the answer, and the state after it. -/
abbrev Finder := TypeSystem → ExceptionClass → Except Error Descriptor × TypeSystem

/-- The descriptors of classes in turn, up to the first that cannot be registered. -/
def registerAll (s : TypeSystem) (classes : List ExceptionClass)
    (find : Finder := descriptorOf) : Except Error Unit × TypeSystem :=
  match classes with
  | [] => (.ok (), s)
  | c :: rest =>
      match find s c with
      | (.error e, s) => (.error e, s)
      | (.ok _, s) => s.registerAll rest find

/-- The descriptor of a class that the program cannot do without.  Failure is
reported, and the message of the report ends the program. -/
def requireDescriptor (s : TypeSystem) (c : ExceptionClass) (find : Finder := descriptorOf) :
    Except String Descriptor × TypeSystem :=
  match find s c with
  | (.ok d, s) => (.ok d, s)
  | (.error e, s) => (.error (Event.classFailedText e), s.report (.classFailed e))

/-- Builds an object of a class: first the object of the base, then the class
layer around it, with the descriptor of the class in the payload. -/
def construct (s : TypeSystem) (c : ExceptionClass) (find : Finder := descriptorOf) :
    Except Error Exception × TypeSystem :=
  match c with
  | .root =>
      match find s .root with
      | (.error e, s) => (.error e, s)
      | (.ok d, s) => (.ok (.payload none d), s)
  | .derived ident typeName base =>
      match s.construct base find with
      | (.error e, s) => (.error e, s)
      | (.ok x, s) =>
          match find s (.derived ident typeName base) with
          | (.error e, s) => (.error e, s)
          | (.ok d, s) => (.ok (.layer ident typeName (x.restamp d)), s)

/-- What the constructors of the host make at the moment, by their numbers. -/
abbrev Host := Nat → Except Error Instance

/-- Runs a constructor. -/
def run (s : TypeSystem) (host : Host) (handle : Constructor) (find : Finder := descriptorOf) :
    Except Error Instance × TypeSystem :=
  match handle with
  | .ofClass c =>
      match s.construct c find with
      | (.error e, s) => (.error e, s)
      | (.ok x, s) => (.ok (.exception x), s)
  | .external id => (host id, s)

/-- Builds an object of a type through its constructor.  What the constructor
makes must be of this very type. -/
def instantiate (s : TypeSystem) (host : Host) (d : Descriptor)
    (find : Finder := descriptorOf) : Except Error Instance × TypeSystem :=
  match d.handle? with
  | none => (.error (.notConstructible d.name), s)
  | some handle =>
      match s.run host handle find with
      | (.error e, s) => (.error e, s)
      | (.ok x, s) =>
          if x.descriptor.same d then (.ok x, s)
          else (.error (.constructorMismatch d.name x.descriptor.name), s)

/-- An object as an object of a class: the class can be registered, the object
reports its descriptor, and its exact class is that class. -/
def downcast (s : TypeSystem) (x : Instance) (c : ExceptionClass)
    (find : Finder := descriptorOf) : Option Exception × TypeSystem :=
  match find s c with
  | (.error _, s) => (none, s)
  | (.ok d, s) => (if x.descriptor.same d then x.ofClass? c else none, s)

end TypeSystem

end RuntimeTypes
