import RuntimeTypes.Descriptor

/-!
Exception objects.  The payload of the root class carries the message, the
inner exception and the descriptor of the exact class; each class declared on
top of another wraps an object of its base and hands every question down.
-/

namespace RuntimeTypes

/-- An object of an exception class, its base layers inside. -/
inductive Exception where
  /-- The payload of an exception without an inner one. -/
  | payload (message? : Option String) (stamp : Descriptor)
  /-- The payload of an exception that was caused by another one. -/
  | caused (message? : Option String) (stamp : Descriptor) (inner : Exception)
  /-- A class layer around an object of the base class. -/
  | layer (ident typeName : String) (base : Exception)
  deriving DecidableEq

namespace Exception

/-- The class of the object itself, which its outermost layer tells. -/
def exceptionClass : Exception → ExceptionClass
  | payload _ _ => .root
  | caused _ _ _ => .root
  | layer ident typeName base => .derived ident typeName base.exceptionClass

/-- The descriptor of the exact class; all layers report the same one. -/
def descriptor : Exception → Descriptor
  | payload _ stamp => stamp
  | caused _ stamp _ => stamp
  | layer _ _ base => base.descriptor

/-- The message, if one was set. -/
def message? : Exception → Option String
  | payload message? _ => message?
  | caused message? _ _ => message?
  | layer _ _ base => base.message?

/-- The exception that caused this one. -/
def inner? : Exception → Option Exception
  | payload _ _ => none
  | caused _ _ inner => some inner
  | layer _ _ base => base.inner?

/-- Records the exact class in the payload. -/
def restamp (d : Descriptor) : Exception → Exception
  | payload message? _ => payload message? d
  | caused message? _ inner => caused message? d inner
  | layer ident typeName base => layer ident typeName (base.restamp d)

/-- Sets the message. -/
def withMessage (message : String) : Exception → Exception
  | payload _ stamp => payload (some message) stamp
  | caused _ stamp inner => caused (some message) stamp inner
  | layer ident typeName base => layer ident typeName (base.withMessage message)

/-- Makes another exception the cause of this one, in place of any earlier cause. -/
def withInner (x inner : Exception) : Exception :=
  match x with
  | payload message? stamp => caused message? stamp inner
  | caused message? stamp _ => caused message? stamp inner
  | layer ident typeName base => layer ident typeName (base.withInner inner)

/-- The object and its base layers, outermost first. -/
def layers : Exception → List Exception
  | payload message? stamp => [payload message? stamp]
  | caused message? stamp inner => [caused message? stamp inner]
  | layer ident typeName base => layer ident typeName base :: base.layers

/-- The line shown to users: the name of the type, and the message behind it
if one was set, even an empty one. -/
def displayText (stamp : Descriptor) : Option String → String
  | none => stamp.name
  | some message => s!"{stamp.name}: {message}"

/-- Each layer is displayed as its base is. -/
def display : Exception → String
  | payload message? stamp => displayText stamp message?
  | caused message? stamp _ => displayText stamp message?
  | layer _ _ base => base.display

/-- The error that lies behind this one, for code that knows errors only. -/
def source? : Exception → Option Exception
  | payload _ _ => none
  | caused _ _ inner => some inner
  | layer _ _ base => base.source?

/-- How many layers the object and all exceptions inside it have together. -/
def weight : Exception → Nat
  | payload _ _ => 1
  | caused _ _ inner => inner.weight + 1
  | layer _ _ base => base.weight + 1

/-- The exceptions met by a number of steps, as far as there are any. -/
def trail (next? : Exception → Option Exception) : Nat → Exception → List Exception
  | 0, _ => []
  | n + 1, x =>
      match next? x with
      | none => []
      | some y => y :: trail next? n y

/-- The inner exception, its inner exception, to the end.  Each lies inside the
one before it, so no more steps are needed than the object has layers. -/
def inners (x : Exception) : List Exception :=
  trail inner? x.weight x

/-- The error behind this one, the error behind that, to the end. -/
def sources (x : Exception) : List Exception :=
  trail source? x.weight x

/-- The exception a number of levels down the inner exceptions. -/
def innerAt? (x : Exception) (level : Nat) : Option Exception :=
  (x :: x.inners)[level]?

/-- The parts of a payload in a shown value. -/
def payloadText (stamp : Descriptor) (message? inner? : Option String) : String :=
  Text.recordText "Exception"
    [("type", Text.quoted stamp.name),
     ("message", Text.optionText (message?.map Text.quoted)),
     ("inner", Text.optionText inner?)]

/-- The object as developers see it in a shown value. -/
def inspect : Exception → String
  | payload message? stamp => payloadText stamp message? none
  | caused message? stamp inner => payloadText stamp message? (some inner.inspect)
  | layer ident _ base => Text.recordText ident [("base", base.inspect)]

@[simp] theorem descriptor_restamp (d : Descriptor) (x : Exception) :
    (x.restamp d).descriptor = d := by
  induction x with
  | payload message? stamp => rfl
  | caused message? stamp inner => rfl
  | layer ident typeName base ih => exact ih

@[simp] theorem message?_withMessage (message : String) (x : Exception) :
    (x.withMessage message).message? = some message := by
  induction x with
  | payload message? stamp => rfl
  | caused message? stamp inner => rfl
  | layer ident typeName base ih => exact ih

@[simp] theorem inner?_withInner (x inner : Exception) :
    (x.withInner inner).inner? = some inner := by
  induction x with
  | payload message? stamp => rfl
  | caused message? stamp earlier => rfl
  | layer ident typeName base ih => exact ih

end Exception

end RuntimeTypes
