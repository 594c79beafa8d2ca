import RuntimeTypes.ExceptionClass
import RuntimeTypes.Text.Inspect

/-!
Type descriptors: the record that stands for one registered type.
-/

namespace RuntimeTypes

/-- A field that a type declares in addition to those of its base. -/
structure Field where
  name : String
  typeName : String
  deriving DecidableEq

namespace Field

def text (field : Field) : String :=
  s!"{field.name}: {field.typeName}"

/-- Fields as they stand in messages. -/
def listText (fields : List Field) : String :=
  String.intercalate ", " (fields.map text)

/-- The field as developers see it in a shown value. -/
def inspect (field : Field) : String :=
  Text.recordText "FieldDescriptor"
    [("name", Text.quoted field.name), ("type_name", Text.quoted field.typeName)]

end Field

/-- What a type's constructor runs: the construction of a class, or code of the
host, known by its number. -/
inductive Constructor where
  | ofClass (c : ExceptionClass)
  | external (id : Nat)
  deriving DecidableEq

/-- What a definition tells about a type itself. -/
structure TypeInfo where
  name : String
  fields : List Field
  handle? : Option Constructor
  deriving DecidableEq

/-- A registered type.  The serial number is its place in the store of all
descriptors, so that two descriptors are the same type exactly if they have
the same serial number, whatever their names. -/
inductive Descriptor where
  | root (serial : Nat) (info : TypeInfo)
  | derived (serial : Nat) (info : TypeInfo) (base : Descriptor)
  deriving DecidableEq

namespace Descriptor

/-- The descriptor of a type with or without a base. -/
def make (serial : Nat) (info : TypeInfo) : Option Descriptor → Descriptor
  | none => root serial info
  | some base => derived serial info base

def serial : Descriptor → Nat
  | root serial _ => serial
  | derived serial _ _ => serial

def info : Descriptor → TypeInfo
  | root _ info => info
  | derived _ info _ => info

/-- The direct base; a root has none. -/
def base? : Descriptor → Option Descriptor
  | root _ _ => none
  | derived _ _ base => some base

def name (d : Descriptor) : String :=
  d.info.name

def fields (d : Descriptor) : List Field :=
  d.info.fields

def handle? (d : Descriptor) : Option Constructor :=
  d.info.handle?

def isRoot (d : Descriptor) : Bool :=
  d.base?.isNone

@[simp] theorem serial_make (n : Nat) (info : TypeInfo) (base? : Option Descriptor) :
    (make n info base?).serial = n := by
  cases base? <;> rfl

@[simp] theorem info_make (n : Nat) (info : TypeInfo) (base? : Option Descriptor) :
    (make n info base?).info = info := by
  cases base? <;> rfl

@[simp] theorem base?_make (n : Nat) (info : TypeInfo) (given : Option Descriptor) :
    (make n info given).base? = given := by
  cases given <;> rfl

/-- Whether two descriptors are the same type. -/
def same (a b : Descriptor) : Bool :=
  a.serial == b.serial

/-- Whether two bases, either of which may be missing, are the same. -/
def sameBase : Option Descriptor → Option Descriptor → Bool
  | none, none => true
  | some a, some b => a.same b
  | _, _ => false

/-- A base, or the mark of its absence, as it stands in messages. -/
def baseText (base? : Option Descriptor) : String :=
  (base?.map name).getD "<none>"

/-- The descriptor as developers see it in a shown value. -/
def inspect (d : Descriptor) : String :=
  Text.recordText "TypeDescriptor"
    [("name", Text.quoted d.name),
     ("base", Text.optionText (d.base?.map fun base => Text.quoted base.name)),
     ("fields", Text.listText (d.fields.map Field.inspect)),
     ("constructible", Text.boolText d.handle?.isSome)]

end Descriptor

end RuntimeTypes
