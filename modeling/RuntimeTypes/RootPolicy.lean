import RuntimeTypes.Text.Blank
import RuntimeTypes.Text.Pieces
import RuntimeTypes.Text.Inspect

/-!
Which type names may be defined without a base.
-/

namespace RuntimeTypes

/-- A rule for types without a base. -/
inductive RootPolicy where
  /-- Every type may be a root. -/
  | any
  /-- The built-in roots and the listed names may be roots. -/
  | designated (extra : List String)
  deriving DecidableEq

namespace RootPolicy

/-- The names that every policy accepts as roots. -/
def builtinRoots : List String :=
  ["System.Object", "System.Exception"]

/-- The policy of a process that was told nothing. -/
def default : RootPolicy :=
  designated []

/-- Whether the policy lets a type of this name be a root. -/
def allows : RootPolicy → String → Bool
  | any, _ => true
  | designated extra, name => builtinRoots.contains name || extra.contains name

/-- The names listed in a setting, without the blanks around each. -/
def listedNames (text : String) : List String :=
  (Text.pieces ',' text.toList).map fun piece => String.ofList (Text.trimChars piece)

/-- Reads a policy: the word for all types, or a list of names none of which is blank. -/
def ofText? (text : String) : Option RootPolicy :=
  if Text.sameLetters (Text.trim text) "any" then some any
  else if (listedNames text).any String.isEmpty then none
  else some (designated (listedNames text))

/-- The policy as developers see it in a shown value. -/
def inspect : RootPolicy → String
  | any => "Any"
  | designated extra => Text.caseText "Designated" (Text.listText (extra.map Text.quoted))

theorem allows_builtin (policy : RootPolicy) {name : String} (builtin : name ∈ builtinRoots) :
    policy.allows name = true := by
  cases policy with
  | any => rfl
  | designated extra => simp [allows, builtin]

end RootPolicy

end RuntimeTypes
