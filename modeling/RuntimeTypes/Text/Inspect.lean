import RuntimeTypes.Text.Quoted

/-!
The one-line notation in which values are shown to developers: records with
named parts, cases with parts in parentheses, lists in brackets.
-/

namespace RuntimeTypes.Text

/-- A record: its name, then its parts as pairs of a label and a shown value. -/
def recordText (name : String) (parts : List (String × String)) : String :=
  s!"{name} \x7b " ++ String.intercalate ", " (parts.map fun part => s!"{part.1}: {part.2}") ++
    " \x7d"

/-- A case with one shown part. -/
def caseText (name part : String) : String :=
  s!"{name}({part})"

/-- A list of shown values. -/
def listText (items : List String) : String :=
  "[" ++ String.intercalate ", " items ++ "]"

/-- A value that may be missing, already shown. -/
def optionText : Option String → String
  | none => "None"
  | some part => caseText "Some" part

/-- A truth value. -/
def boolText : Bool → String
  | true => "true"
  | false => "false"

end RuntimeTypes.Text
