import RuntimeTypes.Text.Blank
import RuntimeTypes.Text.Pieces

/-!
Qualified type names: segments joined by single dots.
-/

namespace RuntimeTypes.QualifiedName

/-- A character that no name may hold. -/
def isForbidden (c : Char) : Bool :=
  Text.isBlank c || Text.isControl c

/-- The check made on a name before anything else is decided about a
definition: it is not empty, holds no blank or control character, and has no
empty segment. -/
def isWellFormed (name : String) : Bool :=
  let cs := name.toList
  !cs.isEmpty && !cs.any isForbidden && !(Text.pieces '.' cs).any List.isEmpty

/-- A segment of a name. -/
def IsSegment (segment : List Char) : Prop :=
  segment ≠ [] ∧ ∀ c ∈ segment, c ≠ '.' ∧ isForbidden c = false

/-- The grammar of names: one segment or more, with a dot between two neighbours. -/
def IsName (cs : List Char) : Prop :=
  ∃ segments : List (List Char), segments ≠ [] ∧
    (∀ segment ∈ segments, IsSegment segment) ∧ cs = Text.joined '.' segments

end RuntimeTypes.QualifiedName
