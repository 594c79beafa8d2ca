import RuntimeTypes.Registry

/-!
Many definitions in one registry, one after the other.
-/

namespace RuntimeTypes

namespace Registry

/-- The answers in order, and what the definitions leave behind. -/
structure Batch where
  answers : List (Except Error Descriptor)
  registry : Registry
  store : Arena Descriptor

/-- Carries out definitions in order; a refusal does not stop the later ones. -/
def defineAll (r : Registry) (store : Arena Descriptor) : List Definition → Batch
  | [] => ⟨[], r, store⟩
  | definition :: rest =>
      let made := r.define store definition
      let later := made.registry.defineAll made.store rest
      ⟨made.answer :: later.answers, later.registry, later.store⟩

/-- The definition of a root with nothing but a name. -/
def rootDefinition (name : String) : Definition where
  name := name

/-- Defines roots by their names. -/
def defineRoots (r : Registry) (store : Arena Descriptor) (names : List String) : Batch :=
  r.defineAll store (names.map rootDefinition)

end Registry

end RuntimeTypes
