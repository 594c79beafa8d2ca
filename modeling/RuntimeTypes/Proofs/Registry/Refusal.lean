import RuntimeTypes.Proofs.Registry.Judgement

/-!
Why a registry refuses a definition.  Each error goes with one reason, and tells
of the definition and of the type that is in its way.
-/

namespace RuntimeTypes

namespace Registry

variable {r : Registry} {store : Arena Descriptor} {definition : Definition} {e : Error}

/-- The errors that a definition may be answered with, and their reasons. -/
inductive Refuses (r : Registry) (definition : Definition) : Error → Prop
  | malformed (malformed : QualifiedName.isWellFormed definition.name = false) :
      Refuses r definition (.invalidTypeName definition.name)
  | undesignated (formed : QualifiedName.isWellFormed definition.name = true) :
      Refuses r definition (.undesignatedRoot definition.name)
  | otherFields {d : Descriptor} (found : r.lookup definition.name = some d)
      (same : Descriptor.sameBase d.base? definition.base? = true)
      (differ : d.fields ≠ definition.fields) :
      Refuses r definition (.duplicateFields definition.name (Field.listText d.fields)
        (Field.listText definition.fields))
  | otherBase {d : Descriptor} (found : r.lookup definition.name = some d)
      (differ : Descriptor.sameBase d.base? definition.base? = false) :
      Refuses r definition (.duplicateType definition.name (Descriptor.baseText d.base?)
        (Descriptor.baseText definition.base?))

theorem refuses_of_answer (failed : (r.define store definition).answer = .error e) :
    r.Refuses definition e := by
  unfold define at failed
  cases judged : r.judge definition with
  | known d | fresh =>
      rw [judged] at failed
      cases failed
  | malformed =>
      rw [judged] at failed
      cases failed
      exact .malformed (judge_eq_malformed_iff.1 judged)
  | undesignated =>
      rw [judged] at failed
      cases failed
      exact .undesignated (wellFormed_of_undesignated judged)
  | otherFields d =>
      rw [judged] at failed
      cases failed
      obtain ⟨_, found, same, differ⟩ := judge_eq_otherFields_iff.1 judged
      exact .otherFields found same differ
  | otherBase d =>
      rw [judged] at failed
      cases failed
      obtain ⟨_, found, differ⟩ := judge_eq_otherBase_iff.1 judged
      exact .otherBase found differ

end Registry

end RuntimeTypes
