import RuntimeTypes.ExceptionClass

/-!
The lineage of a class: it begins with the class, contains the lineages of its
bases, and meets no class twice.
-/

namespace RuntimeTypes

namespace ExceptionClass

theorem mem_lineage_self (c : ExceptionClass) : c ∈ c.lineage := by
  cases c <;> simp [lineage]

theorem sizeOf_le_of_mem_lineage {c k : ExceptionClass} (above : k ∈ c.lineage) :
    sizeOf k ≤ sizeOf c := by
  induction c with
  | root =>
      simp only [lineage, List.mem_singleton] at above
      exact above ▸ Nat.le_refl _
  | derived ident typeName base ih =>
      simp only [lineage, List.mem_cons] at above
      rcases above with rfl | above
      · exact Nat.le_refl _
      · have := ih above
        simp only [derived.sizeOf_spec]
        omega

/-- No class is among its own bases. -/
theorem derived_not_mem_lineage (ident typeName : String) (base : ExceptionClass) :
    derived ident typeName base ∉ base.lineage := by
  intro above
  have := sizeOf_le_of_mem_lineage above
  simp only [derived.sizeOf_spec] at this
  omega

theorem ne_of_mem_lineage {ident typeName : String} {k base : ExceptionClass}
    (above : k ∈ base.lineage) : derived ident typeName base ≠ k := by
  rintro rfl
  exact derived_not_mem_lineage ident typeName base above

theorem head?_lineage (c : ExceptionClass) : c.lineage.head? = some c := by
  cases c <;> rfl

theorem base_mem_lineage (ident typeName : String) (base : ExceptionClass) :
    base ∈ (derived ident typeName base).lineage :=
  List.mem_cons_of_mem _ (mem_lineage_self base)

theorem mem_lineage_trans {b c k : ExceptionClass} (above : k ∈ c.lineage)
    (above' : b ∈ k.lineage) : b ∈ c.lineage := by
  induction c with
  | root =>
      obtain rfl := List.mem_singleton.1 above
      exact above'
  | derived ident typeName base ih =>
      rcases List.mem_cons.1 above with rfl | above
      · exact above'
      · exact List.mem_cons_of_mem _ (ih above)

end ExceptionClass

end RuntimeTypes
