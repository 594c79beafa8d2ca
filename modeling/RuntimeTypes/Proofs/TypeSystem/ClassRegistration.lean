import RuntimeTypes.Proofs.Hierarchy.Lineage
import RuntimeTypes.Proofs.TypeSystem.Sound

/-!
The registration of classes as a sequence of steps, and what it leaves alone.
-/

namespace RuntimeTypes

namespace TypeSystem

variable {s t : TypeSystem}

theorem global?_defineGlobal (s : TypeSystem) (definition : Definition) :
    (s.defineGlobal definition).2.global? =
      some (s.globalRegistry.define s.store definition).registry := by
  have used := inUse?_settle s .global (s.globalRegistry.define s.store definition) .global
    (r := s.globalRegistry) rfl
  rwa [if_pos rfl] at used

theorem hasSettled_defineGlobal (s : TypeSystem) (definition : Definition) :
    (s.defineGlobal definition).2.HasSettled definition (s.defineGlobal definition).1 :=
  ⟨_, global?_defineGlobal s definition, Registry.settles_define _ _ _⟩

theorem step_defineGlobal {definition : Definition}
    (based : ∀ base, definition.base? = some base → s.Holds base) :
    Step s (s.defineGlobal definition).2 :=
  .define s (registryAt_global s) based

theorem known?_defineGlobal (s : TypeSystem) (definition : Definition) (c : ExceptionClass) :
    (s.defineGlobal definition).2.known? c = s.known? c :=
  known?_settle _ _ _ c

theorem known?_registerClass (s : TypeSystem) (c : ExceptionClass) (base? : Option Descriptor)
    (other : ExceptionClass) :
    (s.registerClass c base?).2.known? other =
      if c = other then some (s.registerClass c base?).1 else s.known? other := by
  unfold registerClass
  rw [known?_remember, known?_defineGlobal]

/-- A class is defined on top of what its base is known with. -/
theorem steps_registerClass {c : ExceptionClass} {base? : Option Descriptor}
    (unknown : s.known? c = none) (based : ∀ base, base? = some base → s.Holds base)
    (reason : ∀ (t : TypeSystem) (outcome : Except Error Descriptor),
      (∀ k, t.known? k = s.known? k) →
      t.HasSettled (classDefinition c base?) outcome → t.Justified c outcome) :
    Steps s (s.registerClass c base?).2 := by
  have known := known?_defineGlobal s (classDefinition c base?)
  refine .tail (.single (step_defineGlobal based)) (.remember _ ?_ ?_)
  · rw [known, unknown]
  · exact reason _ _ known (hasSettled_defineGlobal s _)

/-- Behind every outcome stands a definition that was answered so: that of the
class itself, or of a class below which the error was handed up. -/
theorem Sound.hasSettled_of_known (sound : s.Sound) {c : ExceptionClass}
    {outcome : Except Error Descriptor} (known : s.known? c = some outcome) :
    ∃ k base?, s.HasSettled (classDefinition k base?) outcome := by
  induction c with
  | root => exact ⟨.root, none, sound.justified known⟩
  | derived ident typeName base ih =>
      rcases sound.justified known with ⟨e, above, rfl⟩ | ⟨d, above, settled⟩
      · exact ih above
      · exact ⟨_, some d, settled⟩

theorem Sound.holds_of_known (sound : s.Sound) {c : ExceptionClass} {d : Descriptor}
    (known : s.known? c = some (.ok d)) : s.Holds d := by
  obtain ⟨k, base?, r, used, settled⟩ := sound.hasSettled_of_known known
  have found := (Registry.judge_eq_known_iff.1 settled.judge_eq_known).2.1
  exact (sound.filed .global used found).1

theorem descriptorOf_of_known {c : ExceptionClass} {outcome : Except Error Descriptor}
    (known : s.known? c = some outcome) : s.descriptorOf c = (outcome, s) := by
  cases c <;> simp [descriptorOf, known]

/-- Only classes of the lineage become known. -/
theorem known?_descriptorOf_of_not_mem {c k : ExceptionClass} (outside : k ∉ c.lineage) :
    (s.descriptorOf c).2.known? k = s.known? k := by
  fun_induction descriptorOf s c with
  | case1 | case3 => rfl
  | case2 =>
      simp only [ExceptionClass.lineage, List.mem_singleton] at outside
      rw [known?_registerClass, if_neg (Ne.symm outside)]
  | case4 ident typeName base c unknown e t request ih =>
      simp only [ExceptionClass.lineage, List.mem_cons, not_or] at outside
      rw [known?_remember, if_neg (Ne.symm outside.1)]
      simpa only [request] using ih outside.2
  | case5 ident typeName base c unknown d t request ih =>
      simp only [ExceptionClass.lineage, List.mem_cons, not_or] at outside
      rw [known?_registerClass, if_neg (Ne.symm outside.1)]
      simpa only [request] using ih outside.2

/-- A class that was asked for is known with the answer. -/
theorem known?_descriptorOf (s : TypeSystem) (c : ExceptionClass) :
    (s.descriptorOf c).2.known? c = some (s.descriptorOf c).1 := by
  fun_cases descriptorOf s c with
  | case1 outcome known => exact known
  | case3 ident typeName base c outcome known => exact known
  | case2 => rw [known?_registerClass, if_pos rfl]
  | case4 => rw [known?_remember, if_pos rfl]
  | case5 => rw [known?_registerClass, if_pos rfl]

theorem known?_of_request {base : ExceptionClass} {answer : Except Error Descriptor}
    (request : s.descriptorOf base = (answer, t)) : t.known? base = some answer := by
  simpa only [request] using known?_descriptorOf s base

/-- The request for a base does not make the class known. -/
theorem unknown_of_request {ident typeName : String} {base : ExceptionClass}
    {answer : Except Error Descriptor} (request : s.descriptorOf base = (answer, t))
    (unknown : s.known? (.derived ident typeName base) = none) :
    t.known? (.derived ident typeName base) = none := by
  have kept := known?_descriptorOf_of_not_mem (s := s)
    (ExceptionClass.derived_not_mem_lineage ident typeName base)
  rw [request] at kept
  exact kept.trans unknown

theorem steps_descriptorOf (sound : s.Sound) (c : ExceptionClass) :
    Steps s (s.descriptorOf c).2 := by
  fun_induction descriptorOf s c with
  | case1 | case3 => exact .refl
  | case2 unknown =>
      refine steps_registerClass unknown (fun _ none => ?_) fun _ _ _ settled => settled
      cases none
  | case4 ident typeName base c unknown e t request ih =>
      rw [request] at ih
      have known := known?_of_request request
      exact ih.tail (.remember t (unknown_of_request request unknown) (.inl ⟨e, known, rfl⟩))
  | case5 ident typeName base c unknown d t request ih =>
      rw [request] at ih
      have known := known?_of_request request
      have held : t.Holds d := (ih.sound sound).holds_of_known known
      refine ih.trans (steps_registerClass (unknown_of_request request unknown) ?_
        fun u outcome same settled => ?_)
      · rintro _ ⟨rfl⟩
        exact held
      · exact .inr ⟨d, (same base).trans known, settled⟩

end TypeSystem

end RuntimeTypes
