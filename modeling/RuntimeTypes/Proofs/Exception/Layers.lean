import RuntimeTypes.Exception
import RuntimeTypes.Proofs.Hierarchy.Lineage

/-!
The layers of an exception object.  What is recorded in the payload shows in all
of them, and a new object has a layer for each class of its lineage.
-/

namespace RuntimeTypes

namespace Exception

theorem head?_layers (x : Exception) : x.layers.head? = some x := by
  cases x <;> rfl

theorem mem_layers_self (x : Exception) : x ∈ x.layers :=
  List.mem_of_head? (head?_layers x)

theorem layers_restamp (d : Descriptor) (x : Exception) :
    (x.restamp d).layers = x.layers.map (restamp d) := by
  induction x with
  | payload | caused => rfl
  | layer ident typeName base ih => exact congrArg _ ih

theorem exceptionClass_restamp (d : Descriptor) (x : Exception) :
    (x.restamp d).exceptionClass = x.exceptionClass := by
  induction x with
  | payload | caused => rfl
  | layer ident typeName base ih => exact congrArg (ExceptionClass.derived ident typeName) ih

theorem message?_restamp (d : Descriptor) (x : Exception) :
    (x.restamp d).message? = x.message? := by
  induction x with
  | payload | caused => rfl
  | layer ident typeName base ih => exact ih

theorem inner?_restamp (d : Descriptor) (x : Exception) : (x.restamp d).inner? = x.inner? := by
  induction x with
  | payload | caused => rfl
  | layer ident typeName base ih => exact ih

theorem descriptor_withMessage (message : String) (x : Exception) :
    (x.withMessage message).descriptor = x.descriptor := by
  induction x with
  | payload | caused => rfl
  | layer ident typeName base ih => exact ih

theorem descriptor_withInner (x inner : Exception) :
    (x.withInner inner).descriptor = x.descriptor := by
  induction x with
  | payload | caused => rfl
  | layer ident typeName base ih => exact ih

/-- An object of a class as it is when it was built: one layer for each class of
the lineage, all of them with the same descriptor, no message and no cause. -/
structure Built (x : Exception) (c : ExceptionClass) (d : Descriptor) : Prop where
  classes : x.layers.map exceptionClass = c.lineage
  reports : ∀ y ∈ x.layers, y.descriptor = d ∧ y.message? = none ∧ y.inner? = none

theorem Built.root (d : Descriptor) : (payload none d).Built .root d where
  classes := rfl
  reports y inside := by
    obtain rfl := List.mem_singleton.1 inside
    exact ⟨rfl, rfl, rfl⟩

theorem Built.descriptor {x : Exception} {c : ExceptionClass} {d : Descriptor}
    (built : x.Built c d) : x.descriptor = d :=
  (built.reports x (mem_layers_self x)).1

theorem Built.exceptionClass {x : Exception} {c : ExceptionClass} {d : Descriptor}
    (built : x.Built c d) : x.exceptionClass = c := by
  have heads := congrArg List.head? built.classes
  rw [List.head?_map, head?_layers, ExceptionClass.head?_lineage] at heads
  exact Option.some.inj heads

theorem Built.layer {x : Exception} {base : ExceptionClass} {d : Descriptor}
    (built : x.Built base d) (ident typeName : String) (stamp : Descriptor) :
    (layer ident typeName (x.restamp stamp)).Built (.derived ident typeName base) stamp where
  classes := by
    have inner : (x.restamp stamp).layers.map Exception.exceptionClass = base.lineage := by
      rw [layers_restamp, List.map_map, ← built.classes]
      exact List.map_congr_left fun y _ => exceptionClass_restamp stamp y
    rw [layers, List.map_cons, inner, Exception.exceptionClass, exceptionClass_restamp,
      built.exceptionClass]
    rfl
  reports y inside := by
    rcases List.mem_cons.1 inside with rfl | inside
    · have self := built.reports x (mem_layers_self x)
      refine ⟨descriptor_restamp stamp x, ?_, ?_⟩
      · exact (message?_restamp stamp x).trans self.2.1
      · exact (inner?_restamp stamp x).trans self.2.2
    · rw [layers_restamp] at inside
      obtain ⟨z, among, rfl⟩ := List.mem_map.1 inside
      have before := built.reports z among
      rw [descriptor_restamp, message?_restamp, inner?_restamp]
      exact ⟨rfl, before.2⟩

end Exception

end RuntimeTypes
