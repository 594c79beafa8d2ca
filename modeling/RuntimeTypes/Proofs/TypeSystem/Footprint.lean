import RuntimeTypes.Proofs.TypeSystem.Operations

/-!
What a request for a class descriptor touches: the classes of the lineage,
their names in the global registry, and the store, which gains their
descriptors.
-/

namespace RuntimeTypes

namespace TypeSystem

variable {s t u : TypeSystem} {classes more : List ExceptionClass}

/-- From one state to a later one, some classes were registered and nothing
else happened but reports. -/
structure Registers (classes : List ExceptionClass) (s t : TypeSystem) : Prop where
  grown : s.Extends t
  environment : t.environment = s.environment
  logger : t.logger = s.logger
  isolated : t.isolated = s.isolated
  config : t.config? = s.config?
  policy : t.globalRegistry.policy = s.globalRegistry.policy
  known : ∀ c, c ∉ classes → t.known? c = s.known? c
  lookup : ∀ name, name ∉ classes.map ExceptionClass.typeName →
    t.globalRegistry.lookup name = s.globalRegistry.lookup name
  stored : ∃ made, t.store.toList = s.store.toList ++ made ∧
    ∀ d ∈ made, ∃ c ∈ classes, t.known? c = some (.ok d)

theorem Registers.refl (classes : List ExceptionClass) (s : TypeSystem) :
    s.Registers classes s where
  grown := .refl s
  environment := rfl
  logger := rfl
  isolated := rfl
  config := rfl
  policy := rfl
  known _ _ := rfl
  lookup _ _ := rfl
  stored := ⟨[], by simp, by simp⟩

theorem Registers.mono (touched : s.Registers classes t) (subset : classes ⊆ more) :
    s.Registers more t where
  grown := touched.grown
  environment := touched.environment
  logger := touched.logger
  isolated := touched.isolated
  config := touched.config
  policy := touched.policy
  known c outside := touched.known c fun inside => outside (subset inside)
  lookup name outside := touched.lookup name fun inside =>
    outside (List.map_subset _ subset inside)
  stored := by
    obtain ⟨made, stored, each⟩ := touched.stored
    refine ⟨made, stored, ?_⟩
    intro d new
    obtain ⟨c, inside, known⟩ := each d new
    exact ⟨c, subset inside, known⟩

theorem Registers.trans (first : s.Registers classes t) (second : t.Registers classes u) :
    s.Registers classes u where
  grown := first.grown.trans second.grown
  environment := second.environment.trans first.environment
  logger := second.logger.trans first.logger
  isolated := second.isolated.trans first.isolated
  config := second.config.trans first.config
  policy := second.policy.trans first.policy
  known c outside := (second.known c outside).trans (first.known c outside)
  lookup name outside := (second.lookup name outside).trans (first.lookup name outside)
  stored := by
    obtain ⟨made, stored, each⟩ := first.stored
    obtain ⟨made', stored', each'⟩ := second.stored
    refine ⟨made ++ made', by rw [stored', stored, List.append_assoc], ?_⟩
    intro d new
    rcases List.mem_append.1 new with new | new
    · obtain ⟨c, inside, known⟩ := each d new
      exact ⟨c, inside, second.grown.known known⟩
    · exact each' d new

theorem globalRegistry_registerClass (s : TypeSystem) (c : ExceptionClass)
    (base? : Option Descriptor) : (s.registerClass c base?).2.globalRegistry =
      (s.globalRegistry.define s.store (classDefinition c base?)).registry := by
  have used := global?_defineGlobal s (classDefinition c base?)
  change ((s.defineGlobal (classDefinition c base?)).2.global?.getD _) = _
  rw [used, Option.getD_some]

theorem registerClass_of_fresh {c : ExceptionClass} {base? : Option Descriptor}
    (fresh : s.globalRegistry.judge (classDefinition c base?) = .fresh) :
    (s.registerClass c base?).1 = .ok (Registry.made s.store (classDefinition c base?)) := by
  change (s.globalRegistry.define s.store (classDefinition c base?)).answer = _
  rw [Registry.define_of_fresh fresh]
  rfl

/-- The definition of a class stores its descriptor, or nothing. -/
theorem stored_registerClass (s : TypeSystem) (c : ExceptionClass) (base? : Option Descriptor) :
    ∃ made? : Option Descriptor,
      (s.registerClass c base?).2.store.toList = s.store.toList ++ made?.toList ∧
        ∀ d, made? = some d → (s.registerClass c base?).1 = .ok d := by
  have stored : (s.registerClass c base?).2.store =
      (s.globalRegistry.define s.store (classDefinition c base?)).store :=
    store_settle _ _ _
  by_cases fresh : s.globalRegistry.judge (classDefinition c base?) = .fresh
  · refine ⟨some (Registry.made s.store (classDefinition c base?)), ?_, ?_⟩
    · rw [stored, Registry.define_of_fresh fresh]
      exact Arena.toList_alloc _ _
    · rintro d ⟨⟩
      exact registerClass_of_fresh fresh
  · refine ⟨none, ?_, by simp⟩
    rw [stored, (Registry.define_of_ne_fresh fresh).2, Option.toList_none, List.append_nil]

theorem registers_registerClass {c : ExceptionClass} (unknown : s.known? c = none)
    (base? : Option Descriptor) : s.Registers [c] (s.registerClass c base?).2 := by
  have defined := extends_settle (registryAt_global s) (classDefinition c base?)
  have kept := settle_keeps s .global
    (s.globalRegistry.define s.store (classDefinition c base?))
  have unknown' : (s.defineGlobal (classDefinition c base?)).2.known? c = none := by
    rw [known?_defineGlobal, unknown]
  refine ⟨defined.trans (extends_remember unknown' _), kept.1, kept.2.1, ?_, kept.2.2.2, ?_,
    ?_, ?_, ?_⟩
  · change (s.settle .global _).2.isolated = s.isolated
    rw [settle, reportAny_eq]
    rfl
  · rw [globalRegistry_registerClass]
    exact (s.globalRegistry.extends_define s.store _).policy
  · intro other outside
    rw [known?_registerClass, if_neg]
    intro same
    exact outside (same ▸ List.mem_singleton_self c)
  · intro name outside
    rw [globalRegistry_registerClass]
    apply Registry.lookup_define_of_ne
    intro same
    exact outside (same ▸ List.mem_singleton_self _)
  · obtain ⟨made?, stored, each⟩ := stored_registerClass s c base?
    refine ⟨made?.toList, stored, ?_⟩
    intro d new
    refine ⟨c, List.mem_singleton_self c, ?_⟩
    rw [known?_registerClass, if_pos rfl, each d (Option.mem_toList.1 new)]

theorem registers_remember {c : ExceptionClass} (unknown : s.known? c = none)
    (outcome : Except Error Descriptor) : s.Registers [c] (s.remember c outcome) where
  grown := extends_remember unknown outcome
  environment := rfl
  logger := rfl
  isolated := rfl
  config := rfl
  policy := rfl
  known other outside := by
    rw [known?_remember, if_neg]
    intro same
    exact outside (same ▸ List.mem_singleton_self c)
  lookup _ _ := rfl
  stored := ⟨[], by simp [store, remember], by simp⟩

/-- A request touches the lineage of the class and nothing else. -/
theorem registers_descriptorOf (s : TypeSystem) (c : ExceptionClass) :
    s.Registers c.lineage (s.descriptorOf c).2 := by
  fun_induction descriptorOf s c with
  | case1 | case3 => exact .refl _ s
  | case2 unknown => exact registers_registerClass unknown none
  | case4 ident typeName base c unknown e t request ih =>
      rw [request] at ih
      have last := registers_remember (unknown_of_request request unknown) (.error e)
      exact (ih.mono (List.subset_cons_self _ _)).trans (last.mono (by simp))
  | case5 ident typeName base c unknown d t request ih =>
      rw [request] at ih
      have last := registers_registerClass (unknown_of_request request unknown) (some d)
      exact (ih.mono (List.subset_cons_self _ _)).trans (last.mono (by simp))

end TypeSystem

end RuntimeTypes
