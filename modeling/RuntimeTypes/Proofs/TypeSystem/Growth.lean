import RuntimeTypes.Proofs.TypeSystem.Step

/-!
Nothing that a program has been told is ever taken back: descriptors, bindings
of names, policies, what is known of classes, and settings outlive every step.
-/

namespace RuntimeTypes

namespace Registry

theorem store_define (r : Registry) (store : Arena Descriptor) (definition : Definition) :
    (r.define store definition).store = store ∨
      r.judge definition = .fresh ∧
        (r.define store definition).store = (store.alloc (made store definition)).2 := by
  by_cases fresh : r.judge definition = .fresh
  · exact .inr ⟨fresh, by rw [define_of_fresh fresh]; rfl⟩
  · exact .inl (define_of_ne_fresh fresh).2

theorem toList_prefix_define (r : Registry) (store : Arena Descriptor)
    (definition : Definition) :
    store.toList <+: (r.define store definition).store.toList := by
  rcases r.store_define store definition with kept | ⟨_, stored⟩
  · exact kept.symm ▸ List.prefix_rfl
  · rw [stored, Arena.toList_alloc]
    exact List.prefix_append _ _

theorem chunkSize_define (r : Registry) (store : Arena Descriptor) (definition : Definition) :
    (r.define store definition).store.chunkSize = store.chunkSize := by
  rcases r.store_define store definition with kept | ⟨_, stored⟩
  · rw [kept]
  · rw [stored, Arena.chunkSize_alloc]

end Registry

namespace TypeSystem

variable {s t u : TypeSystem}

/-- What holds of a later state because it held of an earlier one. -/
structure Extends (s later : TypeSystem) : Prop where
  stored : s.store.toList <+: later.store.toList
  registries : ∀ (ref : RegistryRef) {r : Registry}, s.inUse? ref = some r →
    ∃ grown, later.inUse? ref = some grown ∧ r.Extends grown
  known : ∀ {c : ExceptionClass} {outcome : Except Error Descriptor},
    s.known? c = some outcome → later.known? c = some outcome
  configured : ∀ {config : Config}, s.config? = some config → later.config? = some config
  chunkSize : ∀ {a : Arena Descriptor}, s.store? = some a →
    ∃ b, later.store? = some b ∧ b.chunkSize = a.chunkSize

theorem Extends.of_fields (store : t.store? = s.store?) (global : t.global? = s.global?)
    (isolated : t.isolated = s.isolated) (classes : t.classes = s.classes)
    (config : ∀ {c : Config}, s.config? = some c → t.config? = some c) : s.Extends t where
  stored := by
    have same : t.store = s.store := by rw [TypeSystem.store, TypeSystem.store, store]
    exact same ▸ List.prefix_rfl
  registries ref {r} used := by
    refine ⟨r, ?_, .refl r⟩
    cases ref with
    | global => exact global.trans used
    | isolated index => exact (congrArg (·[index]?) isolated).trans used
  known found := by
    simpa only [known?, classes] using found
  configured := config
  chunkSize {a} found := ⟨a, store.trans found, rfl⟩

theorem Extends.refl (s : TypeSystem) : s.Extends s :=
  .of_fields rfl rfl rfl rfl id

theorem Extends.trans (first : s.Extends t) (second : t.Extends u) : s.Extends u where
  stored := first.stored.trans second.stored
  registries ref {_} used := by
    obtain ⟨middle, found, kept⟩ := first.registries ref used
    obtain ⟨last, found', kept'⟩ := second.registries ref found
    exact ⟨last, found', kept.trans kept'⟩
  known found := second.known (first.known found)
  configured found := second.configured (first.configured found)
  chunkSize found := by
    obtain ⟨b, found, same⟩ := first.chunkSize found
    obtain ⟨c, found, same'⟩ := second.chunkSize found
    exact ⟨c, found, same'.trans same⟩

theorem Extends.holds (kept : s.Extends t) {d : Descriptor} (held : s.Holds d) : t.Holds d :=
  kept.stored.subset held

theorem Extends.hasSettled (kept : s.Extends t) {definition : Definition}
    {answer : Except Error Descriptor} (settled : s.HasSettled definition answer) :
    t.HasSettled definition answer := by
  obtain ⟨r, used, settled⟩ := settled
  obtain ⟨grown, used', larger⟩ := kept.registries .global used
  exact ⟨grown, used', settled.extends larger⟩

theorem Extends.justified (kept : s.Extends t) {c : ExceptionClass}
    {outcome : Except Error Descriptor} (justified : s.Justified c outcome) :
    t.Justified c outcome := by
  cases c with
  | root => exact kept.hasSettled justified
  | derived ident typeName base =>
      rcases justified with ⟨e, known, same⟩ | ⟨d, known, settled⟩
      · exact .inl ⟨e, kept.known known, same⟩
      · exact .inr ⟨d, kept.known known, kept.hasSettled settled⟩

theorem extends_openWith (s : TypeSystem) (config : Config) : s.Extends (s.openWith config) where
  stored := by
    cases found : s.store? with
    | none => simp [store, found, openWith]
    | some a => simp [store, found, openWith]
  registries ref {r} used := by
    refine ⟨r, ?_, .refl r⟩
    cases ref with
    | global =>
        change some (s.global?.getD _) = some r
        rw [show s.global? = some r from used, Option.getD_some]
    | isolated index => exact used
  known := id
  configured := id
  chunkSize {a} found := ⟨a, by simp [openWith, found], rfl⟩

theorem extends_addRegistry (s : TypeSystem) (policy : RootPolicy) :
    s.Extends (s.addRegistry policy).2 where
  stored := List.prefix_rfl
  registries ref {r} used := by
    refine ⟨r, ?_, .refl r⟩
    cases ref with
    | global => exact used
    | isolated index =>
        have bound : index < s.isolated.size := (Array.getElem?_eq_some_iff.1 used).1
        change (s.isolated.push _)[index]? = some r
        rw [Array.getElem?_push_lt bound, ← used, inUse?, Array.getElem?_eq_getElem bound]
  known := id
  configured := id
  chunkSize {a} found := ⟨a, by simp [addRegistry, store, found], rfl⟩

theorem extends_settle {ref : RegistryRef} {r : Registry} (here : s.registryAt ref = some r)
    (definition : Definition) :
    s.Extends (s.settle ref (r.define s.store definition)).2 where
  stored := by
    rw [store_settle]
    exact r.toList_prefix_define s.store definition
  registries other {r'} used := by
    rw [inUse?_settle _ _ _ _ here]
    by_cases same : other = ref
    · subst same
      have found : r = r' := Option.some.inj (here.symm.trans (registryAt_of_inUse used))
      subst found
      exact ⟨_, if_pos rfl, r.extends_define s.store definition⟩
    · exact ⟨r', by rw [if_neg same, used], .refl r'⟩
  known found := by
    rw [known?_settle, found]
  configured found := by
    rw [config?_settle, found]
  chunkSize {a} found := by
    refine ⟨_, store?_settle _ _ _, ?_⟩
    rw [Registry.chunkSize_define, store, found, Option.getD_some]

theorem extends_remember {c : ExceptionClass} (unknown : s.known? c = none)
    (outcome : Except Error Descriptor) : s.Extends (s.remember c outcome) where
  stored := List.prefix_rfl
  registries ref {r} used := ⟨r, by cases ref <;> exact used, .refl r⟩
  known {other _} found := by
    rw [known?_remember, if_neg, found]
    intro same
    rw [← same, unknown] at found
    cases found
  configured := id
  chunkSize {a} found := ⟨a, found, rfl⟩

theorem Step.extends (step : Step s t) : s.Extends t := by
  cases step with
  | report event =>
      rw [report_eq]
      exact .of_fields rfl rfl rfl rfl id
  | setLogger logger => exact .of_fields rfl rfl rfl rfl id
  | openGlobal => exact extends_openWith s {}
  | addRegistry policy => exact extends_addRegistry s policy
  | define here _ => exact extends_settle here _
  | remember unknown _ => exact extends_remember unknown _

theorem Steps.extends (steps : Steps s t) : s.Extends t := by
  induction steps with
  | refl => exact .refl s
  | tail _ step ih => exact ih.trans step.extends

theorem Step.config?_eq (step : Step s t) : t.config? = s.config? := by
  cases step with
  | report event => rw [report_eq]
  | define here _ => exact config?_settle _ _ _
  | setLogger | openGlobal | addRegistry | remember => rfl

theorem Steps.config?_eq (steps : Steps s t) : t.config? = s.config? := by
  induction steps with
  | refl => rfl
  | tail _ step ih => exact step.config?_eq.trans ih

end TypeSystem

end RuntimeTypes
