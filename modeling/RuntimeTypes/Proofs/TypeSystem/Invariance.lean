import RuntimeTypes.Proofs.TypeSystem.Operations

/-!
Properties of all reachable states.  What holds at the start, and is broken
neither by a step nor by settings, holds wherever a program can get: types
without a base are allowed where they are registered, and no type is registered
in two places.
-/

namespace RuntimeTypes

namespace TypeSystem

variable {P : TypeSystem → Prop} {Q : Registry → Prop} {s t : TypeSystem}

/-- A property that holds at the start and that no operation breaks. -/
structure Invariant (P : TypeSystem → Prop) : Prop where
  start : ∀ environment, P (start environment)
  step : ∀ {s t : TypeSystem}, s.Sound → Step s t → P s → P t
  opened : ∀ {s : TypeSystem} (config : Config), s.Sound → P s → P (s.openWith config)
  recorded : ∀ {s : TypeSystem} (config : Config), P s → P { s with config? := some config }

namespace Invariant

variable (invariant : Invariant P)

include invariant

theorem steps (sound : s.Sound) (steps : Steps s t) (holds : P s) : P t := by
  induction steps with
  | refl => exact holds
  | tail before step ih =>
      have sound' := Steps.sound before sound
      exact invariant.step sound' step ih

theorem configure (sound : s.Sound) (config : Config) (holds : P s) :
    P (s.configure config).2 := by
  have opened := sound.openWith config
  have holds' := invariant.steps opened (steps_registerBuiltins sound config)
    (invariant.opened config sound holds)
  have outcome := sound.configures config
  generalize s.configure config = done at outcome ⊢
  cases outcome with
  | again => exact holds
  | storeInUse | policyInUse => exact invariant.step sound (.report s _) holds
  | failed _ _ registered =>
      rw [registered] at holds'
      exact holds'
  | @done t _ _ registered =>
      have after := (steps_registerBuiltins sound config).sound opened
      rw [registered] at holds' after
      apply invariant.recorded
      exact invariant.step after (.report t _) holds'

theorem perform (sound : s.Sound) {op : Operation} (admitted : s.Admits op) (holds : P s) :
    P (s.perform op).2 := by
  by_cases setting : ∃ config, op = .configure config
  · obtain ⟨config, rfl⟩ := setting
    exact invariant.configure sound config holds
  · apply invariant.steps sound _ holds
    exact steps_perform sound admitted fun config same => setting ⟨config, same⟩

theorem reachable (reachable : s.Reachable) : P s := by
  obtain ⟨environment, leads⟩ := reachable
  induction leads with
  | refl => exact invariant.start environment
  | step before admitted ih =>
      have sound := before.sound (sound_start environment)
      exact invariant.perform sound admitted ih

end Invariant

theorem inUse?_congr (global : t.global? = s.global?) (isolated : t.isolated = s.isolated)
    (ref : RegistryRef) : t.inUse? ref = s.inUse? ref := by
  cases ref with
  | global => exact global
  | isolated index => exact congrArg (·[index]?) isolated

/-- A step binds no name, or it is a definition. -/
theorem Step.binds (step : Step s t) :
    (∀ (ref : RegistryRef) (r : Registry), t.inUse? ref = some r →
        s.inUse? ref = some r ∨ ∃ policy, r = .empty policy) ∨
      ∃ (ref : RegistryRef) (r : Registry) (definition : Definition),
        s.registryAt ref = some r ∧ t = (s.settle ref (r.define s.store definition)).2 := by
  cases step with
  | define here based => exact .inr ⟨_, _, _, here, rfl⟩
  | report event =>
      left
      intro ref r used
      rw [report_eq, inUse?_congr rfl rfl] at used
      exact .inl used
  | setLogger | remember =>
      left
      intro ref r used
      exact .inl ((inUse?_congr rfl rfl ref).symm.trans used)
  | openGlobal =>
      left
      intro ref r used
      rcases inUse?_openWith s {} ref used with before | ⟨_, empty⟩
      · exact .inl before
      · exact .inr ⟨_, empty⟩
  | addRegistry policy =>
      left
      intro ref r used
      cases ref with
      | global => exact .inl used
      | isolated index =>
          change (s.isolated.push _)[index]? = some r at used
          rw [Array.getElem?_push] at used
          split at used
          · exact .inr ⟨policy, (Option.some.inj used).symm⟩
          · exact .inl used

/-- What holds of empty registries and survives definitions holds of every registry. -/
theorem invariant_registries (empty : ∀ policy, Q (.empty policy))
    (define : ∀ (r : Registry) (store : Arena Descriptor) (definition : Definition),
      Q r → Q (r.define store definition).registry) :
    Invariant fun s => ∀ (ref : RegistryRef) (r : Registry), s.inUse? ref = some r → Q r where
  start environment ref r used := by
    cases ref with
    | global => cases used
    | isolated index => simp [inUse?, TypeSystem.start] at used
  step {s t} _ step holds ref r used := by
    rcases step.binds with kept | ⟨place, before, definition, here, rfl⟩
    · rcases kept ref r used with used | ⟨policy, rfl⟩
      · exact holds ref r used
      · exact empty policy
    · rw [inUse?_settle _ _ _ _ here] at used
      split at used
      case isFalse => exact holds ref r used
      case isTrue =>
        cases used
        apply define
        rcases inUse_or_empty here with used | ⟨_, _, rfl⟩
        · exact holds place before used
        · exact empty _
  opened {s} config _ holds ref r used := by
    rcases inUse?_openWith s config ref used with used | ⟨_, rfl⟩
    · exact holds ref r used
    · exact empty _
  recorded {s} config holds ref r used := by
    exact holds ref r ((inUse?_congr rfl rfl ref).symm.trans used)

end TypeSystem

namespace Registry

/-- Every type without a base has a name that the policy allows. -/
def RootsAllowed (r : Registry) : Prop :=
  ∀ ⦃name : String⦄ ⦃d : Descriptor⦄, r.lookup name = some d → d.base? = none →
    r.policy.allows name = true

theorem rootsAllowed_empty (policy : RootPolicy) : (empty policy).RootsAllowed := by
  intro name d found
  simp at found

theorem RootsAllowed.define {r : Registry} (allowed : r.RootsAllowed) (store : Arena Descriptor)
    (definition : Definition) : (r.define store definition).registry.RootsAllowed := by
  intro name d found root
  rw [(r.extends_define store definition).policy]
  rcases lookup_define found with found | ⟨fresh, rfl, rfl⟩
  · exact allowed found root
  · rw [made, Descriptor.base?_make] at root
    exact (judge_eq_fresh_iff.1 fresh).1.allowed root

end Registry

namespace TypeSystem

variable {s : TypeSystem} {ref : RegistryRef} {r : Registry}

theorem Reachable.rootsAllowed (reachable : s.Reachable) (used : s.inUse? ref = some r) :
    r.RootsAllowed := by
  have invariant := invariant_registries Registry.rootsAllowed_empty
    fun r store definition allowed => allowed.define store definition
  exact invariant.reachable reachable ref r used

/-- No type is registered in two registries. -/
def FiledOnce (s : TypeSystem) : Prop :=
  ∀ ⦃ref ref' : RegistryRef⦄ ⦃r r' : Registry⦄ ⦃name name' : String⦄ ⦃d : Descriptor⦄,
    s.inUse? ref = some r → s.inUse? ref' = some r' → r.lookup name = some d →
      r'.lookup name' = some d → ref = ref'

/-- What is registered in some registry after a definition was made just now, or
was registered there before. -/
theorem lookup_settle (here : s.registryAt ref = some r) {definition : Definition}
    {other : RegistryRef} {r' : Registry} {name : String} {d : Descriptor}
    (used : (s.settle ref (r.define s.store definition)).2.inUse? other = some r')
    (found : r'.lookup name = some d) :
    other = ref ∧ d = Registry.made s.store definition ∨
      ∃ before, s.inUse? other = some before ∧ before.lookup name = some d := by
  rw [inUse?_settle _ _ _ _ here] at used
  split at used
  case isFalse => exact .inr ⟨r', used, found⟩
  case isTrue same =>
    cases used
    rcases Registry.lookup_define found with found | ⟨_, _, new⟩
    · exact .inr ⟨r, same ▸ inUse?_of_lookup here found, found⟩
    · exact .inl ⟨same, new⟩

/-- A descriptor that is made now has a number that no descriptor had before. -/
theorem Sound.ne_made (sound : s.Sound) {d : Descriptor} (held : s.Holds d)
    (definition : Definition) : d ≠ Registry.made s.store definition := by
  rintro rfl
  have older := sound.numbered.serial_lt held
  rw [Registry.made, Descriptor.serial_make] at older
  exact Nat.lt_irrefl _ older

theorem FiledOnce.settle (once : s.FiledOnce) (sound : s.Sound)
    (here : s.registryAt ref = some r) (definition : Definition) :
    (s.settle ref (r.define s.store definition)).2.FiledOnce := by
  intro first second r' r'' name name' d used used' found found'
  rcases lookup_settle here used found with ⟨same, new⟩ | ⟨before, used, found⟩
  · rcases lookup_settle here used' found' with ⟨same', _⟩ | ⟨before', used', found'⟩
    · exact same.trans same'.symm
    · exact absurd new (sound.ne_made (sound.filed second used' found').1 definition)
  · rcases lookup_settle here used' found' with ⟨_, new⟩ | ⟨before', used', found'⟩
    · exact absurd new (sound.ne_made (sound.filed first used found).1 definition)
    · exact once used used' found found'

theorem invariant_filedOnce : Invariant FiledOnce where
  start environment := by
    intro first second r r' name name' d used
    cases first with
    | global => cases used
    | isolated index => simp [inUse?, start] at used
  step sound step once := by
    rcases step.binds with kept | ⟨ref, r, definition, here, rfl⟩
    · intro first second r r' name name' d used used' found found'
      rcases kept first r used with used | ⟨policy, rfl⟩
      · rcases kept second r' used' with used' | ⟨policy, rfl⟩
        · exact once used used' found found'
        · simp at found'
      · simp at found
    · exact once.settle sound here definition
  opened {s} config _ once := by
    intro first second r r' name name' d used used' found found'
    rcases inUse?_openWith s config first used with used | ⟨_, rfl⟩
    · rcases inUse?_openWith s config second used' with used' | ⟨_, rfl⟩
      · exact once used used' found found'
      · simp at found'
    · simp at found
  recorded {s} config once := by
    intro first second r r' name name' d used used' found found'
    exact once ((inUse?_congr rfl rfl first).symm.trans used)
      ((inUse?_congr rfl rfl second).symm.trans used') found found'

theorem Reachable.filedOnce (reachable : s.Reachable) : s.FiledOnce :=
  invariant_filedOnce.reachable reachable

end TypeSystem

end RuntimeTypes
