import RuntimeTypes.Proofs.TypeSystem.Builtins

/-!
What settings come to.  Until some were accepted, the store and the global
registry are as they are made without settings, so that settings are refused
exactly when they ask for something else and it is too late.
-/

namespace RuntimeTypes

namespace TypeSystem

variable {s t : TypeSystem} {config : Config}

theorem Fits.of_fields (fits : s.Fits config) (store : t.store? = s.store?)
    (global : t.global? = s.global?) : t.Fits config :=
  ⟨fun used => fits.store (store ▸ used), fun used => fits.policy (global ▸ used)⟩

theorem Fits.openWith (fits : s.Fits config) : (s.openWith config).Fits config where
  store {a} used := by
    cases found : s.store? with
    | none =>
        simp only [TypeSystem.openWith, found, Option.getD_none, Option.some.injEq] at used
        rw [← used]
        rfl
    | some b =>
        simp only [TypeSystem.openWith, found, Option.getD_some, Option.some.injEq] at used
        exact used ▸ fits.store found
  policy {r} used := by
    cases found : s.global? with
    | none =>
        simp only [TypeSystem.openWith, found, Option.getD_none, Option.some.injEq] at used
        rw [← used]
        rfl
    | some b =>
        simp only [TypeSystem.openWith, found, Option.getD_some, Option.some.injEq] at used
        exact used ▸ fits.policy found

theorem Fits.chunkSize_store (fits : s.Fits {}) :
    s.store.chunkSize = Arena.clampChunkSize ({} : Config).arenaChunkSize := by
  cases found : s.store? with
  | none =>
      rw [TypeSystem.store, found]
      rfl
  | some a =>
      rw [TypeSystem.store, found]
      exact fits.store found

theorem Fits.settle (fits : s.Fits {}) {ref : RegistryRef} {r : Registry}
    (here : s.registryAt ref = some r) (definition : Definition) :
    (s.settle ref (r.define s.store definition)).2.Fits {} where
  store used := by
    rw [store?_settle] at used
    cases used
    rw [Registry.chunkSize_define, fits.chunkSize_store]
  policy {grown} used := by
    change (s.settle ref (r.define s.store definition)).2.inUse? .global = some grown at used
    rw [inUse?_settle _ _ _ _ here] at used
    split at used
    case isTrue same =>
      subst same
      cases used
      rw [(r.extends_define s.store definition).policy]
      rcases inUse_or_empty here with used | ⟨_, _, rfl⟩
      · exact fits.policy used
      · rfl
    case isFalse => exact fits.policy used

/-- Only settings can bring another chunk size or policy than the default ones. -/
theorem Step.fits (step : Step s t) (fits : s.Fits {}) : t.Fits {} := by
  cases step with
  | report event =>
      rw [report_eq]
      exact fits.of_fields rfl rfl
  | setLogger logger => exact fits.of_fields rfl rfl
  | openGlobal => exact fits.openWith
  | addRegistry policy =>
      refine ⟨?_, fits.policy⟩
      intro a used
      cases used
      exact fits.chunkSize_store
  | define here _ => exact fits.settle here _
  | remember _ _ => exact fits.of_fields rfl rfl

theorem Steps.fits (steps : Steps s t) (fits : s.Fits {}) : t.Fits {} := by
  induction steps with
  | refl => exact fits
  | tail _ step ih => exact step.fits ih

theorem Fits.extends (fits : s.Fits config) (grown : s.Extends t) (store : s.store?.isSome)
    (global : s.global?.isSome) : t.Fits config where
  store {b} used := by
    obtain ⟨a, found⟩ := Option.isSome_iff_exists.1 store
    obtain ⟨b', found', same⟩ := grown.chunkSize found
    cases used.symm.trans found'
    rw [same, fits.store found]
  policy {later} used := by
    obtain ⟨r, found⟩ := Option.isSome_iff_exists.1 global
    obtain ⟨later', found', larger⟩ := grown.registries .global found
    cases used.symm.trans (show t.global? = some later' from found')
    rw [larger.policy, fits.policy found]

/-- The store is in use with another chunk size than settings ask for. -/
def StoreRefuses (s : TypeSystem) (config : Config) : Prop :=
  s.store?.isSome ∧ Arena.clampChunkSize config.arenaChunkSize ≠ 64

/-- The global registry is in use with another policy than settings ask for. -/
def PolicyRefuses (s : TypeSystem) (config : Config) : Prop :=
  s.global?.isSome ∧ config.rootPolicy ≠ .designated []

theorem Fits.not_storeRefuses (fits : s.Fits config) (default : s.Fits {}) :
    ¬ s.StoreRefuses config := by
  rintro ⟨store, other⟩
  obtain ⟨a, used⟩ := Option.isSome_iff_exists.1 store
  apply other
  rw [← fits.store used, default.store used]
  rfl

theorem Fits.not_policyRefuses (fits : s.Fits config) (default : s.Fits {}) :
    ¬ s.PolicyRefuses config := by
  rintro ⟨global, other⟩
  obtain ⟨r, used⟩ := Option.isSome_iff_exists.1 global
  apply other
  rw [← fits.policy used, default.policy used]
  rfl

/-- What settings come to before any were accepted, and what they change. -/
inductive Decision (s : TypeSystem) (config : Config) : Except Error Unit × TypeSystem → Prop
    where
  | storeInUse (refuses : s.StoreRefuses config) (log : Array Line) :
      Decision s config (.error (.registryInUse .arenaChunkSize), { s with log := log })
  | policyInUse (fits : ¬ s.StoreRefuses config) (refuses : s.PolicyRefuses config)
      (log : Array Line) :
      Decision s config (.error (.registryInUse .rootPolicy), { s with log := log })
  | failed {before : List ExceptionClass} {c : ExceptionClass} {e : Error} {t : TypeSystem}
      (fits : ¬ s.StoreRefuses config) (agrees : ¬ s.PolicyRefuses config)
      (eager : config.initPolicy = .eager)
      (first : s.FirstRefused ExceptionClass.builtins before c e)
      (store : s.store?.isSome) (global : s.global?.isSome)
      (touched : (s.setLevel config.logLevel).Registers (before ++ [c]) t) :
      Decision s config (.error e, t)
  | done {t : TypeSystem} (fits : ¬ s.StoreRefuses config) (agrees : ¬ s.PolicyRefuses config)
      (passed : config.initPolicy = .eager →
        ∀ c ∈ ExceptionClass.builtins, s.refusal? c = none)
      (recorded : t.config? = some config) (level : t.logger.level = config.logLevel) :
      Decision s config (.ok (), t)

theorem registerBuiltins_error {policy : InitPolicy} {e : Error}
    (failed : s.registerBuiltins policy = (.error e, t)) :
    policy = .eager ∧ s.registerAll ExceptionClass.builtins = (.error e, t) := by
  cases policy with
  | onDemand => cases failed
  | eager => exact ⟨rfl, failed⟩

/-- The built-in classes after the store and the global registry were taken into
use.  A registry that was just made is empty and refuses none of them. -/
theorem Sound.registerBuiltins_cases (sound : s.Sound) (config : Config) :
    (∀ c ∈ ExceptionClass.builtins, s.refusal? c = none) ∧
        (((s.openWith config).setLevel config.logLevel).registerAll
          ExceptionClass.builtins).1 = .ok () ∨
      ∃ before c e t, s.FirstRefused ExceptionClass.builtins before c e ∧
        ((s.openWith config).setLevel config.logLevel).registerAll ExceptionClass.builtins =
          (.error e, t) ∧
        s.store?.isSome ∧ s.global?.isSome ∧
          (s.setLevel config.logLevel).Registers (before ++ [c]) t := by
  have sound' : ((s.openWith config).setLevel config.logLevel).Sound :=
    (Step.setLogger _ _).sound (sound.openWith config)
  have cases' := sound'.registerAll_cases ExceptionClass.builtins_ordered
  cases global : s.global? with
  | none =>
      have unknown := sound.unknown_of_unused global
      have passed : ∀ c ∈ ExceptionClass.builtins, s.refusal? c = none := by
        intro c builtin
        apply builtins_of_free unknown _ builtin
        intro name
        simp [globalRegistry, global]
      -- The registry was made by these settings, so nothing can be in the way.
      rcases cases' with ⟨_, done⟩ | ⟨before, c, e, first, _⟩
      · exact .inl ⟨passed, done⟩
      · have accepted : ((s.openWith config).setLevel config.logLevel).refusal? c = none := by
          refine builtins_of_free (fun k => unknown k) ?_ first.mem
          intro name
          simp [globalRegistry, setLevel, TypeSystem.openWith, global]
        cases accepted.symm.trans first.refused
  | some r =>
      cases store : s.store? with
      | none => cases global.symm.trans (sound.global_of_store store)
      | some a =>
          have same : s.SameButLog (s.setLevel config.logLevel) := ⟨rfl, rfl, rfl, rfl, rfl, rfl⟩
          rw [openWith_of_inUse store global config] at cases' ⊢
          rcases cases' with ⟨passed, done⟩ | ⟨before, c, e, first, failed⟩
          · refine .inl ⟨?_, done⟩
            intro c builtin
            rw [← same.refusal? c, passed c builtin]
          · refine .inr ⟨before, c, e, _, ⟨first.tried, ?_, ?_⟩, failed, by simp, by simp, ?_⟩
            · intro k inside
              rw [← same.refusal? k, first.passed k inside]
            · rw [← same.refusal? c, first.refused]
            · exact (registers_descriptorOf _ c).mono
                (ExceptionClass.lineage_subset_of_builtins first.tried)

theorem Sound.decision_of_failed (sound : s.Sound) (default : s.Fits {}) (fits : s.Fits config)
    {e : Error} (registered : ((s.openWith config).setLevel config.logLevel).registerBuiltins
      config.initPolicy = (.error e, t)) : Decision s config (.error e, t) := by
  obtain ⟨eager, registered⟩ := registerBuiltins_error registered
  rcases sound.registerBuiltins_cases config with
    ⟨_, done⟩ | ⟨before, c, e', t', first, failed, store, global, touched⟩
  · rw [registered] at done
    cases done
  · cases registered.symm.trans failed
    exact .failed (fits.not_storeRefuses default) (fits.not_policyRefuses default) eager first
      store global touched

theorem Sound.passed_of_done (sound : s.Sound)
    (registered : ((s.openWith config).setLevel config.logLevel).registerBuiltins
      config.initPolicy = (.ok (), t)) (eager : config.initPolicy = .eager) :
    ∀ c ∈ ExceptionClass.builtins, s.refusal? c = none := by
  rw [eager] at registered
  rcases sound.registerBuiltins_cases config with
    ⟨passed, _⟩ | ⟨before, c, e, t', _, failed, _⟩
  · exact passed
  · cases registered.symm.trans failed

theorem logger_registerBuiltins (s : TypeSystem) (policy : InitPolicy) :
    (s.registerBuiltins policy).2.logger = s.logger := by
  cases policy with
  | onDemand => rfl
  | eager =>
      have keeps : ∀ (t : TypeSystem) (c : ExceptionClass), t.logger = s.logger →
          (t.descriptorOf c).2.logger = s.logger := by
        intro t c same
        rw [(registers_descriptorOf t c).logger, same]
      exact (matches_registerAll (matches_of_keeps keeps) _ ⟨rfl, rfl⟩).state.2

/-- While no settings are in effect, there are four things that settings can come to. -/
theorem Sound.decision (sound : s.Sound) (default : s.Fits {}) (unset : s.config? = none)
    (config : Config) : Decision s config (s.configure config) := by
  have outcome := sound.configures config
  generalize s.configure config = done at outcome ⊢
  cases outcome with
  | again before => simp [unset] at before
  | storeInUse _ used other =>
      rw [report_eq]
      refine .storeInUse ⟨by simp [used], fun same => other ?_⟩ _
      rw [default.store used, same]
      rfl
  | policyInUse _ store same used other =>
      rw [report_eq]
      refine .policyInUse ?_ ⟨by simp [used], fun same => other ?_⟩ _
      · rintro ⟨_, refused⟩
        apply refused
        rw [← same, default.store store]
        rfl
      · rw [default.policy used, same]
        rfl
  | failed _ fits registered => exact sound.decision_of_failed default fits registered
  | done _ fits registered =>
      rw [report_eq]
      refine .done (fits.not_storeRefuses default) (fits.not_policyRefuses default)
        (sound.passed_of_done registered) rfl ?_
      have kept := logger_registerBuiltins ((s.openWith config).setLevel config.logLevel)
        config.initPolicy
      rw [registered] at kept
      exact congrArg Logger.level kept

theorem Decision.unset_fits (decision : Decision s config (s.configure config))
    (default : s.Fits {}) (unset : (s.configure config).2.config? = none) :
    (s.configure config).2.Fits {} := by
  generalize s.configure config = done at decision unset ⊢
  cases decision with
  | storeInUse _ _ => exact default.of_fields rfl rfl
  | policyInUse _ _ _ => exact default.of_fields rfl rfl
  | failed _ _ _ _ store global touched =>
      exact default.extends ((Step.setLogger s _).extends.trans touched.grown) store global
  | done _ _ _ recorded _ => cases unset.symm.trans recorded

/-- As long as no settings are in effect, all is as the default settings say. -/
theorem Reachable.fits (reachable : s.Reachable) (unset : s.config? = none) : s.Fits {} := by
  obtain ⟨environment, leads⟩ := reachable
  induction leads with
  | refl =>
      constructor
      · intro a used
        cases used
      · intro r used
        cases used
  | @step t op before admitted ih =>
      have sound : t.Sound := before.sound (sound_start environment)
      by_cases setting : ∃ config, op = .configure config
      · obtain ⟨config, rfl⟩ := setting
        cases unset' : t.config? with
        | none => exact (sound.decision (ih unset') unset' config).unset_fits (ih unset') unset
        | some c =>
            have kept := (sound.configure config).2.configured unset'
            cases unset.symm.trans kept
      · have steps := steps_perform sound admitted fun config same => setting ⟨config, same⟩
        exact steps.fits (ih (steps.config?_eq.symm.trans unset))

/-- Some settings were accepted. -/
def Accepted (answers : List Answer) : Prop :=
  .configured (.ok ()) ∈ answers

theorem Decision.set_iff {done : Except Error Unit × TypeSystem}
    (decision : Decision s config done) (unset : s.config? = none) :
    done.2.config?.isSome ↔ done.1 = .ok () := by
  cases decision with
  | storeInUse _ _ => simp [unset]
  | policyInUse _ _ _ => simp [unset]
  | failed _ _ _ _ _ _ touched =>
      have kept := touched.config.trans unset
      simp [kept]
  | done _ _ _ recorded _ => simp [recorded]

theorem perform_ne_configured {op : Operation} (ordinary : ∀ config, op ≠ .configure config)
    (answer : Except Error Unit) : (s.perform op).1 ≠ .configured answer := by
  cases op with
  | configure config => exact absurd rfl (ordinary config)
  | define ref definition =>
      simp only [perform]
      split <;> simp
  | _ => simp [perform]

theorem Reachable.set_perform (reachable : s.Reachable) {op : Operation}
    (admitted : s.Admits op) : (s.perform op).2.config?.isSome ↔
      s.config?.isSome ∨ (s.perform op).1 = .configured (.ok ()) := by
  by_cases setting : ∃ config, op = .configure config
  · obtain ⟨config, rfl⟩ := setting
    cases unset : s.config? with
    | none =>
        have decision := reachable.sound.decision (reachable.fits unset) unset config
        simpa [perform] using decision.set_iff unset
    | some c =>
        have kept := (reachable.sound.configure config).2.configured unset
        simp [perform, kept]
  · have ordinary : ∀ config, op ≠ .configure config := fun config same => setting ⟨config, same⟩
    rw [(steps_perform reachable.sound admitted ordinary).config?_eq]
    simp [perform_ne_configured ordinary]

/-- Settings are in effect exactly if some were accepted. -/
theorem Reachable.set_performAll (reachable : s.Reachable) {ops : List Operation}
    (admitted : s.AdmitsAll ops) : (s.performAll ops).2.config?.isSome ↔
      s.config?.isSome ∨ Accepted (s.performAll ops).1 := by
  induction ops generalizing s with
  | nil => simp [performAll, Accepted]
  | cons op rest ih =>
      obtain ⟨first, later⟩ := admitted
      have here := reachable.set_perform first
      have there := ih (reachable.leads (.step .refl first)) later
      simp only [performAll, Accepted, List.mem_cons] at there ⊢
      rw [there, here, or_assoc, eq_comm (a := (s.perform op).1)]

/-- The outcome of settings in a state that was reached with some answers:
which check answers, and what the state after it has in common with the state
before it. -/
structure Decided (earlier : List Answer) (s : TypeSystem) (config : Config)
    (done : Except Error Unit × TypeSystem) : Prop where
  again : done.1 = .error .alreadyInitialized ↔ Accepted earlier
  storeInUse : done.1 = .error (.registryInUse .arenaChunkSize) ↔
    ¬ Accepted earlier ∧ s.StoreRefuses config
  policyInUse : done.1 = .error (.registryInUse .rootPolicy) ↔
    ¬ Accepted earlier ∧ ¬ s.StoreRefuses config ∧ s.PolicyRefuses config
  otherwise : ¬ Accepted earlier → ¬ s.StoreRefuses config → ¬ s.PolicyRefuses config →
    ∀ e, done.1 = .error e ↔ config.initPolicy = .eager ∧
      ∃ before c, s.FirstRefused ExceptionClass.builtins before c e
  untouched : done.1 = .error .alreadyInitialized ∨
      (∃ setting, done.1 = .error (.registryInUse setting)) →
    ∃ log, done.2 = { s with log := log }
  failed : ∀ e, done.1 = .error e → e ≠ .alreadyInitialized →
    (∀ setting, e ≠ .registryInUse setting) →
      s.store?.isSome ∧ s.global?.isSome ∧ done.2.config? = none ∧
        ∃ before c, s.FirstRefused ExceptionClass.builtins before c e ∧
          (s.setLevel config.logLevel).Registers (before ++ [c]) done.2
  done : done.1 = .ok () → done.2.config? = some config ∧ done.2.logger.level = config.logLevel

theorem decided_of_accepted {earlier : List Answer} (accepted : Accepted earlier) :
    Decided earlier s config (.error .alreadyInitialized, s) where
  again := by simp [accepted]
  storeInUse := by simp [accepted]
  policyInUse := by simp [accepted]
  otherwise unaccepted := absurd accepted unaccepted
  untouched _ := ⟨s.log, rfl⟩
  failed e same other := by
    cases same
    exact absurd rfl other
  done same := by cases same

theorem FirstRefused.unique {classes before before' : List ExceptionClass}
    {c c' : ExceptionClass} {e e' : Error} (first : s.FirstRefused classes before c e)
    (first' : s.FirstRefused classes before' c' e') : e = e' :=
  Option.some.inj (first.findSome?.symm.trans first'.findSome?)

theorem Decision.decided {earlier : List Answer} {done : Except Error Unit × TypeSystem}
    (decision : Decision s config done) (sound : s.Sound) (unset : s.config? = none)
    (unaccepted : ¬ Accepted earlier) : Decided earlier s config done := by
  cases decision with
  | storeInUse refuses log =>
      refine ⟨by simp [unaccepted], by simp [unaccepted, refuses], by simp [refuses], ?_,
        fun _ => ⟨log, rfl⟩, ?_, by simp⟩
      · intro _ fits
        exact absurd refuses fits
      · intro e same _ other
        exact absurd (Except.error.inj same).symm (other _)
  | policyInUse fits refuses log =>
      refine ⟨by simp [unaccepted], by simp [fits], by simp [unaccepted, fits, refuses], ?_,
        fun _ => ⟨log, rfl⟩, ?_, by simp⟩
      · intro _ _ agrees
        exact absurd refuses agrees
      · intro e same _ other
        exact absurd (Except.error.inj same).symm (other _)
  | @failed before c e t fits agrees eager first store global touched =>
      have cause := sound.byDefinition_of_refusal first.refused
      have other : e ≠ .alreadyInitialized ∧ ∀ setting, e ≠ .registryInUse setting := by
        constructor
        · intro same
          rw [same] at cause
          exact cause
        · intro setting same
          rw [same] at cause
          exact cause
      refine ⟨by simp [unaccepted, other], by simp [fits, other], by simp [agrees, other], ?_, ?_,
        ?_, by simp⟩
      · intro _ _ _ e'
        constructor
        · intro same
          cases same
          exact ⟨eager, before, c, first⟩
        · intro refused
          obtain ⟨_, before', c', first'⟩ := refused
          rw [first.unique first']
      · intro refused
        rcases refused with same | ⟨setting, same⟩
        · simp [other] at same
        · simp [other] at same
      · intro e' same _ _
        cases same
        exact ⟨store, global, touched.config.trans unset, before, c, first, touched⟩
  | done fits agrees passed recorded level =>
      refine ⟨by simp [unaccepted], by simp [fits], by simp [agrees], ?_, by simp, by simp,
        fun _ => ⟨recorded, level⟩⟩
      intro _ _ _ e
      constructor
      · intro same
        cases same
      · intro refused
        obtain ⟨eager, before, c, first⟩ := refused
        have accepted := passed eager c first.mem
        cases accepted.symm.trans first.refused

/-- Settings are answered by the first check that objects: whether others were
accepted earlier, whether the store or the global registry is in use with other
values, and whether a built-in class is refused.  The first two kinds of
objections leave everything but the log as it was; a refused class leaves the
level and the registration of the classes up to it. -/
theorem configure_decided {environment : Environment} {ops : List Operation}
    (admitted : (start environment).AdmitsAll ops) (config : Config) :
    Decided ((start environment).performAll ops).1 ((start environment).performAll ops).2 config
      (((start environment).performAll ops).2.configure config) := by
  have started : Reachable (start environment) := ⟨environment, .refl⟩
  have reachable := started.leads (leads_performAll admitted)
  have accepted : ((start environment).performAll ops).2.config?.isSome ↔
      Accepted ((start environment).performAll ops).1 := by
    simpa [show (start environment).config? = none from rfl] using started.set_performAll admitted
  cases unset : ((start environment).performAll ops).2.config? with
  | none =>
      have unaccepted : ¬ Accepted ((start environment).performAll ops).1 := by
        simp [← accepted, unset]
      exact (reachable.sound.decision (reachable.fits unset) unset config).decided
        reachable.sound unset unaccepted
  | some c =>
      have again : ((start environment).performAll ops).2.configure config =
          (.error .alreadyInitialized, ((start environment).performAll ops).2) := by
        rw [configure, if_pos (by simp [unset])]
      rw [again]
      exact decided_of_accepted (accepted.1 (by simp [unset]))

/-- A program that takes the name of the root class for a type with a field. -/
def rootNameTaken : List Operation :=
  [.define .global { name := "System.Exception", fields := [⟨"code", "int"⟩] }]

/-- Such a program can be configured, but not with the built-in classes. -/
theorem configure_decided_after_rootNameTaken :
    ∃ answers s, (start {}).performAll rootNameTaken = (answers, s) ∧
      Decided answers s { initPolicy := .eager } (s.configure { initPolicy := .eager }) ∧
      (s.configure { initPolicy := .eager }).1 =
        .error (.duplicateFields "System.Exception" "code: int" "") := by
  have admitted : (start {}).AdmitsAll rootNameTaken := by
    refine ⟨?_, trivial⟩
    intro base none
    cases none
  exact ⟨_, _, rfl, configure_decided admitted _, by decide +kernel⟩

end TypeSystem

end RuntimeTypes
