import RuntimeTypes.Proofs.TypeSystem.ClassRegistration
import RuntimeTypes.Proofs.TypeSystem.Matching

/-!
Operations as sequences of steps.  Every state that a program can reach is
sound, and every later state extends every earlier one.
-/

namespace RuntimeTypes

namespace TypeSystem

variable {s t u : TypeSystem}

theorem Sound.request (sound : s.Sound) (c : ExceptionClass) (both : t = u ∧ Steps s t) :
    Matches (fun t u => t = u ∧ Steps s t) (t.descriptorOf c) (u.descriptorOf c) := by
  apply matches_of_keeps _ c both
  intro t c steps
  exact steps.trans (steps_descriptorOf (steps.sound sound) c)

/-- Whether settings fit what is in use already. -/
structure Fits (s : TypeSystem) (config : Config) : Prop where
  store : ∀ {a : Arena Descriptor}, s.store? = some a →
    a.chunkSize = Arena.clampChunkSize config.arenaChunkSize
  policy : ∀ {r : Registry}, s.global? = some r → r.policy = config.rootPolicy

/-- What `configure` can come to. -/
inductive Configures (s : TypeSystem) (config : Config) : Except Error Unit × TypeSystem → Prop
    where
  | again (before : s.config?.isSome) : Configures s config (.error .alreadyInitialized, s)
  | storeInUse {a : Arena Descriptor} (first : s.config? = none) (used : s.store? = some a)
      (other : a.chunkSize ≠ Arena.clampChunkSize config.arenaChunkSize) :
      Configures s config (.error (.registryInUse .arenaChunkSize),
        s.report (.storeInUse a.chunkSize config.arenaChunkSize))
  | policyInUse {a : Arena Descriptor} {r : Registry} (first : s.config? = none)
      (store : s.store? = some a)
      (same : a.chunkSize = Arena.clampChunkSize config.arenaChunkSize)
      (used : s.global? = some r) (other : r.policy ≠ config.rootPolicy) :
      Configures s config (.error (.registryInUse .rootPolicy),
        s.report (.policyInUse r.policy config.rootPolicy))
  | failed {e : Error} {t : TypeSystem} (first : s.config? = none) (fits : s.Fits config)
      (registered : ((s.openWith config).setLevel config.logLevel).registerBuiltins
        config.initPolicy = (.error e, t)) :
      Configures s config (.error e, t)
  | done {t : TypeSystem} (first : s.config? = none) (fits : s.Fits config)
      (registered : ((s.openWith config).setLevel config.logLevel).registerBuiltins
        config.initPolicy = (.ok (), t)) :
      Configures s config (.ok (),
        { t.report (.initialized config.initPolicy t.globalRegistry.size) with
          config? := some config })

theorem openWith_of_inUse {a : Arena Descriptor} {r : Registry} (store : s.store? = some a)
    (global : s.global? = some r) (config : Config) : s.openWith config = s := by
  rw [openWith, store, global, Option.getD_some, Option.getD_some, ← store, ← global]

/-- As no registry is made without a store, a conflict is found before anything is made. -/
theorem configures_configure (founded : s.store? = none → s.global? = none) (config : Config) :
    Configures s config (s.configure config) := by
  unfold configure
  split
  case isTrue before => exact .again before
  case isFalse absent =>
    have first : s.config? = none := by simpa using absent
    dsimp only
    split
    case isTrue other =>
      cases used : s.store? with
      | none => simp [used, Arena.ofChunkSize] at other
      | some a =>
          rw [used, Option.getD_some] at other
          rw [Option.getD_some, ← used]
          exact .storeInUse first used other
    case isFalse agrees =>
      have agrees := not_not.1 agrees
      split
      case isTrue other =>
        cases global : s.global? with
        | none => simp [global, Registry.empty] at other
        | some r =>
            cases store : s.store? with
            | none => cases global.symm.trans (founded store)
            | some a =>
                have kept := openWith_of_inUse store global config
                simp only [openWith, store, global, Option.getD_some] at kept agrees other ⊢
                rw [kept]
                exact .policyInUse first store agrees global other
      case isFalse same =>
        have fits : s.Fits config :=
          ⟨fun used => by simpa [used] using agrees, fun used => by simpa [used] using same⟩
        split
        case h_1 registered => exact .failed first fits registered
        case h_2 registered => exact .done first fits registered

theorem Sound.global_of_store (sound : s.Sound) (unfounded : s.store? = none) :
    s.global? = none := by
  have none := sound.founded unfounded
  simp only [registries, List.append_eq_nil_iff, Option.toList_eq_nil_iff] at none
  exact none.1

theorem Sound.configures (sound : s.Sound) (config : Config) :
    Configures s config (s.configure config) :=
  configures_configure sound.global_of_store config

/-- The registrations that a policy asks for, after the store and the registry were chosen. -/
theorem steps_registerBuiltins (sound : s.Sound) (config : Config) :
    Steps (s.openWith config) (((s.openWith config).setLevel config.logLevel).registerBuiltins
      config.initPolicy).2 := by
  have started : Steps (s.openWith config) ((s.openWith config).setLevel config.logLevel) :=
    .single (.setLogger _ _)
  cases config.initPolicy with
  | onDemand => exact started
  | eager =>
      exact (matches_registerAll (sound.openWith config).request ExceptionClass.builtins
        ⟨rfl, started⟩).state.2

/-- Every operation but `configure` is a sequence of steps. -/
theorem steps_perform (sound : s.Sound) {op : Operation} (admitted : s.Admits op)
    (ordinary : ∀ config, op ≠ .configure config) : Steps s (s.perform op).2 := by
  cases op with
  | addRegistry policy => exact .single (.addRegistry s policy)
  | touch ref =>
      cases ref with
      | global => exact .single (.openGlobal s)
      | isolated index => exact .refl
  | define ref definition =>
      simp only [perform, define?]
      cases here : s.registryAt ref with
      | none => exact .refl
      | some r => exact .single (.define s here admitted)
  | describe c => exact steps_descriptorOf sound c
  | require c =>
      have requested := steps_descriptorOf sound c
      simp only [perform, requireDescriptor]
      split
      case h_1 request => simpa only [request] using requested
      case h_2 e t request =>
          have requested : Steps s t := by simpa only [request] using requested
          exact requested.tail (.report t (.classFailed e))
  | construct c => exact (matches_construct sound.request c ⟨rfl, .refl⟩).state.2
  | instantiate host d => exact (matches_instantiate sound.request host d ⟨rfl, .refl⟩).state.2
  | downcast x c => exact (matches_downcast sound.request x c ⟨rfl, .refl⟩).state.2
  | configure config => exact absurd rfl (ordinary config)
  | setLevel level => exact .single (.setLogger s _)
  | setColored colored => exact .single (.setLogger s _)
  | emit level target text => exact .single (.report s _)

theorem Sound.configure (sound : s.Sound) (config : Config) :
    (s.configure config).2.Sound ∧ s.Extends (s.configure config).2 := by
  have registering := steps_registerBuiltins sound config
  have opened := sound.openWith config
  cases result : s.configure config with
  | mk answer after =>
      have outcome := sound.configures config
      rw [result] at outcome
      cases outcome with
      | again => exact ⟨sound, .refl s⟩
      | @storeInUse a =>
          have step := Step.report s (.storeInUse a.chunkSize config.arenaChunkSize)
          exact ⟨step.sound sound, step.extends⟩
      | @policyInUse _ r =>
          have step := Step.report s (.policyInUse r.policy config.rootPolicy)
          exact ⟨step.sound sound, step.extends⟩
      | failed first fits registered =>
          rw [registered] at registering
          exact ⟨registering.sound opened, (extends_openWith s config).trans registering.extends⟩
      | @done t first fits registered =>
          rw [registered] at registering
          have reported : Steps (s.openWith config)
              (t.report (.initialized config.initPolicy t.globalRegistry.size)) :=
            registering.tail (.report t _)
          have unset := reported.config?_eq.trans first
          have kept := (extends_openWith s config).trans reported.extends
          refine ⟨(reported.sound opened).of_fields rfl rfl rfl rfl fun before => ?_,
            kept.trans (.of_fields rfl rfl rfl rfl fun before => ?_)⟩
          all_goals cases unset.symm.trans before

theorem Sound.perform (sound : s.Sound) {op : Operation} (admitted : s.Admits op) :
    (s.perform op).2.Sound ∧ s.Extends (s.perform op).2 := by
  by_cases setting : ∃ config, op = .configure config
  · obtain ⟨config, rfl⟩ := setting
    exact sound.configure config
  · have steps := steps_perform sound admitted fun config same => setting ⟨config, same⟩
    exact ⟨steps.sound sound, steps.extends⟩

theorem Leads.sound (leads : s.Leads t) (sound : s.Sound) : t.Sound := by
  induction leads with
  | refl => exact sound
  | step _ admitted ih => exact (ih.perform admitted).1

theorem Leads.extends (leads : s.Leads t) (sound : s.Sound) : s.Extends t := by
  induction leads with
  | refl => exact .refl s
  | step before admitted ih => exact ih.trans ((before.sound sound).perform admitted).2

/-- What a registry answered once, it has settled in every later state. -/
theorem Sound.settles_of_define? (sound : s.Sound) {ref : RegistryRef} {definition : Definition}
    {answer : Except Error Descriptor} (admitted : s.Admits (.define ref definition))
    (answered : s.define? ref definition = some (answer, t)) (leads : t.Leads u) :
    u.store?.isSome ∧ ∃ r, u.inUse? ref = some r ∧ r.Settles definition answer := by
  unfold define? at answered
  cases here : s.registryAt ref with
  | none => simp [here] at answered
  | some r =>
      rw [here, Option.map_some] at answered
      have settled := Option.some.inj answered
      obtain rfl : (r.define s.store definition).answer = answer := congrArg Prod.fst settled
      obtain rfl : (s.settle ref (r.define s.store definition)).2 = t := congrArg Prod.snd settled
      have kept := leads.extends (sound.settle here admitted)
      have used := inUse?_settle s ref (r.define s.store definition) ref here
      rw [if_pos rfl] at used
      obtain ⟨grown, used, larger⟩ := kept.registries ref used
      obtain ⟨a, stored, _⟩ := kept.chunkSize (store?_settle s ref _)
      have settles := (r.settles_define s.store definition).extends larger
      exact ⟨by rw [stored]; rfl, grown, used, settles⟩

theorem Reachable.sound (reachable : s.Reachable) : s.Sound := by
  obtain ⟨environment, leads⟩ := reachable
  exact leads.sound (sound_start environment)

theorem Reachable.leads (reachable : s.Reachable) (leads : s.Leads t) : t.Reachable := by
  obtain ⟨environment, before⟩ := reachable
  exact ⟨environment, before.trans leads⟩

end TypeSystem

end RuntimeTypes
