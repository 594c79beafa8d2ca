import RuntimeTypes.Proofs.TypeSystem.ClassChain
import RuntimeTypes.Proofs.TypeSystem.Configuration
import RuntimeTypes.Proofs.TypeSystem.Invariance
import RuntimeTypes.Proofs.TypeSystem.Runs

/-!
Settings that were accepted stay in effect, and settings that were refused stay
refused.
-/

namespace RuntimeTypes

namespace TypeSystem

variable {s t u : TypeSystem} {config : Config} {classes : List ExceptionClass}

theorem steps_registerAll (sound : s.Sound) (classes : List ExceptionClass) :
    Steps s (s.registerAll classes).2 :=
  (matches_registerAll sound.request classes ⟨rfl, .refl⟩).state.2

theorem known_of_registerAll (sound : s.Sound) (done : s.registerAll classes = (.ok (), t)) :
    ∀ c ∈ classes, ∃ d, t.known? c = some (.ok d) := by
  induction classes generalizing s with
  | nil => simp
  | cons c rest ih =>
      have sound' := (steps_descriptorOf sound c).sound sound
      have known := known?_descriptorOf s c
      rw [registerAll] at done
      split at done
      case h_1 => cases done
      case h_2 d s' request =>
        rw [request] at sound' known
        have grown := (steps_registerAll sound' rest).extends
        rw [done] at grown
        intro k among
        rcases List.mem_cons.1 among with rfl | among
        · exact ⟨d, grown.known known⟩
        · exact ih sound' done k among

/-- Classes that were registered in turn are registered again with the same
outcome and without any change. -/
theorem registerAll_again {answer : Except Error Unit} (sound : s.Sound)
    (done : s.registerAll classes = (answer, t)) (grown : t.Extends u) :
    u.registerAll classes = (answer, u) := by
  induction classes generalizing s with
  | nil =>
      cases done
      rfl
  | cons c rest ih =>
      have sound' := (steps_descriptorOf sound c).sound sound
      have known := known?_descriptorOf s c
      rw [registerAll] at done
      split at done
      case h_1 e s' request =>
        cases done
        rw [request] at known
        rw [registerAll, descriptorOf_of_known (grown.known known)]
      case h_2 d s' request =>
        rw [request] at sound' known
        have later := (steps_registerAll sound' rest).extends
        rw [done] at later
        rw [registerAll, descriptorOf_of_known (grown.known (later.known known))]
        exact ih sound' done

/-- What settings that take effect bring about at once. -/
structure Establishes (t : TypeSystem) (config : Config) : Prop where
  recorded : t.config? = some config
  fits : t.Fits config
  store : t.store?.isSome
  global : t.global?.isSome
  builtins : config.initPolicy = .eager →
    ∀ c ∈ ExceptionClass.builtins, ∃ d, t.known? c = some (.ok d)

theorem Establishes.extends (established : t.Establishes config) (grown : t.Extends u) :
    u.Establishes config where
  recorded := grown.configured established.recorded
  fits := established.fits.extends grown established.store established.global
  store := by
    obtain ⟨a, found⟩ := Option.isSome_iff_exists.1 established.store
    obtain ⟨b, found', _⟩ := grown.chunkSize found
    exact Option.isSome_of_mem found'
  global := by
    obtain ⟨r, found⟩ := Option.isSome_iff_exists.1 established.global
    obtain ⟨r', found', _⟩ := grown.registries .global found
    exact Option.isSome_of_mem found'
  builtins eager c builtin := by
    obtain ⟨d, known⟩ := established.builtins eager c builtin
    exact ⟨d, grown.known known⟩

/-- The state in which settings that fit are tried has a store and a registry as
the settings say, and keeps them through the registrations. -/
theorem Fits.registering (fits : s.Fits config) (sound : s.Sound) :
    let after := (((s.openWith config).setLevel config.logLevel).registerBuiltins
      config.initPolicy).2
    after.Fits config ∧ after.store?.isSome ∧ after.global?.isSome := by
  intro after
  have grown : (s.openWith config).Extends after := (steps_registerBuiltins sound config).extends
  obtain ⟨a, found, _⟩ := grown.chunkSize rfl
  obtain ⟨r, found', _⟩ := grown.registries .global rfl
  exact ⟨fits.openWith.extends grown rfl rfl, Option.isSome_of_mem found,
    Option.isSome_of_mem found'⟩

theorem Sound.establishes (sound : s.Sound) (accepted : s.configure config = (.ok (), t)) :
    t.Establishes config := by
  have outcome := sound.configures config
  rw [accepted] at outcome
  cases outcome with
  | @done after _ fits registered =>
      have kept := fits.registering sound
      have sound' : ((s.openWith config).setLevel config.logLevel).Sound :=
        (Step.setLogger _ _).sound (sound.openWith config)
      rw [registered] at kept
      rw [report_eq]
      refine ⟨rfl, kept.1.of_fields rfl rfl, kept.2.1, kept.2.2, ?_⟩
      intro eager c builtin
      rw [eager] at registered
      exact known_of_registerAll sound' registered c builtin

/-- Settings are in effect: they are recorded, the store and the global registry
are as they say, no root in it is against them, and the built-in classes are
registered if they ask for it. -/
structure InEffect (s : TypeSystem) (config : Config) : Prop where
  recorded : s.config? = some config
  policy : ∃ r, s.global? = some r ∧ r.policy = config.rootPolicy
  chunkSize : ∃ a, s.store? = some a ∧ a.chunkSize = min (max config.arenaChunkSize 1) 16384
  roots : ∀ name d, s.globalRegistry.lookup name = some d → d.isRoot →
    d.name = name ∧ config.rootPolicy.allows name = true
  builtins : config.initPolicy = .eager → ∃ root system timeout,
    s.globalRegistry.lookup "System.Exception" = some root ∧
      s.globalRegistry.lookup "System.SystemException" = some system ∧
        s.globalRegistry.lookup "System.TimeoutException" = some timeout ∧
          root.base? = none ∧ system.base? = some root ∧ timeout.base? = some system

theorem Establishes.inEffect (established : s.Establishes config) (reachable : s.Reachable) :
    s.InEffect config where
  recorded := established.recorded
  policy := by
    obtain ⟨r, used⟩ := Option.isSome_iff_exists.1 established.global
    exact ⟨r, used, established.fits.policy used⟩
  chunkSize := by
    obtain ⟨a, used⟩ := Option.isSome_iff_exists.1 established.store
    exact ⟨a, used, established.fits.store used⟩
  roots name d found root := by
    obtain ⟨r, used⟩ := Option.isSome_iff_exists.1 established.global
    rw [globalRegistry, used, Option.getD_some] at found
    have used : s.inUse? .global = some r := used
    refine ⟨(reachable.sound.filed .global used found).2, ?_⟩
    rw [← established.fits.policy used]
    apply reachable.rootsAllowed used found
    simpa [Descriptor.isRoot] using root
  builtins eager := by
    obtain ⟨root, known⟩ := established.builtins eager .root (by decide)
    obtain ⟨system, known'⟩ := established.builtins eager .system (by decide)
    obtain ⟨timeout, known''⟩ := established.builtins eager .timeout (by decide)
    obtain ⟨found, _, base⟩ := reachable.sound.entry_of_known known
    obtain ⟨found', _, base'⟩ := reachable.sound.entry_of_known known'
    obtain ⟨found'', _, base''⟩ := reachable.sound.entry_of_known known''
    refine ⟨root, system, timeout, found, found', found'', ?_, ?_, ?_⟩
    · simpa [ExceptionClass.base?] using base
    · simpa [ExceptionClass.base?, ExceptionClass.system, known] using base'
    · simpa [ExceptionClass.base?, ExceptionClass.timeout, known'] using base''

theorem configure_of_set (set : s.config?.isSome) (config : Config) :
    s.configure config = (.error .alreadyInitialized, s) := by
  rw [configure, if_pos set]

namespace Configures

variable {done : Except Error Unit × TypeSystem} (outcome : Configures s config done)

include outcome

theorem of_store {a : Arena Descriptor} (used : s.store? = some a)
    (other : a.chunkSize ≠ Arena.clampChunkSize config.arenaChunkSize) :
    done.1 = .error (.registryInUse .arenaChunkSize) ∨ done.1 = .error .alreadyInitialized := by
  cases outcome with
  | again => exact .inr rfl
  | storeInUse => exact .inl rfl
  | policyInUse _ store same =>
      cases used.symm.trans store
      exact absurd same other
  | failed _ fits | done _ fits => exact absurd (fits.store used) other

theorem of_policy {a : Arena Descriptor} {r : Registry} (store : s.store? = some a)
    (same : a.chunkSize = Arena.clampChunkSize config.arenaChunkSize)
    (used : s.global? = some r) (other : r.policy ≠ config.rootPolicy) :
    done.1 = .error (.registryInUse .rootPolicy) ∨ done.1 = .error .alreadyInitialized := by
  cases outcome with
  | again => exact .inr rfl
  | storeInUse _ store' other' =>
      cases store.symm.trans store'
      exact absurd same other'
  | policyInUse => exact .inl rfl
  | failed _ fits | done _ fits => exact absurd (fits.policy used) other

theorem of_fits (fits : s.Fits config) :
    done.1 = (((s.openWith config).setLevel config.logLevel).registerBuiltins
        config.initPolicy).1 ∨ done.1 = .error .alreadyInitialized := by
  cases outcome with
  | again => exact .inr rfl
  | storeInUse _ used other => exact absurd (fits.store used) other
  | policyInUse _ _ _ used other => exact absurd (fits.policy used) other
  | failed _ _ registered | done _ _ registered =>
      left
      rw [registered]

end Configures

/-- Settings that fit, and fail at the built-in classes, fail there again. -/
theorem Fits.refused_again (fits : s.Fits config) (sound : s.Sound) {e : Error}
    (failed : ((s.openWith config).setLevel config.logLevel).registerBuiltins
      config.initPolicy = (.error e, t)) (grown : t.Extends u) :
    u.Fits config ∧ ((u.openWith config).setLevel config.logLevel).registerBuiltins
      config.initPolicy = (.error e, (u.openWith config).setLevel config.logLevel) := by
  have kept := fits.registering sound
  rw [failed] at kept
  refine ⟨kept.1.extends grown kept.2.1 kept.2.2, ?_⟩
  obtain ⟨eager, failed⟩ := registerBuiltins_error failed
  have started : ((s.openWith config).setLevel config.logLevel).Sound :=
    (Step.setLogger _ _).sound (sound.openWith config)
  have levelled : (u.openWith config).Extends ((u.openWith config).setLevel config.logLevel) :=
    (Step.setLogger _ _).extends
  rw [eager]
  exact registerAll_again started failed
    (grown.trans ((extends_openWith u config).trans levelled))

/-- Settings that were refused are refused for the same reason for good, unless
others were accepted meanwhile. -/
theorem Sound.refused_again (sound : s.Sound) {e : Error}
    (refused : s.configure config = (.error e, t)) (grown : t.Extends u) (sound' : u.Sound) :
    (u.configure config).1 = .error e ∨
      (u.configure config).1 = .error .alreadyInitialized := by
  have earlier := sound.configures config
  have later := sound'.configures config
  have grown' : s.Extends u := by
    have first := (sound.configure config).2
    rw [refused] at first
    exact first.trans grown
  rw [refused] at earlier
  cases earlier with
  | again before =>
      obtain ⟨c, set⟩ := Option.isSome_iff_exists.1 before
      rw [configure_of_set (Option.isSome_of_mem (grown'.configured set))]
      exact .inl rfl
  | storeInUse _ used other =>
      obtain ⟨a, used', same⟩ := grown'.chunkSize used
      exact later.of_store used' (same ▸ other)
  | policyInUse _ store same used other =>
      obtain ⟨a, store', same'⟩ := grown'.chunkSize store
      obtain ⟨r, used', larger⟩ := grown'.registries .global used
      exact later.of_policy store' (same'.trans same) used' (larger.policy ▸ other)
  | failed _ fits registered =>
      obtain ⟨fits', again⟩ := fits.refused_again sound registered grown
      have answered := later.of_fits fits'
      rwa [again] at answered

/-- What was answered to settings at a place of a run. -/
theorem configure_at {ops : List Operation} {i : Nat} {answer : Except Error Unit}
    (asked : ops[i]? = some (.configure config))
    (given : (s.performAll ops).1[i]? = some (.configured answer)) :
    (s.stateAt ops i).configure config = (answer, ((s.stateAt ops i).configure config).2) := by
  rw [answer_at asked] at given
  have answered : ((s.stateAt ops i).configure config).1 = answer := by
    simpa [perform] using given
  exact Prod.ext answered rfl

theorem answer_configure_at {ops : List Operation} {i : Nat}
    (asked : ops[i]? = some (.configure config)) :
    (s.performAll ops).1[i]? = some (.configured ((s.stateAt ops i).configure config).1) :=
  answer_at asked

/-- After settings were accepted, all others are turned down. -/
theorem answer_after_accepted {ops : List Operation} (reachable : s.Reachable)
    (admitted : s.AdmitsAll ops) {i j : Nat} (order : i < j)
    (given : (s.performAll ops).1[i]? = some (.configured (.ok ()))) :
    (s.performAll ops).1[j]? ≠ some (.configured (.ok ())) := by
  intro again
  obtain ⟨op, here, answered⟩ := operation_of_answer given
  obtain ⟨op', there, answered'⟩ := operation_of_answer again
  have first := reachable.stateAt admitted i
  have second := reachable.stateAt admitted j
  have set : ((s.stateAt ops i).perform op).2.config?.isSome := by
    rw [first.set_perform (admits_at admitted here)]
    exact .inr answered
  obtain ⟨config, set⟩ := Option.isSome_iff_exists.1 set
  have kept := ((leads_of_lt admitted here order).extends
    (first.sound.perform (admits_at admitted here)).1).configured set
  by_cases setting : ∃ config, op' = .configure config
  · obtain ⟨config', rfl⟩ := setting
    rw [perform, configure_of_set (Option.isSome_of_mem kept)] at answered'
    cases answered'
  · exact perform_ne_configured (fun config same => setting ⟨config, same⟩) _ answered'

/-- Once settings were accepted they are in effect for good, no others are
accepted, and settings that were refused once are never accepted. -/
theorem settings_stand {environment : Environment} {ops : List Operation}
    (admitted : (start environment).AdmitsAll ops) :
    let run := (start environment).performAll ops
    (∀ (i : Nat) (config : Config), ops[i]? = some (.configure config) →
        run.1[i]? = some (.configured (.ok ())) → run.2.InEffect config) ∧
      (∀ i j : Nat, run.1[i]? = some (.configured (.ok ())) →
        run.1[j]? = some (.configured (.ok ())) → i = j) ∧
      ∀ (i j : Nat) (config : Config) (e : Error), i < j →
        ops[i]? = some (.configure config) → ops[j]? = some (.configure config) →
          run.1[i]? = some (.configured (.error e)) →
            run.1[j]? = some (.configured (.error e)) ∨
              run.1[j]? = some (.configured (.error .alreadyInitialized)) := by
  intro run
  have started : Reachable (start environment) := ⟨environment, .refl⟩
  refine ⟨?_, ?_, ?_⟩
  · intro i config asked given
    have before := started.stateAt admitted i
    have established := before.sound.establishes (configure_at asked given)
    have leads := leads_to_last admitted asked
    have sound := (before.sound.configure config).1
    exact (established.extends (leads.extends sound)).inEffect (reachable_performAll admitted)
  · intro i j given given'
    rcases Nat.lt_trichotomy i j with order | same | order
    · exact absurd given' (answer_after_accepted started admitted order given)
    · exact same
    · exact absurd given (answer_after_accepted started admitted order given')
  · intro i j config e order asked asked' given
    have before := started.stateAt admitted i
    have later := started.stateAt admitted j
    have sound := (before.sound.configure config).1
    have grown := (leads_of_lt admitted asked order).extends sound
    have answered := before.sound.refused_again (configure_at asked given) grown later.sound
    change ((start environment).performAll ops).1[j]? = _ ∨
      ((start environment).performAll ops).1[j]? = _
    rw [answer_configure_at asked']
    simpa only [Option.some.injEq, Answer.configured.injEq] using answered

/-- A program that uses a registry, tries settings with another policy twice,
then some that fit, and then all of them again. -/
def settingsTwice : List Operation :=
  [.define .global { name := "System.Object" },
    .configure { rootPolicy := .any }, .configure { rootPolicy := .any },
    .configure { initPolicy := .eager },
    .configure { rootPolicy := .any }, .configure { initPolicy := .eager }]

/-- Only the settings that fit are accepted, and only once. -/
theorem settings_stand_settingsTwice :
    let run := (start {}).performAll settingsTwice
    (start {}).AdmitsAll settingsTwice ∧ run.2.InEffect { initPolicy := .eager } ∧
      run.1[2]? = some (.configured (.error (.registryInUse .rootPolicy))) ∧
      run.1[4]? = some (.configured (.error .alreadyInitialized)) ∧
      run.1[5]? ≠ some (.configured (.ok ())) := by
  have admitted : (start {}).AdmitsAll settingsTwice := by
    decide +kernel
  obtain ⟨stay, once, _⟩ := settings_stand admitted
  have accepted : ((start {}).performAll settingsTwice).1[3]? =
      some (.configured (.ok ())) := by
    rfl
  refine ⟨admitted, stay 3 _ rfl accepted, by rfl, by rfl, ?_⟩
  intro again
  have same := once 3 5 accepted again
  omega

end TypeSystem

end RuntimeTypes
