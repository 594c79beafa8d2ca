import RuntimeTypes.Proofs.TypeSystem.Operations

/-!
Two programs side by side, for whole runs: where single requests for
descriptors agree, so do the settings, every operation and every run.
-/

namespace RuntimeTypes

namespace TypeSystem

variable {R : TypeSystem → TypeSystem → Prop} {find : Finder} {s t : TypeSystem}

section Operations

variable (shares : Shares R) (requests : ∀ {s t : TypeSystem} (c : ExceptionClass),
  s.Sound → R s t → Matches R (s.descriptorOf c) (find t c))

include requests

theorem sound_matches_request (c : ExceptionClass) (both : s.Sound ∧ R s t) :
    Matches (fun s t => s.Sound ∧ R s t) (s.descriptorOf c) (find t c) := by
  have steps := steps_descriptorOf both.1 c
  obtain ⟨answer, s', t', left, right, kept⟩ := requests c both.1 both.2
  rw [left] at steps
  exact ⟨answer, s', t', left, right, steps.sound both.1, kept⟩

theorem matches_registerBuiltins (policy : InitPolicy) (sound : s.Sound) (related : R s t) :
    Matches R (s.registerBuiltins policy) (t.registerBuiltins policy find) := by
  cases policy with
  | onDemand => exact .pair related _
  | eager =>
      obtain ⟨answer, s', t', left, right, _, kept⟩ := matches_registerAll
        (sound_matches_request requests) ExceptionClass.builtins ⟨sound, related⟩
      exact ⟨answer, s', t', left, right, kept⟩

include shares

theorem matches_configure (config : Config) (sound : s.Sound) (related : R s t) :
    Matches R (s.configure config) (t.configure config find) := by
  have opened := shares.openWith related config
  have levelled : R ((s.openWith config).setLevel config.logLevel)
      ((t.openWith config).setLevel config.logLevel) :=
    shares.setLevel opened config.logLevel
  have sound' : ((s.openWith config).setLevel config.logLevel).Sound :=
    (Step.setLogger _ _).sound (sound.openWith config)
  obtain ⟨answer, s', t', left, right, kept⟩ :=
    matches_registerBuiltins requests config.initPolicy sound' levelled
  have same : t.openWith config =
      { t with
        store? := some (s.store?.getD (.ofChunkSize config.arenaChunkSize))
        global? := some (s.global?.getD (.empty config.rootPolicy)) } := by
    rw [TypeSystem.openWith, shares.store related, shares.global related]
  rw [same] at right opened
  have set : t.config?.isSome = s.config?.isSome := by rw [shares.config related]
  unfold configure
  rw [set, shares.store related]
  by_cases before : s.config?.isSome = true
  · rw [if_pos before, if_pos before]
    exact .pair related _
  · rw [if_neg before, if_neg before]
    dsimp only
    by_cases other : (s.store?.getD (.ofChunkSize config.arenaChunkSize)).chunkSize ≠
        Arena.clampChunkSize config.arenaChunkSize
    · rw [if_pos other, if_pos other]
      have stored := shares.setStore related
        (some (s.store?.getD (.ofChunkSize config.arenaChunkSize)))
      exact .pair (shares.report stored _) _
    · rw [if_neg other, if_neg other, shares.global related]
      by_cases conflict : (s.global?.getD (.empty config.rootPolicy)).policy ≠ config.rootPolicy
      · rw [if_pos conflict, if_pos conflict]
        exact .pair (shares.report opened _) _
      · rw [if_neg conflict, if_neg conflict]
        unfold TypeSystem.openWith at left
        rw [left, right]
        cases answer with
        | error e => exact .pair kept _
        | ok done =>
            simp only [shares.globalRegistry_eq kept]
            exact .pair (shares.setConfig (shares.report kept _) _) _

theorem matches_perform (op : Operation) (sound : s.Sound) (related : R s t) :
    Matches R (s.perform op) (t.perform op find) := by
  have both : s.Sound ∧ R s t := ⟨sound, related⟩
  have request : ∀ {s t : TypeSystem} (c : ExceptionClass), s.Sound ∧ R s t →
      Matches (fun s t => s.Sound ∧ R s t) (s.descriptorOf c) (find t c) :=
    fun c both => sound_matches_request requests c both
  cases op with
  | addRegistry policy =>
      simp only [perform, addRegistry, shares.isolated related, shares.store_eq related]
      have stored := shares.setStore related (some s.store)
      exact .pair (shares.setIsolated stored (s.isolated.push (.empty policy))) _
  | touch ref =>
      refine .pair ?_ _
      cases ref with
      | global =>
          simp only [touch, openGlobal, shares.store_eq related,
            shares.globalRegistry_eq related]
          exact shares.setGlobal (shares.setStore related (some s.store)) (some s.globalRegistry)
      | isolated index => exact related
  | define ref definition =>
      simp only [perform, define?, shares.registryAt_eq related, shares.store_eq related]
      cases s.registryAt ref with
      | none => exact .pair related _
      | some r =>
          have settled := (shares.settle related ref (r.define s.store definition)).state
          exact .pair settled _
  | describe c =>
      obtain ⟨answer, s', t', left, right, _, kept⟩ := request c both
      simp only [perform, left, right]
      exact .pair kept _
  | require c =>
      obtain ⟨answer, s', t', left, right, _, kept⟩ := request c both
      simp only [perform, requireDescriptor, left, right]
      cases answer with
      | error e =>
          have reported := shares.report kept (.classFailed e)
          exact .pair reported _
      | ok d => exact .pair kept _
  | construct c =>
      obtain ⟨built, s', t', left, right, _, kept⟩ := matches_construct request c both
      simp only [perform, left, right]
      exact .pair kept _
  | instantiate host d =>
      obtain ⟨made, s', t', left, right, _, kept⟩ := matches_instantiate request host d both
      simp only [perform, left, right]
      exact .pair kept _
  | downcast x c =>
      obtain ⟨found, s', t', left, right, _, kept⟩ := matches_downcast request x c both
      simp only [perform, left, right]
      exact .pair kept _
  | configure config =>
      obtain ⟨answer, s', t', left, right, kept⟩ :=
        matches_configure shares requests config sound related
      simp only [perform, left, right]
      exact .pair kept _
  | setLevel level =>
      exact .pair (shares.setLevel related level) _
  | setColored colored =>
      exact .pair (shares.setColored related colored) _
  | emit level target text => exact .pair (shares.report related _) _

/-- Two programs that agree on single requests agree on every run. -/
theorem matches_performAll {ops : List Operation} (admitted : s.AdmitsAll ops) (sound : s.Sound)
    (related : R s t) : Matches R (s.performAll ops) (t.performAll ops find) := by
  induction ops generalizing s t with
  | nil => exact .pair related _
  | cons op rest ih =>
      obtain ⟨first, later⟩ := admitted
      have performed := matches_perform shares requests op sound related
      have continued := ih later (sound.perform first).1 performed.state
      refine ⟨_, _, (t.performAll (op :: rest) find).2, rfl, ?_, continued.state⟩
      simp only [performAll, performed.answer, continued.answer]

end Operations

end TypeSystem

end RuntimeTypes
