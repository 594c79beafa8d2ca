import RuntimeTypes.Proofs.Registry.Refusal
import RuntimeTypes.Proofs.TypeSystem.Account

/-!
What the log is about.  A report tells of names that passed the check, of types
that are in the store and of errors that classes are known with; since none of
this is ever taken back, all lines that were written do so at any later time.
-/

namespace RuntimeTypes

namespace TypeSystem

variable {s t u : TypeSystem} {ref : RegistryRef} {r : Registry} {definition : Definition}
  {event : Event}

/-- What may be reported in a state. -/
inductive MayReport (s : TypeSystem) : Event → Prop
  | rejectedRoot {name : String} (formed : QualifiedName.isWellFormed name = true) :
      MayReport s (.rejectedRoot name)
  | sameShape {d : Descriptor} (held : s.Holds d) : MayReport s (.sameShape d.name)
  | otherFields {d : Descriptor} (held : s.Holds d) (requested : List Field) :
      MayReport s (.otherFields d.name d.fields requested)
  | otherBase {d : Descriptor} {requested? : Option Descriptor} (held : s.Holds d)
      (based : ∀ b, requested? = some b → s.Holds b) :
      MayReport s (.otherBase d.name d.base? requested?)
  | registered {d : Descriptor} (held : s.Holds d) : MayReport s (.registered d)
  | storeInUse (chunkSize requested : Nat) : MayReport s (.storeInUse chunkSize requested)
  | policyInUse (policy requested : RootPolicy) : MayReport s (.policyInUse policy requested)
  | initialized (policy : InitPolicy) (types : Nat) : MayReport s (.initialized policy types)
  | classFailed {c : ExceptionClass} {e : Error} (known : s.known? c = some (.error e)) :
      MayReport s (.classFailed e)
  | hostMessage (level : Level) (target text : String) :
      MayReport s (.hostMessage level target text)

theorem MayReport.mono (kept : s.Extends t) (may : s.MayReport event) : t.MayReport event := by
  cases may with
  | rejectedRoot formed => exact .rejectedRoot formed
  | sameShape held => exact .sameShape (kept.holds held)
  | otherFields held requested => exact .otherFields (kept.holds held) requested
  | otherBase held based =>
      exact .otherBase (kept.holds held) fun b asked => kept.holds (based b asked)
  | registered held => exact .registered (kept.holds held)
  | storeInUse chunkSize requested => exact .storeInUse chunkSize requested
  | policyInUse policy requested => exact .policyInUse policy requested
  | initialized policy types => exact .initialized policy types
  | classFailed known => exact .classFailed (kept.known known)
  | hostMessage level target text => exact .hostMessage level target text

/-- What a definition reports may be reported after it. -/
theorem Sound.mayReport_settle (sound : s.Sound) (here : s.registryAt ref = some r)
    (based : ∀ b, definition.base? = some b → s.Holds b)
    (reported : (r.define s.store definition).event? = some event) :
    (s.settle ref (r.define s.store definition)).2.MayReport event := by
  have kept := extends_settle here definition
  have held : ∀ {d}, r.lookup definition.name = some d →
      (s.settle ref (r.define s.store definition)).2.Holds d := fun found =>
    kept.holds (sound.filed_at here found).1
  cases judged : r.judge definition with
  | malformed =>
      simp only [Registry.define, judged] at reported
      cases reported
  | undesignated =>
      simp only [Registry.define, judged] at reported
      cases reported
      exact .rejectedRoot (Registry.wellFormed_of_undesignated judged)
  | known d =>
      simp only [Registry.define, judged] at reported
      cases reported
      exact .sameShape (held (Registry.judge_eq_known_iff.1 judged).2.1)
  | otherFields d =>
      simp only [Registry.define, judged] at reported
      cases reported
      exact .otherFields (held (Registry.judge_eq_otherFields_iff.1 judged).2.1) _
  | otherBase d =>
      simp only [Registry.define, judged] at reported
      cases reported
      exact .otherBase (held (Registry.judge_eq_otherBase_iff.1 judged).2.1)
        fun b asked => kept.holds (based b asked)
  | fresh =>
      rw [Registry.define_of_fresh judged] at reported
      cases reported
      apply MayReport.registered
      rw [Holds, store_settle, Registry.toList_store_define, Registry.attempt, if_pos judged]
      exact List.mem_append_right _ (List.mem_singleton_self _)

/-- All lines that were written are about what is still so. -/
structure Chronicled (s : TypeSystem) : Prop where
  sound : s.Sound
  lines : ∀ line ∈ s.log.toList, s.MayReport line.event

namespace Chronicled

theorem start (environment : Environment) : (TypeSystem.start environment).Chronicled where
  sound := sound_start environment
  lines line written := by cases written

theorem silent (chronicled : s.Chronicled) (sound : t.Sound) (kept : s.Extends t)
    (same : t.log = s.log) : t.Chronicled where
  sound := sound
  lines line written := by
    rw [same] at written
    exact (chronicled.lines line written).mono kept

/-- A line is added, and what it tells is so from now on. -/
theorem written (chronicled : s.Chronicled) (sound : t.Sound) (kept : s.Extends t)
    (event? : Option Event) (may : ∀ event, event? = some event → t.MayReport event)
    (log : t.log.toList = s.log.toList ++ (event?.bind s.logger.line?).toList) :
    t.Chronicled where
  sound := sound
  lines line written := by
    rw [log, List.mem_append, Option.mem_toList] at written
    rcases written with before | new
    · exact (chronicled.lines line before).mono kept
    · obtain ⟨event, told, new⟩ := Option.bind_eq_some_iff.1 new
      rw [event_of_line? new]
      exact may event told

theorem report (chronicled : s.Chronicled) (may : s.MayReport event) :
    (s.report event).Chronicled := by
  have step := Step.report s event
  apply chronicled.written (step.sound chronicled.sound) step.extends (some event)
  · rintro _ ⟨⟩
    exact may.mono step.extends
  · exact log_report s event

theorem define (chronicled : s.Chronicled) (here : s.registryAt ref = some r)
    (based : ∀ b, definition.base? = some b → s.Holds b) :
    (s.settle ref (r.define s.store definition)).2.Chronicled := by
  have sound := chronicled.sound
  apply chronicled.written (sound.settle here based) (extends_settle here definition)
    (r.define s.store definition).event?
  · intro event reported
    exact sound.mayReport_settle here based reported
  · exact log_settle s ref _

theorem remember (chronicled : s.Chronicled) {c : ExceptionClass}
    {outcome : Except Error Descriptor} (sound : (s.remember c outcome).Sound)
    (unknown : s.known? c = none) : (s.remember c outcome).Chronicled :=
  chronicled.silent sound (extends_remember unknown outcome) rfl

theorem registerClass {c : ExceptionClass} {base? : Option Descriptor}
    (chronicled : s.Chronicled) (registered : (s.registerClass c base?).2.Sound)
    (unknown : s.known? c = none) (based : ∀ b, base? = some b → s.Holds b) :
    (s.registerClass c base?).2.Chronicled := by
  have defined : (s.defineGlobal (classDefinition c base?)).2.Chronicled :=
    chronicled.define (registryAt_global s) based
  apply defined.remember registered
  rw [known?_defineGlobal, unknown]

theorem descriptorOf (chronicled : s.Chronicled) (c : ExceptionClass) :
    (s.descriptorOf c).2.Chronicled := by
  have after := (steps_descriptorOf chronicled.sound c).sound chronicled.sound
  fun_induction TypeSystem.descriptorOf s c with
  | case1 | case3 => exact chronicled
  | case2 unknown => exact chronicled.registerClass after unknown (by simp)
  | case4 ident typeName base c unknown e t request ih =>
      have first := ih ((steps_descriptorOf chronicled.sound base).sound chronicled.sound)
      rw [request] at first
      exact first.remember after (unknown_of_request request unknown)
  | case5 ident typeName base c unknown d t request ih =>
      have first := ih ((steps_descriptorOf chronicled.sound base).sound chronicled.sound)
      rw [request] at first
      apply first.registerClass after (unknown_of_request request unknown)
      rintro _ ⟨⟩
      exact first.sound.holds_of_known (known?_of_request request)

/-- What is built from requests writes what requests write. -/
theorem request (c : ExceptionClass) (both : t = u ∧ t.Chronicled) :
    Matches (fun t u => t = u ∧ t.Chronicled) (t.descriptorOf c) (u.descriptorOf c) :=
  matches_of_keeps (fun _ c chronicled => chronicled.descriptorOf c) c both

theorem registerBuiltins (chronicled : s.Chronicled) (policy : InitPolicy) :
    (s.registerBuiltins policy).2.Chronicled := by
  cases policy with
  | onDemand => exact chronicled
  | eager => exact (matches_registerAll request ExceptionClass.builtins ⟨rfl, chronicled⟩).state.2

theorem configure (chronicled : s.Chronicled) (config : Config) :
    (s.configure config).2.Chronicled := by
  have sound := chronicled.sound
  have opened : (s.openWith config).Chronicled :=
    chronicled.silent (sound.openWith config) (extends_openWith s config) rfl
  have step := Step.setLogger (s.openWith config)
    { (s.openWith config).logger with level := config.logLevel }
  have levelled : ((s.openWith config).setLevel config.logLevel).Chronicled :=
    opened.silent (step.sound opened.sound) step.extends rfl
  have registering := levelled.registerBuiltins config.initPolicy
  have unset := (steps_registerBuiltins sound config).config?_eq
  have after := (sound.configure config).1
  have outcome := sound.configures config
  generalize s.configure config = done at outcome after ⊢
  cases outcome with
  | again => exact chronicled
  | storeInUse => exact chronicled.report (.storeInUse _ _)
  | policyInUse => exact chronicled.report (.policyInUse _ _)
  | failed first fits registered =>
      rw [registered] at registering
      exact registering
  | @done t first fits registered =>
      rw [registered] at registering unset
      have reported := registering.report
        (.initialized config.initPolicy t.globalRegistry.size)
      apply reported.silent after _ rfl
      refine .of_fields rfl rfl rfl rfl fun set => ?_
      rw [report_eq] at set
      cases (unset.trans first).symm.trans set

theorem perform (chronicled : s.Chronicled) {op : Operation} (admitted : s.Admits op) :
    (s.perform op).2.Chronicled := by
  have sound := chronicled.sound
  cases op with
  | addRegistry policy =>
      exact chronicled.silent (sound.addRegistry policy) (extends_addRegistry s policy) rfl
  | touch ref =>
      cases ref with
      | global => exact chronicled.silent (sound.openWith {}) (extends_openWith s {}) rfl
      | isolated index => exact chronicled
  | define ref definition =>
      simp only [TypeSystem.perform, define?]
      cases here : s.registryAt ref with
      | none => exact chronicled
      | some r => exact chronicled.define here admitted
  | describe c => exact chronicled.descriptorOf c
  | require c =>
      have requested := chronicled.descriptorOf c
      simp only [TypeSystem.perform, requireDescriptor]
      split
      case h_1 asked => simpa only [asked] using requested
      case h_2 e t asked =>
          rw [asked] at requested
          exact requested.report (.classFailed (known?_of_request asked))
  | construct c => exact (matches_construct request c ⟨rfl, chronicled⟩).state.2
  | instantiate host d => exact (matches_instantiate request host d ⟨rfl, chronicled⟩).state.2
  | downcast x c => exact (matches_downcast request x c ⟨rfl, chronicled⟩).state.2
  | configure config => exact chronicled.configure config
  | setLevel level =>
      have step := Step.setLogger s { s.logger with level := level }
      exact chronicled.silent (step.sound sound) step.extends rfl
  | setColored colored =>
      have step := Step.setLogger s { s.logger with colored := colored }
      exact chronicled.silent (step.sound sound) step.extends rfl
  | emit level target text => exact chronicled.report (.hostMessage level target text)

end Chronicled

theorem Reachable.chronicled (reachable : s.Reachable) : s.Chronicled := by
  obtain ⟨environment, leads⟩ := reachable
  induction leads with
  | refl => exact .start environment
  | step _ admitted ih => exact ih.perform admitted

end TypeSystem

end RuntimeTypes
