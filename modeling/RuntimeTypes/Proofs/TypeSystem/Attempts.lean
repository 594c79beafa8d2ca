import RuntimeTypes.Proofs.Event.Lines
import RuntimeTypes.Proofs.TypeSystem.Footprint
import RuntimeTypes.Proofs.TypeSystem.Runs

/-!
The definitions that a run consists of, those that the program asks for and
those that classes ask for on the way.  Between two of them nothing is stored,
and nothing is written about definitions.
-/

namespace RuntimeTypes

/-- A definition that was asked for, its answer, and the descriptor that was
stored for it if the name was free. -/
structure Attempt where
  definition : Definition
  answer : Except Error Descriptor
  stored? : Option Descriptor

/-- What a registry makes of a definition. -/
def Registry.attempt (r : Registry) (store : Arena Descriptor) (definition : Definition) :
    Attempt where
  definition := definition
  answer := (r.define store definition).answer
  stored? := if r.judge definition = .fresh then some (made store definition) else none

namespace TypeSystem

variable {low : Level} {s t u : TypeSystem} {op : Operation} {ops : List Operation}
  {attempts more : List Attempt}

/-- A change that is no definition. -/
inductive Aside : TypeSystem → TypeSystem → Prop where
  | report (s : TypeSystem) {event : Event} (other : event.isAboutDefinition = false) :
      Aside s (s.report event)
  | setLogger (s : TypeSystem) (logger : Logger) : Aside s { s with logger := logger }
  | openWith (s : TypeSystem) (config : Config) : Aside s (s.openWith config)
  | addRegistry (s : TypeSystem) (policy : RootPolicy) : Aside s (s.addRegistry policy).2
  | remember (s : TypeSystem) (c : ExceptionClass) (outcome : Except Error Descriptor) :
      Aside s (s.remember c outcome)
  | record (s : TypeSystem) (config : Config) : Aside s { s with config? := some config }

/-- The way from one state to a later one, with the definitions made on it in
order, each of them while the logger was at the level `low` or a finer one. -/
inductive Course (low : Level) (s : TypeSystem) : List Attempt → TypeSystem → Prop where
  | start : Course low s [] s
  | aside {attempts : List Attempt} {t u : TypeSystem} (before : Course low s attempts t)
      (other : Aside t u) : Course low s attempts u
  | define {attempts : List Attempt} {t : TypeSystem} {ref : RegistryRef} {r : Registry}
      (before : Course low s attempts t) (sound : t.Sound) (fine : low ≤ t.logger.level)
      (here : t.registryAt ref = some r) (definition : Definition) :
      Course low s (attempts ++ [r.attempt t.store definition])
        (t.settle ref (r.define t.store definition)).2

theorem Course.trans (first : Course low s attempts t) (second : Course low t more u) :
    Course low s (attempts ++ more) u := by
  induction second with
  | start =>
      rw [List.append_nil]
      exact first
  | aside _ other ih => exact .aside ih other
  | define _ sound fine here definition ih =>
      rw [← List.append_assoc]
      exact .define ih sound fine here definition

/-- A part of an operation: the logger stays as it is. -/
structure Proceeds (low : Level) (s t : TypeSystem) : Prop where
  sound : t.Sound
  logger : t.logger = s.logger
  course : low ≤ s.logger.level → ∃ attempts, Course low s attempts t

namespace Proceeds

theorem refl (sound : s.Sound) : Proceeds low s s where
  sound := sound
  logger := rfl
  course _ := ⟨[], .start⟩

theorem trans (first : Proceeds low s t) (second : Proceeds low t u) : Proceeds low s u where
  sound := second.sound
  logger := second.logger.trans first.logger
  course fine := by
    obtain ⟨attempts, before⟩ := first.course fine
    obtain ⟨more, after⟩ := second.course (first.logger ▸ fine)
    exact ⟨attempts ++ more, before.trans after⟩

theorem course_of_fine (proceeds : Proceeds low s t) (fine : low ≤ t.logger.level) :
    ∃ attempts, Course low s attempts t :=
  proceeds.course (proceeds.logger ▸ fine)

theorem aside (sound : t.Sound) (logger : t.logger = s.logger) (other : Aside s t) :
    Proceeds low s t where
  sound := sound
  logger := logger
  course _ := ⟨[], .aside .start other⟩

theorem report (sound : s.Sound) {event : Event} (other : event.isAboutDefinition = false) :
    Proceeds low s (s.report event) := by
  refine aside ((Step.report s event).sound sound) ?_ (.report s other)
  rw [report_eq]

theorem define (sound : s.Sound) {ref : RegistryRef} {r : Registry} {definition : Definition}
    (here : s.registryAt ref = some r)
    (based : ∀ base, definition.base? = some base → s.Holds base) :
    Proceeds low s (s.settle ref (r.define s.store definition)).2 where
  sound := sound.settle here based
  logger := (settle_keeps s ref _).2.1
  course fine := ⟨_, .define .start sound fine here definition⟩

/-- The registration of a class is a definition, and what is known of the class after it. -/
theorem registerClass {c : ExceptionClass} {base? : Option Descriptor} (sound : s.Sound)
    (registered : (s.registerClass c base?).2.Sound)
    (based : ∀ base, base? = some base → s.Holds base) :
    Proceeds low s (s.registerClass c base?).2 := by
  have defined : Proceeds low s (s.defineGlobal (classDefinition c base?)).2 :=
    define sound (registryAt_global s) based
  exact defined.trans (aside registered rfl (.remember _ c _))

theorem descriptorOf (sound : s.Sound) (c : ExceptionClass) :
    Proceeds low s (s.descriptorOf c).2 := by
  have after := (steps_descriptorOf sound c).sound sound
  fun_induction TypeSystem.descriptorOf s c with
  | case1 | case3 => exact refl sound
  | case2 unknown => exact registerClass sound after (by simp)
  | case4 ident typeName base c unknown e t request ih =>
      have requested := (steps_descriptorOf sound base).sound sound
      have first := ih requested
      rw [request] at first
      exact first.trans (aside after rfl (.remember t _ _))
  | case5 ident typeName base c unknown d t request ih =>
      have requested := (steps_descriptorOf sound base).sound sound
      have first := ih requested
      rw [request] at first
      have known := known?_of_request request
      refine first.trans (registerClass first.sound after ?_)
      rintro _ ⟨rfl⟩
      exact first.sound.holds_of_known known

/-- What is built from requests proceeds as requests do. -/
theorem request (c : ExceptionClass) (both : t = u ∧ Proceeds low s t) :
    Matches (fun t u => t = u ∧ Proceeds low s t) (t.descriptorOf c) (u.descriptorOf c) := by
  apply matches_of_keeps _ c both
  intro t c before
  exact before.trans (descriptorOf before.sound c)

theorem registerBuiltins (sound : s.Sound) (policy : InitPolicy) :
    Proceeds low s (s.registerBuiltins policy).2 := by
  cases policy with
  | onDemand => exact refl sound
  | eager =>
      exact (matches_registerAll request ExceptionClass.builtins ⟨rfl, refl sound⟩).state.2

/-- Operations that do not set the logger leave it alone. -/
theorem perform (sound : s.Sound) (admitted : s.Admits op)
    (unset : ∀ level, op ≠ .setLevel level) (uncolored : ∀ colored, op ≠ .setColored colored)
    (ordinary : ∀ config, op ≠ .configure config) : Proceeds low s (s.perform op).2 := by
  cases op with
  | addRegistry policy => exact aside (sound.addRegistry policy) rfl (.addRegistry s policy)
  | touch ref =>
      cases ref with
      | global => exact aside (sound.openWith {}) rfl (.openWith s {})
      | isolated index => exact refl sound
  | define ref definition =>
      simp only [TypeSystem.perform, define?]
      cases here : s.registryAt ref with
      | none => exact refl sound
      | some r => exact define sound here admitted
  | describe c => exact descriptorOf sound c
  | require c =>
      have requested : Proceeds low s (s.descriptorOf c).2 := descriptorOf sound c
      simp only [TypeSystem.perform, requireDescriptor]
      split
      case h_1 asked => simpa only [asked] using requested
      case h_2 e t asked =>
          have requested : Proceeds low s t := by simpa only [asked] using requested
          have reported : Proceeds low t (t.report (.classFailed e)) :=
            report requested.sound rfl
          exact requested.trans reported
  | construct c => exact (matches_construct request c ⟨rfl, refl sound⟩).state.2
  | instantiate host d => exact (matches_instantiate request host d ⟨rfl, refl sound⟩).state.2
  | downcast x c => exact (matches_downcast request x c ⟨rfl, refl sound⟩).state.2
  | configure config => exact absurd rfl (ordinary config)
  | setLevel level => exact absurd rfl (unset level)
  | setColored colored => exact absurd rfl (uncolored colored)
  | emit level target text => exact report sound rfl

end Proceeds

/-- Settings set the level first, so the level after them is that of the definitions they make. -/
theorem course_configure (sound : s.Sound) (config : Config)
    (fine : low ≤ (s.configure config).2.logger.level) :
    ∃ attempts, Course low s attempts (s.configure config).2 := by
  have opened : Course low s [] ((s.openWith config).setLevel config.logLevel) :=
    .aside (.aside .start (.openWith s config)) (.setLogger _ _)
  have sound' := (Step.setLogger (s.openWith config)
    { (s.openWith config).logger with level := config.logLevel }).sound (sound.openWith config)
  have registering : Proceeds low ((s.openWith config).setLevel config.logLevel)
      (((s.openWith config).setLevel config.logLevel).registerBuiltins config.initPolicy).2 :=
    .registerBuiltins sound' config.initPolicy
  have outcome := sound.configures config
  generalize s.configure config = done at outcome fine ⊢
  cases outcome with
  | again => exact ⟨[], .start⟩
  | storeInUse | policyInUse => exact ⟨[], .aside .start (.report s rfl)⟩
  | failed _ _ registered =>
      rw [registered] at registering
      obtain ⟨attempts, course⟩ := registering.course_of_fine fine
      exact ⟨_, opened.trans course⟩
  | @done t _ _ registered =>
      rw [registered] at registering
      change low ≤ (t.report _).logger.level at fine
      rw [report_eq] at fine
      obtain ⟨attempts, course⟩ := registering.course_of_fine fine
      exact ⟨_, .aside (.aside (opened.trans course) (.report t rfl)) (.record _ config)⟩

theorem course_perform (sound : s.Sound) (admitted : s.Admits op)
    (fine : low ≤ (s.perform op).2.logger.level) :
    ∃ attempts, Course low s attempts (s.perform op).2 := by
  cases op with
  | configure config => exact course_configure sound config fine
  | setLevel level => exact ⟨[], .aside .start (.setLogger s _)⟩
  | setColored colored => exact ⟨[], .aside .start (.setLogger s _)⟩
  | _ =>
      exact (Proceeds.perform sound admitted (by simp) (by simp) (by simp)).course_of_fine fine

/-- A run whose level is fine enough after each operation is made of definitions
at such a level and of what is none. -/
theorem course_performAll (sound : s.Sound) (admitted : s.AdmitsAll ops)
    (fine : ∀ i < ops.length, low ≤ (s.stateAt ops (i + 1)).logger.level) :
    ∃ attempts, Course low s attempts (s.performAll ops).2 := by
  induction ops generalizing s with
  | nil => exact ⟨[], .start⟩
  | cons op rest ih =>
      obtain ⟨attempts, first⟩ := course_perform sound admitted.1 (fine 0 (by simp))
      obtain ⟨more, later⟩ := ih (sound.perform admitted.1).1 admitted.2 fun i bound =>
        fine (i + 1) (by simpa using bound)
      exact ⟨attempts ++ more, first.trans later⟩

end TypeSystem

end RuntimeTypes
