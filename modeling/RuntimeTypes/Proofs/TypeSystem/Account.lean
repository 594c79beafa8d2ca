import Mathlib.Data.List.Forall2
import RuntimeTypes.Proofs.TypeSystem.Attempts
import RuntimeTypes.Proofs.TypeSystem.Ledger
import RuntimeTypes.Proofs.TypeSystem.Logging

/-!
The log as an account of the store.  As long as the level lets registrations
through, the lines that read as such list the stored types in order; at the finest
level the log has a line for every definition that was looked at.  What a line reads
is spelled out here, from its tag to the end of its message.
-/

namespace RuntimeTypes

/-- The line of a registration, as it is written: it gives the name, the base and the
number of own fields of the type. -/
structure Line.Tells (line : Line) (d : Descriptor) : Prop where
  event : line.event = .registered d
  reads : line.Reads "36" "DEBUG"
    ("registered `" ++ d.name ++ "` (base " ++ (d.base?.map Descriptor.name).getD "<none>" ++
      ", " ++ toString d.fields.length ++ " fields)")

theorem Line.tells (line : Line) {d : Descriptor} (event : line.event = .registered d) :
    line.Tells d where
  event := event
  reads := by
    rw [Line.Reads, text_eq, event]
    rfl

namespace Attempt

/-- Whether the name passes the check that comes before anything is looked up. -/
def isFormed (attempt : Attempt) : Bool :=
  QualifiedName.isWellFormed attempt.definition.name

/-- The line that goes with an answer, for a name that passes the check. -/
inductive Announces : Attempt → Line → Prop where
  | registered {definition : Definition} {d : Descriptor} {line : Line}
      (info : d.info = definition.info) (base : d.base? = definition.base?)
      (tells : line.Tells d) : Announces ⟨definition, .ok d, some d⟩ line
  | sameShape {definition : Definition} {d : Descriptor} {line : Line}
      (event : line.event = .sameShape definition.name)
      (reads : line.Reads "35" "TRACE"
        ("`" ++ definition.name ++ "` already defined with the same shape")) :
      Announces ⟨definition, .ok d, none⟩ line
  | rejectedRoot {definition : Definition} {line : Line}
      (event : line.event = .rejectedRoot definition.name)
      (reads : line.Reads "33" "WARN"
        ("rejected root type `" ++ definition.name ++ "`: not a designated root")) :
      Announces ⟨definition, .error (.undesignatedRoot definition.name), none⟩ line
  | otherFields {definition : Definition} {line : Line} (existing : List Field)
      (event : line.event = .otherFields definition.name existing definition.fields)
      (reads : line.Reads "33" "WARN"
        ("conflicting definition of `" ++ definition.name ++ "`: " ++
          ("registered fields (" ++ Field.listText existing ++ "), ") ++
          ("requested fields (" ++ Field.listText definition.fields ++ ")"))) :
      Announces ⟨definition, .error (.duplicateFields definition.name (Field.listText existing)
        (Field.listText definition.fields)), none⟩ line
  | otherBase {definition : Definition} {line : Line} (existing? : Option Descriptor)
      (event : line.event = .otherBase definition.name existing? definition.base?)
      (reads : line.Reads "33" "WARN"
        ("conflicting definition of `" ++ definition.name ++ "`: " ++
          ("registered base " ++ (existing?.map Descriptor.name).getD "<none>" ++ ", ") ++
          ("requested base " ++ (definition.base?.map Descriptor.name).getD "<none>"))) :
      Announces ⟨definition, .error (.duplicateType definition.name
        (Descriptor.baseText existing?) (Descriptor.baseText definition.base?)), none⟩ line

theorem Announces.isAboutDefinition {attempt : Attempt} {line : Line}
    (announces : attempt.Announces line) : line.event.isAboutDefinition = true := by
  cases announces with
  | registered _ _ tells =>
      rw [tells.event]
      rfl
  | sameShape event | rejectedRoot event | otherFields _ event | otherBase _ event =>
      rw [event]
      rfl

theorem Announces.isRegistration {attempt : Attempt} {line : Line}
    (announces : attempt.Announces line) :
    line.event.isRegistration = attempt.stored?.isSome := by
  cases announces with
  | registered _ _ tells =>
      rw [tells.event]
      rfl
  | sameShape event | rejectedRoot event | otherFields _ event | otherBase _ event =>
      rw [event]
      rfl

end Attempt

namespace Registry

variable {r : Registry} {store : Arena Descriptor} {definition : Definition}

theorem event?_of_malformed (malformed : QualifiedName.isWellFormed definition.name = false) :
    (r.define store definition).event? = none := by
  rw [define, judge_eq_malformed_iff.2 malformed]

/-- A definition whose name passes the check reports what it answers. -/
theorem exists_announces (named : ∀ d, r.lookup definition.name = some d → d.name = definition.name)
    (formed : QualifiedName.isWellFormed definition.name = true) :
    ∃ event, (r.define store definition).event? = some event ∧
      ∀ colored, (r.attempt store definition).Announces ⟨event, colored⟩ := by
  unfold attempt define
  cases judged : r.judge definition with
  | malformed =>
      rw [judge_eq_malformed_iff, formed] at judged
      cases judged
  | undesignated =>
      refine ⟨_, rfl, ?_⟩
      intro colored
      exact .rejectedRoot rfl (Line.text_eq _)
  | known existing =>
      have found := (judge_eq_known_iff.1 judged).2.1
      refine ⟨_, rfl, ?_⟩
      intro colored
      rw [named existing found]
      exact .sameShape rfl (Line.text_eq _)
  | otherFields existing =>
      have found := (judge_eq_otherFields_iff.1 judged).2.1
      refine ⟨_, rfl, ?_⟩
      intro colored
      rw [named existing found]
      exact .otherFields existing.fields rfl (Line.text_eq _)
  | otherBase existing =>
      have found := (judge_eq_otherBase_iff.1 judged).2.1
      refine ⟨_, rfl, ?_⟩
      intro colored
      rw [named existing found]
      exact .otherBase existing.base? rfl (Line.text_eq _)
  | fresh =>
      refine ⟨_, rfl, ?_⟩
      intro colored
      exact .registered (by simp) (by simp) (Line.tells _ rfl)

theorem stored?_of_malformed (malformed : QualifiedName.isWellFormed definition.name = false) :
    (r.attempt store definition).stored? = none := by
  simp [attempt, judge_eq_malformed_iff.2 malformed]

/-- What a definition adds to the store. -/
theorem toList_store_define (r : Registry) (store : Arena Descriptor) (definition : Definition) :
    (r.define store definition).store.toList =
      store.toList ++ (r.attempt store definition).stored?.toList := by
  by_cases fresh : r.judge definition = .fresh
  · rw [define_of_fresh fresh, attempt, if_pos fresh]
    exact Arena.toList_alloc _ _
  · rw [(define_of_ne_fresh fresh).2, attempt, if_neg fresh, Option.toList_none, List.append_nil]

end Registry

namespace TypeSystem

variable {s t : TypeSystem} {ref : RegistryRef} {r : Registry} {definition : Definition}
  {attempts : List Attempt}

/-- The lines of the log that read as registrations. -/
def registrations (s : TypeSystem) : List Line :=
  s.log.toList.filter Line.isRegistration

/-- The lines of the log that read as written about the registries. -/
def definitionLines (s : TypeSystem) : List Line :=
  s.log.toList.filter Line.isOfRegistry

theorem registrations_eq (s : TypeSystem) :
    s.registrations = s.log.toList.filter fun line => line.event.isRegistration :=
  List.filter_congr fun line _ => line.isRegistration_eq

theorem definitionLines_eq (s : TypeSystem) :
    s.definitionLines = s.log.toList.filter fun line => line.event.isAboutDefinition :=
  List.filter_congr fun line _ => line.isOfRegistry_eq

theorem log_settle (s : TypeSystem) (ref : RegistryRef) (outcome : Registry.Outcome) :
    (s.settle ref outcome).2.log.toList =
      s.log.toList ++ (outcome.event?.bind s.logger.line?).toList := by
  have kept : ∀ t : TypeSystem, (t.setRegistry outcome.registry ref).log = t.log ∧
      (t.setRegistry outcome.registry ref).logger = t.logger := by
    intro t
    cases ref <;> exact ⟨rfl, rfl⟩
  unfold settle
  cases outcome.event? with
  | none => simp [reportAny, kept]
  | some event => simp [reportAny, log_report, kept]

theorem event_of_line? {logger : Logger} {event : Event} {line : Line}
    (written : logger.line? event = some line) : line.event = event := by
  unfold Logger.line? at written
  split at written
  · cases written
    rfl
  · cases written

theorem line?_of_le {logger : Logger} {event : Event} (severe : event.level ≤ logger.level) :
    logger.line? event = some ⟨event, logger.colored⟩ := by
  simp [Logger.line?, Logger.isEnabled, severe]

theorem filter_line?_of_false (logger : Logger) {event : Event} {p : Event → Bool}
    (other : p event = false) :
    ((logger.line? event).toList.filter fun line => p line.event) = [] := by
  apply List.filter_eq_nil_iff.2
  intro line written
  rw [event_of_line? (Option.mem_toList.1 written), other]
  exact Bool.false_ne_true

theorem Aside.stored (aside : Aside s t) : t.store.toList = s.store.toList := by
  cases aside with
  | report other =>
      rw [report_eq]
      rfl
  | openWith config => exact store_toList_openWith s config
  | setLogger | addRegistry | remember | record => rfl

/-- What is no definition leaves the lines about definitions as they are. -/
theorem Aside.filter_log (aside : Aside s t) {p : Event → Bool}
    (about : ∀ event, p event = true → event.isAboutDefinition = true) :
    (t.log.toList.filter fun line => p line.event) =
      s.log.toList.filter fun line => p line.event := by
  cases aside with
  | @report event other =>
      have silent : p event = false := by
        apply Bool.eq_false_iff.2
        intro passes
        rw [about event passes] at other
        cases other
      rw [log_report, List.filter_append, filter_line?_of_false _ silent, List.append_nil]
  | setLogger | openWith | addRegistry | remember | record => rfl

/-- At a level at which registrations are written, what is announced of them is
the type that was stored, if there is one. -/
theorem tells_of_announces {attempt : Attempt} {event : Event} {logger : Logger}
    (announces : attempt.Announces ⟨event, logger.colored⟩) (fine : .debug ≤ logger.level) :
    List.Forall₂ Line.Tells
      ((logger.line? event).toList.filter fun line => line.event.isRegistration)
      attempt.stored?.toList := by
  have kind : event.isRegistration = attempt.stored?.isSome := announces.isRegistration
  cases stored : attempt.stored? with
  | none =>
      rw [stored, Option.isSome_none] at kind
      rw [filter_line?_of_false logger kind]
      exact .nil
  | some d =>
      cases announces with
      | registered _ _ tells =>
          cases stored
          obtain rfl : event = .registered d := tells.event
          have written : logger.line? (.registered d) = some ⟨.registered d, logger.colored⟩ :=
            line?_of_le fine
          rw [written]
          exact .cons tells .nil
      | _ => cases stored

theorem Sound.exists_announces (sound : s.Sound) (here : s.registryAt ref = some r)
    (formed : QualifiedName.isWellFormed definition.name = true) :
    ∃ event, (r.define s.store definition).event? = some event ∧
      ∀ colored, (r.attempt s.store definition).Announces ⟨event, colored⟩ := by
  apply Registry.exists_announces _ formed
  intro d found
  exact (sound.filed_at here found).2

theorem Sound.tells_settle (sound : s.Sound) (fine : .debug ≤ s.logger.level)
    (here : s.registryAt ref = some r) (definition : Definition)
    (told : List.Forall₂ Line.Tells s.registrations s.store.toList) :
    List.Forall₂ Line.Tells (s.settle ref (r.define s.store definition)).2.registrations
      (s.settle ref (r.define s.store definition)).2.store.toList := by
  rw [registrations_eq, log_settle, List.filter_append, store_settle,
    Registry.toList_store_define]
  rw [registrations_eq] at told
  apply List.rel_append told
  cases formed : QualifiedName.isWellFormed definition.name with
  | false =>
      rw [Registry.event?_of_malformed formed, Registry.stored?_of_malformed formed]
      exact .nil
  | true =>
      obtain ⟨event, reported, announces⟩ := sound.exists_announces here formed
      rw [reported, Option.bind_some]
      exact tells_of_announces (announces _) fine

/-- The account that is kept of the store, from the start of a run on. -/
theorem Course.tells (course : Course .debug s attempts t)
    (told : List.Forall₂ Line.Tells s.registrations s.store.toList) :
    List.Forall₂ Line.Tells t.registrations t.store.toList := by
  induction course with
  | start => exact told
  | aside _ other ih =>
      rw [registrations_eq] at ih ⊢
      rw [other.filter_log fun _ => Event.isAboutDefinition_of_isRegistration, other.stored]
      exact ih
  | define _ sound fine here definition ih => exact sound.tells_settle fine here definition ih

/-- At the finest level a definition writes one line, which matches its answer;
one with a malformed name writes none. -/
theorem Sound.log_settle_of_finest (sound : s.Sound) (finest : .trace ≤ s.logger.level)
    (here : s.registryAt ref = some r) (definition : Definition) :
    if QualifiedName.isWellFormed definition.name then
      ∃ line, (s.settle ref (r.define s.store definition)).2.log.toList = s.log.toList ++ [line] ∧
        line.colored = s.logger.colored ∧ (r.attempt s.store definition).Announces line
    else (s.settle ref (r.define s.store definition)).2.log.toList = s.log.toList := by
  rw [log_settle]
  cases formed : QualifiedName.isWellFormed definition.name with
  | false =>
      rw [Registry.event?_of_malformed formed]
      exact List.append_nil _
  | true =>
      obtain ⟨event, reported, announces⟩ := sound.exists_announces here formed
      have severe : event.level ≤ s.logger.level := Nat.le_trans event.level.le_trace finest
      rw [reported, Option.bind_some, line?_of_le severe]
      exact ⟨_, rfl, rfl, announces _⟩

theorem Course.announced (course : Course .trace s attempts t) (silent : s.definitionLines = []) :
    List.Forall₂ Attempt.Announces (attempts.filter Attempt.isFormed) t.definitionLines := by
  induction course with
  | start =>
      rw [silent]
      exact .nil
  | aside _ other ih =>
      rw [definitionLines_eq] at ih ⊢
      rw [other.filter_log fun _ => id]
      exact ih
  | @define _ u _ r _ sound finest here definition ih =>
      have logged := sound.log_settle_of_finest finest here definition
      rw [definitionLines_eq] at ih ⊢
      rw [List.filter_append]
      split at logged
      case isTrue formed =>
        obtain ⟨line, written, _, announces⟩ := logged
        have kept : [r.attempt u.store definition].filter Attempt.isFormed =
            [r.attempt u.store definition] :=
          List.filter_eq_self.2 (by simpa [Registry.attempt, Attempt.isFormed] using formed)
        have kept' : [line].filter (fun line => line.event.isAboutDefinition) = [line] :=
          List.filter_eq_self.2 (by simpa using announces.isAboutDefinition)
        rw [written, List.filter_append, kept, kept']
        exact List.rel_append ih (.cons announces .nil)
      case isFalse malformed =>
        have dropped : [r.attempt u.store definition].filter Attempt.isFormed = [] :=
          List.filter_eq_nil_iff.2 (by simpa [Registry.attempt, Attempt.isFormed] using malformed)
        rw [logged, dropped, List.append_nil]
        exact ih

/-- A definition that the program makes itself, at the finest level. -/
theorem Reachable.log_define (reachable : s.Reachable) (finest : s.logger.level = .trace)
    {answer : Except Error Descriptor} (made : s.define? ref definition = some (answer, t)) :
    if QualifiedName.isWellFormed definition.name then
      ∃ line stored?, t.log.toList = s.log.toList ++ [line] ∧
        line.colored = s.logger.colored ∧ t.store.toList = s.store.toList ++ stored?.toList ∧
        Attempt.Announces ⟨definition, answer, stored?⟩ line
    else t.log = s.log := by
  unfold define? at made
  obtain ⟨r, here, settled⟩ := Option.map_eq_some_iff.1 made
  obtain ⟨answered, rfl⟩ := Prod.ext_iff.1 settled
  subst answered
  have fine : .trace ≤ s.logger.level := by
    rw [finest]
    exact Level.le_trace _
  have logged := reachable.sound.log_settle_of_finest fine here definition
  split
  case isTrue formed =>
    rw [if_pos formed] at logged
    obtain ⟨line, written, coloured, announces⟩ := logged
    refine ⟨line, _, written, coloured, ?_, announces⟩
    rw [store_settle, Registry.toList_store_define]
    rfl
  case isFalse malformed =>
    rw [if_neg malformed] at logged
    exact Array.toList_inj.1 logged

/-- The log is a faithful account of the store.  In a run whose level is, after
each operation, fine enough for registrations, the lines that read as registrations
tell the stored types one by one, of all registries and in the order of the
store.  At the finest level each definition, also one that a class makes, writes
one line that matches its answer, unless its name is malformed; nothing else
writes such lines, and a class that is known already writes none. -/
theorem log_accounts_for_store {environment : Environment} {ops : List Operation}
    (admitted : (start environment).AdmitsAll ops)
    (fine : ∀ i < ops.length, .debug ≤ ((start environment).stateAt ops (i + 1)).logger.level) :
    List.Forall₂ Line.Tells ((start environment).performAll ops).2.registrations
        ((start environment).performAll ops).2.store.toList ∧
      ((∀ i < ops.length, ((start environment).stateAt ops (i + 1)).logger.level = .trace) →
        ∃ attempts : List Attempt, Course .trace (start environment) attempts
            ((start environment).performAll ops).2 ∧
          List.Forall₂ Attempt.Announces (attempts.filter Attempt.isFormed)
            ((start environment).performAll ops).2.definitionLines) ∧
      (∀ (s : TypeSystem) (ref : RegistryRef) (definition : Definition)
        (answer : Except Error Descriptor) (t : TypeSystem),
        s.Reachable → s.logger.level = .trace → s.define? ref definition = some (answer, t) →
          if QualifiedName.isWellFormed definition.name then
            ∃ (line : Line) (stored? : Option Descriptor),
              t.log.toList = s.log.toList ++ [line] ∧ line.colored = s.logger.colored ∧
                t.store.toList = s.store.toList ++ stored?.toList ∧
                Attempt.Announces ⟨definition, answer, stored?⟩ line
          else t.log = s.log) ∧
      ∀ (s : TypeSystem) (c : ExceptionClass) (outcome : Except Error Descriptor),
        s.known? c = some outcome → s.descriptorOf c = (outcome, s) := by
  have sound := sound_start environment
  refine ⟨?registered, ?announced, ?single, ?cached⟩
  case registered =>
    obtain ⟨attempts, course⟩ := course_performAll sound admitted fine
    exact course.tells .nil
  case announced =>
    intro finest
    have finer : ∀ i < ops.length,
        .trace ≤ ((start environment).stateAt ops (i + 1)).logger.level := by
      intro i bound
      rw [finest i bound]
      exact Level.le_trace _
    obtain ⟨attempts, course⟩ := course_performAll sound admitted finer
    exact ⟨attempts, course, course.announced rfl⟩
  case single =>
    intro s ref definition answer t reachable finest made
    exact reachable.log_define finest made
  case cached =>
    intro s c outcome known
    exact descriptorOf_of_known known

/-- A run at the finest level, without colours: definitions of each kind of answer,
and classes. -/
def outspoken : List Operation :=
  [.setLevel .trace, .setColored false, .addRegistry .any,
    .define (.isolated 0) { name := "Type" }, .define (.isolated 0) { name := "Type" },
    .define (.isolated 0) { name := "Type", fields := [⟨"x", "int"⟩] },
    .define (.isolated 0) { name := "Type." }, .define .global { name := "Type" },
    .construct .timeout, .describe .system]

theorem log_accounts_for_store_outspoken :
    (start {}).AdmitsAll outspoken ∧
      List.Forall₂ Line.Tells ((start {}).performAll outspoken).2.registrations
        ((start {}).performAll outspoken).2.store.toList ∧
      ((start {}).performAll outspoken).2.store.toList.map Descriptor.name =
        ["Type", "System.Exception", "System.SystemException", "System.TimeoutException"] ∧
      ((start {}).performAll outspoken).2.registrations.map Line.text =
        ["[DEBUG] reflex::runtime::registry: registered `Type` (base <none>, 0 fields)",
          "[DEBUG] reflex::runtime::registry: registered `System.Exception` " ++
            "(base <none>, 0 fields)",
          "[DEBUG] reflex::runtime::registry: registered `System.SystemException` " ++
            "(base System.Exception, 0 fields)",
          "[DEBUG] reflex::runtime::registry: registered `System.TimeoutException` " ++
            "(base System.SystemException, 0 fields)"] ∧
      ((start {}).performAll outspoken).2.definitionLines.map (fun line => line.event.level) =
        [.debug, .trace, .warn, .warn, .debug, .debug, .debug] ∧
      ∃ attempts : List Attempt,
        List.Forall₂ Attempt.Announces (attempts.filter Attempt.isFormed)
          ((start {}).performAll outspoken).2.definitionLines := by
  have admitted : (start {}).AdmitsAll outspoken := by
    decide +kernel
  have finest : ∀ i < outspoken.length,
      ((start {}).stateAt outspoken (i + 1)).logger.level = .trace := by
    decide +kernel
  obtain ⟨told, announced, _⟩ := log_accounts_for_store admitted fun i bound => by
    rw [finest i bound]
    decide
  obtain ⟨attempts, _, lines⟩ := announced finest
  refine ⟨admitted, told, by decide +kernel, ?texts, ?levels, attempts, lines⟩
  case texts =>
    rw [registrations_eq]
    decide +kernel
  case levels =>
    rw [definitionLines_eq]
    decide +kernel

end TypeSystem

end RuntimeTypes
