import RuntimeTypes.Proofs.Exception.Causes
import RuntimeTypes.Proofs.TypeSystem.Dispatch
import RuntimeTypes.Proofs.TypeSystem.Footprint

/-!
Casts of exception objects.  The descriptor in an object was found when the
object was built, and its class still has it; so the object passes the cast to
its class, and no other because a cast looks at the class itself too.
-/

namespace RuntimeTypes

namespace TypeSystem

variable {s t u : TypeSystem} {c k : ExceptionClass} {x : Exception}

/-- The exception objects that a program can have in a state.  Each was built on
the way to this state, and may have got messages and causes since. -/
inductive Alive (u : TypeSystem) : ExceptionClass → Exception → Prop
  | constructed {s t : TypeSystem} {c : ExceptionClass} {x : Exception}
      (reachable : s.Reachable) (built : s.construct c = (.ok x, t)) (leads : t.Leads u) :
      Alive u c x
  | boxed {s t : TypeSystem} {host : Host} {c : ExceptionClass} {x : Exception}
      (reachable : s.Reachable) (built : s.run host (.ofClass c) = (.ok (.exception x), t))
      (leads : t.Leads u) : Alive u c x
  | instantiated {s t : TypeSystem} {host : Host} {d : Descriptor} {c : ExceptionClass}
      {x : Exception} (reachable : s.Reachable) (handle : d.handle? = some (.ofClass c))
      (built : s.instantiate host d = (.ok (.exception x), t)) (leads : t.Leads u) : Alive u c x
  | withMessage {c : ExceptionClass} {x : Exception} (alive : Alive u c x) (message : String) :
      Alive u c (x.withMessage message)
  | withInner {c k : ExceptionClass} {x y : Exception} (alive : Alive u c x)
      (cause : Alive u k y) : Alive u c (x.withInner y)

/-- What stays true of an object: its layers show its class, the class is known
with the descriptor in the object, and the cause is such an object again. -/
structure Genuine (u : TypeSystem) (c : ExceptionClass) (x : Exception) : Prop where
  exact : x.exceptionClass = c
  known : u.known? c = some (.ok x.descriptor)
  cause : ∀ {y}, x.inner? = some y → ∃ k, u.Alive k y

theorem Reachable.genuine_of_construct (reachable : s.Reachable)
    (built : s.construct c = (.ok x, t)) (leads : t.Leads u) : u.Genuine c x := by
  obtain ⟨request, whole⟩ := reachable.sound.request_of_construct built
  have made := reachable.request request
  refine ⟨whole.exceptionClass, ?_, ?_⟩
  · exact (leads.extends made.sound).known (known?_of_request request)
  · intro y cause
    cases (whole.reports x x.mem_layers_self).2.2.symm.trans cause

theorem Alive.genuine (alive : u.Alive c x) : u.Genuine c x := by
  induction alive with
  | constructed reachable built leads => exact reachable.genuine_of_construct built leads
  | boxed reachable built leads =>
      obtain ⟨y, same, made⟩ := run_ofClass built
      cases same
      exact reachable.genuine_of_construct made leads
  | instantiated reachable handle built leads =>
      obtain ⟨y, same, made⟩ := run_ofClass (run_of_instantiate handle built)
      cases same
      exact reachable.genuine_of_construct made leads
  | @withMessage c x _ message ih =>
      refine ⟨?_, ?_, ?_⟩
      · rw [Exception.exceptionClass_withMessage, ih.exact]
      · rw [Exception.descriptor_withMessage, ih.known]
      · rw [Exception.inner?_withMessage]
        exact ih.cause
  | @withInner c k x y _ cause ih _ =>
      refine ⟨?_, ?_, ?_⟩
      · rw [Exception.exceptionClass_withInner, ih.exact]
      · rw [Exception.descriptor_withInner, ih.known]
      · rw [Exception.inner?_withInner]
        rintro _ ⟨⟩
        exact ⟨k, cause⟩

theorem downcast_snd (s : TypeSystem) (x : Instance) (c : ExceptionClass) :
    (s.downcast x c).2 = (s.descriptorOf c).2 := by
  rw [downcast]
  generalize s.descriptorOf c = request
  obtain ⟨answer, t⟩ := request
  cases answer <;> rfl

/-- Whatever the descriptors are, a cast gives an object of the class or nothing. -/
theorem downcast_of_ne (s : TypeSystem) (other : k ≠ x.exceptionClass) :
    (s.downcast (.exception x) k).1 = none := by
  have missed : (Instance.exception x).ofClass? k = none := if_neg other.symm
  rw [downcast]
  generalize s.descriptorOf k = request
  obtain ⟨answer, t⟩ := request
  cases answer with
  | error e => rfl
  | ok d =>
      simp only [missed]
      exact ite_self _

theorem Genuine.downcast_self (genuine : u.Genuine c x) :
    u.downcast (.exception x) c = (some x, u) := by
  have own : (Instance.exception x).ofClass? c = some x := if_pos genuine.exact
  have same : (Instance.exception x).descriptor.same x.descriptor = true := beq_self_eq_true _
  rw [downcast, descriptorOf_of_known genuine.known]
  simp only [own, same, if_true]

/-- How an object answers to casts in a state, and what the casts do to the state. -/
structure CastsExactly (u : TypeSystem) (x : Exception) : Prop where
  answer : ∀ k, (u.downcast (.exception x) k).1 = if k = x.exceptionClass then some x else none
  twins : ∀ {k d v}, u.descriptorOf k = (.ok d, v) → k.typeName = x.exceptionClass.typeName →
    d = x.descriptor
  refused : ∀ {k e}, (u.descriptorOf k).1 = .error e →
    k ≠ x.exceptionClass ∧ (u.downcast (.exception x) k).1 = none
  state : ∀ k, (u.downcast (.exception x) k).2 = (u.descriptorOf k).2
  registers : ∀ k, u.Registers k.lineage (u.downcast (.exception x) k).2
  settled : ∀ {k outcome}, u.known? k = some outcome → (u.downcast (.exception x) k).2 = u

theorem Genuine.castsExactly (genuine : u.Genuine c x) (reachable : u.Reachable) :
    u.CastsExactly x := by
  obtain rfl := genuine.exact
  constructor
  case answer =>
    intro k
    split
    case isTrue same =>
      rw [same, genuine.downcast_self]
    case isFalse other => exact downcast_of_ne u other
  case twins =>
    intro k d v request same
    have later := steps_descriptorOf reachable.sound k
    rw [request] at later
    have known := later.extends.known genuine.known
    exact (later.sound reachable.sound).eq_of_typeName (known?_of_request request) known same
  case refused =>
    intro k e refused
    have other : k ≠ x.exceptionClass := by
      rintro rfl
      rw [descriptorOf_of_known genuine.known] at refused
      cases refused
    exact ⟨other, downcast_of_ne u other⟩
  case state => exact fun k => downcast_snd u _ k
  case registers =>
    intro k
    rw [downcast_snd]
    exact registers_descriptorOf u k
  case settled =>
    intro k outcome known
    rw [downcast_snd, descriptorOf_of_known known]

/-- An exception object passes the cast to its own class and to no other, and so
do the exceptions inside it. -/
theorem casts_are_exact (reachable : u.Reachable) (alive : u.Alive c x) :
    x.exceptionClass = c ∧
      ∀ y ∈ x :: x.inners, u.CastsExactly y ∧ u.Alive y.exceptionClass y := by
  have genuine := alive.genuine
  have each : ∀ y ∈ x :: x.inners, ∃ k, u.Alive k y := by
    refine List.forall_mem_cons.2 ⟨⟨c, alive⟩, ?_⟩
    apply Exception.forall_mem_inners (P := fun y => ∃ k, u.Alive k y) ⟨c, alive⟩
    rintro y z ⟨k, alive⟩ cause
    exact alive.genuine.cause cause
  refine ⟨genuine.exact, ?_⟩
  intro y inside
  obtain ⟨k, alive⟩ := each y inside
  refine ⟨alive.genuine.castsExactly reachable, ?_⟩
  rw [alive.genuine.exact]
  exact alive

theorem leads_of_construct {answer : Except Error Exception} (built : s.construct c = (answer, t)) :
    s.Leads t := by
  have leads : s.Leads (s.perform (.construct c)).2 := .step .refl trivial
  rwa [perform, built] at leads

/-- A class whose type name a program takes for a type with a field. -/
def takenClass : ExceptionClass :=
  .derived "TakenException" "App.Taken" .root

def takenName : List Operation :=
  [.describe .root,
    .define .global
      { name := "App.Taken", base? := some (.root 0 ⟨"System.Exception", [], some (.ofClass .root)⟩)
        fields := [⟨"code", "Int"⟩] }]

/-- An object of a built-in class with a cause of its twin.  The two pass the casts
to their own classes; the first one passes none to the twin, to a base, to a class
on top of its own, and to a class that is refused. -/
theorem casts_are_exact_takenName :
    ∃ s x t y u z, Reachable s ∧ s = ((start {}).performAll takenName).2 ∧
      s.construct .system = (.ok x, t) ∧ t.construct twinClass = (.ok y, u) ∧
      y.descriptor = x.descriptor ∧ z = (x.withMessage "").withInner y ∧
      (u.descriptorOf takenClass).1 = .error (.duplicateFields "App.Taken" "code: Int" "") ∧
      (∀ k, (u.downcast (.exception z) k).1 = if k = .system then some z else none) ∧
      (u.downcast (.exception z) takenClass).1 = none ∧
      ∀ k, (u.downcast (.exception y) k).1 = if k = twinClass then some y else none := by
  have admitted : (start {}).AdmitsAll takenName := by
    decide +kernel
  have reachable := reachable_performAll admitted
  obtain ⟨x, t, y, u, built, built', shared, refusal⟩ : ∃ x t y u,
      ((start {}).performAll takenName).2.construct .system = (.ok x, t) ∧
      t.construct twinClass = (.ok y, u) ∧ y.descriptor = x.descriptor ∧
      (u.descriptorOf takenClass).1 = .error (.duplicateFields "App.Taken" "code: Int" "") :=
    ⟨_, _, _, _, rfl, rfl, by rfl, by rfl⟩
  have middle := reachable.leads (leads_of_construct built)
  have leads := leads_of_construct built'
  have last := middle.leads leads
  have cause : u.Alive twinClass y := .constructed middle built' .refl
  have alive : u.Alive .system ((x.withMessage "").withInner y) :=
    .withInner (.withMessage (.constructed reachable built leads) "") cause
  obtain ⟨own, each⟩ := casts_are_exact last alive
  obtain ⟨own', each'⟩ := casts_are_exact last cause
  have first := (each _ List.mem_cons_self).1
  have second := (each' _ List.mem_cons_self).1
  refine ⟨_, x, t, y, u, _, reachable, rfl, built, built', shared, rfl, refusal, ?_, ?_, ?_⟩
  · exact own ▸ first.answer
  · exact (first.refused refusal).2
  · exact own' ▸ second.answer

end TypeSystem

end RuntimeTypes
