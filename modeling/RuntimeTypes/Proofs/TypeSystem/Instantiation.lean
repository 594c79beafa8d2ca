import RuntimeTypes.Proofs.TypeSystem.Dispatch
import RuntimeTypes.Proofs.TypeSystem.Provenance

/-!
Objects built through types.  What a type answers to the request for an object
is decided by the constructor handle of the definition that made the type, and
by nothing that is defined or registered later.
-/

namespace RuntimeTypes

theorem Error.ByDefinition.ne_notConstructible {e : Error} (byDefinition : e.ByDefinition)
    (name : String) : e ≠ .notConstructible name := by
  rintro rfl
  exact byDefinition

namespace TypeSystem

variable {s : TypeSystem} {c : ExceptionClass} {d : Descriptor} {host : Host}

/-- What a handle makes of the request for an object of a type. -/
inductive Yields (s : TypeSystem) (host : Host) (d : Descriptor) :
    Option Constructor → Except Error Instance → Prop
  | missing : Yields s host d none (.error (.notConstructible d.name))
  | classRefused {c : ExceptionClass} {e : Error} (request : (s.descriptorOf c).1 = .error e) :
      Yields s host d (some (.ofClass c)) (.error e)
  | classBuilt {c : ExceptionClass} {x : Exception} (request : (s.descriptorOf c).1 = .ok d)
      (exact : x.exceptionClass = c) (stamped : x.descriptor = d) :
      Yields s host d (some (.ofClass c)) (.ok (.exception x))
  | classOther {c : ExceptionClass} {own : Descriptor}
      (request : (s.descriptorOf c).1 = .ok own) (other : own.same d = false) :
      Yields s host d (some (.ofClass c)) (.error (.constructorMismatch d.name c.typeName))
  | hostFailed {id : Nat} {e : Error} (ran : host id = .error e) :
      Yields s host d (some (.external id)) (.error e)
  | hostBuilt {id : Nat} {x : Instance} (ran : host id = .ok x)
      (own : x.descriptor.same d = true) : Yields s host d (some (.external id)) (.ok x)
  | hostOther {id : Nat} {x : Instance} (ran : host id = .ok x)
      (other : x.descriptor.same d = false) :
      Yields s host d (some (.external id))
        (.error (.constructorMismatch d.name x.descriptor.name))

theorem Sound.yields_ofClass (sound : s.Sound) (held : s.Holds d)
    (handle : d.handle? = some (.ofClass c)) (host : Host) :
    s.Yields host d (some (.ofClass c)) (s.instantiate host d).1 := by
  have follows := sound.follows c
  have after := (steps_descriptorOf sound c).sound sound
  have grown := (steps_descriptorOf sound c).extends
  simp only [instantiate, handle, run]
  cases request : s.descriptorOf c with
  | mk answer t =>
      rw [request] at follows after grown
      generalize s.construct c = built at follows ⊢
      cases follows with
      | refused e t classes => exact .classRefused (by rw [request])
      | @built x own whole =>
          have known := known?_of_request request
          have stamped : x.descriptor = own := whole.descriptor
          simp only [Instance.descriptor, stamped]
          cases same : own.same d with
          | true =>
              -- Both are stored, so that they are one descriptor.
              obtain rfl := after.numbered.eq_of_same (after.holds_of_known known)
                (grown.holds held) same
              exact .classBuilt (by rw [request]) whole.exceptionClass stamped
          | false =>
              simp only [after.name_of_known known]
              exact .classOther (by rw [request]) same

theorem Sound.yields (sound : s.Sound) (held : s.Holds d) (host : Host) :
    s.Yields host d d.handle? (s.instantiate host d).1 := by
  cases handle : d.handle? with
  | none =>
      simp only [instantiate, handle]
      exact .missing
  | some constructor =>
      cases constructor with
      | ofClass c => exact sound.yields_ofClass held handle host
      | external id =>
          simp only [instantiate, handle, run]
          cases ran : host id with
          | error e => exact .hostFailed ran
          | ok x =>
              cases same : x.descriptor.same d with
              | true =>
                  simp only [same]
                  exact .hostBuilt ran same
              | false =>
                  simp only [same]
                  exact .hostOther ran same

namespace Yields

variable {handle? : Option Constructor} {answer : Except Error Instance}

/-- An object that is given is one of the very type. -/
theorem same_of_ok {x : Instance} (yields : s.Yields host d handle? (.ok x)) :
    x.descriptor.same d = true := by
  cases yields with
  | classBuilt request own stamped => simp [Instance.descriptor, stamped, Descriptor.same]
  | hostBuilt ran own => exact own

/-- A type is not constructible when its first definition gave no handle; else
only code of the host can say so. -/
theorem notConstructible_iff (sound : s.Sound) (yields : s.Yields host d handle? answer)
    (name : String) : answer = .error (.notConstructible name) ↔
      handle? = none ∧ name = d.name ∨
        ∃ id, handle? = some (.external id) ∧ host id = .error (.notConstructible name) := by
  cases yields with
  | missing => simp [eq_comm]
  | @classRefused c e request =>
      have byDefinition := sound.byDefinition_of_refusal (refusal?_eq_some_iff.2 request)
      simpa using byDefinition.ne_notConstructible name
  | classBuilt | classOther => simp
  | hostFailed ran => simp [ran]
  | hostBuilt ran | hostOther ran => simp [ran]

end Yields

/-- Whatever is asked of a type that a class made, the class builds it. -/
theorem MadeByClass.built {before after : TypeSystem} (made : MadeByClass before after c d)
    (grown : after.Extends s) (sound : s.Sound) (host : Host) :
    ∃ x, (s.instantiate host d).1 = .ok (.exception x) ∧ x.exceptionClass = c ∧
      x.descriptor = d := by
  have known := grown.known made.known
  have request := congrArg Prod.fst (descriptorOf_of_known known)
  have yields := sound.yields (sound.holds_of_known known) host
  rw [made.handle?] at yields
  generalize (s.instantiate host d).1 = answer at yields ⊢
  cases yields with
  | classRefused refused => cases request.symm.trans refused
  | classBuilt _ exact stamped => exact ⟨_, rfl, exact, stamped⟩
  | classOther own other =>
      cases request.symm.trans own
      simp [Descriptor.same] at other

/-- Every type has a first definition, and the handle in it decides about the
objects of the type for good. -/
theorem instantiate_by_first_definition (reachable : s.Reachable) (held : s.Holds d)
    (host : Host) :
    (∃ before op handle?, s.MadeIn d before op ∧ FirstHandle d before op handle?) ∧
      ∀ before op handle?, s.MadeIn d before op → FirstHandle d before op handle? →
        s.Yields host d handle? (s.instantiate host d).1 ∧
        (∀ name, (s.instantiate host d).1 = .error (.notConstructible name) ↔
          handle? = none ∧ name = d.name ∨
            ∃ id, handle? = some (.external id) ∧ host id = .error (.notConstructible name)) ∧
        (∀ x, (s.instantiate host d).1 = .ok x → x.descriptor.same d = true) ∧
        ∀ c, MadeByClass before (before.perform op).2 c d →
          ∃ x, (s.instantiate host d).1 = .ok (.exception x) ∧ x.exceptionClass = c ∧
            x.descriptor = d := by
  have sound := reachable.sound
  have yields := sound.yields held host
  constructor
  · obtain ⟨environment, leads⟩ := reachable
    obtain ⟨before, op, origin⟩ := leads.exists_madeIn held
    exact ⟨before, op, d.handle?, origin, origin.firstHandle⟩
  · intro before op handle? origin first
    obtain rfl := origin.handle?_eq first
    refine ⟨yields, yields.notConstructible_iff sound, ?_, ?_⟩
    · intro x built
      rw [built] at yields
      exact yields.same_of_ok
    · intro c made
      have after := (origin.reachable.sound.perform origin.admitted).1
      exact made.built (origin.since.extends after) sound host

/-- A program that takes the name of the root class without a handle, and gives
the construction of a built-in class to a type of its own. -/
def borrowedHandle : List Operation :=
  [.define .global { name := "System.Exception" }, .addRegistry .any,
    .define (.isolated 0) { name := "App.Slow", handle? := some (.ofClass .timeout) },
    .describe .root]

def bareRoot : Descriptor :=
  .root 0 ⟨"System.Exception", [], none⟩

def slowType : Descriptor :=
  .root 1 ⟨"App.Slow", [], some (.ofClass .timeout)⟩

/-- The class that registers later gives the first type no handle, and the
second type gets no object of the class. -/
theorem instantiate_by_first_definition_borrowedHandle :
    let s := ((start {}).performAll borrowedHandle).2
    let first := Operation.define .global { name := "System.Exception" }
    let host : Host := fun _ => .error .alreadyInitialized
    s.Reachable ∧ s.known? .root = some (.ok bareRoot) ∧
      s.MadeIn bareRoot ((start {}).stateAt borrowedHandle 0) first ∧
      (s.instantiate host bareRoot).1 = .error (.notConstructible "System.Exception") ∧
      (∃ before op handle?, s.MadeIn slowType before op ∧ FirstHandle slowType before op handle?) ∧
      (s.instantiate host slowType).1 =
        .error (.constructorMismatch "App.Slow" "System.TimeoutException") := by
  intro s first host
  have admitted : (start {}).AdmitsAll borrowedHandle := by
    decide +kernel
  have reachable : s.Reachable := reachable_performAll admitted
  have held : s.Holds bareRoot ∧ s.Holds slowType := by
    decide +kernel
  have origin : s.MadeIn bareRoot ((start {}).stateAt borrowedHandle 0) first :=
    madeIn_of_run admitted rfl (by decide +kernel) (by decide +kernel)
  have bare := (instantiate_by_first_definition reachable held.1 host).2 _ _ _ origin
    (.defined rfl (by rfl))
  have slow := instantiate_by_first_definition reachable held.2 host
  have known : s.known? .root = some (.ok bareRoot) := by
    decide +kernel
  have other : (s.instantiate host slowType).1 =
      .error (.constructorMismatch "App.Slow" "System.TimeoutException") := by
    decide +kernel
  exact ⟨reachable, known, origin, (bare.2.1 _).2 (.inl ⟨rfl, rfl⟩), slow.1, other⟩

/-- A type whose handle runs code of the host. -/
def emptySlot : List Operation :=
  [.addRegistry .any,
    .define (.isolated 0) { name := "slot0", handle? := some (.external 0) }]

def slotType : Descriptor :=
  .root 0 ⟨"slot0", [], some (.external 0)⟩

/-- Code of the host may answer that a type has no constructor although the first
definition of the type gave a handle. -/
theorem notConstructible_despite_handle :
    let s := ((start {}).performAll emptySlot).2
    let first := Operation.define (.isolated 0) { name := "slot0", handle? := some (.external 0) }
    let before := (start {}).stateAt emptySlot 1
    let host : Host := fun _ => .error (.notConstructible "slot0")
    s.Reachable ∧ s.MadeIn slotType before first ∧
      FirstHandle slotType before first (some (.external 0)) ∧
      (s.instantiate host slotType).1 = .error (.notConstructible slotType.name) := by
  intro s first before host
  have admitted : (start {}).AdmitsAll emptySlot := by
    decide +kernel
  have origin : s.MadeIn slotType before first :=
    madeIn_of_run admitted rfl (by decide +kernel) (by decide +kernel)
  exact ⟨reachable_performAll admitted, origin, .defined rfl (by rfl), by rfl⟩

end TypeSystem

end RuntimeTypes
