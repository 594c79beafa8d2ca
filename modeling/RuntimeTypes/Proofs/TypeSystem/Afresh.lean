import RuntimeTypes.Proofs.TypeSystem.Builtins
import RuntimeTypes.Proofs.TypeSystem.Correspondence

/-!
Answers stand.  What a registry has answered it answers again, and so the
memory of class registrations shows nothing that a new registration would not.
-/

namespace RuntimeTypes

namespace TypeSystem

variable {s t u : TypeSystem} {c : ExceptionClass} {definition : Definition}
  {answer : Except Error Descriptor}

/-- The registration of a class gone through once more: the base is asked for,
and the class is defined on top of it. -/
def rerun (s : TypeSystem) : ExceptionClass → Except Error Descriptor × TypeSystem
  | .root => s.defineGlobal (classDefinition .root none)
  | .derived ident typeName base =>
      match s.descriptorOf base with
      | (.error e, s) => (.error e, s)
      | (.ok d, s) => s.defineGlobal (classDefinition (.derived ident typeName base) (some d))

/-- The descriptor of a class without memory: the class and all its bases are
registered at every request. -/
def registerAfresh (s : TypeSystem) : ExceptionClass → Except Error Descriptor × TypeSystem
  | .root => s.defineGlobal (classDefinition .root none)
  | .derived ident typeName base =>
      match s.registerAfresh base with
      | (.error e, s) => (.error e, s)
      | (.ok d, s) => s.defineGlobal (classDefinition (.derived ident typeName base) (some d))

/-- A definition that was settled is answered again, and only the log can change. -/
theorem define?_of_settles {ref : RegistryRef} {r : Registry} (used : s.inUse? ref = some r)
    (stored : s.store?.isSome) (settles : r.Settles definition answer) :
    ∃ log, s.define? ref definition = some (answer, { s with log := log }) := by
  obtain ⟨same, registry, store⟩ := settles s.store
  obtain ⟨a, found⟩ := Option.isSome_iff_exists.1 stored
  have kept : some s.store = s.store? := by
    rw [TypeSystem.store, found, Option.getD_some]
  have unchanged : ({ s with store? := some s.store }.setRegistry r ref) = s := by
    rw [kept]
    cases ref with
    | global =>
        change { s with global? := some r } = s
        rw [← show s.global? = some r from used]
    | isolated index =>
        obtain ⟨bound, here⟩ := Array.getElem?_eq_some_iff.1 used
        change { s with isolated := s.isolated.setIfInBounds index r } = s
        rw [← here, Array.setIfInBounds, dif_pos bound, Array.set_getElem_self]
  refine ⟨(s.settle ref (r.define s.store definition)).2.log, ?_⟩
  rw [define?, registryAt_of_inUse used, Option.map_some, ← same]
  refine congrArg some (Prod.ext rfl ?_)
  rw [settle_eq, store, registry, unchanged]

theorem defineGlobal_of_hasSettled (stored : s.store?.isSome)
    (settled : s.HasSettled definition answer) :
    ∃ log, s.defineGlobal definition = (answer, { s with log := log }) := by
  obtain ⟨r, used, settles⟩ := settled
  have used : s.inUse? .global = some r := used
  obtain ⟨log, again⟩ := define?_of_settles used stored settles
  exact ⟨log, Option.some.inj again⟩

/-- What was answered once is answered in every later state. -/
theorem Sound.define?_again (sound : s.Sound) {ref : RegistryRef}
    (admitted : s.Admits (.define ref definition))
    (answered : s.define? ref definition = some (answer, t)) (leads : t.Leads u) :
    ∃ log, u.define? ref definition = some (answer, { u with log := log }) := by
  obtain ⟨stored, r, used, settles⟩ := sound.settles_of_define? admitted answered leads
  exact define?_of_settles used stored settles

theorem Sound.stored_of_known (sound : s.Sound) (known : s.known? c = some answer) :
    s.store?.isSome := by
  by_contra unfounded
  rw [Option.not_isSome_iff_eq_none] at unfounded
  have unknown := sound.unknown_of_unused (sound.global_of_store unfounded) c
  cases unknown.symm.trans known

/-- For a class that is known, another registration ends as the first one did. -/
theorem Sound.rerun_of_known (sound : s.Sound) (known : s.known? c = some answer) :
    ∃ log, s.rerun c = (answer, { s with log := log }) := by
  have stored := sound.stored_of_known known
  have justified := sound.justified known
  cases c with
  | root => exact defineGlobal_of_hasSettled stored justified
  | derived ident typeName base =>
      rcases justified with ⟨e, above, rfl⟩ | ⟨d, above, settled⟩
      · refine ⟨s.log, ?_⟩
        rw [rerun, descriptorOf_of_known above]
      · rw [rerun, descriptorOf_of_known above]
        exact defineGlobal_of_hasSettled stored settled

/-- States that differ at most in what is remembered of classes and in the log. -/
structure Alike (s t : TypeSystem) : Prop where
  environment : t.environment = s.environment
  logger : t.logger = s.logger
  store : t.store? = s.store?
  global : t.global? = s.global?
  isolated : t.isolated = s.isolated
  config : t.config? = s.config?

theorem Alike.refl (s : TypeSystem) : s.Alike s :=
  ⟨rfl, rfl, rfl, rfl, rfl, rfl⟩

theorem shares_alike : Shares Alike where
  store alike := alike.store
  global alike := alike.global
  isolated alike := alike.isolated
  config alike := alike.config
  setStore alike _ := { alike with store := rfl }
  setGlobal alike _ := { alike with global := rfl }
  setIsolated alike _ := { alike with isolated := rfl }
  setConfig alike _ := { alike with config := rfl }
  setLevel alike level :=
    { alike with logger := congrArg (fun logger => { logger with level }) alike.logger }
  setColored alike colored :=
    { alike with logger := congrArg (fun logger => { logger with colored }) alike.logger }
  report {s t} alike event := by
    rw [report_eq s, report_eq t]
    exact { alike with }

/-- A settled definition is answered the same beside a state that is alike. -/
theorem Alike.defineGlobal_of_hasSettled (alike : s.Alike t) (stored : s.store?.isSome)
    (settled : s.HasSettled definition answer) :
    Matches Alike (answer, s) (t.defineGlobal definition) := by
  obtain ⟨r, used, settles⟩ := settled
  obtain ⟨log, again⟩ := TypeSystem.defineGlobal_of_hasSettled (s := t)
    (by rwa [alike.store]) ⟨r, alike.global.trans used, settles⟩
  exact ⟨answer, s, _, rfl, again, { alike with }⟩

/-- A class that is not known is registered the same beside a state that is alike. -/
theorem Alike.registerClass (alike : s.Alike t) (c : ExceptionClass) (base? : Option Descriptor) :
    Matches Alike (s.registerClass c base?) (t.defineGlobal (classDefinition c base?)) := by
  obtain ⟨made, s', t', left, right, kept⟩ :=
    shares_alike.defineGlobal alike (classDefinition c base?)
  refine ⟨made, s'.remember c made, t', ?_, right, { kept with }⟩
  rw [TypeSystem.registerClass, left]

theorem matches_registerAfresh (c : ExceptionClass) (sound : s.Sound) (alike : s.Alike t) :
    Matches Alike (s.descriptorOf c) (t.registerAfresh c) := by
  induction c with
  | root =>
      cases known : s.known? .root with
      | some outcome =>
          -- Only the left side remembers; why it does is what the right side meets again.
          rw [descriptorOf_of_known known]
          exact alike.defineGlobal_of_hasSettled (sound.stored_of_known known)
            (sound.justified known)
      | none =>
          simp only [descriptorOf, known]
          exact alike.registerClass .root none
  | derived ident typeName base ih =>
      cases known : s.known? (.derived ident typeName base) with
      | some outcome =>
          have stored := sound.stored_of_known known
          rw [descriptorOf_of_known known]
          rcases sound.justified known with ⟨e, above, rfl⟩ | ⟨d, above, settled⟩
          · rw [descriptorOf_of_known above] at ih
            obtain ⟨_, _, t', ⟨⟩, right, kept⟩ := ih
            simp only [registerAfresh, right]
            exact .pair kept _
          · rw [descriptorOf_of_known above] at ih
            obtain ⟨_, _, t', ⟨⟩, right, kept⟩ := ih
            simp only [registerAfresh, right]
            exact kept.defineGlobal_of_hasSettled stored settled
      | none =>
          obtain ⟨requested, s', t', left, right, kept⟩ := ih
          simp only [descriptorOf, registerAfresh, known, left, right]
          cases requested with
          | error e => exact .pair ({ kept with }) _
          | ok d => exact kept.registerClass _ _

/-- Answers stand: a definition that was answered is answered so in every later
state; a class that is known would be registered with the same outcome again,
whether its base is asked for or registered again too, and nothing would change;
and a program whose classes are never remembered gives the same answers. -/
theorem answers_stand (reachable : s.Reachable) :
    (∀ ref definition answer t u, s.Admits (.define ref definition) →
      s.define? ref definition = some (answer, t) → t.Leads u →
        ∃ log, u.define? ref definition = some (answer, { u with log := log })) ∧
      (∀ c outcome u, s.known? c = some outcome → s.Leads u →
        (∃ log, u.rerun c = (outcome, { u with log := log })) ∧
          ∃ t, u.registerAfresh c = (outcome, t) ∧ u.Alike t) ∧
      ∀ ops, s.AdmitsAll ops →
        (s.performAll ops registerAfresh).1 = (s.performAll ops).1 ∧
          (s.performAll ops).2.Alike (s.performAll ops registerAfresh).2 := by
  refine ⟨fun ref definition answer t u => reachable.sound.define?_again, ?_, ?_⟩
  · intro c outcome u known leads
    have sound := (reachable.leads leads).sound
    have known := (leads.extends reachable.sound).known known
    refine ⟨sound.rerun_of_known known, ?_⟩
    have afresh := matches_registerAfresh c sound (.refl u)
    rw [descriptorOf_of_known known] at afresh
    obtain ⟨_, _, t, ⟨⟩, right, kept⟩ := afresh
    exact ⟨t, right, kept⟩
  · intro ops admitted
    have same := matches_performAll shares_alike matches_registerAfresh admitted
      reachable.sound (.refl s)
    exact ⟨same.answer, same.state⟩

/-- A program that asks for the root class after its name was taken. -/
def rootRefused : List Operation :=
  [.define .global { name := "System.Exception", fields := [⟨"code", "int"⟩] },
    .describe .root]

/-- The refusal stands, for the class itself and for the classes on top of it. -/
theorem answers_stand_after_rootRefused :
    ∃ s, Reachable s ∧ s = ((start {}).performAll rootRefused).2 ∧
      (∃ log, s.rerun .root =
        (.error (.duplicateFields "System.Exception" "code: int" ""), { s with log := log })) ∧
      (s.performAll [.construct .timeout] registerAfresh).1 =
        (s.performAll [.construct .timeout]).1 := by
  have admitted : (start {}).AdmitsAll rootRefused := by
    refine ⟨?_, trivial, trivial⟩
    intro base none
    cases none
  have reachable : Reachable ((start {}).performAll rootRefused).2 :=
    ⟨{}, leads_performAll admitted⟩
  have known : ((start {}).performAll rootRefused).2.known? .root =
      some (.error (.duplicateFields "System.Exception" "code: int" "")) := by
    decide +kernel
  obtain ⟨_, again, afresh⟩ := answers_stand reachable
  have built := afresh [.construct .timeout] ⟨trivial, trivial⟩
  exact ⟨_, reachable, rfl, (again _ _ _ known .refl).1, built.1⟩

end TypeSystem

end RuntimeTypes
