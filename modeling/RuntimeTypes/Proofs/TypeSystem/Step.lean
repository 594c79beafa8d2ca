import Mathlib.Logic.Relation
import RuntimeTypes.History
import RuntimeTypes.Proofs.Registry.Judgement

/-!
The steps that operations are made of.  What every step keeps, every operation
keeps; only `configure` does more than such steps, and `openWith` is the part of
it that chooses a store and a global registry.
-/

namespace RuntimeTypes

namespace TypeSystem

variable {s : TypeSystem}

/-- A registry that exists, the global one from its first use on. -/
def inUse? (s : TypeSystem) : RegistryRef → Option Registry
  | .global => s.global?
  | .isolated index => s.isolated[index]?

theorem registryAt_global (s : TypeSystem) :
    s.registryAt .global = some s.globalRegistry := rfl

theorem registryAt_of_inUse {ref : RegistryRef} {r : Registry} (used : s.inUse? ref = some r) :
    s.registryAt ref = some r := by
  cases ref with
  | global =>
      change s.global? = some r at used
      simp [registryAt, globalRegistry, used]
  | isolated index => exact used

/-- A registry that is meant but not in use is the global one, and still empty. -/
theorem inUse_or_empty {ref : RegistryRef} {r : Registry} (here : s.registryAt ref = some r) :
    s.inUse? ref = some r ∨
      ref = .global ∧ s.global? = none ∧ r = .empty ({} : Config).rootPolicy := by
  cases ref with
  | global =>
      cases global : s.global? with
      | none =>
          refine .inr ⟨rfl, rfl, ?_⟩
          simpa [registryAt, globalRegistry, global] using here.symm
      | some _ => exact .inl (by simpa [registryAt, globalRegistry, inUse?, global] using here)
  | isolated index => exact .inl here

/-- A registry in which something is found is in use. -/
theorem inUse?_of_lookup {ref : RegistryRef} {r : Registry} (here : s.registryAt ref = some r)
    {name : String} {d : Descriptor} (found : r.lookup name = some d) : s.inUse? ref = some r := by
  rcases inUse_or_empty here with used | ⟨_, _, rfl⟩
  · exact used
  · simp at found

/-- Reports change the log and nothing else. -/
theorem report_eq (s : TypeSystem) (event : Event) :
    s.report event = { s with log := (s.report event).log } := by
  unfold report
  split <;> rfl

theorem reportAny_eq (s : TypeSystem) (event? : Option Event) :
    s.reportAny event? = { s with log := (s.reportAny event?).log } := by
  cases event? with
  | none => rfl
  | some event => exact report_eq s event

theorem defineGlobal_eq (s : TypeSystem) (definition : Definition) :
    s.defineGlobal definition =
      s.settle .global (s.globalRegistry.define s.store definition) := rfl

section Settle

variable (s) (ref : RegistryRef) (outcome : Registry.Outcome)

theorem settle_eq : (s.settle ref outcome).2 =
    { ({ s with store? := some outcome.store }.setRegistry outcome.registry ref) with
      log := (s.settle ref outcome).2.log } :=
  reportAny_eq _ _

/-- The fields that the record of a definition leaves as they are. -/
theorem settle_keeps : (s.settle ref outcome).2.environment = s.environment ∧
    (s.settle ref outcome).2.logger = s.logger ∧
      (s.settle ref outcome).2.classes = s.classes ∧
        (s.settle ref outcome).2.config? = s.config? := by
  unfold settle
  rw [reportAny_eq]
  cases ref <;> exact ⟨rfl, rfl, rfl, rfl⟩

theorem classes_settle : (s.settle ref outcome).2.classes = s.classes :=
  (settle_keeps s ref outcome).2.2.1

theorem config?_settle : (s.settle ref outcome).2.config? = s.config? :=
  (settle_keeps s ref outcome).2.2.2

theorem store?_settle : (s.settle ref outcome).2.store? = some outcome.store := by
  unfold settle
  rw [reportAny_eq]
  cases ref <;> rfl

theorem store_settle : (s.settle ref outcome).2.store = outcome.store := by
  rw [store, store?_settle, Option.getD_some]

theorem known?_settle (c : ExceptionClass) : (s.settle ref outcome).2.known? c = s.known? c := by
  simp only [known?, classes_settle]

theorem inUse?_settle (other : RegistryRef) {r : Registry} (here : s.registryAt ref = some r) :
    (s.settle ref outcome).2.inUse? other =
      if other = ref then some outcome.registry else s.inUse? other := by
  unfold settle
  rw [reportAny_eq]
  cases ref with
  | global => cases other <;> rfl
  | isolated index =>
      have bound : index < s.isolated.size := (Array.getElem?_eq_some_iff.1 here).1
      cases other with
      | global => rfl
      | isolated place =>
          change (s.isolated.setIfInBounds index outcome.registry)[place]? = _
          rw [Array.getElem?_setIfInBounds]
          by_cases same : index = place
          · simp [same, same ▸ bound]
          · simp [same, inUse?, Ne.symm same]

end Settle

theorem known?_remember (s : TypeSystem) (c other : ExceptionClass)
    (outcome : Except Error Descriptor) :
    (s.remember c outcome).known? other =
      if c = other then some outcome else s.known? other := by
  simp only [known?, remember, List.find?_cons]
  by_cases same : c = other <;> simp [same]

/-- The global registry is in use and has answered the definition. -/
def HasSettled (s : TypeSystem) (definition : Definition) (answer : Except Error Descriptor) :
    Prop :=
  ∃ r, s.global? = some r ∧ r.Settles definition answer

/-- Why a class is known with an outcome: its base is known with this error, or
the definition on top of the base has been answered so. -/
def Justified (s : TypeSystem) (c : ExceptionClass) (outcome : Except Error Descriptor) : Prop :=
  match c with
  | .root => s.HasSettled (classDefinition .root none) outcome
  | .derived ident typeName base =>
      (∃ e, s.known? base = some (.error e) ∧ outcome = .error e) ∨
        ∃ d, s.known? base = some (.ok d) ∧
          s.HasSettled (classDefinition (.derived ident typeName base) (some d)) outcome

/-- The store and the global registry come into being, as settings say. -/
def openWith (s : TypeSystem) (config : Config) : TypeSystem :=
  { s with
    store? := some (s.store?.getD (.ofChunkSize config.arenaChunkSize))
    global? := some (s.global?.getD (.empty config.rootPolicy)) }

/-- What operations do, one thing at a time. -/
inductive Step : TypeSystem → TypeSystem → Prop where
  | report (s : TypeSystem) (event : Event) : Step s (s.report event)
  | setLogger (s : TypeSystem) (logger : Logger) : Step s { s with logger := logger }
  | openGlobal (s : TypeSystem) : Step s s.openGlobal
  | addRegistry (s : TypeSystem) (policy : RootPolicy) : Step s (s.addRegistry policy).2
  | define (s : TypeSystem) {ref : RegistryRef} {r : Registry} {definition : Definition}
      (here : s.registryAt ref = some r)
      (based : ∀ base, definition.base? = some base → s.Holds base) :
      Step s (s.settle ref (r.define s.store definition)).2
  | remember (s : TypeSystem) {c : ExceptionClass} {outcome : Except Error Descriptor}
      (unknown : s.known? c = none) (justified : s.Justified c outcome) :
      Step s (s.remember c outcome)

/-- Some steps, one after the other. -/
abbrev Steps : TypeSystem → TypeSystem → Prop :=
  Relation.ReflTransGen Step

end TypeSystem

end RuntimeTypes
