import RuntimeTypes.Proofs.TypeSystem.Step

/-!
Two programs side by side, in states that may differ in what neither of them
reads.  It is enough to compare single requests for descriptors: whatever is
built from requests then agrees as well.
-/

namespace RuntimeTypes

namespace TypeSystem

variable {α : Type} {R : TypeSystem → TypeSystem → Prop} {find : Finder} {s t : TypeSystem}

/-- The same answer in related states. -/
def Matches (R : TypeSystem → TypeSystem → Prop) (p q : α × TypeSystem) : Prop :=
  ∃ answer s t, p = (answer, s) ∧ q = (answer, t) ∧ R s t

theorem Matches.pair (related : R s t) (answer : α) : Matches R (answer, s) (answer, t) :=
  ⟨answer, s, t, rfl, rfl, related⟩

theorem Matches.answer {p q : α × TypeSystem} (same : Matches R p q) : q.1 = p.1 := by
  obtain ⟨answer, s, t, rfl, rfl, _⟩ := same
  rfl

theorem Matches.state {p q : α × TypeSystem} (same : Matches R p q) : R p.2 q.2 := by
  obtain ⟨answer, s, t, rfl, rfl, related⟩ := same
  exact related

/-- A program beside itself: what every request keeps, all that is built from
requests keeps. -/
theorem matches_of_keeps {P : TypeSystem → Prop} (keeps : ∀ t c, P t → P (t.descriptorOf c).2)
    (c : ExceptionClass) (both : s = t ∧ P s) :
    Matches (fun s t => s = t ∧ P s) (s.descriptorOf c) (t.descriptorOf c) := by
  obtain ⟨rfl, holds⟩ := both
  exact .pair ⟨rfl, keeps s c holds⟩ _

section Requests

variable (requests : ∀ {s t : TypeSystem} (c : ExceptionClass), R s t →
  Matches R (s.descriptorOf c) (find t c))

include requests

theorem matches_registerAll (classes : List ExceptionClass) (related : R s t) :
    Matches R (s.registerAll classes) (t.registerAll classes find) := by
  induction classes generalizing s t with
  | nil => exact .pair related _
  | cons c rest ih =>
      obtain ⟨answer, s', t', left, right, kept⟩ := requests c related
      simp only [registerAll, left, right]
      cases answer with
      | error e => exact .pair kept _
      | ok d => exact ih kept

theorem matches_construct (c : ExceptionClass) (related : R s t) :
    Matches R (s.construct c) (t.construct c find) := by
  induction c with
  | root =>
      obtain ⟨answer, s', t', left, right, kept⟩ := requests .root related
      simp only [construct, left, right]
      cases answer <;> exact .pair kept _
  | derived ident typeName base ih =>
      obtain ⟨built, s', t', left, right, kept⟩ := ih
      simp only [construct, left, right]
      cases built with
      | error e => exact .pair kept _
      | ok x =>
          obtain ⟨answer, s', t', left, right, kept⟩ :=
            requests (.derived ident typeName base) kept
          simp only [left, right]
          cases answer <;> exact .pair kept _

theorem matches_run (host : Host) (handle : Constructor) (related : R s t) :
    Matches R (s.run host handle) (t.run host handle find) := by
  cases handle with
  | ofClass c =>
      obtain ⟨built, s', t', left, right, kept⟩ := matches_construct requests c related
      simp only [run, left, right]
      cases built <;> exact .pair kept _
  | external id => exact .pair related _

theorem matches_instantiate (host : Host) (d : Descriptor) (related : R s t) :
    Matches R (s.instantiate host d) (t.instantiate host d find) := by
  unfold instantiate
  cases d.handle? with
  | none => exact .pair related _
  | some handle =>
      obtain ⟨made, s', t', left, right, kept⟩ := matches_run requests host handle related
      simp only [left, right]
      cases made with
      | error e => exact .pair kept _
      | ok x =>
          dsimp only
          by_cases same : x.descriptor.same d = true
          · rw [if_pos same, if_pos same]
            exact .pair kept _
          · rw [if_neg same, if_neg same]
            exact .pair kept _

theorem matches_downcast (x : Instance) (c : ExceptionClass) (related : R s t) :
    Matches R (s.downcast x c) (t.downcast x c find) := by
  obtain ⟨answer, s', t', left, right, kept⟩ := requests c related
  simp only [downcast, left, right]
  cases answer <;> exact .pair kept _

end Requests

/-- A relation between states that have the registries and the settings in
common, and that the same change on both sides does not break.  What is written
may differ, as long as the same reports keep the states related. -/
structure Shares (R : TypeSystem → TypeSystem → Prop) : Prop where
  store : ∀ {s t}, R s t → t.store? = s.store?
  global : ∀ {s t}, R s t → t.global? = s.global?
  isolated : ∀ {s t}, R s t → t.isolated = s.isolated
  config : ∀ {s t}, R s t → t.config? = s.config?
  setStore : ∀ {s t}, R s t → ∀ store?, R { s with store? := store? } { t with store? := store? }
  setGlobal : ∀ {s t}, R s t → ∀ global?,
    R { s with global? := global? } { t with global? := global? }
  setIsolated : ∀ {s t}, R s t → ∀ isolated,
    R { s with isolated := isolated } { t with isolated := isolated }
  setConfig : ∀ {s t}, R s t → ∀ config?,
    R { s with config? := config? } { t with config? := config? }
  setLevel : ∀ {s t}, R s t → ∀ level, R (s.setLevel level) (t.setLevel level)
  setColored : ∀ {s t}, R s t → ∀ colored, R (s.setColored colored) (t.setColored colored)
  report : ∀ {s t}, R s t → ∀ event, R (s.report event) (t.report event)

namespace Shares

variable (shares : Shares R) (related : R s t)

include shares related

theorem reportAny (event? : Option Event) : R (s.reportAny event?) (t.reportAny event?) := by
  cases event? with
  | none => exact related
  | some event => exact shares.report related event

theorem store_eq : t.store = s.store := by
  rw [TypeSystem.store, TypeSystem.store, shares.store related]

theorem globalRegistry_eq : t.globalRegistry = s.globalRegistry := by
  rw [globalRegistry, globalRegistry, shares.global related]

theorem registryAt_eq (ref : RegistryRef) : t.registryAt ref = s.registryAt ref := by
  cases ref with
  | global => exact congrArg some (shares.globalRegistry_eq related)
  | isolated index => exact congrArg (·[index]?) (shares.isolated related)

theorem openWith (config : Config) : R (s.openWith config) (t.openWith config) := by
  unfold TypeSystem.openWith
  rw [shares.store related, shares.global related]
  have stored := shares.setStore related (some (s.store?.getD (.ofChunkSize config.arenaChunkSize)))
  exact shares.setGlobal stored (some (s.global?.getD (.empty config.rootPolicy)))

theorem settle (ref : RegistryRef) (outcome : Registry.Outcome) :
    Matches R (s.settle ref outcome) (t.settle ref outcome) := by
  refine .pair (shares.reportAny ?_ _) _
  have stored := shares.setStore related (some outcome.store)
  cases ref with
  | global => exact shares.setGlobal stored _
  | isolated index =>
      simp only [setRegistry, shares.isolated related]
      exact shares.setIsolated stored _

theorem defineGlobal (definition : Definition) :
    Matches R (s.defineGlobal definition) (t.defineGlobal definition) := by
  rw [defineGlobal_eq, defineGlobal_eq, shares.globalRegistry_eq related, shares.store_eq related]
  exact shares.settle related .global _

end Shares

end TypeSystem

end RuntimeTypes
