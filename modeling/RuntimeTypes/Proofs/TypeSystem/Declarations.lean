import RuntimeTypes.Proofs.Registry.Closed
import RuntimeTypes.Proofs.TypeSystem.Ledger

/-!
What a script does.  A declaration is a definition or nothing; it leaves every
registry but its own as it was, and a registry has what it answered with.
-/

namespace RuntimeTypes

namespace TypeSystem

variable {s : TypeSystem} {ref place : RegistryRef} {r : Registry} {declaration : Declaration}
  {definition : Definition} {script : Script} {d : Descriptor}

theorem declare_of_meant (here : s.registryAt ref = some r)
    (meant : r.definition? declaration = some definition) :
    s.declare ref declaration =
      (some (r.define s.store definition).answer,
        (s.settle ref (r.define s.store definition)).2) := by
  simp only [declare, here, Option.bind_some, meant, define?, Option.map_some]
  rfl

theorem declare_of_unmeant (here : s.registryAt ref = some r)
    (unmeant : r.definition? declaration = none) :
    s.declare ref declaration = (none, s) := by
  simp only [declare, here, Option.bind_some, unmeant]

/-- No definition on a base of the registry is left out: its declaration carries it out. -/
theorem declare_declaration (here : s.registryAt ref = some r)
    (based : ∀ base, definition.base? = some base → r.lookup base.name = some base) :
    s.define? ref definition =
      some (s.settle ref (r.define s.store definition)) ∧
      s.declare ref definition.declaration =
        (some (r.define s.store definition).answer,
          (s.settle ref (r.define s.store definition)).2) := by
  refine ⟨?_, declare_of_meant here (Registry.definition?_declaration based)⟩
  rw [define?, here, Option.map_some]

/-- A declaration is no call, or the definition that it means. -/
theorem declare_cases (s : TypeSystem) (ref : RegistryRef) (declaration : Declaration) :
    s.declare ref declaration = (none, s) ∨
      ∃ r definition, s.registryAt ref = some r ∧ r.definition? declaration = some definition ∧
        s.declare ref declaration =
          (some (r.define s.store definition).answer,
            (s.settle ref (r.define s.store definition)).2) := by
  cases here : s.registryAt ref with
  | none =>
      left
      simp only [declare, here, Option.bind_none]
  | some r =>
      cases meant : r.definition? declaration with
      | none => exact .inl (declare_of_unmeant here meant)
      | some definition => exact .inr ⟨r, definition, rfl, meant, declare_of_meant here meant⟩

theorem Sound.leads_declare (sound : s.Sound) (ref : RegistryRef) (declaration : Declaration) :
    s.Leads (s.declare ref declaration).2 := by
  rcases s.declare_cases ref declaration with same | ⟨r, definition, here, meant, same⟩
  · rw [same]
    exact .refl
  · have admitted : s.Admits (.define ref definition) := by
      intro base above
      obtain ⟨name, found⟩ := Registry.base_bound meant above
      exact (sound.filed_at here found).1
    have step := Leads.step .refl admitted
    simp only [TypeSystem.perform, define?, here, Option.map_some] at step
    rw [same]
    exact step

theorem Sound.leads_declareAll (sound : s.Sound) (script : Script) :
    s.Leads (s.declareAll script).2 := by
  induction script generalizing s with
  | nil => exact .refl
  | cons entry rest ih =>
      have first := sound.leads_declare entry.1 entry.2
      exact first.trans (ih (first.sound sound))

theorem registryAt_declare_of_ne (other : ref ≠ place) :
    (s.declare place declaration).2.registryAt ref = s.registryAt ref := by
  rcases s.declare_cases place declaration with same | ⟨r, definition, here, _, same⟩
  · rw [same]
  · rw [same, registryAt_settle here, if_neg other]

/-- A registry that has the chains of its types grows, and keeps having them. -/
theorem closed_declare (here : s.registryAt ref = some r) (closed : r.Closed)
    (place : RegistryRef) (declaration : Declaration) :
    ∃ later, (s.declare place declaration).2.registryAt ref = some later ∧
      r.Extends later ∧ later.Closed := by
  rcases s.declare_cases place declaration with same | ⟨before, definition, found, meant, same⟩
  · rw [same]
    exact ⟨r, here, .refl r, closed⟩
  · rw [same, registryAt_settle found]
    split
    case isFalse => exact ⟨r, here, .refl r, closed⟩
    case isTrue own =>
      subst own
      obtain rfl : r = before := Option.some.inj (here.symm.trans found)
      exact ⟨_, rfl, r.extends_define s.store definition, closed.define s.store meant⟩

theorem closed_declareAll (here : s.registryAt ref = some r) (closed : r.Closed)
    (script : Script) :
    ∃ later, (s.declareAll script).2.registryAt ref = some later ∧
      r.Extends later ∧ later.Closed := by
  induction script generalizing s r with
  | nil => exact ⟨r, here, .refl r, closed⟩
  | cons entry rest ih =>
      obtain ⟨middle, here, grown, closed⟩ := closed_declare here closed entry.1 entry.2
      obtain ⟨later, here, grown', closed⟩ := ih here closed
      exact ⟨later, here, grown.trans grown', closed⟩

/-- A registry has what it answered with. -/
theorem lookup_of_declare (here : s.registryAt ref = some r) (closed : r.Closed)
    (answered : (s.declare ref declaration).1 = some (.ok d)) {later : Registry}
    (here' : (s.declare ref declaration).2.registryAt ref = some later) :
    later.lookup d.name = some d := by
  rcases s.declare_cases ref declaration with same | ⟨before, definition, found, meant, same⟩
  · rw [same] at answered
    cases answered
  · obtain rfl : r = before := Option.some.inj (here.symm.trans found)
    rw [same] at answered here'
    rw [registryAt_settle here, if_pos rfl] at here'
    obtain rfl := Option.some.inj here'
    have settled := r.settles_define s.store definition
    rw [Option.some.inj answered] at settled
    have bound := (Registry.judge_eq_known_iff.1 settled.judge_eq_known).2.1
    rwa [(closed.define s.store meant).named bound]

theorem lookup_of_declareAll (here : s.registryAt ref = some r) (closed : r.Closed)
    (answered : some (.ok d) ∈ own ref (s.declareAll script).1) {last : Registry}
    (here' : (s.declareAll script).2.registryAt ref = some last) :
    last.lookup d.name = some d := by
  induction script generalizing s r with
  | nil => cases answered
  | cons entry rest ih =>
      obtain ⟨place, declaration⟩ := entry
      obtain ⟨middle, found, _, closed'⟩ := closed_declare here closed place declaration
      by_cases same : place = ref
      · subst same
        rw [declareAll, own_cons_self, List.mem_cons] at answered
        rcases answered with first | later
        · have bound := lookup_of_declare here closed first.symm found
          obtain ⟨grown, here'', kept, _⟩ := closed_declareAll found closed' rest
          obtain rfl : last = grown := Option.some.inj (here'.symm.trans here'')
          exact kept.lookup bound
        · exact ih found closed' later here'
      · rw [declareAll, own_cons_of_ne ref same] at answered
        exact ih found closed' answered here'

end TypeSystem

end RuntimeTypes
