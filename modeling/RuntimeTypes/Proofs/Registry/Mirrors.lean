import RuntimeTypes.Proofs.Hierarchy.Renaming
import RuntimeTypes.Proofs.Registry.Closed
import RuntimeTypes.Proofs.Registry.Listings

/-!
Registries that hold the same under other numbers.  A declaration for both is
answered the same, and the registries mirror each other afterwards, under a
renaming that does to earlier types what the one before it did.
-/

namespace RuntimeTypes

variable {f g : Equiv.Perm Nat}

/-- The definition on top of a base with other numbers. -/
def Definition.rename (f : Equiv.Perm Nat) (definition : Definition) : Definition :=
  { definition with base? := definition.base?.map (Descriptor.rename f) }

/-- The verdict on other numbers. -/
def Verdict.rename (f : Equiv.Perm Nat) : Verdict → Verdict
  | malformed => malformed
  | undesignated => undesignated
  | known existing => known (existing.rename f)
  | otherFields existing => otherFields (existing.rename f)
  | otherBase existing => otherBase (existing.rename f)
  | fresh => fresh

theorem Verdict.rename_eq_fresh_iff {verdict : Verdict} :
    verdict.rename f = fresh ↔ verdict = fresh := by
  cases verdict <;> simp [rename]

namespace Registry

variable {r r' : Registry} {store store' : Arena Descriptor} {definition : Definition}
  {declaration : Declaration}

/-- A registry shows what another one shows, under other numbers. -/
structure Mirrors (f : Equiv.Perm Nat) (r r' : Registry) : Prop where
  policy : r'.policy = r.policy
  lookup : ∀ name, r'.lookup name = (r.lookup name).map (Descriptor.rename f)
  size : r'.size = r.size
  allTypes : r'.allTypes = r.allTypes.map (Descriptor.rename f)
  subtypesOf : ∀ base, r'.subtypesOf (base.rename f) =
    (r.subtypesOf base).map (Descriptor.rename f)

/-- It is enough to compare look-ups. -/
theorem mirrors_of_lookup (policy : r'.policy = r.policy)
    (lookup : ∀ name, r'.lookup name = (r.lookup name).map (Descriptor.rename f)) :
    r.Mirrors f r' := by
  have same : ∀ name, (r.lookup name).map (Descriptor.rename f) = (r'.lookup name).map id := by
    intro name
    rw [lookup name, Option.map_id, id]
  have listed : r'.allTypes = r.allTypes.map (Descriptor.rename f) := by
    rw [map_allTypes_congr same, List.map_id]
  refine ⟨policy, lookup, (size_congr same).symm, listed, ?_⟩
  intro base
  have bases : ∀ d : Descriptor, Descriptor.sameBase (d.rename f).base? (some (base.rename f)) =
      Descriptor.sameBase d.base? (some base) := by
    intro d
    rw [Descriptor.base?_rename]
    exact Descriptor.sameBase_rename f d.base? (some base)
  simp only [subtypesOf, listed, List.filter_map, Function.comp_def, bases]

theorem mirrors_empty (f : Equiv.Perm Nat) (policy : RootPolicy) :
    (empty policy).Mirrors f (empty policy) := by
  apply mirrors_of_lookup rfl
  intro name
  simp

/-- Two renamings do the same to all that a registry has. -/
def Agree (r : Registry) (f g : Equiv.Perm Nat) : Prop :=
  ∀ ⦃name d⦄, r.lookup name = some d → d.rename g = d.rename f

theorem Agree.refl (r : Registry) (f : Equiv.Perm Nat) : r.Agree f f :=
  fun _ _ _ => rfl

theorem Agree.trans {h : Equiv.Perm Nat} (first : r.Agree f g) (grown : r.Extends r')
    (second : r'.Agree g h) : r.Agree f h :=
  fun _ _ found => (second (grown.lookup found)).trans (first found)

theorem Mirrors.congr (mirrors : r.Mirrors f r') (agree : r.Agree f g) : r.Mirrors g r' := by
  apply mirrors_of_lookup mirrors.policy
  intro name
  rw [mirrors.lookup]
  exact Option.map_congr fun d found => (agree found).symm

theorem Mirrors.definition? (mirrors : r.Mirrors f r') (declaration : Declaration) :
    r'.definition? declaration = (r.definition? declaration).map (Definition.rename f) := by
  unfold Registry.definition?
  cases declaration.base? with
  | none => rfl
  | some name =>
      simp only [mirrors.lookup, Option.map_map]
      rfl

theorem Mirrors.judge (mirrors : r.Mirrors f r') (definition : Definition) :
    r'.judge (definition.rename f) = (r.judge definition).rename f := by
  have root : (definition.base?.map (Descriptor.rename f)).isNone = definition.base?.isNone := by
    cases definition.base? <;> rfl
  simp only [Registry.judge, Definition.rename, mirrors.policy, mirrors.lookup, root]
  split
  · rfl
  split
  · rfl
  cases r.lookup definition.name with
  | none => rfl
  | some existing =>
      simp only [Option.map_some, Descriptor.base?_rename, Descriptor.sameBase_rename,
        Descriptor.fields_rename]
      split
      · rfl
      split <;> rfl

/-- Where nothing is entered, the answer has the same texts, and its type the other number. -/
theorem Mirrors.answer_of_taken (mirrors : r.Mirrors f r')
    (taken : r.judge definition ≠ .fresh) (store store' : Arena Descriptor) :
    (r'.define store' (definition.rename f)).answer =
      (r.define store definition).answer.map (Descriptor.rename f) := by
  simp only [Registry.define, mirrors.judge]
  cases verdict : r.judge definition with
  | fresh => exact absurd verdict taken
  | malformed | undesignated | known existing => rfl
  | otherFields existing =>
      simp only [Verdict.rename, Descriptor.fields_rename]
      rfl
  | otherBase existing =>
      simp only [Verdict.rename, Definition.rename, Descriptor.base?_rename,
        Descriptor.baseText_rename]
      rfl

/-- The renaming that also takes one number to another.  The number that was
taken there goes where the first was taken. -/
def redirect (f : Equiv.Perm Nat) (number number' : Nat) : Equiv.Perm Nat :=
  f.trans (Equiv.swap (f number) number')

/-- The types that are there already keep their numbers: none of them has one of
the two numbers that are given out now. -/
theorem Mirrors.agree_redirect (mirrors : r.Mirrors f r') (closed : r.Closed)
    {number number' : Nat}
    (older : ∀ {name d}, r.lookup name = some d → d.serial ≠ number)
    (older' : ∀ {name d}, r'.lookup name = some d → d.serial ≠ number') :
    r.Agree f (redirect f number number') := by
  intro name d found
  apply Descriptor.rename_congr
  intro a above
  have bound := closed.lookup_of_mem_chain found above
  have bound' : r'.lookup a.name = some (a.rename f) := by
    rw [mirrors.lookup, bound, Option.map_some]
  have fresh : f a.serial ≠ f number := fun same => older bound (f.injective same)
  have fresh' : f a.serial ≠ number' := by
    rw [← Descriptor.serial_rename]
    exact older' bound'
  exact Equiv.swap_apply_of_ne_of_ne fresh fresh'

theorem Mirrors.define (mirrors : r.Mirrors f r') (closed : r.Closed)
    (meant : r.definition? declaration = some definition)
    (older : ∀ {name d}, r.lookup name = some d → d.serial ≠ store.size)
    (older' : ∀ {name d}, r'.lookup name = some d → d.serial ≠ store'.size) :
    ∃ g, r.Agree f g ∧
      (r.define store definition).registry.Mirrors g
        (r'.define store' (definition.rename f)).registry ∧
      (r'.define store' (definition.rename f)).answer =
        (r.define store definition).answer.map (Descriptor.rename g) := by
  by_cases fresh : r.judge definition = .fresh
  · have fresh' : r'.judge (definition.rename f) = .fresh := by
      rw [mirrors.judge, fresh]
      rfl
    have agree := mirrors.agree_redirect closed older older'
    generalize new : redirect f store.size store'.size = g at agree
    have number : g store.size = store'.size := by
      rw [← new]
      exact Equiv.swap_apply_left _ _
    have same : made store' (definition.rename f) = (made store definition).rename g := by
      have base : definition.base?.map (Descriptor.rename f) =
          definition.base?.map (Descriptor.rename g) := by
        apply Option.map_congr
        intro base above
        obtain ⟨name, bound⟩ := base_bound meant above
        exact (agree bound).symm
      rw [made, made, Descriptor.rename_make, number, ← base]
      rfl
    refine ⟨g, agree, ?_, ?_⟩
    · rw [define_of_fresh fresh, define_of_fresh fresh']
      have policy : (r'.register store' (definition.rename f)).registry.policy =
          (r.register store definition).registry.policy := mirrors.policy
      apply mirrors_of_lookup policy
      intro name
      rw [lookup_register, lookup_register, same, (mirrors.congr agree).lookup]
      change (if definition.name = name then _ else _) = _
      split <;> rfl
    · rw [define_of_fresh fresh, define_of_fresh fresh']
      exact congrArg Except.ok same
  · have taken' : r'.judge (definition.rename f) ≠ .fresh := by
      rwa [mirrors.judge, ne_eq, Verdict.rename_eq_fresh_iff]
    refine ⟨f, .refl r f, ?_, mirrors.answer_of_taken fresh store store'⟩
    rw [(define_of_ne_fresh fresh).1, (define_of_ne_fresh taken').1]
    exact mirrors

end Registry

end RuntimeTypes
