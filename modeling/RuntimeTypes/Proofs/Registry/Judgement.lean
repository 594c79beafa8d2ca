import RuntimeTypes.Registry
import Std.Data.TreeMap.Lemmas

/-!
What a definition can do to a registry.  A registry only gains names, and once
it has answered a definition it gives the same answer to that definition for
good.
-/

namespace RuntimeTypes

namespace Registry

variable {r later last : Registry} {store : Arena Descriptor} {definition : Definition}

theorem contains_eq_isSome (r : Registry) (name : String) :
    r.contains name = (r.lookup name).isSome :=
  Std.TreeMap.contains_eq_isSome_getElem?

@[simp] theorem lookup_empty (policy : RootPolicy) (name : String) :
    (empty policy).lookup name = none :=
  Std.TreeMap.getElem?_emptyc

/-- The descriptor that a definition of a free name makes. -/
def made (store : Arena Descriptor) (definition : Definition) : Descriptor :=
  .make store.size definition.info definition.base?

theorem lookup_register (r : Registry) (store : Arena Descriptor) (definition : Definition)
    (name : String) :
    (r.register store definition).registry.lookup name =
      if definition.name = name then some (made store definition) else r.lookup name := by
  change (r.types.insert definition.name _)[name]? = _
  rw [Std.TreeMap.getElem?_insert]
  simp only [Std.LawfulEqCmp.compare_eq_iff_eq]
  rfl

theorem size_register (free : r.lookup definition.name = none) :
    (r.register store definition).registry.size = r.size + 1 := by
  have absent : r.types.contains definition.name = false := by
    change r.contains definition.name = false
    rw [contains_eq_isSome, free]
    rfl
  change (r.types.insert definition.name _).size = r.types.size + 1
  rw [Std.TreeMap.size_insert, absent]
  rfl

/-- The two checks that do not look at what is registered. -/
structure Permits (r : Registry) (definition : Definition) : Prop where
  wellFormed : QualifiedName.isWellFormed definition.name = true
  allowed : definition.base? = none → r.policy.allows definition.name = true

/-- How a definition that passes these checks compares with the type that has its name. -/
def compared (existing : Descriptor) (definition : Definition) : Verdict :=
  if !Descriptor.sameBase existing.base? definition.base? then .otherBase existing
  else if existing.fields = definition.fields then .known existing
  else .otherFields existing

theorem judge_of_permits (permits : r.Permits definition) :
    r.judge definition =
      ((r.lookup definition.name).map fun existing => compared existing definition).getD
        .fresh := by
  have guard : (definition.base?.isNone && !r.policy.allows definition.name) = false := by
    cases base : definition.base? with
    | none => simp [permits.allowed base]
    | some _ => rfl
  simp only [judge, permits.wellFormed, guard]
  cases r.lookup definition.name with
  | none => rfl
  | some existing => rfl

theorem judge_of_not_permits (refused : ¬ r.Permits definition) :
    r.judge definition =
      if QualifiedName.isWellFormed definition.name then .undesignated else .malformed := by
  cases formed : QualifiedName.isWellFormed definition.name with
  | false => simp [judge, formed]
  | true =>
      cases guard : (definition.base?.isNone && !r.policy.allows definition.name) with
      | true => simp [judge, formed, guard]
      | false =>
          exfalso
          apply refused
          refine ⟨formed, ?_⟩
          intro base
          simpa [base] using guard

theorem judge_eq_malformed_iff :
    r.judge definition = .malformed ↔ QualifiedName.isWellFormed definition.name = false := by
  by_cases permits : r.Permits definition
  · have formed := permits.wellFormed
    simp only [judge, formed]
    grind
  · rw [judge_of_not_permits permits]
    cases QualifiedName.isWellFormed definition.name <;> simp

theorem wellFormed_of_undesignated (judged : r.judge definition = .undesignated) :
    QualifiedName.isWellFormed definition.name = true := by
  rw [← Bool.not_eq_false]
  intro malformed
  rw [judge_eq_malformed_iff.2 malformed] at judged
  cases judged

theorem compared_ne_fresh (existing : Descriptor) (definition : Definition) :
    compared existing definition ≠ .fresh := by
  unfold compared
  split
  · simp
  · split <;> simp

theorem compared_eq_known_iff {existing d : Descriptor} :
    compared existing definition = .known d ↔
      existing = d ∧ Descriptor.sameBase d.base? definition.base? = true ∧
        d.fields = definition.fields := by
  unfold compared
  split
  · grind
  · split <;> grind

theorem compared_eq_otherFields_iff {existing d : Descriptor} :
    compared existing definition = .otherFields d ↔
      existing = d ∧ Descriptor.sameBase d.base? definition.base? = true ∧
        d.fields ≠ definition.fields := by
  unfold compared
  split
  · grind
  · split <;> grind

theorem compared_eq_otherBase_iff {existing d : Descriptor} :
    compared existing definition = .otherBase d ↔
      existing = d ∧ Descriptor.sameBase d.base? definition.base? = false := by
  unfold compared
  split
  · grind
  · split <;> grind

theorem judge_eq_fresh_iff :
    r.judge definition = .fresh ↔ r.Permits definition ∧ r.lookup definition.name = none := by
  by_cases permits : r.Permits definition
  · rw [judge_of_permits permits]
    cases r.lookup definition.name with
    | none => simp [permits]
    | some existing => simpa using compared_ne_fresh existing definition
  · rw [judge_of_not_permits permits]
    simp only [permits, false_and, iff_false]
    split <;> simp

/-- The other verdicts on a permitted definition compare it with the type that has its name. -/
theorem judge_eq_iff_compared {verdict : Verdict} (formed : verdict ≠ .malformed)
    (designated : verdict ≠ .undesignated) (bound : verdict ≠ .fresh) :
    r.judge definition = verdict ↔
      r.Permits definition ∧ ∃ existing, r.lookup definition.name = some existing ∧
        compared existing definition = verdict := by
  by_cases permits : r.Permits definition
  · rw [judge_of_permits permits]
    cases r.lookup definition.name with
    | none => simp [bound.symm]
    | some existing => simp [permits]
  · rw [judge_of_not_permits permits]
    simp only [permits, false_and, iff_false]
    split
    · exact designated.symm
    · exact formed.symm

theorem judge_eq_known_iff {d : Descriptor} :
    r.judge definition = .known d ↔
      r.Permits definition ∧ r.lookup definition.name = some d ∧
        Descriptor.sameBase d.base? definition.base? = true ∧ d.fields = definition.fields := by
  rw [judge_eq_iff_compared (by simp) (by simp) (by simp)]
  simp only [compared_eq_known_iff, and_left_comm, exists_eq_left]

theorem judge_eq_otherFields_iff {d : Descriptor} :
    r.judge definition = .otherFields d ↔
      r.Permits definition ∧ r.lookup definition.name = some d ∧
        Descriptor.sameBase d.base? definition.base? = true ∧ d.fields ≠ definition.fields := by
  rw [judge_eq_iff_compared (by simp) (by simp) (by simp)]
  simp only [compared_eq_otherFields_iff, and_left_comm, exists_eq_left]

theorem judge_eq_otherBase_iff {d : Descriptor} :
    r.judge definition = .otherBase d ↔
      r.Permits definition ∧ r.lookup definition.name = some d ∧
        Descriptor.sameBase d.base? definition.base? = false := by
  rw [judge_eq_iff_compared (by simp) (by simp) (by simp)]
  simp only [compared_eq_otherBase_iff, and_left_comm, exists_eq_left]

theorem define_of_fresh (fresh : r.judge definition = .fresh) :
    r.define store definition = r.register store definition := by
  simp only [define, fresh]

theorem define_of_ne_fresh (taken : r.judge definition ≠ .fresh) :
    (r.define store definition).registry = r ∧ (r.define store definition).store = store := by
  unfold define
  split
  case h_6 fresh => exact absurd fresh taken
  all_goals exact ⟨rfl, rfl⟩

/-- A later registry has all names of an earlier one, with the same descriptors,
and the same policy. -/
structure Extends (r later : Registry) : Prop where
  policy : later.policy = r.policy
  lookup : ∀ {name : String} {d : Descriptor}, r.lookup name = some d → later.lookup name = some d

theorem Extends.refl (r : Registry) : r.Extends r :=
  ⟨rfl, id⟩

theorem Extends.trans (first : r.Extends later) (second : later.Extends last) : r.Extends last :=
  ⟨second.policy.trans first.policy, fun found => second.lookup (first.lookup found)⟩

theorem extends_define (r : Registry) (store : Arena Descriptor) (definition : Definition) :
    r.Extends (r.define store definition).registry := by
  by_cases fresh : r.judge definition = .fresh
  · rw [define_of_fresh fresh]
    refine ⟨rfl, ?_⟩
    intro name d found
    have free := (judge_eq_fresh_iff.1 fresh).2
    rw [lookup_register]
    split
    case isTrue same =>
      rw [← same, free] at found
      cases found
    case isFalse => exact found
  · rw [(define_of_ne_fresh fresh).1]
    exact .refl r

theorem lookup_define_of_ne (r : Registry) (store : Arena Descriptor) {name : String}
    (other : definition.name ≠ name) :
    (r.define store definition).registry.lookup name = r.lookup name := by
  by_cases fresh : r.judge definition = .fresh
  · rw [define_of_fresh fresh, lookup_register, if_neg other]
  · rw [(define_of_ne_fresh fresh).1]

/-- What is found after a definition was there before it, or is what was just made. -/
theorem lookup_define {name : String} {d : Descriptor}
    (found : (r.define store definition).registry.lookup name = some d) :
    r.lookup name = some d ∨
      r.judge definition = .fresh ∧ name = definition.name ∧ d = made store definition := by
  by_cases fresh : r.judge definition = .fresh
  · rw [define_of_fresh fresh, lookup_register] at found
    split at found
    case isTrue same =>
      cases found
      exact .inr ⟨fresh, same.symm, rfl⟩
    case isFalse => exact .inl found
  · rw [(define_of_ne_fresh fresh).1] at found
    exact .inl found

theorem Extends.permits_iff (kept : r.Extends later) :
    later.Permits definition ↔ r.Permits definition := by
  constructor
  · intro permits
    exact ⟨permits.wellFormed, fun base => kept.policy ▸ permits.allowed base⟩
  · intro permits
    exact ⟨permits.wellFormed, fun base => kept.policy.symm ▸ permits.allowed base⟩

/-- Only a name that was free can be judged differently later. -/
theorem Extends.judge_eq (kept : r.Extends later) (taken : r.judge definition ≠ .fresh) :
    later.judge definition = r.judge definition := by
  by_cases permits : r.Permits definition
  · rw [judge_of_permits permits, judge_of_permits (kept.permits_iff.2 permits)]
    cases found : r.lookup definition.name with
    | none => exact absurd (judge_eq_fresh_iff.2 ⟨permits, found⟩) taken
    | some existing => rw [kept.lookup found]
  · rw [judge_of_not_permits permits,
      judge_of_not_permits fun later => permits (kept.permits_iff.1 later)]

/-- A registry has settled a definition when it gives this answer in every
situation and changes nothing. -/
def Settles (r : Registry) (definition : Definition) (answer : Except Error Descriptor) : Prop :=
  ∀ store, (r.define store definition).answer = answer ∧
    (r.define store definition).registry = r ∧ (r.define store definition).store = store

theorem settles_of_ne_fresh (taken : r.judge definition ≠ .fresh) (store : Arena Descriptor) :
    r.Settles definition (r.define store definition).answer := by
  intro other
  refine ⟨?_, define_of_ne_fresh taken⟩
  unfold define
  split
  case h_6 fresh => exact absurd fresh taken
  all_goals rfl

theorem judge_register (store : Arena Descriptor) (permits : r.Permits definition) :
    (r.register store definition).registry.judge definition = .known (made store definition) := by
  rw [judge_eq_known_iff]
  refine ⟨⟨permits.wellFormed, permits.allowed⟩, ?_, ?_, ?_⟩
  · rw [lookup_register, if_pos rfl]
  · rw [made, Descriptor.base?_make]
    cases definition.base? with
    | none => rfl
    | some base => simp [Descriptor.sameBase, Descriptor.same]
  · simp [made, Descriptor.fields, Definition.info]

/-- Whatever a registry answers, it has settled from then on. -/
theorem settles_define (r : Registry) (store : Arena Descriptor) (definition : Definition) :
    (r.define store definition).registry.Settles definition
      (r.define store definition).answer := by
  by_cases fresh : r.judge definition = .fresh
  · rw [define_of_fresh fresh]
    have known := judge_register store (judge_eq_fresh_iff.1 fresh).1
    have taken : (r.register store definition).registry.judge definition ≠ .fresh := by
      simp [known]
    have settled := settles_of_ne_fresh taken store
    have answer : ((r.register store definition).registry.define store definition).answer =
        .ok (made store definition) := by
      simp only [define, known]
    rw [answer] at settled
    exact settled
  · rw [(define_of_ne_fresh fresh).1]
    exact settles_of_ne_fresh fresh store

theorem Settles.ne_fresh {answer : Except Error Descriptor}
    (settled : r.Settles definition answer) : r.judge definition ≠ .fresh := by
  intro fresh
  have free := (judge_eq_fresh_iff.1 fresh).2
  have same := (settled {chunkSize := 0}).2.1
  rw [define_of_fresh fresh] at same
  rw [← same, lookup_register, if_pos rfl] at free
  cases free

theorem Settles.extends {answer : Except Error Descriptor}
    (settled : r.Settles definition answer) (kept : r.Extends later) :
    later.Settles definition answer := by
  have taken := settled.ne_fresh
  have judged := kept.judge_eq taken
  intro store
  have answered : (later.define store definition).answer = (r.define store definition).answer := by
    unfold define
    rw [judged]
    split
    case h_6 fresh => exact absurd fresh taken
    all_goals rfl
  refine ⟨answered.trans (settled store).1, ?_⟩
  exact define_of_ne_fresh (judged ▸ taken)

/-- A registry that settled on a descriptor has it under the name that was asked for,
with the base and the fields that were asked for. -/
theorem Settles.judge_eq_known {d : Descriptor} (settled : r.Settles definition (.ok d)) :
    r.judge definition = .known d := by
  have answer := (settled {chunkSize := 0}).1
  have taken := settled.ne_fresh
  unfold define at answer
  split at answer
  case h_3 existing known =>
    cases answer
    exact known
  case h_6 fresh => exact absurd fresh taken
  all_goals cases answer

end Registry

end RuntimeTypes
