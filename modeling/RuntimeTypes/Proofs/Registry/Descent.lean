import Mathlib.Data.List.Nodup
import Mathlib.Data.List.Perm.Subperm
import Mathlib.Logic.Relation
import RuntimeTypes.Proofs.Hierarchy.Ancestors
import RuntimeTypes.Proofs.Registry.Listings

/-!
Walks down a registry, from types to the types that are built on them.  A
pending type stands for itself and everything below it; a visit puts its
subtypes in its place.  So the number of pending types above a given one
changes only when that one is visited.
-/

namespace RuntimeTypes

/-- In a list without repetitions, a property that singles out one member holds once. -/
theorem countP_eq_one_of_nodup {types : List Descriptor} {p : Descriptor → Bool} {d : Descriptor}
    (once : types.Nodup) (inside : d ∈ types) (only : ∀ e ∈ types, p e = true ↔ e = d) :
    types.countP p = 1 := by
  have single : types.countP p = types.count d := by
    apply List.countP_congr
    intro e among
    rw [only e among, beq_iff_eq]
  rw [single, List.count_eq_one_of_mem once inside]

namespace Registry

variable {r : Registry} {d e x : Descriptor} {pending visited later left : List Descriptor}

/-- The types without a base. -/
def roots (r : Registry) : List Descriptor :=
  r.allTypes.filter Descriptor.isRoot

/-- A walk down, in any order, with the types that were visited and those that
are left: each visit takes one of the pending types and adds its subtypes to them. -/
inductive Descends (r : Registry) : List Descriptor → List Descriptor → List Descriptor → Prop
  | stay (pending : List Descriptor) : Descends r pending [] pending
  | visit {pending others visited left : List Descriptor} {d : Descriptor}
      (taken : pending.Perm (d :: others))
      (rest : Descends r (r.subtypesOf d ++ others) visited left) :
      Descends r pending (d :: visited) left

theorem Descends.trans (first : r.Descends pending visited left)
    {last : List Descriptor} (second : r.Descends left later last) :
    r.Descends pending (visited ++ later) last := by
  induction first with
  | stay => exact second
  | visit taken _ ih => exact .visit taken (ih second)

theorem subtypesOf_subset (r : Registry) (d : Descriptor) : r.subtypesOf d ⊆ r.allTypes :=
  List.filter_subset_self _

theorem roots_subset (r : Registry) : r.roots ⊆ r.allTypes :=
  List.filter_subset_self _

theorem Descends.subset (walk : r.Descends pending visited left)
    (listed : pending ⊆ r.allTypes) : visited ⊆ r.allTypes ∧ left ⊆ r.allTypes := by
  induction walk with
  | stay => exact ⟨List.nil_subset _, listed⟩
  | @visit pending others visited left d taken _ ih =>
      have inside : d :: others ⊆ r.allTypes := List.Subset.trans taken.symm.subset listed
      obtain ⟨held, subset⟩ := List.cons_subset.1 inside
      obtain ⟨met, kept⟩ := ih (List.append_subset.2 ⟨r.subtypesOf_subset d, subset⟩)
      exact ⟨List.cons_subset.2 ⟨held, met⟩, kept⟩

/-- Types are registered once, are told apart by their identities, and have their
bases registered beside them. -/
structure Rooted (r : Registry) : Prop where
  once : r.allTypes.Nodup
  same_iff : ∀ {a b}, a ∈ r.allTypes → b ∈ r.allTypes → (a.same b = true ↔ a = b)
  based : ∀ {x b}, x ∈ r.allTypes → x.base? = some b → b ∈ r.allTypes

namespace Rooted

variable (rooted : r.Rooted)

include rooted

theorem mem_subtypesOf_iff (listed : d ∈ r.allTypes) :
    x ∈ r.subtypesOf d ↔ x ∈ r.allTypes ∧ x.base? = some d := by
  rw [mem_subtypesOf]
  apply and_congr_right
  intro listed'
  cases base : x.base? with
  | none => simp [Descriptor.sameBase]
  | some b =>
      rw [Option.some.injEq]
      exact rooted.same_iff (rooted.based listed' base) listed

theorem chain_subset (listed : x ∈ r.allTypes) : x.chain ⊆ r.allTypes :=
  Descriptor.chain_subset_of_based rooted.based listed

theorem isSubtypeOf_iff (listed : x ∈ r.allTypes) (listed' : d ∈ r.allTypes) :
    x.isSubtypeOf d = true ↔ d ∈ x.chain := by
  apply Descriptor.isSubtypeOf_iff_mem_chain
  intro step above
  exact rooted.same_iff (rooted.chain_subset listed above) listed'

/-- Being below a type is being reached from it by steps down. -/
theorem mem_chain_iff_descends (listed : d ∈ r.allTypes) (listed' : x ∈ r.allTypes) :
    d ∈ x.chain ↔ Relation.ReflTransGen (fun a b => b ∈ r.subtypesOf a) d x := by
  constructor
  · intro above
    induction x with
    | root serial info => rw [List.mem_singleton.1 above]
    | derived serial info base ih =>
        have held := rooted.based listed' rfl
        rcases List.mem_cons.1 above with rfl | above
        · exact .refl
        · exact (ih held above).tail ((rooted.mem_subtypesOf_iff held).2 ⟨listed', rfl⟩)
  · intro steps
    have inside : x ∈ r.allTypes ∧ d ∈ x.chain := by
      clear listed'
      induction steps with
      | refl => exact ⟨listed, d.mem_chain_self⟩
      | tail _ step ih =>
          obtain ⟨held, above⟩ := ih
          obtain ⟨held', base⟩ := (rooted.mem_subtypesOf_iff held).1 step
          refine ⟨held', ?_⟩
          rw [Descriptor.chain_of_base base]
          exact List.mem_cons_of_mem _ above
    exact inside.2

/-- A type that is no root is among the subtypes of its base only. -/
theorem root_or_existsUnique (listed : x ∈ r.allTypes) :
    (x.isRoot = true ∧ ∀ e ∈ r.allTypes, x ∉ r.subtypesOf e) ∨
      (x.isRoot = false ∧ ∃! e, e ∈ r.allTypes ∧ x ∈ r.subtypesOf e) := by
  cases base : x.base? with
  | none =>
      refine .inl ⟨by simp [Descriptor.isRoot, base], ?_⟩
      intro e listed' below
      cases base.symm.trans ((rooted.mem_subtypesOf_iff listed').1 below).2
  | some b =>
      have held := rooted.based listed base
      refine .inr ⟨by simp [Descriptor.isRoot, base], b,
        ⟨held, (rooted.mem_subtypesOf_iff held).2 ⟨listed, base⟩⟩, ?_⟩
      rintro e ⟨listed', below⟩
      cases base.symm.trans ((rooted.mem_subtypesOf_iff listed').1 below).2
      rfl

/-- Of the subtypes of a type, those above another type: one if the type is a
strict ancestor of the other, and none if it is the other or apart from it. -/
theorem countP_subtypesOf (listed : d ∈ r.allTypes) (listed' : x ∈ r.allTypes) :
    (if d ∈ x.chain then 1 else 0) =
      (if d = x then 1 else 0) + (r.subtypesOf d).countP (· ∈ x.chain) := by
  by_cases same : d = x
  · subst same
    rw [if_pos d.mem_chain_self, if_pos rfl, List.countP_eq_zero.2]
    intro y below
    obtain ⟨_, base⟩ := (rooted.mem_subtypesOf_iff listed).1 below
    have deeper := Descriptor.depth_of_base base
    intro above
    have := Descriptor.depth_le (of_decide_eq_true above)
    omega
  · rw [if_neg same, Nat.zero_add]
    by_cases above : d ∈ x.chain
    · obtain ⟨y, inside, base⟩ := Descriptor.exists_base?_of_mem_chain above same
      have below : y ∈ r.subtypesOf d :=
        (rooted.mem_subtypesOf_iff listed).2 ⟨rooted.chain_subset listed' inside, base⟩
      rw [if_pos above, eq_comm]
      apply countP_eq_one_of_nodup (rooted.once.filter _) below
      intro z below'
      obtain ⟨_, base'⟩ := (rooted.mem_subtypesOf_iff listed).1 below'
      rw [decide_eq_true_iff]
      constructor
      · exact fun inside' => Descriptor.eq_of_mem_chain_of_base inside' inside base' base
      · rintro rfl
        exact inside
    · rw [if_neg above, eq_comm, List.countP_eq_zero]
      intro y below inside
      obtain ⟨_, base⟩ := (rooted.mem_subtypesOf_iff listed).1 below
      apply above
      apply Descriptor.mem_chain_trans (of_decide_eq_true inside)
      rw [Descriptor.chain_of_base base]
      exact List.mem_cons_of_mem _ d.mem_chain_self

/-- A walk meets a type as often as there are pending types above it that are
pending no longer. -/
theorem countP_of_descends (walk : r.Descends pending visited left)
    (listed : pending ⊆ r.allTypes) (listed' : x ∈ r.allTypes) :
    pending.countP (· ∈ x.chain) = visited.count x + left.countP (· ∈ x.chain) := by
  induction walk with
  | stay => rw [List.count_nil, Nat.zero_add]
  | @visit pending others visited left d taken _ ih =>
      have inside : d :: others ⊆ r.allTypes := List.Subset.trans taken.symm.subset listed
      obtain ⟨held, subset⟩ := List.cons_subset.1 inside
      have next := ih (List.append_subset.2 ⟨r.subtypesOf_subset d, subset⟩)
      have split := rooted.countP_subtypesOf held listed'
      rw [List.countP_append] at next
      rw [taken.countP_eq, List.countP_cons, List.count_cons]
      simp only [decide_eq_true_eq, beq_iff_eq] at split ⊢
      omega

/-- Above each type there is one root. -/
theorem countP_roots (listed : x ∈ r.allTypes) : r.roots.countP (· ∈ x.chain) = 1 := by
  have isRoot : x.rootOf.isRoot = true := by
    rw [Descriptor.isRoot, x.base?_rootOf]
    rfl
  have among : x.rootOf ∈ r.roots :=
    List.mem_filter.2 ⟨rooted.chain_subset listed x.rootOf_mem_chain, isRoot⟩
  apply countP_eq_one_of_nodup (rooted.once.filter _) among
  intro e inside
  have base : e.base? = none := by
    simpa [Descriptor.isRoot] using (List.mem_filter.1 inside).2
  rw [decide_eq_true_iff]
  constructor
  · exact fun above => Descriptor.eq_rootOf_of_mem above base
  · rintro rfl
    exact x.rootOf_mem_chain

/-- A walk down from the roots meets no type twice. -/
theorem visited_nodup (walk : r.Descends r.roots visited left) : visited.Nodup := by
  rw [List.nodup_iff_count_le_one]
  intro x
  by_cases met : x ∈ visited
  · have listed := (walk.subset r.roots_subset).1 met
    have count := rooted.countP_of_descends walk r.roots_subset listed
    rw [rooted.countP_roots listed] at count
    omega
  · rw [List.count_eq_zero_of_not_mem met]
    exact Nat.zero_le 1

theorem length_visited_le (walk : r.Descends r.roots visited left) : visited.length ≤ r.size := by
  rw [← length_allTypes]
  have met := (walk.subset r.roots_subset).1
  exact ((rooted.visited_nodup walk).subperm met).length_le

/-- A walk down from the roots that leaves nothing meets every type once. -/
theorem visited_perm (walk : r.Descends r.roots visited []) : visited.Perm r.allTypes := by
  rw [List.perm_ext_iff_of_nodup (rooted.visited_nodup walk) rooted.once]
  intro x
  constructor
  · intro met
    exact (walk.subset r.roots_subset).1 met
  · intro listed
    have count := rooted.countP_of_descends walk r.roots_subset listed
    rw [rooted.countP_roots listed, List.countP_nil] at count
    exact List.count_pos_iff.1 (by omega)

/-- Every walk down from the roots can be brought to its end. -/
theorem exists_descends (walk : r.Descends r.roots visited left) :
    ∃ later, r.Descends left later [] := by
  induction unmet : r.size - visited.length using Nat.strongRecOn
    generalizing visited left with
  | ind n ih =>
      cases left with
      | nil => exact ⟨[], .stay []⟩
      | cons d others =>
          have further : r.Descends r.roots (visited ++ [d]) (r.subtypesOf d ++ others) :=
            walk.trans (.visit (.refl _) (.stay _))
          have bound := rooted.length_visited_le further
          have longer : (visited ++ [d]).length = visited.length + 1 := List.length_append
          obtain ⟨later, rest⟩ := ih _ (by omega) further rfl
          exact ⟨d :: later, .visit (.refl _) rest⟩

end Rooted

end Registry

end RuntimeTypes
