import RuntimeTypes.Proofs.Registry.Descent
import RuntimeTypes.Proofs.Text.ByteOrder
import RuntimeTypes.Proofs.TypeSystem.Ancestry

/-!
What a registry lists, beside what its types tell about their bases.  In a
registry that has all bases of its types, looking down from the roots and
looking up from the types show the same forest.
-/

namespace RuntimeTypes

namespace Registry

variable {r : Registry} {d x : Descriptor}

theorem mem_subtypesOf_iff_same :
    x ∈ r.subtypesOf d ↔ x ∈ r.allTypes ∧ ∃ b, x.base? = some b ∧ b.same d = true := by
  rw [mem_subtypesOf]
  cases x.base? with
  | none => simp [Descriptor.sameBase]
  | some b => simp [Descriptor.sameBase]

/-- Looking down from the roots shows what the types tell about their bases. -/
structure Surveyed (r : Registry) : Prop where
  /-- A type is a root, or it is listed below one type. -/
  parent : ∀ x ∈ r.allTypes, (x.isRoot = true ∧ ∀ e ∈ r.allTypes, x ∉ r.subtypesOf e) ∨
    (x.isRoot = false ∧ ∃! e, e ∈ r.allTypes ∧ x ∈ r.subtypesOf e)
  below : ∀ x ∈ r.allTypes, ∀ d ∈ r.allTypes,
    (x.isSubtypeOf d = true ↔ Relation.ReflTransGen (fun a b => b ∈ r.subtypesOf a) d x)
  /-- A walk down from all roots goes on while something is left, but not for ever. -/
  ends : ∀ visited left, r.Descends r.roots visited left →
    visited.length ≤ r.size ∧ ∃ later, r.Descends left later []
  meets : ∀ visited, r.Descends r.roots visited [] → visited.Perm r.allTypes

theorem Rooted.surveyed (rooted : r.Rooted) : r.Surveyed where
  parent _ listed := rooted.root_or_existsUnique listed
  below x listed d listed' := by
    rw [rooted.isSubtypeOf_iff listed listed', rooted.mem_chain_iff_descends listed' listed]
  ends _ _ walk := ⟨rooted.length_visited_le walk, rooted.exists_descends walk⟩
  meets _ walk := rooted.visited_perm walk

end Registry

namespace TypeSystem

variable {s : TypeSystem} {ref : RegistryRef} {r : Registry}

theorem Sound.sorted (sound : s.Sound) (here : s.registryAt ref = some r) :
    r.allTypes.Pairwise fun a b => a.name < b.name :=
  Registry.pairwise_allTypes fun _ _ found => (sound.filed_at here found).2

theorem Sound.holds_of_listed (sound : s.Sound) (here : s.registryAt ref = some r)
    {d : Descriptor} (listed : d ∈ r.allTypes) : s.Holds d := by
  obtain ⟨name, found⟩ := Registry.mem_allTypes.1 listed
  exact (sound.filed_at here found).1

theorem Sound.rooted (sound : s.Sound) (here : s.registryAt ref = some r)
    (based : ∀ x ∈ r.allTypes, ∀ b, x.base? = some b → b ∈ r.allTypes) : r.Rooted where
  once := by
    apply (sound.sorted here).imp
    rintro a b less rfl
    exact String.lt_irrefl _ less
  same_iff first second :=
    sound.numbered.same_iff (sound.holds_of_listed here first) (sound.holds_of_listed here second)
  based {x b} listed above := based x listed b above

/-- What a registry lists: everything that it ever answered with, once, in the
order of the bytes of the names, and for each type those that are built on it. -/
structure Lists (s : TypeSystem) (ref : RegistryRef) (r : Registry) : Prop where
  listed : ∀ name d, r.lookup name = some d ↔ d ∈ r.allTypes ∧ d.name = name
  answered : ∀ {t t' : TypeSystem} {definition d}, t.Reachable → t.Admits (.define ref definition) →
    t.define? ref definition = some (.ok d, t') → t'.Leads s → d ∈ r.allTypes
  sorted : r.allTypes.Pairwise fun a b => Text.bytes a.name < Text.bytes b.name
  once : r.allTypes.Pairwise fun a b => a.same b = false
  subtypes : ∀ x d, x ∈ r.subtypesOf d ↔
    x ∈ r.allTypes ∧ ∃ b, x.base? = some b ∧ b.same d = true
  subtypesSorted : ∀ d,
    (r.subtypesOf d).Pairwise fun a b => Text.bytes a.name < Text.bytes b.name
  subtypesOnce : ∀ d, (r.subtypesOf d).Pairwise fun a b => a.same b = false

theorem Reachable.lists (reachable : s.Reachable) (here : s.registryAt ref = some r) :
    s.Lists ref r := by
  have sound := reachable.sound
  have sorted : r.allTypes.Pairwise fun a b => Text.bytes a.name < Text.bytes b.name :=
    (sound.sorted here).imp Text.bytes_lt_bytes
  have once : r.allTypes.Pairwise fun a b => a.same b = false := by
    apply (sound.sorted here).imp_of_mem
    intro a b first second less
    rw [Bool.eq_false_iff, Ne, sound.numbered.same_iff (sound.holds_of_listed here first)
      (sound.holds_of_listed here second)]
    rintro rfl
    exact String.lt_irrefl _ less
  constructor
  case sorted => exact sorted
  case once => exact once
  case subtypesSorted => exact fun d => sorted.filter _
  case subtypesOnce => exact fun d => once.filter _
  case subtypes => exact fun x d => Registry.mem_subtypesOf_iff_same
  case listed =>
    intro name d
    constructor
    · intro found
      exact ⟨Registry.mem_allTypes.2 ⟨name, found⟩, (sound.filed_at here found).2⟩
    · rintro ⟨listed, rfl⟩
      obtain ⟨name, found⟩ := Registry.mem_allTypes.1 listed
      rwa [(sound.filed_at here found).2]
  case answered =>
    intro t t' definition d before admitted answered leads
    obtain ⟨_, later, used, settles⟩ := before.sound.settles_of_define? admitted answered leads
    obtain rfl : later = r := Option.some.inj ((registryAt_of_inUse used).symm.trans here)
    have found := (Registry.judge_eq_known_iff.1 settles.judge_eq_known).2.1
    exact Registry.mem_allTypes.2 ⟨_, found⟩

/-- A registry lists its types in order, and where it has their bases too, what
it lists below its types is what the chains of bases say. -/
theorem listings_agree_with_chains (reachable : s.Reachable)
    (here : s.registryAt ref = some r) :
    s.Lists ref r ∧
      ((∀ x ∈ r.allTypes, ∀ b, x.base? = some b → b ∈ r.allTypes) → r.Surveyed) := by
  refine ⟨reachable.lists here, ?_⟩
  intro based
  exact (reachable.sound.rooted here based).surveyed

/-- A root, two types on it, and a type on one of these. -/
def shape : Descriptor := .root 0 ⟨"Shape", [], none⟩

def round : Descriptor := .derived 1 ⟨"Round", [], none⟩ shape

def angular : Descriptor := .derived 2 ⟨"Angular", [], none⟩ shape

def square : Descriptor := .derived 3 ⟨"Square", [], none⟩ angular

/-- A type on the root that is registered elsewhere. -/
def blob : Descriptor := .derived 4 ⟨"Blob", [], none⟩ shape

/-- A program that defines these types in two registries. -/
def shapes : List Operation :=
  [.addRegistry .any, .addRegistry .any,
    .define (.isolated 0) { name := "Shape" },
    .define (.isolated 0) { name := "Round", base? := some shape },
    .define (.isolated 0) { name := "Angular", base? := some shape },
    .define (.isolated 0) { name := "Square", base? := some angular },
    .define (.isolated 1) { name := "Blob", base? := some shape }]

/-- The first registry has all bases of its types; the second lists its type below
a type of the first. -/
theorem listings_agree_with_chains_shapes :
    ∃ s r r', Reachable s ∧ s.registryAt (.isolated 0) = some r ∧
      s.registryAt (.isolated 1) = some r' ∧ r.allTypes = [angular, round, shape, square] ∧
      r.subtypesOf shape = [angular, round] ∧ r'.allTypes = [blob] ∧
      r'.subtypesOf shape = [blob] ∧ s.Lists (.isolated 0) r ∧ s.Lists (.isolated 1) r' ∧
      r.Surveyed := by
  have admitted : (start {}).AdmitsAll shapes := by
    decide +kernel
  have reachable := reachable_performAll admitted
  obtain ⟨r, here, listed, below⟩ : ∃ r,
      ((start {}).performAll shapes).2.registryAt (.isolated 0) = some r ∧
        r.allTypes = [angular, round, shape, square] ∧ r.subtypesOf shape = [angular, round] :=
    ⟨_, rfl, by decide +kernel, by decide +kernel⟩
  obtain ⟨r', here', listed', below'⟩ : ∃ r,
      ((start {}).performAll shapes).2.registryAt (.isolated 1) = some r ∧
        r.allTypes = [blob] ∧ r.subtypesOf shape = [blob] :=
    ⟨_, rfl, by decide +kernel, by decide +kernel⟩
  obtain ⟨lists, surveyed⟩ := listings_agree_with_chains reachable here
  have based : ∀ x ∈ r.allTypes, ∀ b, x.base? = some b → b ∈ r.allTypes := by
    rw [listed]
    decide +kernel
  exact ⟨_, r, r', reachable, here, here', listed, below, listed', below', lists,
    (listings_agree_with_chains reachable here').1, surveyed based⟩

end TypeSystem

end RuntimeTypes
