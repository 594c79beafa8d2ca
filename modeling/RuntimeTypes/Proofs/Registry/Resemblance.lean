import Mathlib.Data.List.Find
import RuntimeTypes.Proofs.Registry.Closed
import RuntimeTypes.Proofs.Registry.Listings

/-!
Registries that have the same types up to identity.  In a registry that has the
chains of its types, one to a number, names say all that comparisons of
identities say; so two such registries that realize the same declarations
answer every question about names alike.
-/

namespace RuntimeTypes

/-- What a type shows without its identity. -/
structure Shape where
  name : String
  base? : Option String
  fields : List Field
  depth : Nat
  deriving DecidableEq

namespace Descriptor

def shape (d : Descriptor) : Shape where
  name := d.name
  base? := d.base?.map name
  fields := d.fields
  depth := d.depth

/-- The names along the chain. -/
def lineage (d : Descriptor) : List String :=
  d.chain.map name

theorem depth_eq (d : Descriptor) : d.depth = d.lineage.length - 1 := by
  rw [depth, lineage, List.length_map]

end Descriptor

namespace Registry

variable {r r' : Registry} {family : List Declaration} {x y name : String}
  {a d d' e : Descriptor}

/-- Types with one number are one type. -/
def Distinct (r : Registry) : Prop :=
  ∀ ⦃x y a b⦄, r.lookup x = some a → r.lookup y = some b → a.same b = true → a = b

section Names

variable (closed : r.Closed) (distinct : r.Distinct)

include closed distinct

theorem same_eq (found : r.lookup x = some a) (found' : r.lookup y = some b) :
    a.same b = decide (a.name = y) := by
  rw [closed.named found, Bool.eq_iff_iff, decide_eq_true_iff]
  constructor
  · intro same
    obtain rfl := distinct found found' same
    rw [← closed.named found, closed.named found']
  · rintro rfl
    obtain rfl := Option.some.inj (found.symm.trans found')
    simp [Descriptor.same]

theorem isSubtypeOf_eq (found : r.lookup x = some d) (found' : r.lookup y = some a) :
    d.isSubtypeOf a = decide (y ∈ d.lineage) := by
  have steps : ∀ step ∈ d.chain, step.same a = decide (step.name = y) := by
    intro step above
    exact same_eq closed distinct (closed.lookup_of_mem_chain found above) found'
  rw [Bool.eq_iff_iff, decide_eq_true_iff, Descriptor.isSubtypeOf, List.any_eq_true,
    Descriptor.lineage, List.mem_map]
  constructor
  · rintro ⟨step, above, same⟩
    rw [steps step above, decide_eq_true_iff] at same
    exact ⟨step, above, same⟩
  · rintro ⟨step, above, same⟩
    exact ⟨step, above, by rw [steps step above, decide_eq_true_iff, same]⟩

theorem name_commonBase? (found : r.lookup x = some d) (found' : r.lookup y = some e) :
    (d.commonBase? e).map Descriptor.name = d.lineage.find? fun name => name ∈ e.lineage := by
  rw [show d.lineage = d.chain.map Descriptor.name from rfl, List.find?_map,
    Descriptor.commonBase?]
  congr 1
  apply List.find?_congr
  intro step above
  exact isSubtypeOf_eq closed distinct found' (closed.lookup_of_mem_chain found above)

theorem names_subtypesOf (found : r.lookup y = some a) :
    (r.subtypesOf a).map Descriptor.name =
      ((r.allTypes.map Descriptor.shape).filter fun shape => shape.base? = some y).map
        Shape.name := by
  have bases : ∀ d ∈ r.allTypes, Descriptor.sameBase d.base? (some a) =
      decide (d.base?.map Descriptor.name = some y) := by
    intro d listed
    obtain ⟨name, bound⟩ := mem_allTypes.1 listed
    cases base : d.base? with
    | none => rfl
    | some b =>
        have same := same_eq closed distinct (closed.based bound base) found
        simpa only [Option.map_some, Option.some_inj, Descriptor.sameBase] using same
  rw [subtypesOf, List.filter_congr bases, List.filter_map, List.map_map]
  rfl

end Names

/-- The registry has the types that declarations ask for, and no others. -/
structure Realizes (r : Registry) (family : List Declaration) : Prop where
  bound : ∀ declaration ∈ family, ∃ d, r.lookup declaration.name = some d ∧
    d.base?.map Descriptor.name = declaration.base? ∧ d.fields = declaration.fields
  only : ∀ {name : String} {d : Descriptor}, r.lookup name = some d →
    ∃ declaration ∈ family, declaration.name = name

theorem realizes_empty (policy : RootPolicy) : (empty policy).Realizes [] where
  bound declaration none := by cases none
  only found := by simp at found

theorem Realizes.congr {order : List Declaration} (realizes : r.Realizes order)
    (members : ∀ declaration, declaration ∈ order ↔ declaration ∈ family) :
    r.Realizes family where
  bound declaration member := realizes.bound declaration ((members declaration).2 member)
  only found := by
    obtain ⟨declaration, member, same⟩ := realizes.only found
    exact ⟨declaration, (members declaration).1 member, same⟩

/-- Under one name, registries that realize the same declarations have the same
base name and the same fields. -/
theorem Realizes.alike (realizes : r.Realizes family) (realizes' : r'.Realizes family)
    (found : r.lookup name = some d) (found' : r'.lookup name = some d') :
    d'.base?.map Descriptor.name = d.base?.map Descriptor.name ∧ d'.fields = d.fields := by
  obtain ⟨declaration, member, rfl⟩ := realizes.only found
  obtain ⟨e, bound, base, fields⟩ := realizes.bound declaration member
  obtain ⟨e', bound', base', fields'⟩ := realizes'.bound declaration member
  obtain rfl := Option.some.inj (found.symm.trans bound)
  obtain rfl := Option.some.inj (found'.symm.trans bound')
  exact ⟨base'.trans base.symm, fields'.trans fields.symm⟩

theorem Realizes.isSome_lookup (realizes : r.Realizes family) (realizes' : r'.Realizes family)
    (bound : (r.lookup name).isSome) : (r'.lookup name).isSome := by
  obtain ⟨d, found⟩ := Option.isSome_iff_exists.1 bound
  obtain ⟨declaration, member, rfl⟩ := realizes.only found
  obtain ⟨d', found', _⟩ := realizes'.bound declaration member
  rw [found']
  rfl

/-- What two registries show alike under a name. -/
structure Resembles (r r' : Registry) : Prop where
  size : r'.size = r.size
  contains : ∀ name, r'.contains name = r.contains name
  shape : ∀ name, (r'.lookup name).map Descriptor.shape = (r.lookup name).map Descriptor.shape
  isSubtypeOf : ∀ {x y d d' e e'}, r.lookup x = some d → r'.lookup x = some d' →
    r.lookup y = some e → r'.lookup y = some e' → d'.isSubtypeOf e' = d.isSubtypeOf e
  commonBase? : ∀ {x y d d' e e'}, r.lookup x = some d → r'.lookup x = some d' →
    r.lookup y = some e → r'.lookup y = some e' →
      (d'.commonBase? e').map Descriptor.name = (d.commonBase? e).map Descriptor.name
  allTypes : r'.allTypes.map Descriptor.name = r.allTypes.map Descriptor.name
  subtypesOf : ∀ {y e e'}, r.lookup y = some e → r'.lookup y = some e' →
    (r'.subtypesOf e').map Descriptor.name = (r.subtypesOf e).map Descriptor.name

/-- Under one name, chains have the same names.  The induction goes up the chain: a
base is registered under the name that the declaration gives. -/
theorem lineage_eq (closed : r.Closed) (closed' : r'.Closed) (realizes : r.Realizes family)
    (realizes' : r'.Realizes family) (found : r.lookup name = some d)
    (found' : r'.lookup name = some d') : d'.lineage = d.lineage := by
  have names : d'.name = d.name := by
    rw [closed.named found, closed'.named found']
  have bases := (realizes.alike realizes' found found').1
  induction d generalizing name d' with
  | root serial info =>
      have root : d'.base? = none := Option.map_eq_none_iff.1 bases
      rw [Descriptor.lineage, Descriptor.lineage, Descriptor.chain_of_root root]
      exact congrArg (fun name => [name]) names
  | derived serial info base ih =>
      obtain ⟨base', above, same⟩ := Option.map_eq_some_iff.1 bases
      have bound := closed.based found rfl
      have bound' := closed'.based found' above
      rw [same] at bound'
      have later := ih bound bound' same (realizes.alike realizes' bound bound').1
      rw [Descriptor.lineage, Descriptor.chain_of_base above, List.map_cons, names]
      exact congrArg _ later

/-- Registries with the chains of their types, one to a number, that realize the
same declarations have the same types up to identity. -/
theorem resembles (closed : r.Closed) (closed' : r'.Closed) (distinct : r.Distinct)
    (distinct' : r'.Distinct) (realizes : r.Realizes family) (realizes' : r'.Realizes family) :
    r.Resembles r' := by
  have isSome : ∀ name, (r'.lookup name).isSome = (r.lookup name).isSome := by
    intro name
    rw [Bool.eq_iff_iff]
    exact ⟨realizes'.isSome_lookup realizes, realizes.isSome_lookup realizes'⟩
  have lineages : ∀ {name d d'}, r.lookup name = some d → r'.lookup name = some d' →
      d'.lineage = d.lineage :=
    lineage_eq closed closed' realizes realizes'
  have shapes : ∀ name, (r'.lookup name).map Descriptor.shape =
      (r.lookup name).map Descriptor.shape := by
    intro name
    cases found : r.lookup name with
    | none =>
        have free : r'.lookup name = none := by
          rw [← Option.not_isSome_iff_eq_none, isSome, found]
          simp
        rw [free]
    | some d =>
        obtain ⟨d', found'⟩ := Option.isSome_iff_exists.1 (by rw [isSome, found]; rfl)
        obtain ⟨base, fields⟩ := realizes.alike realizes' found found'
        rw [found', Option.map_some, Option.map_some, Descriptor.shape, Descriptor.shape,
          base, fields, Descriptor.depth_eq, Descriptor.depth_eq, lineages found found',
          closed.named found, closed'.named found']
  have listed := map_allTypes_congr shapes
  constructor
  case size => exact size_congr shapes
  case contains =>
    intro name
    rw [contains_eq_isSome, contains_eq_isSome, isSome]
  case shape => exact shapes
  case isSubtypeOf =>
    intro x y d d' e e' found found' other other'
    rw [isSubtypeOf_eq closed distinct found other,
      isSubtypeOf_eq closed' distinct' found' other', lineages found found']
  case commonBase? =>
    intro x y d d' e e' found found' other other'
    rw [name_commonBase? closed distinct found other,
      name_commonBase? closed' distinct' found' other', lineages found found',
      lineages other other']
  case allTypes =>
    have names := congrArg (List.map Shape.name) listed
    rwa [List.map_map, List.map_map] at names
  case subtypesOf =>
    intro y e e' found found'
    rw [names_subtypesOf closed distinct found, names_subtypesOf closed' distinct' found',
      listed]

end Registry

end RuntimeTypes
