import RuntimeTypes.Proofs.Hierarchy.Ancestors
import RuntimeTypes.Proofs.TypeSystem.Invariance

/-!
The types of a state as a forest.  A base is stored before what is built on it,
over all registries; so every walk to a root ends, ancestry orders the types by
identity, and no later state sees another order.
-/

namespace RuntimeTypes

namespace Numbered

variable {store : Arena Descriptor} {a b c d : Descriptor}

theorem same_iff (numbered : Numbered store) (first : a ∈ store.toList)
    (second : b ∈ store.toList) : a.same b = true ↔ a = b := by
  constructor
  · exact numbered.eq_of_same first second
  · rintro rfl
    simp [Descriptor.same]

theorem chain_subset (numbered : Numbered store) (held : d ∈ store.toList) :
    d.chain ⊆ store.toList :=
  Descriptor.chain_subset_of_based (fun held above => (numbered.base held above).1) held

theorem serial_le_of_mem_chain (numbered : Numbered store) (held : d ∈ store.toList)
    (above : a ∈ d.chain) : a.serial ≤ d.serial := by
  induction d with
  | root serial info =>
      obtain rfl := List.mem_singleton.1 above
      exact Nat.le_refl _
  | derived serial info base ih =>
      obtain ⟨held', older⟩ := numbered.base held rfl
      rcases List.mem_cons.1 above with rfl | above
      · exact Nat.le_refl _
      · exact Nat.le_trans (ih held' above) (Nat.le_of_lt older)

/-- Up a chain, numbers get smaller. -/
theorem chain_descending (numbered : Numbered store) (held : d ∈ store.toList) :
    d.chain.Pairwise fun a b => b.serial < a.serial := by
  induction d with
  | root serial info => exact List.pairwise_singleton _ _
  | derived serial info base ih =>
      obtain ⟨held', older⟩ := numbered.base held rfl
      apply List.pairwise_cons.2
      refine ⟨?_, ih held'⟩
      intro a above
      exact Nat.lt_of_le_of_lt (numbered.serial_le_of_mem_chain held' above) older

theorem isSubtypeOf_iff (numbered : Numbered store) (held : d ∈ store.toList)
    (held' : a ∈ store.toList) : d.isSubtypeOf a = true ↔ a ∈ d.chain := by
  apply Descriptor.isSubtypeOf_iff_mem_chain
  intro step above
  exact numbered.same_iff (numbered.chain_subset held above) held'

theorem isSubtypeOf_trans (numbered : Numbered store) (first : a ∈ store.toList)
    (second : b ∈ store.toList) (third : c ∈ store.toList) (above : a.isSubtypeOf b = true)
    (above' : b.isSubtypeOf c = true) : a.isSubtypeOf c = true := by
  rw [numbered.isSubtypeOf_iff first second] at above
  rw [numbered.isSubtypeOf_iff second third] at above'
  rw [numbered.isSubtypeOf_iff first third]
  exact Descriptor.mem_chain_trans above above'

theorem isSubtypeOf_antisymm (numbered : Numbered store) (first : a ∈ store.toList)
    (second : b ∈ store.toList) (above : a.isSubtypeOf b = true)
    (below : b.isSubtypeOf a = true) : a = b := by
  rw [numbered.isSubtypeOf_iff first second] at above
  rw [numbered.isSubtypeOf_iff second first] at below
  exact Descriptor.mem_chain_antisymm above below

theorem depth_lt_of_isSubtypeOf (numbered : Numbered store) (first : a ∈ store.toList)
    (second : b ∈ store.toList) (above : a.isSubtypeOf b = true) (other : a.same b = false) :
    b.depth < a.depth := by
  rw [numbered.isSubtypeOf_iff first second] at above
  apply Descriptor.depth_lt above
  rintro rfl
  rw [(numbered.same_iff first first).2 rfl] at other
  cases other

/-- Two types above one are above one another. -/
theorem isSubtypeOf_or_isSubtypeOf (numbered : Numbered store) (held : d ∈ store.toList)
    (first : a ∈ store.toList) (second : b ∈ store.toList) (above : d.isSubtypeOf a = true)
    (above' : d.isSubtypeOf b = true) : a.isSubtypeOf b = true ∨ b.isSubtypeOf a = true := by
  rw [numbered.isSubtypeOf_iff held first] at above
  rw [numbered.isSubtypeOf_iff held second] at above'
  rw [numbered.isSubtypeOf_iff first second, numbered.isSubtypeOf_iff second first]
  exact Descriptor.mem_chain_or_mem_chain above above'

end Numbered

namespace TypeSystem

variable {s t : TypeSystem} {a b c d : Descriptor} {i j : Nat}

/-- The type that was stored at a place, which is its identity. -/
def typeAt? (s : TypeSystem) (i : Nat) : Option Descriptor :=
  s.store.toList[i]?

/-- What can be asked about a type and another one, told by identities. -/
structure Kinship where
  chain : List Nat
  root : Nat
  depth : Nat
  subtype : Bool
  deriving DecidableEq

def kinship? (s : TypeSystem) (i j : Nat) : Option Kinship :=
  (s.typeAt? i).bind fun a => (s.typeAt? j).map fun b =>
    { chain := a.chain.map Descriptor.serial
      root := a.rootOf.serial
      depth := a.depth
      subtype := a.isSubtypeOf b }

theorem Extends.typeAt? (grown : s.Extends t) (found : s.typeAt? i = some d) :
    t.typeAt? i = some d := by
  obtain ⟨later, same⟩ := grown.stored
  have bound := (List.getElem?_eq_some_iff.1 found).1
  rw [TypeSystem.typeAt?, ← same, List.getElem?_append_left bound]
  exact found

theorem Extends.kinship? (grown : s.Extends t) {k : Kinship} (asked : s.kinship? i j = some k) :
    t.kinship? i j = some k := by
  obtain ⟨a, first, asked⟩ := Option.bind_eq_some_iff.1 asked
  obtain ⟨b, second, rfl⟩ := Option.map_eq_some_iff.1 asked
  rw [TypeSystem.kinship?, grown.typeAt? first, grown.typeAt? second]
  rfl

/-- The types of a state stand in a forest, in which the questions about chains
and subtypes have the answers that they have in an ordered forest. -/
structure Forested (s : TypeSystem) : Prop where
  filed : ∀ {ref r name d}, s.inUse? ref = some r → r.lookup name = some d → s.Holds d
  older : ∀ {i d b}, s.typeAt? i = some d → d.base? = some b →
    ∃ j < i, s.typeAt? j = some b
  ends : ∀ {d}, s.Holds d →
    ((Walk.start d).advanceMany (d.depth + 1)).1.map Prod.fst = d.chain.map some ∧
      ((Walk.start d).advanceMany (d.depth + 1)).2.next? = none
  stored : ∀ {d a}, s.Holds d → a ∈ d.chain → s.Holds a
  once : ∀ {d}, s.Holds d → d.chain.Pairwise fun a b => a.same b = false
  first : ∀ {d}, s.Holds d → d.chain.head? = some d
  last : ∀ {d}, s.Holds d → d.chain.getLast? = some d.rootOf ∧ d.rootOf.base? = none
  depth : ∀ {d}, s.Holds d → d.chain.length = d.depth + 1
  subtype : ∀ {d a}, s.Holds d → s.Holds a → (d.isSubtypeOf a = true ↔ a ∈ d.chain)
  refl : ∀ {a}, s.Holds a → a.isSubtypeOf a = true
  trans : ∀ {a b c}, s.Holds a → s.Holds b → s.Holds c → a.isSubtypeOf b = true →
    b.isSubtypeOf c = true → a.isSubtypeOf c = true
  antisymm : ∀ {a b}, s.Holds a → s.Holds b → a.isSubtypeOf b = true →
    b.isSubtypeOf a = true → a.same b = true
  deeper : ∀ {a b}, s.Holds a → s.Holds b → a.isSubtypeOf b = true → a.same b = false →
    b.depth < a.depth
  lined : ∀ {d a b}, s.Holds d → s.Holds a → s.Holds b → d.isSubtypeOf a = true →
    d.isSubtypeOf b = true → a.isSubtypeOf b = true ∨ b.isSubtypeOf a = true
  apart : ∀ {ref ref' r r' name name' a b}, ref ≠ ref' → s.inUse? ref = some r →
    s.inUse? ref' = some r' → r.lookup name = some a → r'.lookup name' = some b →
      a.same b = false ∧ ¬ (a.isSubtypeOf b = true ∧ b.isSubtypeOf a = true)

theorem Sound.older (sound : s.Sound) (found : s.typeAt? i = some d) (base : d.base? = some b) :
    ∃ j < i, s.typeAt? j = some b := by
  obtain ⟨held, less⟩ := sound.numbered.base (List.mem_of_getElem? found) base
  obtain ⟨j, found'⟩ := List.mem_iff_getElem?.1 held
  refine ⟨j, ?_, found'⟩
  rwa [sound.numbered.serial found, sound.numbered.serial found'] at less

theorem Sound.once (sound : s.Sound) (held : s.Holds d) :
    d.chain.Pairwise fun a b => a.same b = false := by
  apply (sound.numbered.chain_descending held).imp
  intro a b less
  simpa [Descriptor.same] using Nat.ne_of_gt less

theorem Reachable.forested (reachable : s.Reachable) : s.Forested := by
  have sound := reachable.sound
  have numbered := sound.numbered
  constructor
  case filed =>
    intro ref r name d used found
    exact (sound.filed ref used found).1
  case older => exact sound.older
  case ends =>
    intro d _
    have whole : (Walk.start d).rest.length = d.depth + 1 := d.length_chain
    constructor
    · rw [Walk.visited_advanceMany (Nat.le_of_eq whole.symm), ← whole, List.take_length]
      rfl
    · apply Walk.next?_eq_none_of_rest
      rw [Walk.rest_advanceMany, ← whole, List.drop_length]
  case stored =>
    intro d a held above
    exact numbered.chain_subset held above
  case once => exact sound.once
  case first => exact fun {d} _ => d.head?_chain
  case last => exact fun {d} _ => ⟨d.getLast?_chain, d.base?_rootOf⟩
  case depth => exact fun {d} _ => d.length_chain
  case subtype =>
    intro d a held held'
    exact numbered.isSubtypeOf_iff held held'
  case refl =>
    intro a held
    exact (numbered.isSubtypeOf_iff held held).2 a.mem_chain_self
  case trans =>
    intro a b c first second third above above'
    exact numbered.isSubtypeOf_trans first second third above above'
  case antisymm =>
    intro a b first second above below
    exact (numbered.same_iff first second).2
      (numbered.isSubtypeOf_antisymm first second above below)
  case deeper =>
    intro a b first second above other
    exact numbered.depth_lt_of_isSubtypeOf first second above other
  case lined =>
    intro d a b held first second above above'
    exact numbered.isSubtypeOf_or_isSubtypeOf held first second above above'
  case apart =>
    intro ref ref' r r' name name' a b other used used' found found'
    have held := (sound.filed ref used found).1
    have held' := (sound.filed ref' used' found').1
    have distinct : a ≠ b := by
      rintro rfl
      exact other (reachable.filedOnce used used' found found')
    constructor
    · exact Bool.eq_false_iff.2 fun same => distinct ((numbered.same_iff held held').1 same)
    · rintro ⟨above, below⟩
      exact distinct (numbered.isSubtypeOf_antisymm held held' above below)

/-- The types of a state stand in a forest ordered by ancestry, and what is
answered about types that are there already is answered so for good. -/
theorem types_form_forest (reachable : s.Reachable) :
    s.Forested ∧ ∀ t, s.Leads t → ∀ i j k, s.kinship? i j = some k → t.kinship? i j = some k := by
  refine ⟨reachable.forested, ?_⟩
  intro t leads i j k asked
  exact (leads.extends reachable.sound).kinship? asked

/-- A type, and a type of the same name that is built on it. -/
def lowerType : Descriptor := .root 0 ⟨"Type", [], none⟩

def upperType : Descriptor := .derived 1 ⟨"Type", [], none⟩ lowerType

/-- A program that defines the two in registries of their own. -/
def sameNameAbove : List Operation :=
  [.addRegistry .any, .addRegistry .any, .define (.isolated 0) { name := "Type" },
    .define (.isolated 1) { name := "Type", base? := some lowerType }]

/-- The two types are in one chain and are not the same. -/
theorem types_form_forest_sameNameAbove :
    ∃ s, Reachable s ∧ s = ((start {}).performAll sameNameAbove).2 ∧
      s.Holds lowerType ∧ s.Holds upperType ∧ upperType.chain = [upperType, lowerType] ∧
      lowerType.name = upperType.name ∧ lowerType.same upperType = false ∧
      lowerType.depth < upperType.depth ∧
      ∀ t, s.Leads t → t.kinship? 1 0 = some ⟨[1, 0], 0, 1, true⟩ := by
  have admitted : (start {}).AdmitsAll sameNameAbove := by
    decide +kernel
  have reachable := reachable_performAll admitted
  obtain ⟨forested, stable⟩ := types_form_forest reachable
  obtain ⟨r, used, found⟩ : ∃ r, ((start {}).performAll sameNameAbove).2.inUse? (.isolated 0) =
      some r ∧ r.lookup "Type" = some lowerType := ⟨_, rfl, by rfl⟩
  obtain ⟨r', used', found'⟩ : ∃ r, ((start {}).performAll sameNameAbove).2.inUse? (.isolated 1) =
      some r ∧ r.lookup "Type" = some upperType := ⟨_, rfl, by rfl⟩
  have held := forested.filed used found
  have held' := forested.filed used' found'
  have distinct := (forested.apart (by decide) used used' found found').1
  refine ⟨_, reachable, rfl, held, held', rfl, rfl, distinct, ?_, ?_⟩
  · exact forested.deeper held' held (by decide) (by decide)
  · intro t leads
    exact stable t leads 1 0 _ (by decide +kernel)

end TypeSystem

end RuntimeTypes
