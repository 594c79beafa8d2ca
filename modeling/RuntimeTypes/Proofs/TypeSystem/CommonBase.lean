import Mathlib.Data.List.Find
import RuntimeTypes.Proofs.TypeSystem.Ancestry

/-!
The nearest common base of two types.  It is searched along the chain of one
type only; since ancestors of one type stand in a line, what is found first is
below everything else that both types come from, whichever chain is searched.
-/

namespace RuntimeTypes

namespace Descriptor

variable {a b c d m : Descriptor}

/-- A type above two types that is below all others above both. -/
structure NearestAbove (a b c : Descriptor) : Prop where
  left : c ∈ a.chain
  right : c ∈ b.chain
  least : ∀ ⦃d⦄, d ∈ a.chain → d ∈ b.chain → d ∈ c.chain

namespace NearestAbove

theorem symm (nearest : NearestAbove a b c) : NearestAbove b a c where
  left := nearest.right
  right := nearest.left
  least _ above above' := nearest.least above' above

theorem unique (nearest : NearestAbove a b c) (nearest' : NearestAbove a b d) : c = d := by
  have above := nearest.least nearest'.left nearest'.right
  have below := nearest'.least nearest.left nearest.right
  exact mem_chain_antisymm above below

/-- A type above another one is the nearest above both. -/
theorem of_mem (above : a ∈ b.chain) : NearestAbove a b a where
  left := a.mem_chain_self
  right := above
  least _ above' _ := above'

end NearestAbove

/-- From each of its types on, a chain is the chain of that type. -/
theorem eq_chain_of_append {before after : List Descriptor}
    (whole : a.chain = before ++ c :: after) : c :: after = c.chain := by
  induction before generalizing a with
  | nil =>
      have same : a = c := by
        have heads := congrArg List.head? whole
        rw [head?_chain] at heads
        exact Option.some.inj heads
      rw [← same, whole, same]
      rfl
  | cons passed before ih =>
      cases a with
      | root serial info => simp [chain] at whole
      | derived serial info base => exact ih (List.cons.inj whole).2

/-- The first type of one chain that is in the other is the nearest above both:
whatever is above both is not before it, so it is in what remains of the chain. -/
theorem nearestAbove_of_find?
    (found : a.chain.find? (fun candidate => decide (candidate ∈ b.chain)) = some c) :
    NearestAbove a b c := by
  obtain ⟨right, before, after, whole, passed⟩ := List.find?_eq_some_iff_append.1 found
  have right := of_decide_eq_true right
  refine ⟨List.mem_of_find?_eq_some found, right, ?_⟩
  intro d above above'
  rw [whole, List.mem_append] at above
  rcases above with above | above
  · exact absurd above' (by simpa using passed d above)
  · rwa [eq_chain_of_append whole] at above

theorem exists_nearestAbove (above : d ∈ a.chain) (above' : d ∈ b.chain) :
    ∃ c, NearestAbove a b c := by
  have found : (a.chain.find? fun candidate => decide (candidate ∈ b.chain)).isSome := by
    rw [List.find?_isSome]
    exact ⟨d, above, decide_eq_true above'⟩
  obtain ⟨c, found⟩ := Option.isSome_iff_exists.1 found
  exact ⟨c, nearestAbove_of_find? found⟩

theorem find?_mem_chain_eq_some_iff :
    a.chain.find? (fun candidate => decide (candidate ∈ b.chain)) = some c ↔
      NearestAbove a b c := by
  refine ⟨nearestAbove_of_find?, ?_⟩
  intro nearest
  cases found : a.chain.find? fun candidate => decide (candidate ∈ b.chain) with
  | none =>
      have passed := List.find?_eq_none.1 found c nearest.left
      exact absurd nearest.right (by simpa using passed)
  | some e => rw [(nearestAbove_of_find? found).unique nearest]

/-- What is nearest above three types, two of which are taken together first. -/
theorem nearestAbove_three_iff :
    (∃ m, NearestAbove a b m ∧ NearestAbove m c d) ↔
      d ∈ a.chain ∧ d ∈ b.chain ∧ d ∈ c.chain ∧
        ∀ e, e ∈ a.chain → e ∈ b.chain → e ∈ c.chain → e ∈ d.chain := by
  constructor
  · rintro ⟨m, first, second⟩
    have left := mem_chain_trans first.left second.left
    have right := mem_chain_trans first.right second.left
    refine ⟨left, right, second.right, ?_⟩
    intro e above above' above''
    exact second.least (first.least above above') above''
  · rintro ⟨left, right, third, least⟩
    obtain ⟨m, first⟩ := exists_nearestAbove left right
    refine ⟨m, first, first.least left right, third, ?_⟩
    intro e above above'
    have left := mem_chain_trans first.left above
    have right := mem_chain_trans first.right above
    exact least e left right above'

/-- Types come from a common one exactly if they have one root. -/
theorem exists_nearestAbove_iff : (∃ c, NearestAbove a b c) ↔ a.rootOf = b.rootOf := by
  constructor
  · rintro ⟨c, nearest⟩
    rw [← rootOf_eq_of_mem nearest.left, rootOf_eq_of_mem nearest.right]
  · intro same
    apply exists_nearestAbove a.rootOf_mem_chain
    rw [same]
    exact b.rootOf_mem_chain

end Descriptor

namespace Numbered

variable {store : Arena Descriptor} {a b c d : Descriptor}

/-- Identities say what the chains say, so the search finds the nearest type above both. -/
theorem commonBase?_eq_some_iff (numbered : Numbered store) (first : a ∈ store.toList)
    (second : b ∈ store.toList) : a.commonBase? b = some c ↔ Descriptor.NearestAbove a b c := by
  rw [← Descriptor.find?_mem_chain_eq_some_iff, Descriptor.commonBase?]
  have same : a.chain.find? (fun candidate => b.isSubtypeOf candidate) =
      a.chain.find? (fun candidate => decide (candidate ∈ b.chain)) := by
    apply List.find?_congr
    intro candidate inside
    have held := numbered.chain_subset first inside
    rw [Bool.eq_iff_iff, numbered.isSubtypeOf_iff second held, decide_eq_true_iff]
  rw [same]

theorem commonBase?_eq_none_iff (numbered : Numbered store) (first : a ∈ store.toList)
    (second : b ∈ store.toList) : a.commonBase? b = none ↔ a.rootOf ≠ b.rootOf := by
  rw [ne_eq, ← Descriptor.exists_nearestAbove_iff, Option.eq_none_iff_forall_not_mem, not_exists]
  simp only [Option.mem_def, numbered.commonBase?_eq_some_iff first second]

theorem commonBase?_comm (numbered : Numbered store) (first : a ∈ store.toList)
    (second : b ∈ store.toList) : a.commonBase? b = b.commonBase? a := by
  apply Option.ext
  intro c
  rw [numbered.commonBase?_eq_some_iff first second, numbered.commonBase?_eq_some_iff second first]
  exact ⟨.symm, .symm⟩

theorem commonBase?_self_iff (numbered : Numbered store) (first : a ∈ store.toList)
    (second : b ∈ store.toList) : a.commonBase? b = some a ↔ b.isSubtypeOf a = true := by
  rw [numbered.commonBase?_eq_some_iff first second, numbered.isSubtypeOf_iff second first]
  exact ⟨fun nearest => nearest.right, .of_mem⟩

/-- Of three types, any two can be taken together first. -/
theorem commonBase?_assoc (numbered : Numbered store) (first : a ∈ store.toList)
    (second : b ∈ store.toList) (third : c ∈ store.toList) :
    ((a.commonBase? b).bind fun m => m.commonBase? c) =
      (b.commonBase? c).bind fun m => a.commonBase? m := by
  have left : ∀ d, ((a.commonBase? b).bind fun m => m.commonBase? c) = some d ↔
      ∃ m, Descriptor.NearestAbove a b m ∧ Descriptor.NearestAbove m c d := by
    intro d
    rw [Option.bind_eq_some_iff]
    apply exists_congr
    intro m
    rw [numbered.commonBase?_eq_some_iff first second]
    apply and_congr_right
    intro nearest
    exact numbered.commonBase?_eq_some_iff (numbered.chain_subset first nearest.left) third
  have right : ∀ d, ((b.commonBase? c).bind fun m => a.commonBase? m) = some d ↔
      ∃ m, Descriptor.NearestAbove b c m ∧ Descriptor.NearestAbove m a d := by
    intro d
    rw [Option.bind_eq_some_iff]
    apply exists_congr
    intro m
    rw [numbered.commonBase?_eq_some_iff second third]
    apply and_congr_right
    intro nearest
    rw [numbered.commonBase?_eq_some_iff first (numbered.chain_subset second nearest.left)]
    exact ⟨.symm, .symm⟩
  apply Option.ext
  intro d
  rw [left, right, Descriptor.nearestAbove_three_iff, Descriptor.nearestAbove_three_iff]
  constructor
  · rintro ⟨inA, inB, inC, least⟩
    exact ⟨inB, inC, inA, fun e above above' above'' => least e above'' above above'⟩
  · rintro ⟨inB, inC, inA, least⟩
    exact ⟨inA, inB, inC, fun e above above' above'' => least e above' above'' above⟩

end Numbered

namespace TypeSystem

variable {s : TypeSystem} {a b c : Descriptor}

/-- A type of the state from which two types come, and which itself comes from
every type that both come from. -/
structure LeastAbove (s : TypeSystem) (a b c : Descriptor) : Prop where
  held : s.Holds c
  left : a.isSubtypeOf c = true
  right : b.isSubtypeOf c = true
  least : ∀ ⦃d⦄, s.Holds d → a.isSubtypeOf d = true → b.isSubtypeOf d = true →
    c.isSubtypeOf d = true

/-- Among the types of a state, being nearest in the chains and being least by
identity is the same. -/
theorem Sound.leastAbove_iff (sound : s.Sound) (first : s.Holds a) (second : s.Holds b) :
    s.LeastAbove a b c ↔ Descriptor.NearestAbove a b c := by
  have numbered := sound.numbered
  constructor
  · intro least
    refine ⟨(numbered.isSubtypeOf_iff first least.held).1 least.left,
      (numbered.isSubtypeOf_iff second least.held).1 least.right, ?_⟩
    intro d above above'
    have held := numbered.chain_subset first above
    rw [← numbered.isSubtypeOf_iff first held] at above
    rw [← numbered.isSubtypeOf_iff second held] at above'
    exact (numbered.isSubtypeOf_iff least.held held).1 (least.least held above above')
  · intro nearest
    have held := numbered.chain_subset first nearest.left
    refine ⟨held, (numbered.isSubtypeOf_iff first held).2 nearest.left,
      (numbered.isSubtypeOf_iff second held).2 nearest.right, ?_⟩
    intro d held' above above'
    rw [numbered.isSubtypeOf_iff first held'] at above
    rw [numbered.isSubtypeOf_iff second held'] at above'
    exact (numbered.isSubtypeOf_iff held held').2 (nearest.least above above')

/-- The nearest common base is the least type above both.  There is none exactly
if the roots differ.  It does not matter in which order types are given or taken
together, and a type is its own common base with another exactly if the other
comes from it. -/
theorem commonBase_is_least (reachable : s.Reachable) (first : s.Holds a) (second : s.Holds b) :
    (∀ c, a.commonBase? b = some c ↔ s.LeastAbove a b c) ∧
      (a.commonBase? b = none ↔ a.rootOf.same b.rootOf = false) ∧
      a.commonBase? b = b.commonBase? a ∧
      ((∃ c, a.commonBase? b = some c ∧ c.same a = true) ↔ b.isSubtypeOf a = true) ∧
      (∀ c, a.commonBase? b = some c → c.depth ≤ a.depth ∧ c.depth ≤ b.depth) ∧
      ∀ c, s.Holds c →
        ((a.commonBase? b).bind fun m => m.commonBase? c) =
          (b.commonBase? c).bind fun m => a.commonBase? m := by
  have sound := reachable.sound
  have numbered := sound.numbered
  have nearest : ∀ {c}, a.commonBase? b = some c ↔ Descriptor.NearestAbove a b c :=
    numbered.commonBase?_eq_some_iff first second
  refine ⟨?least, ?roots, numbered.commonBase?_comm first second, ?self, ?depth, ?assoc⟩
  case least =>
    intro c
    rw [nearest, sound.leastAbove_iff first second]
  case roots =>
    have held := numbered.chain_subset first a.rootOf_mem_chain
    have held' := numbered.chain_subset second b.rootOf_mem_chain
    rw [numbered.commonBase?_eq_none_iff first second, ne_eq, ← numbered.same_iff held held',
      Bool.not_eq_true]
  case self =>
    rw [← numbered.commonBase?_self_iff first second]
    constructor
    · rintro ⟨c, found, same⟩
      have held := numbered.chain_subset first (nearest.1 found).left
      rw [found, numbered.eq_of_same held first same]
    · intro found
      exact ⟨a, found, (numbered.same_iff first first).2 rfl⟩
  case depth =>
    intro c found
    have above := nearest.1 found
    exact ⟨Descriptor.depth_le above.left, Descriptor.depth_le above.right⟩
  case assoc =>
    intro c third
    exact numbered.commonBase?_assoc first second third

/-- Two types on a common base, each in a registry of its own. -/
def leftType : Descriptor := .derived 1 ⟨"Left", [], none⟩ lowerType

def rightType : Descriptor := .derived 2 ⟨"Right", [], none⟩ lowerType

/-- A program that defines them, and a root apart from them. -/
def forkedTypes : List Operation :=
  [.addRegistry .any, .addRegistry .any, .define (.isolated 0) { name := "Type" },
    .define (.isolated 0) { name := "Left", base? := some lowerType },
    .define (.isolated 1) { name := "Right", base? := some lowerType },
    .define (.isolated 1) { name := "Type" }]

/-- The types of two registries meet in their base; the other type of its name is
no base of theirs. -/
theorem commonBase_is_least_forkedTypes :
    ∃ s, Reachable s ∧ s = ((start {}).performAll forkedTypes).2 ∧
      s.Holds leftType ∧ s.Holds rightType ∧
      leftType.commonBase? rightType = some lowerType ∧ s.LeastAbove leftType rightType lowerType ∧
      rightType.commonBase? leftType = some lowerType ∧
      leftType.commonBase? (.root 3 ⟨"Type", [], none⟩) = none := by
  have admitted : (start {}).AdmitsAll forkedTypes := by
    decide +kernel
  have reachable := reachable_performAll admitted
  have left : ((start {}).performAll forkedTypes).2.Holds leftType := by
    decide +kernel
  have right : ((start {}).performAll forkedTypes).2.Holds rightType := by
    decide +kernel
  have other : ((start {}).performAll forkedTypes).2.Holds (.root 3 ⟨"Type", [], none⟩) := by
    decide +kernel
  obtain ⟨least, _, comm, _⟩ := commonBase_is_least reachable left right
  obtain ⟨_, apart, _⟩ := commonBase_is_least reachable left other
  have found : leftType.commonBase? rightType = some lowerType := by
    decide
  exact ⟨_, reachable, rfl, left, right, found, (least _).1 found, comm ▸ found,
    apart.2 (by decide)⟩

end TypeSystem

end RuntimeTypes
