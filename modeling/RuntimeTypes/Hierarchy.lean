import RuntimeTypes.Descriptor

/-!
Questions about the forest of types.  Every answer comes from the chain that
leads from a descriptor over its bases to its root, and compares descriptors
by identity.
-/

namespace RuntimeTypes

namespace Descriptor

/-- The descriptor, its base, the base of that, down to the root. -/
def chain : Descriptor → List Descriptor
  | root serial info => [root serial info]
  | derived serial info base => derived serial info base :: base.chain

/-- Whether `ancestor` is the type itself or one of its bases. -/
def isSubtypeOf (d ancestor : Descriptor) : Bool :=
  d.chain.any fun step => step.same ancestor

/-- How many strict ancestors the type has. -/
def depth (d : Descriptor) : Nat :=
  d.chain.length - 1

/-- The type at the end of the chain. -/
def rootOf (d : Descriptor) : Descriptor :=
  d.chain.getLast?.getD d

/-- The nearest type from which both come, if they have one root. -/
def commonBase? (a b : Descriptor) : Option Descriptor :=
  a.chain.find? fun candidate => b.isSubtypeOf candidate

@[simp] theorem chain_ne_nil (d : Descriptor) : d.chain ≠ [] := by
  cases d <;> simp [chain]

end Descriptor

/-- A walk up a chain: the descriptor to visit next, if one is left. -/
structure Walk where
  next? : Option Descriptor
  deriving DecidableEq

namespace Walk

/-- The walk that starts at a descriptor. -/
def start (d : Descriptor) : Walk :=
  ⟨some d⟩

/-- Visits one descriptor and moves on to its base. -/
def advance (w : Walk) : Option Descriptor × Walk :=
  match w.next? with
  | none => (none, w)
  | some d => (some d, ⟨d.base?⟩)

/-- Bounds for the number of descriptors left, as far as they are known
without walking: at least one, or none. -/
def sizeHint (w : Walk) : Nat × Option Nat :=
  match w.next? with
  | none => (0, some 0)
  | some _ => (1, none)

/-- The descriptors that are left. -/
def rest (w : Walk) : List Descriptor :=
  match w.next? with
  | none => []
  | some d => d.chain

/-- A number of steps, each with the bounds that held before it, and where they lead. -/
def advanceMany : Nat → Walk → List (Option Descriptor × Nat × Option Nat) × Walk
  | 0, w => ([], w)
  | n + 1, w =>
      let visited := w.advance
      let later := advanceMany n visited.2
      ((visited.1, w.sizeHint) :: later.1, later.2)

/-- A step gives the first descriptor that is left and leaves the others. -/
theorem advance_rest (w : Walk) : w.advance = (w.rest.head?, ⟨w.rest.tail.head?⟩) := by
  obtain ⟨next?⟩ := w
  cases next? with
  | none => rfl
  | some d =>
      cases d with
      | root serial info => rfl
      | derived serial info base => cases base <;> rfl

end Walk

end RuntimeTypes
