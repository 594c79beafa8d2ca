import Mathlib.Logic.Relation
import RuntimeTypes.Forest

/-!
Paths in a list of parents.  A parent comes before its children, so whoever
follows the parents of a node arrives at a root.
-/

namespace RuntimeTypes

namespace Forest

variable {parents : Parents} {first i j k : Nat}

/-- The parent of a node; a root has none. -/
def parentOf (parents : Parents) (i : Nat) : Option Nat :=
  parents[i]?.join

/-- The node, its parent, the parent of that, down to the root. -/
def path (parents : Parents) (i : Nat) : List Nat :=
  match parentOf parents i with
  | none => [i]
  | some j => if j < i then i :: path parents j else [i]
termination_by i

/-- Following parents zero or more times. -/
def Leads (parents : Parents) : Nat → Nat → Prop :=
  Relation.ReflTransGen fun i j => parentOf parents i = some j

theorem leads_iff :
    Leads parents i k ↔ i = k ∨ ∃ j, parentOf parents i = some j ∧ Leads parents j k :=
  Relation.ReflTransGen.cases_head_iff

theorem Ordered.lt_add (ordered : Ordered first parents) (parent : parentOf parents i = some j) :
    j < first + i := by
  induction parents generalizing first i with
  | nil => cases parent
  | cons parent? rest ih =>
      obtain ⟨earlier, ordered⟩ := ordered
      cases i with
      | zero => exact earlier j parent
      | succ i =>
          have := ih ordered parent
          omega

theorem Ordered.lt (ordered : Ordered 0 parents) (parent : parentOf parents i = some j) :
    j < i := by
  simpa using ordered.lt_add parent

/-- What holds of the roots, and of a node as soon as it holds of its parent,
holds of all nodes. -/
theorem Ordered.induction (ordered : Ordered 0 parents) {motive : Nat → Prop}
    (root : ∀ i, parentOf parents i = none → motive i)
    (child : ∀ i j, parentOf parents i = some j → motive j → motive i) (i : Nat) : motive i := by
  induction i using Nat.strongRecOn with
  | ind i ih =>
      cases parent : parentOf parents i with
      | none => exact root i parent
      | some j => exact child i j parent (ih j (ordered.lt parent))

theorem path_of_root (root : parentOf parents i = none) : path parents i = [i] := by
  rw [path, root]

theorem Ordered.path_of_child (ordered : Ordered 0 parents)
    (parent : parentOf parents i = some j) : path parents i = i :: path parents j := by
  rw [path, parent]
  exact if_pos (ordered.lt parent)

/-- A path goes through the nodes to which following parents leads. -/
theorem Ordered.mem_path_iff (ordered : Ordered 0 parents) :
    k ∈ path parents i ↔ Leads parents i k := by
  induction i using ordered.induction with
  | root i root =>
      rw [path_of_root root, List.mem_singleton, leads_iff, root]
      simp [eq_comm]
  | child i j parent ih =>
      rw [ordered.path_of_child parent, List.mem_cons, ih, leads_iff (i := i), parent]
      simp [eq_comm]

/-- A path ends at a root. -/
theorem Ordered.getLast?_path (ordered : Ordered 0 parents) (i : Nat) :
    ∃ k, (path parents i).getLast? = some k ∧ parentOf parents k = none := by
  induction i using ordered.induction with
  | root i root =>
      rw [path_of_root root]
      exact ⟨i, rfl, root⟩
  | child i j parent ih =>
      obtain ⟨k, last, root⟩ := ih
      refine ⟨k, ?_, root⟩
      rw [ordered.path_of_child parent, List.getLast?_cons, last]
      rfl

end Forest

end RuntimeTypes
