import Mathlib.Data.List.ReduceOption
import RuntimeTypes.Proofs.Hierarchy.Ancestors

/-!
Walks that are under way at the same time.  A program starts walks, moves them
on and copies them in any order; each of them goes on as if it were alone, and
a copy goes on from where it was taken.
-/

namespace RuntimeTypes

namespace Walk

variable {walks : List Walk} {w : Walk} {i : Nat}

/-- What a program does with its walks.  A walk is known by its number; a copy is
a walk of its own. -/
inductive Move where
  | start (d : Descriptor)
  | advance (i : Nat)
  | copy (i : Nat)
  deriving DecidableEq

/-- A step of one of the walks, with the descriptor that was visited, if one was left. -/
structure Visit where
  number : Nat
  found? : Option Descriptor
  deriving DecidableEq

/-- Carries out a move.  Walks get their numbers in order; there is nothing to do
for a number that no walk has yet. -/
def move (walks : List Walk) : Move → Option Visit × List Walk
  | .start d => (none, walks ++ [start d])
  | .advance i =>
      match walks[i]? with
      | none => (none, walks)
      | some w => (some ⟨i, w.advance.1⟩, walks.set i w.advance.2)
  | .copy i =>
      match walks[i]? with
      | none => (none, walks)
      | some w => (none, walks ++ [w])

/-- The visits of moves in order, and the walks after them. -/
def moveAll (walks : List Walk) : List Move → List Visit × List Walk
  | [] => ([], walks)
  | m :: rest =>
      let done := move walks m
      let later := moveAll done.2 rest
      (done.1.toList ++ later.1, later.2)

/-- What one walk found, step by step. -/
def foundBy (i : Nat) (visits : List Visit) : List (Option Descriptor) :=
  (visits.filter fun visit => visit.number = i).map Visit.found?

/-- How often a walk is moved on. -/
def stepsOf (i : Nat) (moves : List Move) : Nat :=
  moves.count (.advance i)

theorem foundBy_append (i : Nat) (visits later : List Visit) :
    foundBy i (visits ++ later) = foundBy i visits ++ foundBy i later := by
  rw [foundBy, List.filter_append, List.map_append]
  rfl

/-- A walk that is moved on leaves the others where they are. -/
theorem move_of_ne (here : walks[i]? = some w) {m : Move} (other : m ≠ .advance i) :
    foundBy i (move walks m).1.toList = [] ∧ (move walks m).2[i]? = some w := by
  have begun : i < walks.length := (List.getElem?_eq_some_iff.1 here).1
  cases m with
  | start d => exact ⟨rfl, by rw [move, List.getElem?_append_left begun, here]⟩
  | advance j =>
      have distinct : j ≠ i := fun same => other (congrArg Move.advance same)
      cases there : walks[j]? with
      | none => simp [move, there, here, foundBy]
      | some w' => simp [move, there, here, foundBy, distinct]
  | copy j =>
      cases there : walks[j]? with
      | none => simp [move, there, here, foundBy]
      | some w' => simp [move, there, here, foundBy, List.getElem?_append_left begun]

theorem move_advance (here : walks[i]? = some w) :
    foundBy i (move walks (.advance i)).1.toList = [w.advance.1] ∧
      (move walks (.advance i)).2[i]? = some w.advance.2 := by
  have begun : i < walks.length := (List.getElem?_eq_some_iff.1 here).1
  rw [move, here]
  exact ⟨by simp [foundBy], List.getElem?_set_self begun⟩

/-- Whatever happens to other walks, a walk finds what it finds alone, and is in
the end where it is alone after as many steps. -/
theorem moveAll_alone (here : walks[i]? = some w) (moves : List Move) :
    foundBy i (moveAll walks moves).1 = (w.advanceMany (stepsOf i moves)).1.map Prod.fst ∧
      (moveAll walks moves).2[i]? = some (w.advanceMany (stepsOf i moves)).2 := by
  induction moves generalizing walks w with
  | nil => exact ⟨rfl, here⟩
  | cons m rest ih =>
      rw [moveAll, foundBy_append]
      by_cases own : m = .advance i
      · subst own
        obtain ⟨found, moved⟩ := move_advance here
        obtain ⟨later, last⟩ := ih moved
        have once : stepsOf i (.advance i :: rest) = stepsOf i rest + 1 := List.count_cons_self
        rw [found, later, last, once]
        exact ⟨rfl, rfl⟩
      · obtain ⟨found, kept⟩ := move_of_ne here own
        obtain ⟨later, last⟩ := ih kept
        have none : stepsOf i (m :: rest) = stepsOf i rest := List.count_cons_of_ne own
        rw [found, later, last, none]
        exact ⟨rfl, rfl⟩

/-- Whether the bounds that a walk tells hold of a number. -/
def Brackets (w : Walk) (n : Nat) : Prop :=
  w.sizeHint.1 ≤ n ∧ ∀ high, w.sizeHint.2 = some high → n ≤ high

theorem brackets_rest (w : Walk) : w.Brackets w.rest.length := by
  obtain ⟨next?⟩ := w
  cases next? with
  | none => simp [Brackets, sizeHint, rest]
  | some d => simp [Brackets, sizeHint, rest, d.length_chain]

/-- What is left to a walk among others.  Whatever is done from now on with it, with
the others and with copies, it finds the members of the list in order and nothing
after them; and at all times its bounds hold of the number of those still to come. -/
structure Leaves (walks : List Walk) (i : Nat) (left : List Descriptor) : Prop where
  finds : ∀ moves, foundBy i (moveAll walks moves).1 =
    (List.range (stepsOf i moves)).map (left[·]?)
  ended : ∀ moves, (foundBy i (moveAll walks moves).1).Pairwise
    fun earlier later => earlier = none → later = none
  bounded : ∀ moves, ∃ w, (moveAll walks moves).2[i]? = some w ∧
    w.Brackets (left.length - stepsOf i moves)

theorem leaves_rest (here : walks[i]? = some w) : Leaves walks i w.rest where
  finds moves := by
    rw [(moveAll_alone here moves).1, found_advanceMany]
  ended moves := by
    rw [(moveAll_alone here moves).1, found_advanceMany, List.pairwise_map]
    apply List.pairwise_lt_range.imp
    intro m n less beyond
    rw [List.getElem?_eq_none_iff] at beyond ⊢
    omega
  bounded moves := by
    refine ⟨_, (moveAll_alone here moves).2, ?_⟩
    rw [← List.length_drop, ← rest_advanceMany]
    exact brackets_rest _

theorem reduceOption_getElem? (list : List Descriptor) (k : Nat) :
    ((List.range k).map (list[·]?)).reduceOption = list.take k := by
  induction k with
  | zero => rfl
  | succ k ih =>
      rw [List.range_succ, List.map_append, List.reduceOption_append, ih, List.take_add_one,
        List.map_singleton]
      cases list[k]? <;> rfl

/-- A walk from a descriptor up its chain, among any others.  After any run of moves
that move it on `k` times it has found the first types of the chain, as many as
there are but not more than `k`, and is left with the others.  A copy that is
taken then is left with the same, and so is the walk itself, whatever is done with
either of them. -/
theorem walks_follow_chain (walks : List Walk) (d : Descriptor) (moves : List Move) :
    let i := walks.length
    let k := stepsOf i moves
    let done := moveAll walks (.start d :: moves)
    let copied := (move done.2 (.copy i)).2
    (foundBy i done.1).reduceOption = d.chain.take (min k (d.depth + 1)) ∧
      Leaves done.2 i (d.chain.drop k) ∧
      Leaves copied i (d.chain.drop k) ∧ Leaves copied done.2.length (d.chain.drop k) := by
  intro i k done copied
  have here : (walks ++ [start d])[i]? = some (start d) := List.getElem?_concat_length
  obtain ⟨found, reached⟩ := moveAll_alone here moves
  have left : ((start d).advanceMany k).2.rest = d.chain.drop k := rest_advanceMany k (start d)
  have reached : done.2[i]? = some ((start d).advanceMany k).2 := reached
  have twice : copied = done.2 ++ [((start d).advanceMany k).2] := by
    simp only [copied, move, reached]
  refine ⟨?found, ?rest, ?original, ?copy⟩
  case found =>
    change (foundBy i (moveAll (walks ++ [start d]) moves).1).reduceOption = _
    rw [found, found_advanceMany, reduceOption_getElem?, ← d.length_chain, ← List.take_eq_take_min]
    rfl
  case rest =>
    rw [← left]
    exact leaves_rest reached
  case original =>
    rw [← left]
    apply leaves_rest
    rw [twice, List.getElem?_append_left (List.getElem?_eq_some_iff.1 reached).1, reached]
  case copy =>
    rw [← left]
    apply leaves_rest
    rw [twice, List.getElem?_concat_length]

end Walk

end RuntimeTypes
