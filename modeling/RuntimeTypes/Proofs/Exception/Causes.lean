import Mathlib.Data.List.Induction
import RuntimeTypes.Proofs.Exception.Layers

/-!
What an exception object tells after any number of changes, and the walk along
its causes.  A layer hands each question to its base, so proofs about the walk
go down the layers of an object to its payload, and from there to the cause.
-/

namespace RuntimeTypes

namespace Exception

variable {x y : Exception} {next? : Exception → Option Exception} {n m : Nat}

/-- A change of an exception object. -/
inductive Edit where
  | message (text : String)
  | inner (cause : Exception)
  deriving DecidableEq

/-- The message that a change sets. -/
def Edit.message? : Edit → Option String
  | message text => some text
  | inner _ => none

/-- The cause that a change sets. -/
def Edit.inner? : Edit → Option Exception
  | message _ => none
  | inner cause => some cause

/-- The object after a change. -/
def edit (x : Exception) : Edit → Exception
  | .message text => x.withMessage text
  | .inner cause => x.withInner cause

/-- The object after some changes, one after the other. -/
def editAll (x : Exception) (edits : List Edit) : Exception :=
  edits.foldl edit x

/-- How many exceptions lie inside this one, each in the one before it. -/
def nesting : Exception → Nat
  | payload _ _ => 0
  | caused _ _ inner => inner.nesting + 1
  | layer _ _ base => base.nesting

/-- The exception that a number of steps leads to. -/
def follow (next? : Exception → Option Exception) : Nat → Exception → Option Exception
  | 0, x => some x
  | n + 1, x => (next? x).bind (follow next? n)

theorem message?_withInner (x inner : Exception) : (x.withInner inner).message? = x.message? := by
  induction x with
  | payload | caused => rfl
  | layer ident typeName base ih => exact ih

theorem inner?_withMessage (message : String) (x : Exception) :
    (x.withMessage message).inner? = x.inner? := by
  induction x with
  | payload | caused => rfl
  | layer ident typeName base ih => exact ih

theorem exceptionClass_withMessage (message : String) (x : Exception) :
    (x.withMessage message).exceptionClass = x.exceptionClass := by
  induction x with
  | payload | caused => rfl
  | layer ident typeName base ih => exact congrArg (ExceptionClass.derived ident typeName) ih

theorem exceptionClass_withInner (x inner : Exception) :
    (x.withInner inner).exceptionClass = x.exceptionClass := by
  induction x with
  | payload | caused => rfl
  | layer ident typeName base ih => exact congrArg (ExceptionClass.derived ident typeName) ih

section Edits

variable (x) (change : Edit) (edits : List Edit)

theorem message?_edit : (x.edit change).message? = change.message?.or x.message? := by
  cases change with
  | message text => exact message?_withMessage text x
  | inner cause => exact message?_withInner x cause

theorem inner?_edit : (x.edit change).inner? = change.inner?.or x.inner? := by
  cases change with
  | message text => exact inner?_withMessage text x
  | inner cause => exact inner?_withInner x cause

theorem descriptor_edit : (x.edit change).descriptor = x.descriptor := by
  cases change with
  | message text => exact descriptor_withMessage text x
  | inner cause => exact descriptor_withInner x cause

theorem exceptionClass_edit : (x.edit change).exceptionClass = x.exceptionClass := by
  cases change with
  | message text => exact exceptionClass_withMessage text x
  | inner cause => exact exceptionClass_withInner x cause

/-- A part that each change sets or leaves alone is what the last change to it has set. -/
theorem read_editAll {α : Type} (read : Exception → Option α) (set? : Edit → Option α)
    (step : ∀ x change, read (x.edit change) = (set? change).or (read x)) :
    read (x.editAll edits) = (edits.filterMap set?).getLast?.or (read x) := by
  induction edits using List.reverseRecOn with
  | nil => rfl
  | append_singleton before change ih =>
      have last : x.editAll (before ++ [change]) = (x.editAll before).edit change :=
        List.foldl_append
      have own : ([change].filterMap set?).getLast? = set? change := by
        rw [List.filterMap_cons]
        cases set? change <;> rfl
      rw [last, step, ih, List.filterMap_append, List.getLast?_append, own, Option.or_assoc]

theorem message?_editAll :
    (x.editAll edits).message? = (edits.filterMap Edit.message?).getLast?.or x.message? :=
  read_editAll x edits message? Edit.message? message?_edit

theorem inner?_editAll :
    (x.editAll edits).inner? = (edits.filterMap Edit.inner?).getLast?.or x.inner? :=
  read_editAll x edits inner? Edit.inner? inner?_edit

theorem descriptor_editAll : (x.editAll edits).descriptor = x.descriptor := by
  induction edits generalizing x with
  | nil => rfl
  | cons change rest ih => exact (ih _).trans (descriptor_edit x change)

theorem exceptionClass_editAll : (x.editAll edits).exceptionClass = x.exceptionClass := by
  induction edits generalizing x with
  | nil => rfl
  | cons change rest ih => exact (ih _).trans (exceptionClass_edit x change)

end Edits

/-- All layers of an object tell the same. -/
theorem reports_of_mem_layers (inside : y ∈ x.layers) :
    y.descriptor = x.descriptor ∧ y.message? = x.message? ∧ y.inner? = x.inner? := by
  induction x with
  | payload | caused =>
      obtain rfl := List.mem_singleton.1 inside
      exact ⟨rfl, rfl, rfl⟩
  | layer ident typeName base ih =>
      rcases List.mem_cons.1 inside with rfl | inside
      · exact ⟨rfl, rfl, rfl⟩
      · exact ih inside

theorem display_eq (x : Exception) : x.display = displayText x.descriptor x.message? := by
  induction x with
  | payload | caused => rfl
  | layer ident typeName base ih => exact ih

theorem source?_eq_inner? : source? = inner? := by
  funext x
  induction x with
  | payload | caused => rfl
  | layer ident typeName base ih => exact ih

theorem nesting_eq (x : Exception) : x.nesting = (x.inner?.map fun y => y.nesting + 1).getD 0 := by
  induction x with
  | payload | caused => rfl
  | layer ident typeName base ih => exact ih

theorem nesting_of_inner? (cause : x.inner? = some y) : x.nesting = y.nesting + 1 := by
  rw [nesting_eq, cause]
  rfl

theorem nesting_of_uncaused (first : x.inner? = none) : x.nesting = 0 := by
  rw [nesting_eq, first]
  rfl

theorem nesting_lt_weight (x : Exception) : x.nesting < x.weight := by
  induction x with
  | payload => exact Nat.zero_lt_one
  | caused message? stamp inner ih => exact Nat.succ_lt_succ ih
  | layer ident typeName base ih => exact Nat.lt_succ_of_lt ih

/-- There is a step to take for each level of nesting. -/
theorem isSome_follow_iff : (follow inner? n x).isSome ↔ n ≤ x.nesting := by
  induction n generalizing x with
  | zero => simp [follow]
  | succ n ih =>
      cases cause : x.inner? with
      | none => simp [follow, cause, nesting_of_uncaused cause]
      | some y => simp [follow, cause, nesting_of_inner? cause, ih]

/-- A list of the exceptions that steps lead to has them in its places. -/
theorem getElem?_trail (bound : m ≤ n) : (x :: trail next? n x)[m]? = follow next? m x := by
  induction m generalizing x n with
  | zero => rfl
  | succ m ih =>
      obtain ⟨n, rfl⟩ := Nat.exists_eq_succ_of_ne_zero (Nat.ne_zero_of_lt bound)
      rw [List.getElem?_cons_succ, trail, follow]
      cases next? x with
      | none => rfl
      | some y => exact ih (Nat.le_of_succ_le_succ bound)

theorem length_trail (enough : x.nesting ≤ n) : (trail inner? n x).length = x.nesting := by
  induction n generalizing x with
  | zero => exact (Nat.le_zero.1 enough).symm
  | succ n ih =>
      rw [trail]
      cases cause : x.inner? with
      | none => exact (nesting_of_uncaused cause).symm
      | some y =>
          rw [nesting_of_inner? cause] at enough ⊢
          exact congrArg Nat.succ (ih (Nat.le_of_succ_le_succ enough))

theorem length_inners (x : Exception) : x.inners.length = x.nesting :=
  length_trail (Nat.le_of_lt x.nesting_lt_weight)

/-- The list of the inner exceptions has all of them. -/
theorem getElem?_inners (x : Exception) (n : Nat) :
    (x :: x.inners)[n]? = follow inner? n x := by
  by_cases bound : n ≤ x.nesting
  · exact getElem?_trail (Nat.le_trans bound (Nat.le_of_lt x.nesting_lt_weight))
  · have ended : follow inner? n x = none := by
      rwa [← Option.not_isSome_iff_eq_none, isSome_follow_iff]
    rw [ended, List.getElem?_eq_none_iff, List.length_cons, length_inners]
    omega

theorem inners_eq (x : Exception) :
    x.inners = (x.inner?.map fun y => y :: y.inners).getD [] := by
  apply List.ext_getElem?
  intro n
  have whole := x.getElem?_inners (n + 1)
  rw [List.getElem?_cons_succ, follow] at whole
  rw [whole]
  cases x.inner? with
  | none => rfl
  | some y => exact (y.getElem?_inners n).symm

theorem sources_eq_inners (x : Exception) : x.sources = x.inners := by
  rw [sources, source?_eq_inner?, inners]

/-- What holds of an object and passes from each exception to its cause, holds of
all exceptions inside the object. -/
theorem forall_mem_inners {P : Exception → Prop} (own : P x)
    (pass : ∀ {x y}, P x → x.inner? = some y → P y) : ∀ y ∈ x.inners, P y := by
  induction depth : x.nesting generalizing x with
  | zero =>
      have length := x.length_inners
      rw [depth, List.length_eq_zero_iff] at length
      simp [length]
  | succ n ih =>
      cases cause : x.inner? with
      | none => cases (nesting_of_uncaused cause).symm.trans depth
      | some y =>
          rw [inners_eq, cause]
          rw [nesting_of_inner? cause] at depth
          have next := pass own cause
          exact List.forall_mem_cons.2 ⟨next, ih next (Nat.succ.inj depth)⟩

/-- What an object shows in all its layers, and what lies inside it. -/
structure Shows (x : Exception) (stamp : Descriptor) (message? : Option String)
    (inner? : Option Exception) : Prop where
  message : x.message? = message?
  cause : x.inner? = inner?
  stamped : x.descriptor = stamp
  plain : message? = none → ∀ y ∈ x.layers, y.display = stamp.name
  labelled : ∀ text, message? = some text → ∀ y ∈ x.layers, y.display = stamp.name ++ ": " ++ text
  layers : ∀ y ∈ x.layers, y.descriptor = stamp ∧ y.message? = message? ∧ y.inner? = inner? ∧
    y.source? = inner?
  inside : x.inners = (inner?.map fun y => y :: y.inners).getD []

theorem shows_self (x : Exception) : x.Shows x.descriptor x.message? x.inner? where
  message := rfl
  cause := rfl
  stamped := rfl
  plain unset y inside := by
    obtain ⟨stamp, message, _⟩ := reports_of_mem_layers inside
    rw [display_eq, stamp, message, unset]
    rfl
  labelled text set y inside := by
    obtain ⟨stamp, message, _⟩ := reports_of_mem_layers inside
    rw [display_eq, stamp, message, set]
    simp [displayText, toString]
  layers y inside := by
    obtain ⟨stamp, message, cause⟩ := reports_of_mem_layers inside
    rw [source?_eq_inner?]
    exact ⟨stamp, message, cause, cause⟩
  inside := inners_eq x

/-- The walk along the causes, which is that along the errors behind an object:
one step for each level of nesting, and then none. -/
structure Walked (x : Exception) : Prop where
  same : ∀ n, follow source? n x = follow inner? n x
  ends : ∀ n, (follow inner? n x).isSome ↔ n ≤ x.nesting
  listed : ∀ n, (x :: x.inners)[n]? = follow inner? n x
  length : x.inners.length = x.nesting
  sources : x.sources = x.inners
  displayed : ∀ n : Nat, x.sources[n]?.map display = x.inners[n]?.map display

theorem walked (x : Exception) : x.Walked where
  same n := by rw [source?_eq_inner?]
  ends n := isSome_follow_iff
  listed := getElem?_inners x
  length := length_inners x
  sources := sources_eq_inners x
  displayed n := by rw [sources_eq_inners]

end Exception

end RuntimeTypes
