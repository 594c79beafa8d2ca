import RuntimeTypes.Proofs.TypeSystem.Operations

/-!
Runs by place.  The answer at a place comes from the state before it, and that
state leads to the states at all later places.
-/

namespace RuntimeTypes

namespace TypeSystem

variable {s : TypeSystem} {ops : List Operation} {op : Operation} {i j : Nat}

/-- The state before the operation at a place, or the last state if the run is
over by then. -/
def stateAt (s : TypeSystem) (ops : List Operation) (i : Nat) : TypeSystem :=
  (s.performAll (ops.take i)).2

theorem stateAt_cons_succ (s : TypeSystem) (op : Operation) (rest : List Operation) (i : Nat) :
    s.stateAt (op :: rest) (i + 1) = (s.perform op).2.stateAt rest i := rfl

theorem stateAt_of_length_le (ended : ops.length ≤ i) :
    s.stateAt ops i = (s.performAll ops).2 := by
  rw [stateAt, List.take_of_length_le ended]

theorem stateAt_succ (here : ops[i]? = some op) :
    s.stateAt ops (i + 1) = ((s.stateAt ops i).perform op).2 := by
  induction ops generalizing s i with
  | nil => simp at here
  | cons first rest ih =>
      cases i with
      | zero =>
          obtain rfl : first = op := by simpa using here
          rfl
      | succ i =>
          rw [stateAt_cons_succ, stateAt_cons_succ]
          exact ih (by simpa using here)

/-- The answer at a place is that of the operation there, in the state before it. -/
theorem answer_at (here : ops[i]? = some op) :
    (s.performAll ops).1[i]? = some ((s.stateAt ops i).perform op).1 := by
  induction ops generalizing s i with
  | nil => simp at here
  | cons first rest ih =>
      cases i with
      | zero =>
          obtain rfl : first = op := by simpa using here
          rfl
      | succ i =>
          rw [stateAt_cons_succ]
          exact ih (by simpa using here)

theorem length_answers (s : TypeSystem) (ops : List Operation) :
    (s.performAll ops).1.length = ops.length := by
  induction ops generalizing s with
  | nil => rfl
  | cons op rest ih => exact congrArg (· + 1) (ih (s.perform op).2)

/-- Where there is an answer, there is the operation that it belongs to. -/
theorem operation_of_answer {answer : Answer} (given : (s.performAll ops).1[i]? = some answer) :
    ∃ op, ops[i]? = some op ∧ ((s.stateAt ops i).perform op).1 = answer := by
  have bound : i < ops.length := by
    rw [← length_answers s ops]
    exact (List.getElem?_eq_some_iff.1 given).1
  refine ⟨ops[i], List.getElem?_eq_getElem bound, ?_⟩
  rw [answer_at (List.getElem?_eq_getElem bound)] at given
  exact Option.some.inj given

theorem admits_at (admitted : s.AdmitsAll ops) (here : ops[i]? = some op) :
    (s.stateAt ops i).Admits op := by
  induction ops generalizing s i with
  | nil => simp at here
  | cons first rest ih =>
      cases i with
      | zero =>
          obtain rfl : first = op := by simpa using here
          exact admitted.1
      | succ i =>
          rw [stateAt_cons_succ]
          exact ih admitted.2 (by simpa using here)

theorem AdmitsAll.take (admitted : s.AdmitsAll ops) (i : Nat) : s.AdmitsAll (ops.take i) := by
  induction ops generalizing s i with
  | nil =>
      rw [List.take_nil]
      exact admitted
  | cons op rest ih =>
      cases i with
      | zero => exact trivial
      | succ i => exact ⟨admitted.1, ih admitted.2 i⟩

theorem leads_stateAt_self (admitted : s.AdmitsAll ops) (i : Nat) :
    s.Leads (s.stateAt ops i) :=
  leads_performAll (admitted.take i)

theorem leads_stateAt (admitted : s.AdmitsAll ops) (order : i ≤ j) :
    (s.stateAt ops i).Leads (s.stateAt ops j) := by
  induction ops generalizing s i j with
  | nil =>
      rw [stateAt, stateAt, List.take_nil, List.take_nil]
      exact .refl
  | cons op rest ih =>
      cases i with
      | zero => exact leads_stateAt_self admitted j
      | succ i =>
          obtain ⟨later, rfl⟩ := Nat.exists_eq_add_of_lt order
          exact ih admitted.2 (by omega)

/-- What an operation leaves behind leads to the states at all later places. -/
theorem leads_of_lt (admitted : s.AdmitsAll ops) (here : ops[i]? = some op) (order : i < j) :
    ((s.stateAt ops i).perform op).2.Leads (s.stateAt ops j) := by
  rw [← stateAt_succ here]
  exact leads_stateAt admitted order

/-- What an operation leaves behind leads to the last state. -/
theorem leads_to_last (admitted : s.AdmitsAll ops) (here : ops[i]? = some op) :
    ((s.stateAt ops i).perform op).2.Leads (s.performAll ops).2 := by
  have bound := (List.getElem?_eq_some_iff.1 here).1
  rw [← stateAt_of_length_le (Nat.le_refl ops.length)]
  exact leads_of_lt admitted here bound

theorem Reachable.stateAt (reachable : s.Reachable) (admitted : s.AdmitsAll ops) (i : Nat) :
    (s.stateAt ops i).Reachable :=
  reachable.leads (leads_stateAt_self admitted i)

end TypeSystem

end RuntimeTypes
