import RuntimeTypes.Proofs.Exception.Causes
import RuntimeTypes.Proofs.TypeSystem.Construction

/-!
Objects that were built and then changed.  What a program reads from such an
object is what it last wrote to it, however deep the causes go.
-/

namespace RuntimeTypes

namespace TypeSystem

open Exception (Edit)

variable {s t : TypeSystem} {c : ExceptionClass} {x : Exception}

/-- An object keeps its class and its type, shows the last message and the last
cause that it was given, and leads to what its causes lead to. -/
theorem changes_show_last (reachable : s.Reachable) (built : s.construct c = (.ok x, t))
    (edits : List Edit) :
    (x.editAll edits).exceptionClass = c ∧
      (x.editAll edits).Shows x.descriptor (edits.filterMap Edit.message?).getLast?
        (edits.filterMap Edit.inner?).getLast? ∧
      (x.editAll edits).Walked ∧ ∀ y ∈ (x.editAll edits).inners, y.Walked := by
  obtain ⟨_, whole⟩ := reachable.sound.request_of_construct built
  obtain ⟨_, silent, uncaused⟩ := whole.reports x x.mem_layers_self
  have shown := (x.editAll edits).shows_self
  rw [x.message?_editAll, x.inner?_editAll, x.descriptor_editAll, silent, uncaused,
    Option.or_none, Option.or_none] at shown
  refine ⟨?_, shown, Exception.walked _, fun y _ => y.walked⟩
  rw [x.exceptionClass_editAll, whole.exceptionClass]

/-- An object that gets an empty message at last, and a cause with a cause. -/
theorem changes_show_last_emptyMessage :
    ∃ x t y u, (start {}).construct .timeout = (.ok x, t) ∧ t.construct .root = (.ok y, u) ∧
      let cause := (y.withMessage "disk").withInner y
      let z := x.editAll [.message "late", .inner cause, .message ""]
      z.exceptionClass = .timeout ∧ z.message? = some "" ∧ z.inner? = some cause ∧
      (∀ layer ∈ z.layers, layer.display = "System.TimeoutException: ") ∧
      z.sources = [cause, y] ∧
      (∀ n, (z.follow Exception.source? n).isSome ↔ n ≤ 2) := by
  have reachable : (start {}).Reachable := ⟨_, .refl⟩
  obtain ⟨x, t, y, u, built, built', named, nested⟩ : ∃ x t y u,
      (start {}).construct .timeout = (.ok x, t) ∧ t.construct .root = (.ok y, u) ∧
        x.descriptor.name = "System.TimeoutException" ∧
          ((y.withMessage "disk").withInner y).inners = [y] :=
    ⟨_, _, _, _, rfl, rfl, by rfl, by rfl⟩
  refine ⟨x, t, y, u, built, built', ?_⟩
  intro cause z
  obtain ⟨exact, told, walked, _⟩ := changes_show_last reachable built
    [.message "late", .inner cause, .message ""]
  have inners : z.inners = [cause, y] := by
    rw [← nested]
    exact told.inside
  refine ⟨exact, told.message, told.cause, ?_, walked.sources.trans inners, ?_⟩
  · intro layer inside
    rw [told.labelled "" rfl layer inside, named]
    decide
  · intro n
    rw [walked.same, walked.ends, ← walked.length, inners]
    exact Iff.rfl

end TypeSystem

end RuntimeTypes
