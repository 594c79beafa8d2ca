import RuntimeTypes.Proofs.Registry.Refusal
import RuntimeTypes.Proofs.TypeSystem.Requests

/-!
The registration of several classes in turn, of the built-in ones above all,
and the reasons for which a class is refused.
-/

namespace RuntimeTypes

/-- The errors that a definition can end with. -/
def Error.ByDefinition : Error → Prop
  | duplicateType .. | duplicateFields .. | invalidTypeName _ | undesignatedRoot _ => True
  | _ => False

theorem Registry.byDefinition_of_answer {r : Registry} {store : Arena Descriptor}
    {definition : Definition} {e : Error}
    (failed : (r.define store definition).answer = .error e) : e.ByDefinition := by
  cases refuses_of_answer failed <;> exact trivial

namespace ExceptionClass

/-- Each built-in class comes after its bases, and its bases are all before it. -/
theorem builtins_ordered : builtins.Pairwise fun k c => k ∈ c.lineage := by
  decide

theorem lineage_subset_of_builtins {before : List ExceptionClass} {c : ExceptionClass}
    (tried : before ++ [c] <+: builtins) : c.lineage ⊆ before ++ [c] := by
  obtain ⟨after, split⟩ := tried
  rcases before with _ | ⟨first, _ | ⟨second, _ | ⟨third, more⟩⟩⟩
  · obtain ⟨rfl, _⟩ : c = root ∧ after = [system, timeout] := by
      simpa [builtins] using split
    decide
  · obtain ⟨rfl, rfl, _⟩ : first = root ∧ c = system ∧ after = [timeout] := by
      simpa [builtins] using split
    decide
  · obtain ⟨rfl, rfl, rfl, _⟩ : first = root ∧ second = system ∧ c = timeout ∧ after = [] := by
      simpa [builtins] using split
    decide
  · simp [builtins] at split

end ExceptionClass

namespace TypeSystem

variable {s t : TypeSystem} {c : ExceptionClass} {classes before : List ExceptionClass}
  {e : Error}

/-- Why a class cannot be registered, if it cannot. -/
def refusal? (s : TypeSystem) (c : ExceptionClass) : Option Error :=
  match (s.descriptorOf c).1 with
  | .ok _ => none
  | .error e => some e

theorem refusal?_eq_none_iff : s.refusal? c = none ↔ ∃ d, (s.descriptorOf c).1 = .ok d := by
  unfold refusal?
  cases (s.descriptorOf c).1 <;> simp

theorem refusal?_eq_some_iff : s.refusal? c = some e ↔ (s.descriptorOf c).1 = .error e := by
  unfold refusal?
  cases (s.descriptorOf c).1 <;> simp

theorem SameButLog.refusal? (same : s.SameButLog t) (c : ExceptionClass) :
    t.refusal? c = s.refusal? c := by
  rw [TypeSystem.refusal?, TypeSystem.refusal?,
    (sharesClasses_sameButLog.descriptorOf same c).answer]

/-- A class of a list is refused, and every class before it can be registered. -/
structure FirstRefused (s : TypeSystem) (classes before : List ExceptionClass)
    (c : ExceptionClass) (e : Error) : Prop where
  tried : before ++ [c] <+: classes
  passed : ∀ k ∈ before, s.refusal? k = none
  refused : s.refusal? c = some e

theorem FirstRefused.mem (first : s.FirstRefused classes before c e) : c ∈ classes :=
  first.tried.subset (by simp)

theorem FirstRefused.findSome? (first : s.FirstRefused classes before c e) :
    classes.findSome? s.refusal? = some e := by
  obtain ⟨after, rfl⟩ := first.tried
  refine List.findSome?_eq_some_iff.2 ⟨before, c, after, ?_, first.refused, first.passed⟩
  rw [List.append_assoc]
  rfl

theorem FirstRefused.cons {k : ExceptionClass} (first : t.FirstRefused classes before k e)
    (accepted : s.refusal? c = none) (same : ∀ k ∈ classes, t.refusal? k = s.refusal? k) :
    s.FirstRefused (c :: classes) (c :: before) k e where
  tried := (List.prefix_cons_inj c).2 first.tried
  passed other inside := by
    rcases List.mem_cons.1 inside with rfl | inside
    · exact accepted
    · have among : other ∈ classes := first.tried.subset (List.mem_append_left _ inside)
      rw [← same other among, first.passed other inside]
  refused := by
    rw [← same k first.mem, first.refused]

/-- When each class comes after its bases, the first refusal ends the
registration, and up to there each request is as if it were the only one. -/
theorem Sound.registerAll_cases (sound : s.Sound)
    (ordered : classes.Pairwise fun k c => k ∈ c.lineage) :
    (∀ c ∈ classes, s.refusal? c = none) ∧ (s.registerAll classes).1 = .ok () ∨
      ∃ before c e, s.FirstRefused classes before c e ∧
        s.registerAll classes = (.error e, (s.descriptorOf c).2) := by
  induction classes generalizing s with
  | nil => exact .inl ⟨by simp, rfl⟩
  | cons c rest ih =>
      obtain ⟨above, ordered⟩ := List.pairwise_cons.1 ordered
      have steps := steps_descriptorOf sound c
      have later : ∀ k ∈ rest, (s.descriptorOf c).2.descriptorOf k = s.descriptorOf k :=
        fun k inside => sound.descriptorOf_after_base (above k inside)
      cases request : s.descriptorOf c with
      | mk answer t =>
          rw [request] at steps later
          cases answer with
          | error e =>
              refine .inr ⟨[], c, e, ⟨⟨rest, rfl⟩, by simp, ?_⟩, ?_⟩
              · rw [refusal?_eq_some_iff, request]
              · rw [registerAll, request]
          | ok d =>
              have accepted : s.refusal? c = none := refusal?_eq_none_iff.2 ⟨d, by rw [request]⟩
              have same : ∀ k ∈ rest, t.refusal? k = s.refusal? k := by
                intro k inside
                rw [refusal?, refusal?, later k inside]
              have continued : s.registerAll (c :: rest) = t.registerAll rest := by
                rw [registerAll, request]
              rw [continued]
              rcases ih (steps.sound sound) ordered with
                ⟨passed, done⟩ | ⟨before, k, e, first, done⟩
              · refine .inl ⟨?_, done⟩
                intro k inside
                rcases List.mem_cons.1 inside with rfl | inside
                · exact accepted
                · rw [← same k inside, passed k inside]
              · refine .inr ⟨c :: before, k, e, first.cons accepted same, ?_⟩
                rw [done, later k first.mem]

/-- Without a global registry nothing is known of any class. -/
theorem Sound.unknown_of_unused (sound : s.Sound) (unused : s.global? = none)
    (c : ExceptionClass) : s.known? c = none := by
  by_contra known
  obtain ⟨outcome, known⟩ := Option.ne_none_iff_exists'.1 known
  obtain ⟨_, _, r, used, _⟩ := sound.hasSettled_of_known known
  cases unused.symm.trans used

/-- While all names are free, the built-in classes can be registered. -/
theorem builtins_of_free (unknown : ∀ k, s.known? k = none)
    (free : ∀ name, s.globalRegistry.lookup name = none) (builtin : c ∈ ExceptionClass.builtins) :
    s.refusal? c = none := by
  have names : ∀ c ∈ ExceptionClass.builtins,
      (∀ k ∈ c.lineage, QualifiedName.isWellFormed k.typeName = true) ∧
        (c.lineage.map ExceptionClass.typeName).Nodup := by
    decide +kernel
  obtain ⟨formed, distinct⟩ := names c builtin
  rw [refusal?_eq_none_iff]
  exact descriptorOf_of_free (fun k _ => unknown k) (fun k _ => free k.typeName) formed distinct

theorem Sound.byDefinition_of_refusal (sound : s.Sound) (refused : s.refusal? c = some e) :
    e.ByDefinition := by
  have after := (steps_descriptorOf sound c).sound sound
  have known := known?_descriptorOf s c
  rw [refusal?_eq_some_iff.1 refused] at known
  obtain ⟨_, _, r, _, settled⟩ := after.hasSettled_of_known known
  exact Registry.byDefinition_of_answer (settled s.store).1

end TypeSystem

end RuntimeTypes
