import RuntimeTypes.Proofs.TypeSystem.Footprint
import RuntimeTypes.Proofs.TypeSystem.Matching

/-!
Requests for class descriptors side by side: a request in a state with another
logger, a request after one for a base, a request where all names are free.
-/

namespace RuntimeTypes

namespace TypeSystem

variable {s t : TypeSystem}

/-- States that differ at most in the logger and in what was written. -/
structure SameButLog (s t : TypeSystem) : Prop where
  environment : t.environment = s.environment
  store : t.store? = s.store?
  global : t.global? = s.global?
  isolated : t.isolated = s.isolated
  classes : t.classes = s.classes
  config : t.config? = s.config?

theorem SameButLog.known (same : s.SameButLog t) (c : ExceptionClass) :
    t.known? c = s.known? c := by
  simp only [known?, same.classes]

theorem SameButLog.remember (same : s.SameButLog t) (c : ExceptionClass)
    (outcome : Except Error Descriptor) :
    (s.remember c outcome).SameButLog (t.remember c outcome) :=
  ⟨same.environment, same.store, same.global, same.isolated,
    congrArg ((c, outcome) :: ·) same.classes, same.config⟩

/-- A relation as in `Shares`, between states that also have in common what is
known of the classes. -/
structure SharesClasses (R : TypeSystem → TypeSystem → Prop) : Prop extends Shares R where
  known : ∀ {s t}, R s t → ∀ c, t.known? c = s.known? c
  remember : ∀ {s t}, R s t → ∀ c outcome, R (s.remember c outcome) (t.remember c outcome)

namespace SharesClasses

variable {R : TypeSystem → TypeSystem → Prop} (shares : SharesClasses R) (related : R s t)

include shares related

theorem registerClass (c : ExceptionClass) (base? : Option Descriptor) :
    Matches R (s.registerClass c base?) (t.registerClass c base?) := by
  obtain ⟨made, s', t', left, right, kept⟩ :=
    shares.defineGlobal related (classDefinition c base?)
  simp only [TypeSystem.registerClass, left, right]
  exact .pair (shares.remember kept c made) _

/-- What a class is registered as does not depend on what the two states do not share. -/
theorem descriptorOf (c : ExceptionClass) :
    Matches R (s.descriptorOf c) (t.descriptorOf c) := by
  induction c with
  | root =>
      simp only [TypeSystem.descriptorOf, shares.known related]
      cases s.known? .root with
      | some outcome => exact .pair related _
      | none => exact shares.registerClass related .root none
  | derived ident typeName base ih =>
      simp only [TypeSystem.descriptorOf, shares.known related]
      cases s.known? (.derived ident typeName base) with
      | some outcome => exact .pair related _
      | none =>
          obtain ⟨requested, s', t', left, right, kept⟩ := ih
          simp only [left, right]
          cases requested with
          | error e => exact .pair (shares.remember kept _ _) _
          | ok d => exact shares.registerClass kept _ _

end SharesClasses

theorem sharesClasses_sameButLog : SharesClasses SameButLog where
  store same := same.store
  global same := same.global
  isolated same := same.isolated
  config same := same.config
  setStore same _ := { same with store := rfl }
  setGlobal same _ := { same with global := rfl }
  setIsolated same _ := { same with isolated := rfl }
  setConfig same _ := { same with config := rfl }
  setLevel same _ := { same with }
  setColored same _ := { same with }
  report {s t} same event := by
    rw [report_eq s, report_eq t]
    exact { same with }
  known same := same.known
  remember same := same.remember

/-- Where a class is known, its base is. -/
theorem Sound.known_lineage (sound : s.Sound) {c k : ExceptionClass} (above : k ∈ c.lineage)
    (known : s.known? c ≠ none) : s.known? k ≠ none := by
  induction c with
  | root =>
      obtain rfl := List.mem_singleton.1 above
      exact known
  | derived ident typeName base ih =>
      rcases List.mem_cons.1 above with rfl | above
      · exact known
      · obtain ⟨outcome, found⟩ := Option.ne_none_iff_exists'.1 known
        apply ih above
        intro none
        rcases sound.justified found with ⟨e, known, _⟩ | ⟨d, known, _⟩
        all_goals cases none.symm.trans known

/-- A request for a base is a part of the request for the class. -/
theorem Sound.descriptorOf_after_base (sound : s.Sound) {c k : ExceptionClass}
    (above : k ∈ c.lineage) : (s.descriptorOf k).2.descriptorOf c = s.descriptorOf c := by
  induction c with
  | root =>
      obtain rfl := List.mem_singleton.1 above
      exact descriptorOf_of_known (known?_descriptorOf s .root)
  | derived ident typeName base ih =>
      rcases List.mem_cons.1 above with rfl | above
      · exact descriptorOf_of_known (known?_descriptorOf s _)
      · cases known : s.known? (.derived ident typeName base) with
        | some outcome =>
            have inside : k ∈ (ExceptionClass.derived ident typeName base).lineage :=
              List.mem_cons_of_mem _ above
            obtain ⟨earlier, found⟩ := Option.ne_none_iff_exists'.1
              (sound.known_lineage inside (by simp [known]))
            rw [descriptorOf_of_known found]
        | none =>
            -- The class is larger than its base, so the request for the base does not settle it.
            have outside : ExceptionClass.derived ident typeName base ∉ k.lineage := by
              intro below
              have first := ExceptionClass.sizeOf_le_of_mem_lineage below
              have second := ExceptionClass.sizeOf_le_of_mem_lineage above
              simp only [ExceptionClass.derived.sizeOf_spec] at first
              omega
            have unknown := known?_descriptorOf_of_not_mem (s := s) outside
            simp only [descriptorOf, unknown, known, ih above]

/-- Where the names of the lineage are free, the class can be registered. -/
theorem descriptorOf_of_free {c : ExceptionClass}
    (unknown : ∀ k ∈ c.lineage, s.known? k = none)
    (free : ∀ k ∈ c.lineage, s.globalRegistry.lookup k.typeName = none)
    (formed : ∀ k ∈ c.lineage, QualifiedName.isWellFormed k.typeName = true)
    (distinct : (c.lineage.map ExceptionClass.typeName).Nodup) :
    ∃ d, (s.descriptorOf c).1 = .ok d := by
  induction c with
  | root =>
      have self := ExceptionClass.mem_lineage_self .root
      have fresh : s.globalRegistry.judge (classDefinition .root none) = .fresh := by
        refine Registry.judge_eq_fresh_iff.2 ⟨⟨formed _ self, ?_⟩, free _ self⟩
        intro root
        exact RootPolicy.allows_builtin _ (by decide)
      simp only [descriptorOf, unknown _ self]
      exact ⟨_, registerClass_of_fresh fresh⟩
  | derived ident typeName base ih =>
      have self := ExceptionClass.mem_lineage_self (.derived ident typeName base)
      simp only [ExceptionClass.lineage, List.map_cons, List.nodup_cons] at distinct
      have above : ∀ k ∈ base.lineage, k ∈ (ExceptionClass.derived ident typeName base).lineage :=
        fun k inside => List.mem_cons_of_mem _ inside
      obtain ⟨d, answer⟩ := ih (fun k inside => unknown k (above k inside))
        (fun k inside => free k (above k inside)) (fun k inside => formed k (above k inside))
        distinct.2
      have touched := registers_descriptorOf s base
      simp only [descriptorOf, unknown _ self]
      cases request : s.descriptorOf base with
      | mk found t =>
          rw [request] at answer touched
          obtain rfl : found = .ok d := answer
          have fresh : t.globalRegistry.judge
              (classDefinition (.derived ident typeName base) (some d)) = .fresh := by
            refine Registry.judge_eq_fresh_iff.2 ⟨⟨formed _ self, ?_⟩, ?_⟩
            · intro root
              cases root
            · exact (touched.lookup typeName distinct.1).trans (free _ self)
          exact ⟨_, registerClass_of_fresh fresh⟩

end TypeSystem

end RuntimeTypes
