import RuntimeTypes.Proofs.Exception.Layers
import RuntimeTypes.Proofs.TypeSystem.Ancestry
import RuntimeTypes.Proofs.TypeSystem.Builtins
import RuntimeTypes.Proofs.TypeSystem.ClassChain

/-!
Construction beside registration.  An object can be built exactly if its class
can be registered, and building it has no other effects than registering the
class; the object reports its own class in all its layers.
-/

namespace RuntimeTypes

namespace TypeSystem

variable {s t u : TypeSystem} {c k base : ExceptionClass} {d : Descriptor} {e : Error}
  {ident typeName : String}

/-- The refusal of a base is handed up, and nothing is done but remembering it. -/
theorem Sound.descriptorOf_of_refused (sound : s.Sound)
    (request : s.descriptorOf base = (.error e, t)) (ident typeName : String) :
    ∃ classes, s.descriptorOf (.derived ident typeName base) =
      (.error e, { t with classes := classes }) := by
  cases known : s.known? (.derived ident typeName base) with
  | none =>
      refine ⟨(.derived ident typeName base, .error e) :: t.classes, ?_⟩
      simp only [descriptorOf, known, request]
      rfl
  | some outcome =>
      refine ⟨s.classes, ?_⟩
      rw [descriptorOf_of_known known]
      rcases sound.justified known with ⟨e', above, rfl⟩ | ⟨d, above, _⟩
      · rw [descriptorOf_of_known above] at request
        cases request
        rfl
      · rw [descriptorOf_of_known above] at request
        cases request

/-- How a construction ends beside a request for the descriptor of the class. -/
inductive Follows (c : ExceptionClass) :
    Except Error Descriptor × TypeSystem → Except Error Exception × TypeSystem → Prop
  | built {x : Exception} {d : Descriptor} (built : x.Built c d) (t : TypeSystem) :
      Follows c (.ok d, t) (.ok x, t)
  | refused (e : Error) (t : TypeSystem)
      (classes : List (ExceptionClass × Except Error Descriptor)) :
      Follows c (.error e, { t with classes := classes }) (.error e, t)

theorem Sound.follows (sound : s.Sound) (c : ExceptionClass) :
    Follows c (s.descriptorOf c) (s.construct c) := by
  induction c with
  | root =>
      rw [construct]
      generalize s.descriptorOf .root = request
      obtain ⟨answer, t⟩ := request
      cases answer with
      | ok d => exact .built (.root d) t
      | error e => exact .refused e t t.classes
  | derived ident typeName base ih =>
      have after := sound.descriptorOf_after_base
        (ExceptionClass.base_mem_lineage ident typeName base)
      rw [construct]
      cases request : s.descriptorOf base with
      | mk answer t =>
          rw [request] at ih after
          generalize s.construct base = built at ih ⊢
          cases ih with
          | @built x d made =>
              -- The base is known by now, so this is the request of the class itself.
              simp only at after ⊢
              rw [after]
              generalize s.descriptorOf (.derived ident typeName base) = own
              obtain ⟨answer, t⟩ := own
              cases answer with
              | ok d => exact .built (made.layer ident typeName d) t
              | error e => exact .refused e t t.classes
          | refused e u classes =>
              obtain ⟨later, own⟩ := sound.descriptorOf_of_refused request ident typeName
              rw [own]
              exact .refused e u later

theorem Follows.ok_iff {request : Except Error Descriptor × TypeSystem}
    {built : Except Error Exception × TypeSystem} (follows : Follows c request built) :
    (∃ x, built.1 = .ok x) ↔ ∃ d, request.1 = .ok d := by
  cases follows <;> simp

theorem Follows.error_iff {request : Except Error Descriptor × TypeSystem}
    {built : Except Error Exception × TypeSystem} (follows : Follows c request built) (e : Error) :
    built.1 = .error e ↔ request.1 = .error e := by
  cases follows <;> simp

theorem Follows.state {request : Except Error Descriptor × TypeSystem}
    {built : Except Error Exception × TypeSystem} (follows : Follows c request built) :
    request.2 = { built.2 with classes := request.2.classes } := by
  cases follows <;> rfl

theorem Follows.request {x : Exception} {request : Except Error Descriptor × TypeSystem}
    (follows : Follows c request (.ok x, t)) :
    request = (.ok x.descriptor, t) ∧ x.Built c x.descriptor := by
  cases follows with
  | built built =>
      rw [built.descriptor]
      exact ⟨rfl, built⟩

/-- What was constructed is an object of the class, with the descriptor of the class. -/
theorem Sound.request_of_construct (sound : s.Sound) {x : Exception}
    (built : s.construct c = (.ok x, t)) :
    s.descriptorOf c = (.ok x.descriptor, t) ∧ x.Built c x.descriptor := by
  have follows := sound.follows c
  rw [built] at follows
  exact follows.request

theorem Sound.refusal?_of_base (sound : s.Sound) (refused : s.refusal? base = some e) :
    s.refusal? (.derived ident typeName base) = some e := by
  rw [refusal?_eq_some_iff] at refused ⊢
  have request : s.descriptorOf base = (.error e, (s.descriptorOf base).2) :=
    Prod.ext refused rfl
  obtain ⟨classes, own⟩ := sound.descriptorOf_of_refused request ident typeName
  rw [own]

/-- The bases of a class that can be registered can be registered. -/
theorem Sound.accepted_lineage (sound : s.Sound) (accepted : s.refusal? c = none)
    (above : k ∈ c.lineage) : s.refusal? k = none := by
  induction c with
  | root =>
      obtain rfl := List.mem_singleton.1 above
      exact accepted
  | derived ident typeName base ih =>
      rcases List.mem_cons.1 above with rfl | above
      · exact accepted
      · apply ih _ above
        cases refused : s.refusal? base with
        | none => rfl
        | some e => cases accepted.symm.trans (sound.refusal?_of_base refused)

/-- From the root class down, there is a first class of the lineage that is refused. -/
theorem Sound.firstRefused (sound : s.Sound) (refused : s.refusal? c = some e) :
    ∃ before k, s.FirstRefused c.lineage.reverse before k e ∧
      ∀ b, k.base? = some b → s.refusal? b = none := by
  induction c with
  | root =>
      refine ⟨[], .root, ⟨List.prefix_rfl, by simp, refused⟩, ?_⟩
      intro b base
      cases base
  | derived ident typeName base ih =>
      rw [ExceptionClass.lineage, List.reverse_cons]
      cases above : s.refusal? base with
      | some e' =>
          cases (sound.refusal?_of_base above).symm.trans refused
          obtain ⟨before, k, first, own⟩ := ih above
          refine ⟨before, k, ⟨?_, first.passed, first.refused⟩, own⟩
          exact first.tried.trans (List.prefix_append _ _)
      | none =>
          refine ⟨base.lineage.reverse, .derived ident typeName base,
            ⟨List.prefix_rfl, ?_, refused⟩, ?_⟩
          · intro k among
            exact sound.accepted_lineage above (List.mem_reverse.1 among)
          · intro b same
            cases same
            exact above

/-- A request keeps what was known, and knows the lineage with the answers that
requests for its classes alone would have got. -/
theorem Sound.known_of_lineage (sound : s.Sound) (above : k ∈ c.lineage) :
    (s.descriptorOf c).2.known? k = some (s.descriptorOf k).1 := by
  have sound' := (steps_descriptorOf sound k).sound sound
  have grown := (steps_descriptorOf sound' c).extends
  rw [sound.descriptorOf_after_base above] at grown
  exact grown.known (known?_descriptorOf s k)

/-- A class that is refused though its base is not fails by its own definition. -/
theorem Sound.hasSettled_of_refused (sound : s.Sound) (above : k ∈ c.lineage)
    (refused : s.refusal? k = some e) (own : ∀ b, k.base? = some b → s.refusal? b = none) :
    ∃ base?, (k.base?.map fun b => (s.descriptorOf b).1) = base?.map .ok ∧
      (s.descriptorOf c).2.HasSettled (classDefinition k base?) (.error e) := by
  have after := (steps_descriptorOf sound c).sound sound
  have known := sound.known_of_lineage above
  rw [refusal?_eq_some_iff.1 refused] at known
  have justified := after.justified known
  cases k with
  | root => exact ⟨none, rfl, justified⟩
  | derived ident typeName base =>
      obtain ⟨d, accepted⟩ := refusal?_eq_none_iff.1 (own base rfl)
      have knownBase := sound.known_of_lineage (ExceptionClass.mem_lineage_trans above
        (ExceptionClass.base_mem_lineage ident typeName base))
      rw [accepted] at knownBase
      rcases justified with ⟨e', above', _⟩ | ⟨d', above', settled⟩
      · cases knownBase.symm.trans above'
      · cases knownBase.symm.trans above'
        refine ⟨some d, ?_, settled⟩
        rw [ExceptionClass.base?, Option.map_some, accepted, Option.map_some]

/-- What a class stores follows on what its bases have stored. -/
theorem sublist_known_snoc {made : List Descriptor} {new? : Option Descriptor}
    (before : (made.map fun d => some (.ok d)).Sublist (base.lineage.reverse.map s.known?))
    (same : ∀ k ∈ base.lineage, t.known? k = s.known? k)
    (own : ∀ d, new? = some d → t.known? (.derived ident typeName base) = some (.ok d)) :
    ((made ++ new?.toList).map fun d => some (.ok d)).Sublist
      ((ExceptionClass.derived ident typeName base).lineage.reverse.map t.known?) := by
  have bases : base.lineage.reverse.map t.known? = base.lineage.reverse.map s.known? :=
    List.map_congr_left fun k among => same k (List.mem_reverse.1 among)
  rw [ExceptionClass.lineage, List.reverse_cons, List.map_append, List.map_append, bases]
  apply before.append
  cases new? with
  | none => exact List.nil_sublist _
  | some d =>
      rw [Option.toList_some, List.map_singleton, List.map_singleton, own d rfl]

/-- A request stores the descriptors of classes of the lineage, from the root class down. -/
theorem stored_descriptorOf (s : TypeSystem) (c : ExceptionClass) :
    ∃ made, (s.descriptorOf c).2.store.toList = s.store.toList ++ made ∧
      (made.map fun d => some (.ok d)).Sublist
        (c.lineage.reverse.map (s.descriptorOf c).2.known?) := by
  fun_induction descriptorOf s c with
  | case1 | case3 => exact ⟨[], (List.append_nil _).symm, List.nil_sublist _⟩
  | case2 unknown =>
      obtain ⟨made?, stored, each⟩ := stored_registerClass s .root none
      refine ⟨made?.toList, stored, ?_⟩
      cases made? with
      | none => exact List.nil_sublist _
      | some d =>
          have known := known?_registerClass s .root none .root
          rw [if_pos rfl, each d rfl] at known
          change [some (Except.ok d)].Sublist [(s.registerClass .root none).2.known? .root]
          rw [known]
  | case4 ident typeName base c unknown e t request ih =>
      rw [request] at ih
      obtain ⟨made, stored, ordered⟩ := ih
      have whole : made = made ++ (none : Option Descriptor).toList := (List.append_nil made).symm
      refine ⟨made, stored, ?_⟩
      rw [whole]
      apply sublist_known_snoc ordered
      · intro k above
        rw [known?_remember, if_neg (ExceptionClass.ne_of_mem_lineage above)]
      · rintro d ⟨⟩
  | case5 ident typeName base c unknown d t request ih =>
      rw [request] at ih
      obtain ⟨made, stored, ordered⟩ := ih
      obtain ⟨new?, stored', each⟩ := stored_registerClass t c (some d)
      refine ⟨made ++ new?.toList, by rw [stored', stored, List.append_assoc], ?_⟩
      apply sublist_known_snoc ordered
      · intro k above
        rw [known?_registerClass, if_neg (ExceptionClass.ne_of_mem_lineage above)]
      · intro d' new
        rw [known?_registerClass, if_pos rfl, each d' new]

/-- The descriptor of a class is not that of any of its bases. -/
theorem Sound.not_same_of_known (sound : s.Sound) (known : s.known? c = some (.ok d))
    (above : k ∈ c.lineage) (strict : k ≠ c) :
    ∃ b, s.known? k = some (.ok b) ∧ b.same d = false := by
  obtain ⟨chain, _⟩ := sound.chain_of_known known
  have once := sound.once (sound.holds_of_known known)
  have among : s.known? k ∈ c.lineage.map s.known? := List.mem_map_of_mem above
  obtain ⟨bases, lineage⟩ : ∃ bases, c.lineage = c :: bases :=
    List.head?_eq_some_iff.1 c.head?_lineage
  obtain ⟨rest, whole⟩ : ∃ rest, d.chain = d :: rest := List.head?_eq_some_iff.1 d.head?_chain
  rw [whole, lineage, List.map_cons, List.map_cons] at chain
  rw [lineage] at above
  have mem : s.known? k ∈ bases.map s.known? :=
    List.mem_map_of_mem ((List.mem_cons.1 above).resolve_left strict)
  rw [← (List.cons.inj chain).2] at mem
  obtain ⟨b, inside, same⟩ := List.mem_map.1 mem
  rw [whole] at once
  refine ⟨b, same.symm, ?_⟩
  rw [Descriptor.same, BEq.comm]
  exact List.rel_of_pairwise_cons once inside

/-- Construction goes along with registration: it succeeds exactly if the class
can be registered, and fails with the error of the first class, from the root
class down, whose definition is refused; it leaves the same state, but for what
is remembered of classes; and what it builds is an object of the class in all
its layers. -/
theorem construct_goes_with_registration (reachable : s.Reachable) (c : ExceptionClass) :
    ((∃ x, (s.construct c).1 = .ok x) ↔ ∃ d, (s.descriptorOf c).1 = .ok d) ∧
      (∀ e, (s.construct c).1 = .error e ↔ (s.descriptorOf c).1 = .error e) ∧
      (∀ e, (s.construct c).1 = .error e → ∃ before k base?,
        s.FirstRefused c.lineage.reverse before k e ∧
          (k.base?.map fun b => (s.descriptorOf b).1) = base?.map .ok ∧
            (s.construct c).2.HasSettled (classDefinition k base?) (.error e)) ∧
      (s.descriptorOf c).2 = { (s.construct c).2 with classes := (s.descriptorOf c).2.classes } ∧
      (∃ made, (s.construct c).2.store.toList = s.store.toList ++ made ∧
        (made.map fun d => some (.ok d)).Sublist
          (c.lineage.reverse.map (s.descriptorOf c).2.known?)) ∧
      ∀ x t, s.construct c = (.ok x, t) →
        s.descriptorOf c = (.ok x.descriptor, t) ∧ x.Built c x.descriptor ∧
          ∀ k ∈ c.lineage, k ≠ c →
            ∃ b, t.descriptorOf k = (.ok b, t) ∧ b.same x.descriptor = false := by
  have sound := reachable.sound
  have follows := sound.follows c
  have state := follows.state
  refine ⟨follows.ok_iff, follows.error_iff, ?_, state, ?_, ?_⟩
  · intro e failed
    have refused := refusal?_eq_some_iff.2 ((follows.error_iff e).1 failed)
    obtain ⟨before, k, first, own⟩ := sound.firstRefused refused
    have above : k ∈ c.lineage := List.mem_reverse.1 first.mem
    obtain ⟨base?, bases, settled⟩ := sound.hasSettled_of_refused above first.refused own
    rw [state] at settled
    exact ⟨before, k, base?, first, bases, settled⟩
  · obtain ⟨made, stored, ordered⟩ := stored_descriptorOf s c
    refine ⟨made, ?_, ordered⟩
    rw [state] at stored
    exact stored
  · intro x t built
    rw [built] at follows
    obtain ⟨request, whole⟩ := follows.request
    refine ⟨request, whole, ?_⟩
    intro k above strict
    have sound' : t.Sound := by
      have after := (steps_descriptorOf sound c).sound sound
      rwa [request] at after
    obtain ⟨b, known, other⟩ := sound'.not_same_of_known (known?_of_request request) above strict
    exact ⟨b, descriptorOf_of_known known, other⟩

/-- A program that builds the type of a class on a base of another registry. -/
def baseElsewhere : List Operation :=
  [.addRegistry .any, .define (.isolated 0) { name := "System.Exception" },
    .define .global
      { name := "System.SystemException",
        base? := some (.root 0 ⟨"System.Exception", [], none⟩) }]

/-- A class on top of that one fails as the one below does, and both classes
below it are tried first; the root class is built. -/
theorem construct_goes_with_registration_baseElsewhere :
    ∃ s, Reachable s ∧ s = ((start {}).performAll baseElsewhere).2 ∧
      (s.construct .timeout).1 = .error (.duplicateType "System.SystemException"
        "System.Exception" "System.Exception") ∧
      (s.descriptorOf .timeout).2 =
        { (s.construct .timeout).2 with classes := (s.descriptorOf .timeout).2.classes } ∧
      (s.construct .timeout).2.store.toList.length = 3 ∧
      ∃ x t, s.construct .root = (.ok x, t) ∧ s.descriptorOf .root = (.ok x.descriptor, t) ∧
        x.Built .root x.descriptor := by
  have admitted : (start {}).AdmitsAll baseElsewhere := by
    decide +kernel
  have reachable := reachable_performAll admitted
  obtain ⟨_, failures, _, state, _, _⟩ := construct_goes_with_registration reachable .timeout
  obtain ⟨successes, _, _, _, _, whole⟩ := construct_goes_with_registration reachable .root
  have built : ∃ x, (((start {}).performAll baseElsewhere).2.construct .root).1 = .ok x := by
    exact successes.2 ⟨_, by rfl⟩
  obtain ⟨x, built⟩ := built
  have request := whole x _ (Prod.ext built rfl)
  refine ⟨_, reachable, rfl, (failures _).2 (by decide +kernel), state, by decide +kernel, ?_⟩
  exact ⟨x, _, Prod.ext built rfl, request.1, request.2.1⟩

end TypeSystem

end RuntimeTypes
