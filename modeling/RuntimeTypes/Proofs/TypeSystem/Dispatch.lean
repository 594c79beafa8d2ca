import Mathlib.Order.Bounds.Defs
import RuntimeTypes.Proofs.TypeSystem.Construction

/-!
Catch clauses and classes.  The first clause that matches is the one that
handles an object, so a clause behind one for a base of its type never does;
and whether a clause for a class matches can be told from the type names in the
lineage of the class of the object.
-/

namespace RuntimeTypes

namespace Instance

variable {x : Instance} {handlers : List Descriptor} {i j : Nat}

/-- The places of the clauses that match. -/
def matching (x : Instance) (handlers : List Descriptor) : Set Nat :=
  {i | ∃ handler, handlers[i]? = some handler ∧ x.isCaughtBy handler = true}

theorem catchClause?_eq_some_iff :
    x.catchClause? handlers = some i ↔ IsLeast (x.matching handlers) i := by
  rw [catchClause?, List.findIdx?_eq_some_iff_getElem]
  constructor
  · rintro ⟨bound, caught, earlier⟩
    refine ⟨⟨handlers[i], List.getElem?_eq_getElem bound, caught⟩, ?_⟩
    rintro j ⟨handler, found, caught'⟩
    by_contra less
    obtain ⟨_, rfl⟩ := List.getElem?_eq_some_iff.1 found
    exact earlier j (Nat.lt_of_not_le less) caught'
  · rintro ⟨⟨handler, found, caught⟩, least⟩
    obtain ⟨bound, rfl⟩ := List.getElem?_eq_some_iff.1 found
    refine ⟨bound, caught, ?_⟩
    intro j less caught'
    have found' := List.getElem?_eq_getElem (Nat.lt_trans less bound)
    exact Nat.not_lt.2 (least ⟨_, found', caught'⟩) less

theorem catchClause?_eq_none_iff :
    x.catchClause? handlers = none ↔ ∀ handler ∈ handlers, x.isCaughtBy handler = false :=
  List.findIdx?_eq_none_iff

end Instance

namespace TypeSystem

variable {s t u : TypeSystem} {c k : ExceptionClass} {d handler : Descriptor}
  {x : Instance} {name : String}

/-- A clause stands behind one for the same type or a base of it. -/
def Shadowed (handlers : List Descriptor) (j : Nat) : Prop :=
  ∃ i < j, ∃ earlier later, handlers[i]? = some earlier ∧ handlers[j]? = some later ∧
    later.isSubtypeOf earlier = true

/-- What catches an object at a clause would have caught it at every clause for a base. -/
theorem Sound.not_shadowed (sound : s.Sound) (held : s.Holds x.descriptor)
    {handlers : List Descriptor} (stored : ∀ handler ∈ handlers, s.Holds handler) {j : Nat}
    (caught : x.catchClause? handlers = some j) : ¬ Shadowed handlers j := by
  rintro ⟨i, less, earlier, later, found, found', below⟩
  have first := stored earlier (List.mem_of_getElem? found)
  have second := stored later (List.mem_of_getElem? found')
  obtain ⟨⟨handler, same, reached⟩, least⟩ := Instance.catchClause?_eq_some_iff.1 caught
  cases found'.symm.trans same
  have caught' : x.isCaughtBy earlier = true :=
    sound.numbered.isSubtypeOf_trans held second first reached below
  exact Nat.not_lt.2 (least ⟨earlier, found, caught'⟩) less

theorem Sound.name_of_known (sound : s.Sound) (known : s.known? c = some (.ok d)) :
    d.name = c.typeName := by
  have found := (sound.entry_of_known known).1
  exact (sound.filed_at s.registryAt_global found).2

/-- Classes of one type name share their descriptor. -/
theorem Sound.eq_of_typeName (sound : s.Sound) (known : s.known? c = some (.ok d))
    (known' : s.known? k = some (.ok handler)) (same : c.typeName = k.typeName) :
    d = handler := by
  have found := (sound.entry_of_known known).1
  rw [same, (sound.entry_of_known known').1] at found
  exact (Option.some.inj found).symm

theorem Sound.isSubtypeOf_iff_typeName (sound : s.Sound) (known : s.known? c = some (.ok d))
    (known' : s.known? k = some (.ok handler)) :
    d.isSubtypeOf handler = true ↔ k.typeName ∈ c.lineage.map ExceptionClass.typeName := by
  have held := sound.holds_of_known known
  have held' := sound.holds_of_known known'
  rw [sound.numbered.isSubtypeOf_iff held held', sound.mem_chain_iff_of_known known, List.mem_map]
  constructor
  · rintro ⟨b, above, knownBase⟩
    refine ⟨b, above, ?_⟩
    rw [← sound.name_of_known knownBase, sound.name_of_known known']
  · rintro ⟨b, above, same⟩
    obtain ⟨e, _, knownBase⟩ := sound.known_of_mem_lineage known above
    refine ⟨b, above, ?_⟩
    rw [knownBase, sound.eq_of_typeName knownBase known' same]

/-- No clause for a type of another registry is in the chain of a class descriptor. -/
theorem Reachable.not_isSubtypeOf_elsewhere (reachable : s.Reachable)
    (known : s.known? c = some (.ok d)) {index : Nat} {r : Registry}
    (used : s.inUse? (.isolated index) = some r) (found : r.lookup name = some handler) :
    d.isSubtypeOf handler = false := by
  have sound := reachable.sound
  have held := sound.holds_of_known known
  have held' := (sound.filed _ used found).1
  apply Bool.eq_false_iff.2
  intro below
  rw [sound.numbered.isSubtypeOf_iff held held', sound.mem_chain_iff_of_known known] at below
  obtain ⟨k, _, known'⟩ := below
  have entry := (sound.entry_of_known known').1
  cases reachable.filedOnce used (inUse?_of_lookup s.registryAt_global entry) found entry

/-- The ways in which an object comes from a class: it was constructed, by the
class, by the constructor that the class gives to others, or by that of a type;
and it may have got a message and a cause since. -/
inductive BuiltBy (s : TypeSystem) (c : ExceptionClass) : Instance → TypeSystem → Prop
  | construct {x : Exception} {t : TypeSystem} (built : s.construct c = (.ok x, t)) :
      BuiltBy s c (.exception x) t
  | run {host : Host} {x : Instance} {t : TypeSystem}
      (built : s.run host (.ofClass c) = (.ok x, t)) : BuiltBy s c x t
  | instantiate {host : Host} {d : Descriptor} {x : Instance} {t : TypeSystem}
      (handle : d.handle? = some (.ofClass c)) (built : s.instantiate host d = (.ok x, t)) :
      BuiltBy s c x t
  | withMessage {x : Exception} {t : TypeSystem} (message : String)
      (built : BuiltBy s c (.exception x) t) : BuiltBy s c (.exception (x.withMessage message)) t
  | withInner {x : Exception} {t : TypeSystem} (inner : Exception)
      (built : BuiltBy s c (.exception x) t) : BuiltBy s c (.exception (x.withInner inner)) t

theorem run_ofClass {host : Host} (built : s.run host (.ofClass c) = (.ok x, t)) :
    ∃ y, x = .exception y ∧ s.construct c = (.ok y, t) := by
  rw [run] at built
  generalize s.construct c = done at built ⊢
  obtain ⟨answer, after⟩ := done
  cases answer with
  | error e => cases built
  | ok y =>
      cases built
      exact ⟨y, rfl, rfl⟩

theorem run_of_instantiate {host : Host} (handle : d.handle? = some (.ofClass c))
    (built : s.instantiate host d = (.ok x, t)) : s.run host (.ofClass c) = (.ok x, t) := by
  rw [instantiate, handle] at built
  simp only at built
  generalize s.run host (.ofClass c) = done at built ⊢
  obtain ⟨answer, after⟩ := done
  cases answer with
  | error e => cases built
  | ok y =>
      simp only at built
      split at built
      case isTrue => exact built
      case isFalse => cases built

/-- Whatever way an object was built, its class is registered with its descriptor. -/
theorem BuiltBy.request (built : s.BuiltBy c x t) (sound : s.Sound) :
    s.descriptorOf c = (.ok x.descriptor, t) := by
  induction built with
  | construct built => exact (sound.request_of_construct built).1
  | run built =>
      obtain ⟨y, rfl, made⟩ := run_ofClass built
      exact (sound.request_of_construct made).1
  | instantiate handle built =>
      obtain ⟨y, rfl, made⟩ := run_ofClass (run_of_instantiate handle built)
      exact (sound.request_of_construct made).1
  | @withMessage y t message _ ih =>
      rw [Instance.descriptor, y.descriptor_withMessage]
      exact ih
  | @withInner y t inner _ ih =>
      rw [Instance.descriptor, y.descriptor_withInner]
      exact ih

/-- How the clauses of a program deal with an object of a class. -/
structure CaughtByLineage (s : TypeSystem) (c : ExceptionClass) (x : Instance) : Prop where
  least : ∀ {handlers i}, x.catchClause? handlers = some i ↔ IsLeast (x.matching handlers) i
  missed : ∀ {handlers}, x.catchClause? handlers = none ↔
    ∀ handler ∈ handlers, x.isCaughtBy handler = false
  unshadowed : ∀ {handlers j}, (∀ handler ∈ handlers, s.Holds handler) →
    x.catchClause? handlers = some j → ¬ Shadowed handlers j
  named : ∀ {k handler u}, s.descriptorOf k = (.ok handler, u) →
    (x.isCaughtBy handler = true ↔ k.typeName ∈ c.lineage.map ExceptionClass.typeName)
  bases : ∀ {k}, k ∈ c.lineage →
    ∃ handler, s.descriptorOf k = (.ok handler, s) ∧ x.isCaughtBy handler = true
  twins : ∀ {k k' handler handler' u u'}, s.descriptorOf k = (.ok handler, u) →
    s.descriptorOf k' = (.ok handler', u') → k.typeName = k'.typeName →
      x.isCaughtBy handler = x.isCaughtBy handler'
  elsewhere : ∀ {index : Nat} {r : Registry} {name handler}, s.isolated[index]? = some r →
    r.lookup name = some handler → x.isCaughtBy handler = false

/-- A request for the descriptor of a class is an operation of a program. -/
theorem Reachable.request (reachable : s.Reachable) {answer : Except Error Descriptor}
    (request : s.descriptorOf c = (answer, t)) : t.Reachable := by
  have leads : s.Leads (s.perform (.describe c)).2 := .step .refl trivial
  rw [perform, request] at leads
  exact reachable.leads leads

theorem Reachable.isSubtypeOf_iff_typeName (reachable : s.Reachable)
    (known : s.known? c = some (.ok d)) (request : s.descriptorOf k = (.ok handler, t)) :
    d.isSubtypeOf handler = true ↔ k.typeName ∈ c.lineage.map ExceptionClass.typeName := by
  have steps := steps_descriptorOf reachable.sound k
  rw [request] at steps
  have later := steps.extends.known known
  exact (reachable.request request).sound.isSubtypeOf_iff_typeName later
    (known?_of_request request)

/-- The objects of a class are caught by the clauses for types whose names are
in the lineage of the class, by the first of them, now and ever after. -/
theorem caught_by_lineage (reachable : s.Reachable) (built : s.BuiltBy c x t) (leads : t.Leads u) :
    u.CaughtByLineage c x := by
  have request := built.request reachable.sound
  have made := reachable.request request
  have later := made.leads leads
  have sound := later.sound
  have known : u.known? c = some (.ok x.descriptor) :=
    (leads.extends made.sound).known (known?_of_request request)
  constructor
  case least => exact Instance.catchClause?_eq_some_iff
  case missed => exact Instance.catchClause?_eq_none_iff
  case unshadowed =>
    intro handlers j stored caught
    exact sound.not_shadowed (sound.holds_of_known known) stored caught
  case named =>
    intro k handler v asked
    exact later.isSubtypeOf_iff_typeName known asked
  case bases =>
    intro k above
    obtain ⟨handler, inside, known'⟩ := sound.known_of_mem_lineage known above
    refine ⟨handler, descriptorOf_of_known known', ?_⟩
    apply (sound.isSubtypeOf_iff_typeName known known').2
    exact List.mem_map_of_mem above
  case twins =>
    intro k k' handler handler' v v' asked asked' same
    apply Bool.eq_iff_iff.2
    have first := later.isSubtypeOf_iff_typeName known asked
    have second := later.isSubtypeOf_iff_typeName known asked'
    rw [same] at first
    exact first.trans second.symm
  case elsewhere =>
    intro index r name handler used found
    exact later.not_isSubtypeOf_elsewhere known used found

/-- A class under the name of a built-in one, the type that both get, and a type
of the same name in a registry of its own. -/
def twinClass : ExceptionClass :=
  .derived "OtherException" "System.SystemException" .root

def twinType : Descriptor :=
  .derived 2 ⟨"System.SystemException", [], some (.ofClass twinClass)⟩
    (.root 1 ⟨"System.Exception", [], some (.ofClass .root)⟩)

def foreignType : Descriptor :=
  .root 0 ⟨"System.SystemException", [], none⟩

def sameNameElsewhere : List Operation :=
  [.addRegistry .any, .define (.isolated 0) { name := "System.SystemException" },
    .describe twinClass]

/-- An object of a class on top of the built-in one passes the foreign type and
is caught as one of the twin. -/
theorem caught_by_lineage_sameNameElsewhere :
    ∃ s x t, Reachable s ∧ s = ((start {}).performAll sameNameElsewhere).2 ∧
      s.construct .timeout = (.ok x, t) ∧ t.descriptorOf twinClass = (.ok twinType, t) ∧
      (Instance.exception x).catchClause? [foreignType, twinType] = some 1 ∧
      (Instance.exception x).catchClause? [foreignType] = none := by
  have admitted : (start {}).AdmitsAll sameNameElsewhere := by
    decide +kernel
  have reachable := reachable_performAll admitted
  obtain ⟨x, t, built, twin, r, used, found⟩ : ∃ x t,
      ((start {}).performAll sameNameElsewhere).2.construct .timeout = (.ok x, t) ∧
      t.descriptorOf twinClass = (.ok twinType, t) ∧
      ∃ r, t.isolated[0]? = some r ∧ r.lookup foreignType.name = some foreignType := by
    exact ⟨_, _, rfl, descriptorOf_of_known (by decide +kernel), _, rfl, by rfl⟩
  have caught := caught_by_lineage reachable (.construct built) .refl
  have passed := caught.elsewhere used found
  refine ⟨_, x, t, reachable, rfl, built, twin, caught.least.2 ⟨?_, ?_⟩, ?_⟩
  · exact ⟨twinType, rfl, (caught.named twin).2 (by decide)⟩
  · rintro i ⟨handler, here, reached⟩
    apply Nat.one_le_iff_ne_zero.2
    rintro rfl
    cases here
    rw [passed] at reached
    cases reached
  · apply caught.missed.2
    intro handler inside
    rwa [List.mem_singleton.1 inside]

end TypeSystem

end RuntimeTypes
