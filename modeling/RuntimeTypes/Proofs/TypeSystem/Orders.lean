import RuntimeTypes.Proofs.Registry.Resemblance
import RuntimeTypes.Proofs.TypeSystem.Ancestry
import RuntimeTypes.Proofs.TypeSystem.Declarations

/-!
The order of compatible declarations.  As long as bases come first, none of them
is refused, and what is registered in the end depends on which declarations
there are and not on their order.
-/

namespace RuntimeTypes

/-- Declarations that do not stand in each other's way under a policy. -/
structure Compatible (policy : RootPolicy) (family : List Declaration) : Prop where
  wellFormed : ∀ declaration ∈ family,
    QualifiedName.isWellFormed declaration.name = true
  allowed : ∀ declaration ∈ family, declaration.base? = none →
    policy.allows declaration.name = true
  agree : ∀ declaration ∈ family, ∀ other ∈ family, declaration.name = other.name →
    declaration.base? = other.base? ∧ declaration.fields = other.fields

/-- Each base is declared before what is built on it; `known` are the names that
were declared before the list begins. -/
def BasesFirst (known : List String) : List Declaration → Prop
  | [] => True
  | declaration :: rest =>
      (∀ base ∈ declaration.base?, base ∈ known) ∧ BasesFirst (declaration.name :: known) rest

instance decidableBasesFirst :
    (known : List String) → (order : List Declaration) → Decidable (BasesFirst known order)
  | _, [] => inferInstanceAs (Decidable True)
  | known, declaration :: rest =>
      have := decidableBasesFirst (declaration.name :: known) rest
      inferInstanceAs (Decidable ((∀ base ∈ declaration.base?, base ∈ known) ∧
        BasesFirst (declaration.name :: known) rest))

/-- An order of a family, in which declarations may be repeated. -/
structure Orders (family order : List Declaration) : Prop where
  members : ∀ declaration, declaration ∈ order ↔ declaration ∈ family
  basesFirst : BasesFirst [] order

theorem Compatible.of_subset {policy : RootPolicy} {family part : List Declaration}
    (compatible : Compatible policy family) (among : part ⊆ family) : Compatible policy part where
  wellFormed declaration member := compatible.wellFormed declaration (among member)
  allowed declaration member := compatible.allowed declaration (among member)
  agree declaration member other member' :=
    compatible.agree declaration (among member) other (among member')

namespace Registry

variable {r : Registry} {seen : List Declaration} {declaration : Declaration}

/-- What a declaration means once its base was declared. -/
theorem Realizes.definition? (realizes : r.Realizes seen) (closed : r.Closed)
    (based : ∀ base ∈ declaration.base?, base ∈ seen.map Declaration.name) :
    ∃ base?, r.definition? declaration = some (declaration.on base?) ∧
      base?.map Descriptor.name = declaration.base? ∧
      ∀ base, base? = some base → r.lookup base.name = some base := by
  cases above : declaration.base? with
  | none =>
      refine ⟨none, ?_, rfl, fun base none => by cases none⟩
      simp only [Registry.definition?, above]
  | some name =>
      obtain ⟨earlier, member, rfl⟩ := List.mem_map.1 (based name above)
      obtain ⟨base, found, _⟩ := realizes.bound earlier member
      have named := closed.named found
      refine ⟨some base, ?_, congrArg some named, ?_⟩
      · simp only [Registry.definition?, above, found, Option.map_some]
      · rintro _ ⟨⟩
        rwa [named]

theorem Realizes.extend (realizes : r.Realizes seen) {later : Registry} (grown : r.Extends later)
    {d : Descriptor} (found : later.lookup declaration.name = some d)
    (base : d.base?.map Descriptor.name = declaration.base?)
    (fields : d.fields = declaration.fields)
    (only : ∀ {name e}, later.lookup name = some e →
      r.lookup name = some e ∨ name = declaration.name) :
    later.Realizes (declaration :: seen) where
  bound other member := by
    rcases List.mem_cons.1 member with rfl | member
    · exact ⟨d, found, base, fields⟩
    · obtain ⟨e, found, shown⟩ := realizes.bound other member
      exact ⟨e, grown.lookup found, shown⟩
  only {name e} found := by
    rcases only found with found | rfl
    · obtain ⟨other, member, same⟩ := realizes.only found
      exact ⟨other, List.mem_cons_of_mem _ member, same⟩
    · exact ⟨declaration, List.mem_cons_self, rfl⟩

/-- Where the name is free, the type that is entered is what was declared. -/
theorem Realizes.enter (realizes : r.Realizes seen) {base? : Option Descriptor}
    (named : base?.map Descriptor.name = declaration.base?)
    (fresh : r.judge (declaration.on base?) = .fresh) (store : Arena Descriptor) :
    (r.define store (declaration.on base?)).registry.lookup declaration.name =
        some (made store (declaration.on base?)) ∧
      (r.define store (declaration.on base?)).registry.Realizes (declaration :: seen) := by
  have entered : (r.define store (declaration.on base?)).registry.lookup declaration.name =
      some (made store (declaration.on base?)) := by
    rw [define_of_fresh fresh, lookup_register]
    exact if_pos rfl
  refine ⟨entered, realizes.extend (r.extends_define store _) entered ?_ ?_ ?_⟩
  · rw [made, Descriptor.base?_make]
    exact named
  · rw [made, Descriptor.fields, Descriptor.info_make]
    rfl
  · intro name e found
    rcases lookup_define found with found | ⟨_, same, _⟩
    · exact .inl found
    · exact .inr same

/-- Where the name is taken, the type that has it is what was declared: it was
declared alike, and bases of one name are one type. -/
theorem Realizes.shape_of_bound (realizes : r.Realizes seen) (closed : r.Closed)
    (compatible : Compatible r.policy (declaration :: seen)) {base? : Option Descriptor}
    (named : base?.map Descriptor.name = declaration.base?)
    (bound : ∀ base, base? = some base → r.lookup base.name = some base) {d : Descriptor}
    (found : r.lookup declaration.name = some d) :
    d.base? = base? ∧ d.fields = declaration.fields := by
  obtain ⟨earlier, member, same⟩ := realizes.only found
  obtain ⟨e, found', base, fields⟩ := realizes.bound earlier member
  rw [same] at found'
  obtain rfl : d = e := Option.some.inj (found.symm.trans found')
  obtain ⟨bases, alike⟩ := compatible.agree declaration List.mem_cons_self earlier
    (List.mem_cons_of_mem _ member) same.symm
  refine ⟨?_, fields.trans alike.symm⟩
  apply eq_of_name_eq (fun _ above => closed.based found above) bound
  rw [base, named, bases]

/-- One more declaration is not refused, and the registry realizes it as well. -/
theorem Realizes.define (realizes : r.Realizes seen) (closed : r.Closed)
    (compatible : Compatible r.policy (declaration :: seen))
    (based : ∀ base ∈ declaration.base?, base ∈ seen.map Declaration.name)
    (store : Arena Descriptor) :
    ∃ definition d, r.definition? declaration = some definition ∧
      (r.define store definition).answer = .ok d ∧
      (r.define store definition).registry.lookup declaration.name = some d ∧
      (r.define store definition).registry.Realizes (declaration :: seen) := by
  obtain ⟨base?, meant, named, bound⟩ := realizes.definition? closed based
  have permits : r.Permits (declaration.on base?) := by
    refine ⟨compatible.wellFormed declaration List.mem_cons_self, ?_⟩
    intro root
    apply compatible.allowed declaration List.mem_cons_self
    rw [← named, show base? = none from root]
    rfl
  cases found : r.lookup declaration.name with
  | none =>
      have fresh : r.judge (declaration.on base?) = .fresh := judge_eq_fresh_iff.2 ⟨permits, found⟩
      obtain ⟨entered, realizes'⟩ := realizes.enter named fresh store
      refine ⟨_, _, meant, ?_, entered, realizes'⟩
      rw [define_of_fresh fresh]
      rfl
  | some d =>
      obtain ⟨base, fields⟩ := realizes.shape_of_bound closed compatible named bound found
      have known : r.judge (declaration.on base?) = .known d := by
        refine judge_eq_known_iff.2 ⟨permits, found, ?_, fields⟩
        rw [base]
        exact Descriptor.sameBase_iff.2 rfl
      have kept : (r.define store (declaration.on base?)).registry = r :=
        (define_of_ne_fresh (by simp [known])).1
      refine ⟨_, d, meant, ?_, ?_, ?_⟩
      · simp only [Registry.define, known]
      · rw [kept, found]
      · rw [kept]
        exact realizes.extend (.refl r) found (by rw [base, named]) fields fun found => .inl found

end Registry

namespace TypeSystem

variable {s t : TypeSystem} {ref place : RegistryRef} {r : Registry} {policy : RootPolicy}
  {family order order' seen : List Declaration}

theorem Sound.distinct (sound : s.Sound) (here : s.registryAt ref = some r) : r.Distinct := by
  intro x y a b found found' same
  exact sound.numbered.eq_of_same (sound.filed_at here found).1 (sound.filed_at here found').1 same

/-- What became of declarations that were all answered with a type. -/
structure Accepts (ref : RegistryRef) (order family : List Declaration)
    (done : List (RegistryRef × Option (Except Error Descriptor)) × TypeSystem)
    (r : Registry) : Prop where
  here : done.2.registryAt ref = some r
  closed : r.Closed
  answers : done.1 = order.map fun declaration =>
    (ref, (r.lookup declaration.name).map Except.ok)
  realizes : r.Realizes family

/-- Declarations with bases first are all accepted.  The induction is on the
order; what was declared so far is realized. -/
theorem accepts_declareAll (here : s.registryAt ref = some r) (closed : r.Closed)
    (realizes : r.Realizes seen) (compatible : Compatible r.policy (order ++ seen))
    (basesFirst : BasesFirst (seen.map Declaration.name) order) :
    ∃ last, Accepts ref order (order.reverse ++ seen)
      (s.declareAll (order.map (Prod.mk ref))) last := by
  induction order generalizing s r seen with
  | nil => exact ⟨r, here, closed, rfl, realizes⟩
  | cons declaration rest ih =>
      obtain ⟨based, later⟩ := basesFirst
      have first : Compatible r.policy (declaration :: seen) := by
        apply compatible.of_subset
        intro other member
        simp only [List.mem_cons, List.cons_append, List.mem_append] at member ⊢
        tauto
      obtain ⟨definition, d, meant, answer, found, realizes'⟩ :=
        realizes.define closed first based s.store
      have same := declare_of_meant here meant
      have here' : (s.declare ref declaration).2.registryAt ref =
          some (r.define s.store definition).registry := by
        rw [same, registryAt_settle here, if_pos rfl]
      have closed' := closed.define s.store meant
      have grown := r.extends_define s.store definition
      have compatible' : Compatible (r.define s.store definition).registry.policy
          (rest ++ declaration :: seen) := by
        rw [grown.policy]
        apply compatible.of_subset
        intro other member
        simp only [List.mem_cons, List.cons_append, List.mem_append] at member ⊢
        tauto
      obtain ⟨last, accepts⟩ := ih here' closed' realizes' compatible' later
      obtain ⟨last', here'', kept, _⟩ :=
        closed_declareAll here' closed' (rest.map (Prod.mk ref))
      obtain rfl : last = last' := Option.some.inj (accepts.here.symm.trans here'')
      refine ⟨last, accepts.here, accepts.closed, ?_, ?_⟩
      · rw [List.map_cons, List.map_cons, declareAll, accepts.answers, kept.lookup found, same,
          answer]
        rfl
      · rw [List.reverse_cons, List.append_assoc]
        exact accepts.realizes

theorem Accepts.succeeds
    {done : List (RegistryRef × Option (Except Error Descriptor)) × TypeSystem}
    (accepts : Accepts ref order family done r) (orders : Orders family order)
    {answer : RegistryRef × Option (Except Error Descriptor)} (given : answer ∈ done.1) :
    ∃ d, answer.2 = some (.ok d) := by
  rw [accepts.answers] at given
  obtain ⟨declaration, member, rfl⟩ := List.mem_map.1 given
  obtain ⟨d, found, _⟩ := accepts.realizes.bound declaration ((orders.members declaration).1 member)
  exact ⟨d, by rw [found]; rfl⟩

theorem accepts_of_orders (orders : Orders family order) (compatible : Compatible policy family)
    (here : s.registryAt ref = some (.empty policy)) :
    ∃ r, Accepts ref order family (s.declareAll (order.map (Prod.mk ref))) r := by
  have compatible' : Compatible policy (order ++ []) := by
    apply compatible.of_subset
    intro declaration member
    rw [List.append_nil] at member
    exact (orders.members declaration).1 member
  obtain ⟨r, accepts⟩ := accepts_declareAll here (Registry.closed_empty policy)
    (Registry.realizes_empty policy) compatible' orders.basesFirst
  refine ⟨r, accepts.here, accepts.closed, accepts.answers, accepts.realizes.congr ?_⟩
  intro declaration
  rw [List.append_nil, List.mem_reverse]
  exact orders.members declaration

/-- The order does not matter.  However the declarations of a family are ordered
and repeated, as long as bases come first, all of them are answered with the type
that has the name in the end, and the registries have the same types up to identity. -/
theorem orders_agree (reachable : s.Reachable) (reachable' : t.Reachable)
    (here : s.registryAt ref = some (.empty policy))
    (there : t.registryAt place = some (.empty policy)) (compatible : Compatible policy family)
    (orders : Orders family order) (orders' : Orders family order') :
    let done := s.declareAll (order.map (Prod.mk ref))
    let done' := t.declareAll (order'.map (Prod.mk place))
    (∀ answer ∈ done.1 ++ done'.1, ∃ d, answer.2 = some (.ok d)) ∧
      ∃ r r', Accepts ref order family done r ∧ Accepts place order' family done' r' ∧
        r.Resembles r' := by
  intro done done'
  obtain ⟨r, accepts⟩ := accepts_of_orders orders compatible here
  obtain ⟨r', accepts'⟩ := accepts_of_orders orders' compatible there
  have sound := (reachable.sound.leads_declareAll (order.map (Prod.mk ref))).sound reachable.sound
  have sound' :=
    (reachable'.sound.leads_declareAll (order'.map (Prod.mk place))).sound reachable'.sound
  refine ⟨?_, r, r', accepts, accepts', ?_⟩
  · intro answer given
    rcases List.mem_append.1 given with given | given
    · exact accepts.succeeds orders given
    · exact accepts'.succeeds orders' given
  · exact Registry.resembles accepts.closed accepts'.closed (sound.distinct accepts.here)
      (sound'.distinct accepts'.here) accepts.realizes accepts'.realizes

/-- A base, two types on top of it, and a root of its own. -/
def smallFamily : List Declaration :=
  [{ name := "Base" }, { name := "Left", base? := some "Base", fields := [⟨"x", "int"⟩] },
    { name := "Right", base? := some "Base" }, { name := "Apart" }]

/-- Another order, with declarations repeated. -/
def smallFamilyMixed : List Declaration :=
  [{ name := "Apart" }, { name := "Base" }, { name := "Right", base? := some "Base" },
    { name := "Base" }, { name := "Left", base? := some "Base", fields := [⟨"x", "int"⟩] },
    { name := "Right", base? := some "Base" }]

/-- The types have other numbers in the other order, and the registries resemble each other. -/
theorem orders_agree_smallFamily :
    let s := ((start {}).performAll [.addRegistry .any]).2
    let done := s.declareAll (smallFamily.map (Prod.mk (.isolated 0)))
    let done' := s.declareAll (smallFamilyMixed.map (Prod.mk (.isolated 0)))
    s.Reachable ∧ Compatible .any smallFamily ∧ Orders smallFamily smallFamily ∧
      Orders smallFamily smallFamilyMixed ∧
      (∃ r r', done.2.registryAt (.isolated 0) = some r ∧
        done'.2.registryAt (.isolated 0) = some r' ∧ r.Resembles r') ∧
      done.2.store.toList.map Descriptor.name = ["Base", "Left", "Right", "Apart"] ∧
      done'.2.store.toList.map Descriptor.name = ["Apart", "Base", "Right", "Left"] := by
  intro s done done'
  have reachable : s.Reachable := reachable_performAll (by decide +kernel)
  have here : s.registryAt (.isolated 0) = some (.empty .any) := rfl
  have compatible : Compatible .any smallFamily :=
    ⟨by decide +kernel, by decide +kernel, by decide +kernel⟩
  have orders : Orders smallFamily smallFamily := ⟨fun _ => .rfl, by decide +kernel⟩
  have mixed : Orders smallFamily smallFamilyMixed := by
    refine ⟨?_, by decide +kernel⟩
    intro declaration
    simp only [smallFamily, smallFamilyMixed, List.mem_cons, List.not_mem_nil, or_false]
    tauto
  obtain ⟨_, r, r', accepts, accepts', resembles⟩ :=
    orders_agree reachable reachable here here compatible orders mixed
  exact ⟨reachable, compatible, orders, mixed, ⟨r, r', accepts.here, accepts'.here, resembles⟩,
    by decide +kernel, by decide +kernel⟩

end TypeSystem

end RuntimeTypes
