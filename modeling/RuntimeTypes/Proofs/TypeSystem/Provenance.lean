import RuntimeTypes.Proofs.TypeSystem.Footprint
import RuntimeTypes.Proofs.TypeSystem.Runs

/-!
Where types come from.  A type is made by one operation: by a definition of the
program, or by a class that becomes known and meets a free name.  It keeps the
handle that it was made with.
-/

namespace RuntimeTypes

namespace Registry

/-- What a definition stores is what it makes of a free name. -/
theorem mem_store_define {r : Registry} {store : Arena Descriptor} {definition : Definition}
    {d : Descriptor} (stored : d ∈ (r.define store definition).store.toList) :
    d ∈ store.toList ∨ r.judge definition = .fresh ∧ d = made store definition := by
  rcases r.store_define store definition with kept | ⟨fresh, grown⟩
  · exact .inl (kept ▸ stored)
  · rw [grown, Arena.toList_alloc, List.mem_append, List.mem_singleton] at stored
    exact stored.imp_right fun new => ⟨fresh, new⟩

@[simp] theorem handle?_made (store : Arena Descriptor) (definition : Definition) :
    (made store definition).handle? = definition.handle? := by
  simp [made, Descriptor.handle?, Definition.info]

end Registry

namespace TypeSystem

variable {s t u : TypeSystem} {c : ExceptionClass} {d : Descriptor}

/-- Between two states a class became known, and its definition met a free name
and made the type. -/
structure MadeByClass (s t : TypeSystem) (c : ExceptionClass) (d : Descriptor) : Prop where
  unknown : s.known? c = none
  known : t.known? c = some (.ok d)
  made : ∃ (u : TypeSystem) (base? : Option Descriptor), s.Extends u ∧ u.Extends t ∧
    u.globalRegistry.judge (classDefinition c base?) = .fresh ∧
      d = Registry.made u.store (classDefinition c base?)

theorem MadeByClass.handle? (made : MadeByClass s t c d) : d.handle? = some (.ofClass c) := by
  obtain ⟨u, base?, _, _, _, rfl⟩ := made.made
  exact Registry.handle?_made _ _

theorem MadeByClass.mono {s' t' : TypeSystem} (made : MadeByClass s t c d) (before : s'.Extends s)
    (after : t.Extends t') : MadeByClass s' t' c d where
  unknown := by
    by_contra known
    obtain ⟨outcome, known⟩ := Option.ne_none_iff_exists'.1 known
    cases made.unknown.symm.trans (before.known known)
  known := after.known made.known
  made := by
    obtain ⟨u, base?, first, second, fresh, new⟩ := made.made
    exact ⟨u, base?, before.trans first, second.trans after, fresh, new⟩

/-- From one state to a later one, only classes made types. -/
structure OnlyClasses (s t : TypeSystem) : Prop where
  grown : s.Extends t
  new : ∀ d, t.Holds d → s.Holds d ∨ ∃ c, MadeByClass s t c d

namespace OnlyClasses

theorem of_store (grown : s.Extends t) (same : t.store.toList = s.store.toList) :
    s.OnlyClasses t where
  grown := grown
  new d held := .inl (by rwa [Holds, same] at held)

theorem refl (s : TypeSystem) : s.OnlyClasses s :=
  .of_store (.refl s) rfl

theorem trans (first : s.OnlyClasses t) (second : t.OnlyClasses u) : s.OnlyClasses u where
  grown := first.grown.trans second.grown
  new d held := by
    rcases second.new d held with held | ⟨c, made⟩
    · rcases first.new d held with held | ⟨c, made⟩
      · exact .inl held
      · exact .inr ⟨c, made.mono (.refl s) second.grown⟩
    · exact .inr ⟨c, made.mono first.grown (.refl u)⟩

theorem report (s : TypeSystem) (event : Event) : s.OnlyClasses (s.report event) := by
  have grown := (Step.report s event).extends
  rw [report_eq] at grown ⊢
  exact .of_store grown rfl

theorem openWith (s : TypeSystem) (config : Config) : s.OnlyClasses (s.openWith config) :=
  .of_store (extends_openWith s config) (store_toList_openWith s config)

theorem registerClass (unknown : s.known? c = none) (base? : Option Descriptor) :
    s.OnlyClasses (s.registerClass c base?).2 where
  grown := (registers_registerClass unknown base?).grown
  new d held := by
    have stored : d ∈ (s.globalRegistry.define s.store
        (classDefinition c base?)).store.toList := by
      rwa [← store_settle s .global]
    apply (Registry.mem_store_define stored).imp_right
    rintro ⟨fresh, rfl⟩
    refine ⟨c, unknown, ?_, s, base?, .refl s, (registers_registerClass unknown base?).grown,
      fresh, rfl⟩
    rw [known?_registerClass, if_pos rfl, registerClass_of_fresh fresh]

theorem descriptorOf (s : TypeSystem) (c : ExceptionClass) :
    s.OnlyClasses (s.descriptorOf c).2 := by
  fun_induction TypeSystem.descriptorOf s c with
  | case1 | case3 => exact .refl s
  | case2 unknown => exact registerClass unknown none
  | case4 ident typeName base c unknown e t request ih =>
      rw [request] at ih
      have unknown' := unknown_of_request request unknown
      exact ih.trans (.of_store (extends_remember unknown' (.error e)) rfl)
  | case5 ident typeName base c unknown d t request ih =>
      rw [request] at ih
      exact ih.trans (registerClass (unknown_of_request request unknown) (some d))

/-- What is built from requests makes types as requests do. -/
theorem request (c : ExceptionClass) (both : t = u ∧ s.OnlyClasses t) :
    Matches (fun t u => t = u ∧ s.OnlyClasses t) (t.descriptorOf c) (u.descriptorOf c) := by
  apply matches_of_keeps _ c both
  intro t c before
  exact before.trans (descriptorOf t c)

theorem registerBuiltins (s : TypeSystem) (policy : InitPolicy) :
    s.OnlyClasses (s.registerBuiltins policy).2 := by
  cases policy with
  | onDemand => exact .refl s
  | eager =>
      exact (matches_registerAll request ExceptionClass.builtins ⟨rfl, .refl s⟩).state.2

theorem configure (sound : s.Sound) (config : Config) : s.OnlyClasses (s.configure config).2 := by
  have levelled : (s.openWith config).OnlyClasses
      ((s.openWith config).setLevel config.logLevel) :=
    .of_store (Step.setLogger _ _).extends rfl
  have registering := ((openWith s config).trans levelled).trans
    (registerBuiltins ((s.openWith config).setLevel config.logLevel) config.initPolicy)
  have kept := (steps_registerBuiltins sound config).config?_eq
  have outcome := sound.configures config
  generalize s.configure config = done at outcome ⊢
  cases outcome with
  | again => exact .refl s
  | storeInUse | policyInUse => exact report s _
  | failed first fits registered =>
      rw [registered] at registering
      exact registering
  | @done t first fits registered =>
      rw [registered] at registering kept
      have reported := registering.trans
        (report t (.initialized config.initPolicy t.globalRegistry.size))
      refine reported.trans (.of_store (.of_fields rfl rfl rfl rfl fun set => ?_) rfl)
      rw [report_eq] at set
      cases (kept.trans first).symm.trans set

/-- Every operation but a definition leaves it to classes to make types. -/
theorem perform (sound : s.Sound) {op : Operation}
    (other : ∀ ref definition, op ≠ .define ref definition) :
    s.OnlyClasses (s.perform op).2 := by
  cases op with
  | addRegistry policy => exact .of_store (extends_addRegistry s policy) rfl
  | touch ref =>
      cases ref with
      | global => exact openWith s {}
      | isolated index => exact .refl s
  | define ref definition => exact absurd rfl (other ref definition)
  | describe c => exact descriptorOf s c
  | require c =>
      have requested := descriptorOf s c
      simp only [TypeSystem.perform, requireDescriptor]
      split
      case h_1 asked => simpa only [asked] using requested
      case h_2 e t asked =>
          rw [asked] at requested
          exact requested.trans (report t (.classFailed e))
  | construct c => exact (matches_construct request c ⟨rfl, .refl s⟩).state.2
  | instantiate host d => exact (matches_instantiate request host d ⟨rfl, .refl s⟩).state.2
  | downcast x c => exact (matches_downcast request x c ⟨rfl, .refl s⟩).state.2
  | configure config => exact configure sound config
  | setLevel level => exact .of_store (Step.setLogger s _).extends rfl
  | setColored colored => exact .of_store (Step.setLogger s _).extends rfl
  | emit level target text => exact report s _

end OnlyClasses

/-- An operation of the history of a state made a type: the type was not stored
before it, and is stored since. -/
structure MadeIn (s : TypeSystem) (d : Descriptor) (before : TypeSystem) (op : Operation) :
    Prop where
  reachable : before.Reachable
  admitted : before.Admits op
  absent : ¬ before.Holds d
  stored : (before.perform op).2.Holds d
  since : (before.perform op).2.Leads s

/-- The handle in the first definition of a type, which is one of the program,
or that of a class. -/
inductive FirstHandle (d : Descriptor) (before : TypeSystem) (op : Operation) :
    Option Constructor → Prop
  | defined {ref : RegistryRef} {definition : Definition} (asked : op = .define ref definition)
      (answered : (before.perform op).1 = .type (.ok d)) :
      FirstHandle d before op definition.handle?
  | registered {c : ExceptionClass} (made : MadeByClass before (before.perform op).2 c d) :
      FirstHandle d before op (some (.ofClass c))

theorem Leads.exists_madeIn {environment : Environment} (leads : (start environment).Leads s)
    (held : s.Holds d) : ∃ before op, s.MadeIn d before op := by
  induction leads with
  | refl => simp [Holds, start, store] at held
  | @step t op before admitted ih =>
      by_cases earlier : t.Holds d
      · obtain ⟨first, made, origin⟩ := ih earlier
        exact ⟨first, made, { origin with since := .step origin.since admitted }⟩
      · exact ⟨t, op, ⟨environment, before⟩, admitted, earlier, held, .refl⟩

theorem madeIn_of_run {environment : Environment} {ops : List Operation} {op : Operation} {i : Nat}
    (admitted : (start environment).AdmitsAll ops) (here : ops[i]? = some op)
    (absent : ¬ ((start environment).stateAt ops i).Holds d)
    (stored : (((start environment).stateAt ops i).perform op).2.Holds d) :
    MadeIn ((start environment).performAll ops).2 d ((start environment).stateAt ops i) op where
  reachable := ⟨environment, leads_stateAt_self admitted i⟩
  admitted := admits_at admitted here
  absent := absent
  stored := stored
  since := leads_to_last admitted here

/-- A type that a definition made is what it answered, and has its handle. -/
theorem answer_define_of_new {ref : RegistryRef} {definition : Definition}
    (absent : ¬ s.Holds d) (stored : (s.perform (.define ref definition)).2.Holds d) :
    (s.perform (.define ref definition)).1 = .type (.ok d) ∧ d.handle? = definition.handle? := by
  simp only [perform, define?] at stored ⊢
  cases here : s.registryAt ref with
  | none =>
      rw [here] at stored
      exact absurd stored absent
  | some r =>
      rw [here] at stored
      have stored : d ∈ (r.define s.store definition).store.toList := by
        rwa [← store_settle s ref]
      obtain ⟨fresh, rfl⟩ := (Registry.mem_store_define stored).resolve_left absent
      refine ⟨?_, Registry.handle?_made _ _⟩
      simp only [Option.map_some, settle, Registry.define_of_fresh fresh]
      rfl

theorem MadeIn.firstHandle {before : TypeSystem} {op : Operation} (origin : s.MadeIn d before op) :
    FirstHandle d before op d.handle? := by
  by_cases defining : ∃ ref definition, op = .define ref definition
  · obtain ⟨ref, definition, rfl⟩ := defining
    obtain ⟨answered, handle⟩ := answer_define_of_new origin.absent origin.stored
    rw [handle]
    exact .defined rfl answered
  · have only := OnlyClasses.perform origin.reachable.sound
      fun ref definition same => defining ⟨ref, definition, same⟩
    obtain ⟨c, made⟩ := (only.new d origin.stored).resolve_left origin.absent
    rw [made.handle?]
    exact .registered made

/-- The type carries the handle that came with its first definition. -/
theorem MadeIn.handle?_eq {before : TypeSystem} {op : Operation} {handle? : Option Constructor}
    (origin : s.MadeIn d before op) (first : FirstHandle d before op handle?) :
    d.handle? = handle? := by
  cases first with
  | defined asked answered =>
      subst asked
      exact (answer_define_of_new origin.absent origin.stored).2
  | registered made => exact made.handle?

end TypeSystem

end RuntimeTypes
