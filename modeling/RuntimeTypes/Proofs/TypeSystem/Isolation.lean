import RuntimeTypes.Proofs.Registry.Mirrors
import RuntimeTypes.Proofs.TypeSystem.Ancestry
import RuntimeTypes.Proofs.TypeSystem.Declarations

/-!
Registries side by side.  They share one store and nothing else: what a registry
answers in a script for many is what it answers to its own part alone, under
other numbers.
-/

namespace RuntimeTypes

/-- No type of the one registry is a type of the other, or above or below one. -/
def Registry.Apart (r r' : Registry) : Prop :=
  ∀ ⦃name name' d d'⦄, r.lookup name = some d → r'.lookup name' = some d' →
    d.same d' = false ∧ d.isSubtypeOf d' = false ∧ d'.isSubtypeOf d = false

namespace TypeSystem

variable {f g : Equiv.Perm Nat} {s t : TypeSystem} {ref place : RegistryRef} {r r' : Registry}

/-- A registry in one state, and a registry in another state that mirrors it. -/
structure Twins (f : Equiv.Perm Nat) (s : TypeSystem) (ref : RegistryRef) (r : Registry)
    (t : TypeSystem) (place : RegistryRef) (r' : Registry) : Prop where
  sound : s.Sound
  sound' : t.Sound
  here : s.registryAt ref = some r
  there : t.registryAt place = some r'
  closed : r.Closed
  mirrors : r.Mirrors f r'

theorem Sound.serial_ne (sound : s.Sound) (here : s.registryAt ref = some r) {name : String}
    {d : Descriptor} (found : r.lookup name = some d) : d.serial ≠ s.store.size :=
  Nat.ne_of_lt (sound.numbered.serial_lt (sound.filed_at here found).1)

/-- A declaration for the two registries. -/
theorem Twins.declare_own (twins : Twins f s ref r t place r') (declaration : Declaration) :
    ∃ g later later', r.Agree f g ∧ r.Extends later ∧
      Twins g (s.declare ref declaration).2 ref later (t.declare place declaration).2 place
        later' ∧
      (t.declare place declaration).1 =
        (s.declare ref declaration).1.map (Except.map (Descriptor.rename g)) := by
  have sound := (twins.sound.leads_declare ref declaration).sound twins.sound
  have sound' := (twins.sound'.leads_declare place declaration).sound twins.sound'
  have meant' := twins.mirrors.definition? declaration
  cases meant : r.definition? declaration with
  | none =>
      rw [meant] at meant'
      have same := declare_of_unmeant twins.here meant
      have same' := declare_of_unmeant twins.there meant'
      refine ⟨f, r, r', .refl r f, .refl r, ?_, ?_⟩
      · rwa [same, same']
      · rw [same, same']
        rfl
  | some definition =>
      rw [meant] at meant'
      have same := declare_of_meant twins.here meant
      have same' := declare_of_meant twins.there meant'
      obtain ⟨g, agree, mirrors, answers⟩ := twins.mirrors.define twins.closed meant
        (twins.sound.serial_ne twins.here) (twins.sound'.serial_ne twins.there)
      refine ⟨g, _, _, agree, r.extends_define s.store definition, ⟨sound, sound', ?_, ?_,
        twins.closed.define s.store meant, mirrors⟩, ?_⟩
      · rw [same, registryAt_settle twins.here, if_pos rfl]
      · rw [same', registryAt_settle twins.there, if_pos rfl]
      · rw [same, same', answers]
        rfl

/-- A declaration for a registry that is none of the two. -/
theorem Twins.declare_other (twins : Twins f s ref r t place r') {other : RegistryRef}
    (ne : other ≠ ref) (declaration : Declaration) :
    Twins f (s.declare other declaration).2 ref r t place r' :=
  { twins with
    sound := (twins.sound.leads_declare other declaration).sound twins.sound
    here := (registryAt_declare_of_ne ne.symm).trans twins.here }

/-- What was done alone for one registry shows what was done for another among
many: the answers, and the registry afterwards.  A renaming is one to one, so
answers are the same type on the one side where they are on the other. -/
structure StandsAlone (f : Equiv.Perm Nat) (ref : RegistryRef)
    (done : List (RegistryRef × Option (Except Error Descriptor)) × TypeSystem)
    (place : RegistryRef)
    (alone : List (RegistryRef × Option (Except Error Descriptor)) × TypeSystem) : Prop where
  answers : own place alone.1 =
    (own ref done.1).map (Option.map (Except.map (Descriptor.rename f)))
  registries : ∃ r r', done.2.registryAt ref = some r ∧ alone.2.registryAt place = some r' ∧
    r.Mirrors f r'

theorem Twins.standsAlone (twins : Twins f s ref r t place r') (agree : r.Agree f g) :
    StandsAlone g ref (s.declareAll []) place (t.declareAll []) :=
  ⟨rfl, r, r', twins.here, twins.there, twins.mirrors.congr agree⟩

/-- A later renaming does the same to an answer, since the type is registered by then. -/
theorem rename_answer (here : s.registryAt ref = some r) (closed : r.Closed)
    {declaration : Declaration} {later : Registry}
    (after : (s.declare ref declaration).2.registryAt ref = some later) (agree : later.Agree f g) :
    (s.declare ref declaration).1.map (Except.map (Descriptor.rename f)) =
      (s.declare ref declaration).1.map (Except.map (Descriptor.rename g)) := by
  apply Option.map_congr
  intro answer given
  cases answer with
  | error e => rfl
  | ok d => exact congrArg Except.ok (agree (lookup_of_declare here closed given after)).symm

/-- One renaming does for all beginnings of a script. -/
theorem Twins.declareAll (twins : Twins f s ref r t place r') (script : Script) :
    ∃ g, r.Agree f g ∧ ∀ n, StandsAlone g ref (s.declareAll (script.take n)) place
      (t.declareAll (Script.solo (script.take n) ref place)) := by
  induction script generalizing f s t r r' with
  | nil =>
      refine ⟨f, .refl r f, ?_⟩
      intro n
      rw [List.take_nil]
      exact twins.standsAlone (.refl r f)
  | cons entry rest ih =>
      obtain ⟨other, declaration⟩ := entry
      by_cases same : other = ref
      · subst same
        obtain ⟨g, later, later', agree, grown, twins', answer⟩ := twins.declare_own declaration
        obtain ⟨last, agree', alone⟩ := ih twins'
        have kept := agree.trans grown agree'
        refine ⟨last, kept, ?_⟩
        intro n
        cases n with
        | zero => exact twins.standsAlone kept
        | succ n =>
            rw [rename_answer twins.here twins.closed twins'.here agree'] at answer
            rw [List.take_succ_cons, Script.solo, own_cons_self, List.map_cons]
            refine ⟨?_, (alone n).registries⟩
            simp only [TypeSystem.declareAll, own_cons_self, List.map_cons, answer]
            exact congrArg _ (alone n).answers
      · obtain ⟨g, agree, alone⟩ := ih (twins.declare_other same declaration)
        refine ⟨g, agree, ?_⟩
        intro n
        cases n with
        | zero => exact twins.standsAlone agree
        | succ n =>
            rw [List.take_succ_cons, Script.solo, own_cons_of_ne ref same]
            refine ⟨?_, (alone n).registries⟩
            simp only [TypeSystem.declareAll, own_cons_of_ne ref same]
            exact (alone n).answers

/-- Registries that have the chains of their types have no chain in common. -/
theorem Reachable.apart (reachable : s.Reachable) {other : RegistryRef}
    (here : s.registryAt ref = some r) (there : s.registryAt other = some r')
    (closed : r.Closed) (closed' : r'.Closed) (distinct : ref ≠ other) : r.Apart r' := by
  have sound := reachable.sound
  have ne : ∀ {name name' d d'}, r.lookup name = some d → r'.lookup name' = some d' → d ≠ d' := by
    rintro name name' d _ found found' rfl
    exact distinct (reachable.filedOnce (inUse?_of_lookup here found)
      (inUse?_of_lookup there found') found found')
  intro name name' d d' found found'
  have held := (sound.filed_at here found).1
  have held' := (sound.filed_at there found').1
  refine ⟨?_, ?_, ?_⟩
  · rw [Bool.eq_false_iff, ne_eq, sound.numbered.same_iff held held']
    exact ne found found'
  · rw [Bool.eq_false_iff, ne_eq, sound.numbered.isSubtypeOf_iff held held']
    intro above
    exact ne (closed.lookup_of_mem_chain found above) found' rfl
  · rw [Bool.eq_false_iff, ne_eq, sound.numbered.isSubtypeOf_iff held' held]
    intro above
    exact ne found (closed'.lookup_of_mem_chain found' above) rfl

/-- Registries are isolated.  In any script for many registries, what one of them
answers, and what it shows after each declaration, is what a registry of the same
policy answers and shows to that part of the script alone, under one renaming of
identities; and the types that it answers with are none of another registry, and
neither above nor below them. -/
theorem registries_isolated (reachable : s.Reachable) (reachable' : t.Reachable)
    {policy : RootPolicy} (here : s.registryAt ref = some (.empty policy))
    (there : t.registryAt place = some (.empty policy)) (script : Script) :
    (∃ f, ∀ n, StandsAlone f ref (s.declareAll (script.take n)) place
      (t.declareAll (Script.solo (script.take n) ref place))) ∧
    ∃ r, (s.declareAll script).2.registryAt ref = some r ∧
      (∀ d, some (.ok d) ∈ own ref (s.declareAll script).1 → r.lookup d.name = some d) ∧
      ∀ other policy', ref ≠ other → s.registryAt other = some (.empty policy') →
        ∃ r', (s.declareAll script).2.registryAt other = some r' ∧ r.Apart r' := by
  have twins : Twins (Equiv.refl Nat) s ref (.empty policy) t place (.empty policy) :=
    ⟨reachable.sound, reachable'.sound, here, there, Registry.closed_empty policy,
      Registry.mirrors_empty _ policy⟩
  obtain ⟨f, _, alone⟩ := twins.declareAll script
  have after := reachable.leads (reachable.sound.leads_declareAll script)
  obtain ⟨r, found, _, closed⟩ := closed_declareAll here (Registry.closed_empty policy) script
  refine ⟨⟨f, alone⟩, r, found, ?_, ?_⟩
  · intro d answered
    exact lookup_of_declareAll here (Registry.closed_empty policy) answered found
  · intro other policy' distinct empty
    obtain ⟨r', found', _, closed'⟩ :=
      closed_declareAll empty (Registry.closed_empty policy') script
    exact ⟨r', found', after.apart found found' closed closed' distinct⟩

/-- A program with two registries, and one with a single registry. -/
def twoRegistries : TypeSystem :=
  ((start {}).performAll [.addRegistry .any, .addRegistry (.designated ["Type"])]).2

def oneRegistry : TypeSystem :=
  ((start {}).performAll [.addRegistry .any]).2

/-- The same names in both registries, and a refusal. -/
def sameNames : Script :=
  [(.isolated 0, { name := "Type" }), (.isolated 1, { name := "Type" }),
    (.isolated 1, { name := "Upper", base? := some "Type" }),
    (.isolated 0, { name := "Upper", base? := some "Type" }),
    (.isolated 0, { name := "Upper" })]

/-- The second type of the first registry is the fourth in the store, and the
second where the registry is alone. -/
theorem registries_isolated_sameNames :
    twoRegistries.Reachable ∧ oneRegistry.Reachable ∧
      own (.isolated 0) (twoRegistries.declareAll sameNames).1 =
        [some (.ok (.root 0 ⟨"Type", [], none⟩)),
          some (.ok (.derived 3 ⟨"Upper", [], none⟩ (.root 0 ⟨"Type", [], none⟩))),
          some (.error (.duplicateType "Upper" "Type" "<none>"))] ∧
      (∃ f : Equiv.Perm Nat, f 0 = 0 ∧ f 3 = 1 ∧
        StandsAlone f (.isolated 0) (twoRegistries.declareAll sameNames) (.isolated 0)
          (oneRegistry.declareAll (sameNames.solo (.isolated 0) (.isolated 0)))) ∧
      ∃ r r', (twoRegistries.declareAll sameNames).2.registryAt (.isolated 0) = some r ∧
        (twoRegistries.declareAll sameNames).2.registryAt (.isolated 1) = some r' ∧
        r.Apart r' := by
  have reachable : twoRegistries.Reachable := reachable_performAll (by decide +kernel)
  have reachable' : oneRegistry.Reachable := reachable_performAll (by decide +kernel)
  have here : twoRegistries.registryAt (.isolated 0) = some (.empty .any) := rfl
  have there : oneRegistry.registryAt (.isolated 0) = some (.empty .any) := rfl
  obtain ⟨⟨f, alone⟩, r, found, _, others⟩ :=
    registries_isolated reachable reachable' here there sameNames
  obtain ⟨r', found', apart⟩ := others (.isolated 1) _ (by decide) rfl
  have among : own (.isolated 0) (twoRegistries.declareAll sameNames).1 =
      [some (.ok (.root 0 ⟨"Type", [], none⟩)),
        some (.ok (.derived 3 ⟨"Upper", [], none⟩ (.root 0 ⟨"Type", [], none⟩))),
        some (.error (.duplicateType "Upper" "Type" "<none>"))] := by
    decide +kernel
  have single : own (.isolated 0)
      (oneRegistry.declareAll (sameNames.solo (.isolated 0) (.isolated 0))).1 =
      [some (.ok (.root 0 ⟨"Type", [], none⟩)),
        some (.ok (.derived 1 ⟨"Upper", [], none⟩ (.root 0 ⟨"Type", [], none⟩))),
        some (.error (.duplicateType "Upper" "Type" "<none>"))] := by
    decide +kernel
  have whole : StandsAlone f (.isolated 0) (twoRegistries.declareAll sameNames) (.isolated 0)
      (oneRegistry.declareAll (sameNames.solo (.isolated 0) (.isolated 0))) :=
    alone sameNames.length
  have renamed := whole.answers
  simp only [single, among, List.map_cons, Option.map_some, Except.map, Descriptor.rename,
    List.cons.injEq, Option.some.injEq, Except.ok.injEq, Descriptor.root.injEq,
    Descriptor.derived.injEq] at renamed
  exact ⟨reachable, reachable', among, ⟨f, renamed.1.1.symm, renamed.2.1.1.symm, whole⟩, r, r',
    found, found', apart⟩

end TypeSystem

end RuntimeTypes
