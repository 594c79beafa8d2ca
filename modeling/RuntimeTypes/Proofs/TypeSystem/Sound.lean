import Mathlib.Algebra.BigOperators.Group.List.Basic
import Mathlib.Algebra.Ring.Nat
import RuntimeTypes.Proofs.TypeSystem.Growth

/-!
The invariant of the state: serial numbers are places in the store, tables hold
what the store holds, and what is known of a class has its reason.
-/

namespace RuntimeTypes

/-- The store of descriptors: serial numbers count from zero, bases come first. -/
structure Numbered (store : Arena Descriptor) : Prop where
  serial : ∀ {i : Nat} {d : Descriptor}, store.toList[i]? = some d → d.serial = i
  size : store.size = store.toList.length
  base : ∀ {d b : Descriptor}, d ∈ store.toList → d.base? = some b →
    b ∈ store.toList ∧ b.serial < d.serial

namespace Numbered

variable {store : Arena Descriptor}

theorem ofChunkSize (requested : Nat) : Numbered (.ofChunkSize requested) where
  serial found := by simp at found
  size := rfl
  base held := by simp at held

/-- In the store there is one descriptor to a serial number. -/
theorem eq_of_same (numbered : Numbered store) {d e : Descriptor} (first : d ∈ store.toList)
    (second : e ∈ store.toList) (same : d.same e = true) : d = e := by
  obtain ⟨i, found⟩ := List.mem_iff_getElem?.1 first
  obtain ⟨j, found'⟩ := List.mem_iff_getElem?.1 second
  have serials : d.serial = e.serial := by simpa [Descriptor.same] using same
  have places : i = j := by
    rw [← numbered.serial found, ← numbered.serial found', serials]
  rw [places, found'] at found
  exact (Option.some.inj found).symm

theorem serial_lt (numbered : Numbered store) {d : Descriptor} (held : d ∈ store.toList) :
    d.serial < store.size := by
  obtain ⟨i, found⟩ := List.mem_iff_getElem?.1 held
  rw [numbered.serial found, numbered.size]
  exact (List.getElem?_eq_some_iff.1 found).1

theorem alloc (numbered : Numbered store) (info : TypeInfo) {base? : Option Descriptor}
    (based : ∀ b, base? = some b → b ∈ store.toList) :
    Numbered (store.alloc (.make store.size info base?)).2 where
  serial {i d} found := by
    rw [Arena.toList_alloc, List.getElem?_append] at found
    split at found
    case isTrue => exact numbered.serial found
    case isFalse beyond =>
      rw [List.getElem?_singleton] at found
      split at found
      case isTrue place =>
        cases found
        rw [Descriptor.serial_make, numbered.size]
        omega
      case isFalse => cases found
  size := by
    rw [Arena.size_alloc, Arena.toList_alloc, List.length_append, numbered.size]
    rfl
  base {d b} held above := by
    simp only [Arena.toList_alloc, List.mem_append, List.mem_singleton] at held ⊢
    rcases held with held | rfl
    · exact ⟨.inl (numbered.base held above).1, (numbered.base held above).2⟩
    · rw [Descriptor.base?_make] at above
      have held := based b above
      exact ⟨.inl held, by simpa using numbered.serial_lt held⟩

theorem define (numbered : Numbered store) (r : Registry) {definition : Definition}
    (based : ∀ b, definition.base? = some b → b ∈ store.toList) :
    Numbered (r.define store definition).store := by
  rcases r.store_define store definition with kept | ⟨_, stored⟩
  · rw [kept]
    exact numbered
  · rw [stored]
    exact numbered.alloc definition.info based

end Numbered

namespace Registry

/-- The store gains a record exactly when the table gains a name. -/
theorem size_define (r : Registry) (store : Arena Descriptor) (definition : Definition) :
    (r.define store definition).store.size + r.size =
      store.size + (r.define store definition).registry.size := by
  by_cases fresh : r.judge definition = .fresh
  · rw [define_of_fresh fresh, size_register (judge_eq_fresh_iff.1 fresh).2]
    change (store.alloc _).2.size + r.size = _
    rw [Arena.size_alloc]
    omega
  · rw [(define_of_ne_fresh fresh).1, (define_of_ne_fresh fresh).2]

end Registry

namespace TypeSystem

variable {s t : TypeSystem}

/-- All registries that were ever made. -/
def registries (s : TypeSystem) : List Registry :=
  s.global?.toList ++ s.isolated.toList

structure Sound (s : TypeSystem) : Prop where
  numbered : Numbered s.store
  filed : ∀ (ref : RegistryRef) {r : Registry} {name : String} {d : Descriptor},
    s.inUse? ref = some r → r.lookup name = some d → s.Holds d ∧ d.name = name
  tallied : s.store.size = (s.registries.map Registry.size).sum
  justified : ∀ {c : ExceptionClass} {outcome : Except Error Descriptor},
    s.known? c = some outcome → s.Justified c outcome
  founded : s.store? = none → s.registries = []

theorem Sound.filed_at (sound : s.Sound) {ref : RegistryRef} {r : Registry}
    (here : s.registryAt ref = some r) {name : String} {d : Descriptor}
    (found : r.lookup name = some d) : s.Holds d ∧ d.name = name :=
  sound.filed ref (inUse?_of_lookup here found) found

theorem sum_set_add (sizes : List Nat) {place : Nat} (bound : place < sizes.length) (size : Nat) :
    (sizes.set place size).sum + sizes[place] = sizes.sum + size := by
  have replaced := List.sum_set sizes place size
  have whole := List.sum_set sizes place sizes[place]
  rw [List.set_getElem_self bound] at whole
  simp only [if_pos bound] at replaced whole
  omega

theorem size_empty (policy : RootPolicy) : (Registry.empty policy).size = 0 := rfl

/-- Where one registry stands in for another, the sizes shift by the difference. -/
theorem sum_size_settle {ref : RegistryRef} {r : Registry} (here : s.registryAt ref = some r)
    (outcome : Registry.Outcome) :
    (((s.settle ref outcome).2.registries.map Registry.size).sum + r.size =
      (s.registries.map Registry.size).sum + outcome.registry.size) := by
  unfold settle
  rw [reportAny_eq]
  cases ref with
  | global =>
      change ((outcome.registry :: s.isolated.toList).map Registry.size).sum + r.size = _
      rcases inUse_or_empty here with used | ⟨_, unused, rfl⟩
      · have global : s.global? = some r := used
        simp only [registries, global, Option.toList_some, List.singleton_append, List.map_cons,
          List.sum_cons]
        omega
      · simp only [registries, unused, Option.toList_none, List.nil_append, List.map_cons,
          List.sum_cons, size_empty]
        omega
  | isolated index =>
      obtain ⟨bound, found⟩ := Array.getElem?_eq_some_iff.1 here
      have bound' : index < (s.isolated.toList.map Registry.size).length := by
        simpa using bound
      have replaced := sum_set_add _ bound' outcome.registry.size
      simp only [List.getElem_map, Array.getElem_toList, found] at replaced
      change ((s.global?.toList ++
        (s.isolated.setIfInBounds index outcome.registry).toList).map Registry.size).sum + _ = _
      simp only [registries, Array.toList_setIfInBounds, List.map_append, List.sum_append,
        List.map_set]
      omega

theorem sound_start (environment : Environment) : (start environment).Sound where
  numbered := .ofChunkSize _
  filed ref {_ _ _} used := by
    cases ref with
    | global => cases used
    | isolated index => simp [inUse?, start] at used
  tallied := rfl
  justified known := by simp [known?, start] at known
  founded _ := rfl

theorem Sound.of_fields (sound : s.Sound) (store : t.store? = s.store?)
    (global : t.global? = s.global?) (isolated : t.isolated = s.isolated)
    (classes : t.classes = s.classes)
    (config : ∀ {c : Config}, s.config? = some c → t.config? = some c) : t.Sound where
  numbered := by
    rw [TypeSystem.store, store]
    exact sound.numbered
  filed ref {r name d} used found := by
    have before : s.inUse? ref = some r := by
      cases ref with
      | global => exact global.symm.trans used
      | isolated index => simpa only [inUse?, isolated] using used
    simpa only [Holds, TypeSystem.store, store] using sound.filed ref before found
  tallied := by
    simpa only [TypeSystem.store, registries, store, global, isolated] using sound.tallied
  justified {c outcome} known := by
    have before : s.known? c = some outcome := by
      simpa only [known?, classes] using known
    exact (Extends.of_fields store global isolated classes config).justified
      (sound.justified before)
  founded none := by
    simpa only [registries, global, isolated] using sound.founded (store ▸ none)

theorem store_toList_openWith (s : TypeSystem) (config : Config) :
    (s.openWith config).store.toList = s.store.toList := by
  cases found : s.store? with
  | none => simp [store, openWith, found]
  | some a => simp [store, openWith, found]

theorem inUse?_openWith (s : TypeSystem) (config : Config) (ref : RegistryRef) {r : Registry}
    (used : (s.openWith config).inUse? ref = some r) :
    s.inUse? ref = some r ∨ s.inUse? ref = none ∧ r = .empty config.rootPolicy := by
  cases ref with
  | isolated index => exact .inl used
  | global =>
      cases global : s.global? with
      | none =>
          refine .inr ⟨global, ?_⟩
          simpa [inUse?, openWith, global] using used.symm
      | some _ =>
          refine .inl (global.trans ?_)
          simpa [inUse?, openWith, global] using used

theorem Sound.openWith (sound : s.Sound) (config : Config) : (s.openWith config).Sound where
  numbered := by
    cases found : s.store? with
    | none =>
        simp only [store, TypeSystem.openWith, found]
        exact .ofChunkSize _
    | some a =>
        have numbered := sound.numbered
        simpa only [store, TypeSystem.openWith, found, Option.getD_some] using numbered
  filed ref {_ _ _} used found := by
    rw [Holds, store_toList_openWith]
    rcases inUse?_openWith s config ref used with used | ⟨_, rfl⟩
    · exact sound.filed _ used found
    · simp at found
  tallied := by
    cases founded : s.store? with
    | none =>
        have none := sound.founded founded
        simp only [registries, List.append_eq_nil_iff, Option.toList_eq_nil_iff] at none
        simp [registries, TypeSystem.openWith, store, founded, none, size_empty,
          Arena.ofChunkSize]
    | some a =>
        have tallied := sound.tallied
        cases global : s.global? with
        | none =>
            simpa [registries, TypeSystem.openWith, store, founded, global, size_empty]
              using tallied
        | some r =>
            simpa [registries, TypeSystem.openWith, store, founded, global] using tallied
  justified known := (extends_openWith s config).justified (sound.justified known)
  founded none := by
    simp [TypeSystem.openWith] at none

theorem Sound.addRegistry (sound : s.Sound) (policy : RootPolicy) :
    (s.addRegistry policy).2.Sound where
  numbered := sound.numbered
  filed ref {r name d} used found := by
    cases ref with
    | global => exact sound.filed .global used found
    | isolated index =>
        change (s.isolated.push _)[index]? = some r at used
        rw [Array.getElem?_push] at used
        split at used
        · cases used
          simp at found
        · exact sound.filed (.isolated index) used found
  tallied := by
    change s.store.size =
      ((s.global?.toList ++ (s.isolated.push (.empty policy)).toList).map Registry.size).sum
    rw [sound.tallied, registries]
    simp [size_empty]
  justified known := (extends_addRegistry s policy).justified (sound.justified known)
  founded none := by
    simp [TypeSystem.addRegistry] at none

theorem Sound.settle (sound : s.Sound) {ref : RegistryRef} {r : Registry}
    {definition : Definition} (here : s.registryAt ref = some r)
    (based : ∀ base, definition.base? = some base → s.Holds base) :
    (s.settle ref (r.define s.store definition)).2.Sound where
  numbered := by
    rw [store_settle]
    exact sound.numbered.define r based
  filed other {r' name d} used found := by
    have kept := extends_settle here definition
    have before : ∀ {r'}, s.inUse? other = some r' → r'.lookup name = some d →
        (s.settle ref (r.define s.store definition)).2.Holds d ∧ d.name = name := by
      intro r' used found
      obtain ⟨held, named⟩ := sound.filed _ used found
      exact ⟨kept.holds held, named⟩
    rw [inUse?_settle _ _ _ _ here] at used
    split at used
    case isFalse => exact before used found
    case isTrue same =>
      subst same
      cases used
      rcases Registry.lookup_define found with found | ⟨fresh, rfl, rfl⟩
      · exact before (inUse?_of_lookup here found) found
      · refine ⟨?_, by simp [Registry.made, Descriptor.name, Definition.info]⟩
        rw [Holds, store_settle, Registry.define_of_fresh fresh]
        change _ ∈ (s.store.alloc _).2.toList
        rw [Arena.toList_alloc]
        exact List.mem_append_right _ (List.mem_singleton_self _)
  tallied := by
    have shifted := sum_size_settle here (r.define s.store definition)
    have grown := r.size_define s.store definition
    have tallied := sound.tallied
    rw [store_settle]
    omega
  justified {c outcome} known := by
    rw [known?_settle] at known
    exact (extends_settle here definition).justified (sound.justified known)
  founded none := by
    rw [store?_settle] at none
    cases none

theorem Sound.remember (sound : s.Sound) {c : ExceptionClass}
    {outcome : Except Error Descriptor} (unknown : s.known? c = none)
    (justified : s.Justified c outcome) : (s.remember c outcome).Sound where
  numbered := sound.numbered
  filed ref {_ _ _} used found := by
    cases ref with
    | global => exact sound.filed .global used found
    | isolated index => exact sound.filed (.isolated index) used found
  tallied := sound.tallied
  justified {other outcome'} known := by
    refine (extends_remember unknown outcome).justified ?_
    rw [known?_remember] at known
    split at known
    case isTrue same =>
      cases known
      exact same ▸ justified
    case isFalse => exact sound.justified known
  founded := sound.founded

theorem Step.sound (step : Step s t) (sound : s.Sound) : t.Sound := by
  cases step with
  | report event =>
      rw [report_eq]
      exact sound.of_fields rfl rfl rfl rfl id
  | setLogger logger => exact sound.of_fields rfl rfl rfl rfl id
  | openGlobal => exact sound.openWith {}
  | addRegistry policy => exact sound.addRegistry policy
  | define here based => exact sound.settle here based
  | remember unknown justified => exact sound.remember unknown justified

theorem Steps.sound (steps : Steps s t) (sound : s.Sound) : t.Sound := by
  induction steps with
  | refl => exact sound
  | tail _ step ih => exact step.sound ih

end TypeSystem

end RuntimeTypes
