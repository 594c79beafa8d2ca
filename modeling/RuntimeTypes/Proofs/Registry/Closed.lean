import RuntimeTypes.Declaration
import RuntimeTypes.Proofs.Hierarchy.Ancestors
import RuntimeTypes.Proofs.Registry.Judgement

/-!
Registries that are filled by declarations.  Every base that such a registry
meets it has itself, so it holds the whole chain of each of its types.
-/

namespace RuntimeTypes

namespace Registry

variable {r : Registry} {declaration : Declaration} {definition : Definition} {name : String}
  {a d : Descriptor}

/-- A definition whose base is registered is the meaning of a declaration. -/
theorem definition?_declaration
    (based : ∀ base, definition.base? = some base → r.lookup base.name = some base) :
    r.definition? definition.declaration = some definition := by
  obtain ⟨name, base?, fields, handle?⟩ := definition
  cases base? with
  | none => rfl
  | some base => simp [definition?, Definition.declaration, Declaration.on, based base rfl]

theorem definition?_eq_some (meant : r.definition? declaration = some definition) :
    declaration.base? = none ∧ definition = declaration.on none ∨
      ∃ name base, declaration.base? = some name ∧ r.lookup name = some base ∧
        definition = declaration.on (some base) := by
  unfold definition? at meant
  cases above : declaration.base? with
  | none =>
      rw [above] at meant
      exact .inl ⟨rfl, (Option.some.inj meant).symm⟩
  | some name =>
      rw [above] at meant
      obtain ⟨base, found, rfl⟩ := Option.map_eq_some_iff.1 meant
      exact .inr ⟨name, base, rfl, found, rfl⟩

theorem base_bound (meant : r.definition? declaration = some definition) {base : Descriptor}
    (above : definition.base? = some base) : ∃ name, r.lookup name = some base := by
  rcases definition?_eq_some meant with ⟨_, rfl⟩ | ⟨name, found, _, bound, rfl⟩
  · cases above
  · cases above
    exact ⟨name, bound⟩

/-- Types are registered under their own names, and so are their bases. -/
structure Closed (r : Registry) : Prop where
  named : ∀ {name : String} {d : Descriptor}, r.lookup name = some d → d.name = name
  based : ∀ {name : String} {d base : Descriptor}, r.lookup name = some d →
    d.base? = some base → r.lookup base.name = some base

theorem closed_empty (policy : RootPolicy) : (empty policy).Closed where
  named found := by simp at found
  based found := by simp at found

theorem Closed.define (closed : r.Closed) (store : Arena Descriptor)
    (meant : r.definition? declaration = some definition) :
    (r.define store definition).registry.Closed where
  named {name d} found := by
    rcases lookup_define found with found | ⟨_, rfl, rfl⟩
    · exact closed.named found
    · rw [made, Descriptor.name, Descriptor.info_make]
      rfl
  based {name d base} found above := by
    apply (r.extends_define store definition).lookup
    rcases lookup_define found with found | ⟨_, rfl, rfl⟩
    · exact closed.based found above
    · rw [made, Descriptor.base?_make] at above
      obtain ⟨name, bound⟩ := base_bound meant above
      rwa [closed.named bound]

/-- The whole chain of a type is registered where the type is. -/
theorem Closed.lookup_of_mem_chain (closed : r.Closed) (found : r.lookup name = some d)
    (above : a ∈ d.chain) : r.lookup a.name = some a := by
  induction d generalizing name with
  | root serial info =>
      obtain rfl := List.mem_singleton.1 above
      rwa [closed.named found]
  | derived serial info base ih =>
      rcases List.mem_cons.1 above with rfl | above
      · rwa [closed.named found]
      · exact ih (closed.based found rfl) above

/-- Types that are registered under their own names are told apart by these. -/
theorem eq_of_name_eq {a? b? : Option Descriptor}
    (bound : ∀ a, a? = some a → r.lookup a.name = some a)
    (bound' : ∀ b, b? = some b → r.lookup b.name = some b)
    (names : a?.map Descriptor.name = b?.map Descriptor.name) : a? = b? := by
  cases a? with
  | none => exact (Option.map_eq_none_iff.1 names.symm).symm
  | some a =>
      obtain ⟨b, rfl, same⟩ := Option.map_eq_some_iff.1 names.symm
      have found := bound a rfl
      rw [← same, bound' b rfl] at found
      exact found.symm

end Registry

end RuntimeTypes
