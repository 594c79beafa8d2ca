import RuntimeTypes.Proofs.Registry.Closed
import RuntimeTypes.Proofs.Registry.FieldTexts
import RuntimeTypes.Proofs.Registry.Listings
import RuntimeTypes.Proofs.Registry.Refusal
import RuntimeTypes.Proofs.TypeSystem.Operations

/-!
What the error of a conflict shows.  It tells what is registered and what was
asked for; the two look alike only where a type is called like the mark of a
missing base, or where a field holds a space.
-/

namespace RuntimeTypes

namespace Descriptor

variable {a? b? : Option Descriptor}

theorem sameBase_self (a? : Option Descriptor) : sameBase a? a? = true := by
  cases a? <;> simp [sameBase, same]

/-- One of two bases is this type, and the other is missing. -/
def OneMissing (d : Descriptor) (a? b? : Option Descriptor) : Prop :=
  a? = some d ∧ b? = none ∨ a? = none ∧ b? = some d

/-- Bases with one text have one name, unless one is called like the mark of the
absence of the other. -/
theorem name_eq_or_oneMissing (texts : baseText a? = baseText b?) :
    a?.map name = b?.map name ∨ ∃ marked, marked.name = "<none>" ∧ OneMissing marked a? b? := by
  cases a? with
  | none =>
      cases b? with
      | none => exact .inl rfl
      | some b => exact .inr ⟨b, texts.symm, .inr ⟨rfl, rfl⟩⟩
  | some a =>
      cases b? with
      | none => exact .inr ⟨a, texts, .inl ⟨rfl, rfl⟩⟩
      | some b => exact .inl (congrArg some texts)

end Descriptor

namespace Registry

variable {r : Registry} {definition : Definition} {name existing requested : String}

/-- In a registry that has all bases of its types under their names, the bases in
an error have one text only if one of them is called like the mark. -/
theorem Refuses.oneMissing (based : ∀ {name d b}, r.lookup name = some d → d.base? = some b →
      r.lookup b.name = some b)
    (own : ∀ {b}, definition.base? = some b → r.lookup b.name = some b)
    (refused : r.Refuses definition (.duplicateType name existing requested))
    (texts : existing = requested) :
    ∃ d marked, r.lookup name = some d ∧ r.lookup "<none>" = some marked ∧
      Descriptor.OneMissing marked d.base? definition.base? := by
  cases refused with
  | @otherBase d found differ =>
      rcases Descriptor.name_eq_or_oneMissing texts with names | ⟨marked, called, oneMissing⟩
      · have same := eq_of_name_eq (fun _ => based found) (fun _ => own) names
        rw [same, Descriptor.sameBase_self] at differ
        cases differ
      · refine ⟨d, marked, found, ?_, oneMissing⟩
        rw [← called]
        rcases oneMissing with ⟨above, _⟩ | ⟨_, above⟩
        · exact based found above
        · exact own above

theorem Refuses.exists_holds_space
    (refused : r.Refuses definition (.duplicateFields name existing requested))
    (texts : existing = requested) :
    ∃ d, r.lookup name = some d ∧ ∃ field ∈ d.fields ++ definition.fields, field.Holds ' ' := by
  cases refused with
  | @otherFields d found _ differ => exact ⟨d, found, Field.exists_holds_space differ texts⟩

end Registry

namespace TypeSystem

variable {s t u : TypeSystem} {ref : RegistryRef} {r : Registry} {definition : Definition}
  {name existing requested : String}

theorem refuses_of_define? (here : s.registryAt ref = some r) {e : Error}
    (failed : s.define? ref definition = some (.error e, t)) : r.Refuses definition e := by
  rw [define?, here, Option.map_some] at failed
  exact Registry.refuses_of_answer (congrArg Prod.fst (Option.some.inj failed))

/-- What a registry lists, it finds by its name. -/
theorem Sound.lookup_name (sound : s.Sound) (here : s.registryAt ref = some r)
    {d : Descriptor} (listed : d ∈ r.allTypes) : r.lookup d.name = some d := by
  obtain ⟨name, found⟩ := Registry.mem_allTypes.1 listed
  rwa [(sound.filed_at here found).2]

/-- The error of a conflict names two different things.  Where a registry lists the
bases of all its types, and that of a new definition, the error of a conflict of
bases shows one text twice only if a type `<none>` is registered, and is one base
while the other is missing.  In any registry, the error of a conflict of fields
shows one text twice only if a field on either side holds a space. -/
theorem conflicts_tell_apart (reachable : s.Reachable) (here : s.registryAt ref = some r) :
    ((∀ x ∈ r.allTypes, ∀ b, x.base? = some b → b ∈ r.allTypes) →
      (∀ b, definition.base? = some b → b ∈ r.allTypes) →
        s.define? ref definition = some (.error (.duplicateType name existing requested), t) →
          existing = requested →
            ∃ d marked, r.lookup name = some d ∧ r.lookup "<none>" = some marked ∧
              Descriptor.OneMissing marked d.base? definition.base?) ∧
      (s.define? ref definition = some (.error (.duplicateFields name existing requested), t) →
        existing = requested →
          ∃ d, r.lookup name = some d ∧
            ∃ field ∈ d.fields ++ definition.fields, field.Holds ' ') := by
  have sound := reachable.sound
  constructor
  · intro based own failed texts
    have registered : ∀ {name d b}, r.lookup name = some d → d.base? = some b →
        r.lookup b.name = some b := by
      intro name d b found above
      exact sound.lookup_name here (based d (Registry.mem_allTypes.2 ⟨name, found⟩) b above)
    exact (refuses_of_define? here failed).oneMissing registered
      (fun above => sound.lookup_name here (own _ above)) texts
  · intro failed texts
    exact (refuses_of_define? here failed).exists_holds_space texts

/-- A type that is called like the mark. -/
def markType : Descriptor := .root 0 ⟨"<none>", [], none⟩

/-- A program that defines it, and a type with one field whose type name is made of two. -/
def marking : List Operation :=
  [.addRegistry .any, .define (.isolated 0) { name := "<none>" },
    .define (.isolated 0) { name := "Type", fields := [⟨"x", "int, y: int"⟩] }]

/-- Both exceptions occur: the registered type has no base and is now defined on the
type that is called like the mark, or it is defined with two fields instead of one. -/
theorem conflicts_tell_apart_markType :
    ∃ s r t u, Reachable s ∧ s.registryAt (.isolated 0) = some r ∧
      s.define? (.isolated 0) { name := "Type", base? := some markType } =
        some (.error (.duplicateType "Type" "<none>" "<none>"), t) ∧
      s.define? (.isolated 0) { name := "Type", fields := [⟨"x", "int"⟩, ⟨"y", "int"⟩] } =
        some (.error (.duplicateFields "Type" "x: int, y: int" "x: int, y: int"), u) ∧
      (∃ d marked, r.lookup "Type" = some d ∧ r.lookup "<none>" = some marked ∧
        Descriptor.OneMissing marked d.base? (some markType)) ∧
      ∃ d, r.lookup "Type" = some d ∧
        ∃ field ∈ d.fields ++ [⟨"x", "int"⟩, ⟨"y", "int"⟩], field.Holds ' ' := by
  have admitted : (start {}).AdmitsAll marking := by
    decide +kernel
  have reachable := reachable_performAll admitted
  obtain ⟨r, here, listed⟩ : ∃ r,
      ((start {}).performAll marking).2.registryAt (.isolated 0) = some r ∧
        r.allTypes = [markType, .root 1 ⟨"Type", [⟨"x", "int, y: int"⟩], none⟩] :=
    ⟨_, rfl, by decide +kernel⟩
  have bases : (((start {}).performAll marking).2.define? (.isolated 0)
      { name := "Type", base? := some markType }).map Prod.fst =
        some (.error (.duplicateType "Type" "<none>" "<none>")) := by
    decide +kernel
  have fields : (((start {}).performAll marking).2.define? (.isolated 0)
      { name := "Type", fields := [⟨"x", "int"⟩, ⟨"y", "int"⟩] }).map Prod.fst =
        some (.error (.duplicateFields "Type" "x: int, y: int" "x: int, y: int")) := by
    decide +kernel
  obtain ⟨⟨_, t⟩, failed, rfl⟩ := Option.map_eq_some_iff.1 bases
  obtain ⟨⟨_, u⟩, failed', rfl⟩ := Option.map_eq_some_iff.1 fields
  have based : ∀ x ∈ r.allTypes, ∀ b, x.base? = some b → b ∈ r.allTypes := by
    rw [listed]
    decide +kernel
  have own : ∀ b, some markType = some b → b ∈ r.allTypes := by
    rintro _ ⟨⟩
    rw [listed]
    decide
  exact ⟨_, r, t, u, reachable, here, failed, failed',
    (conflicts_tell_apart reachable here).1 based own failed rfl,
    (conflicts_tell_apart reachable here).2 failed' rfl⟩

end TypeSystem

end RuntimeTypes
