import RuntimeTypes.Proofs.Registry.FieldTexts
import RuntimeTypes.Proofs.Text.Plain
import RuntimeTypes.Proofs.TypeSystem.Chronicle
import RuntimeTypes.Proofs.TypeSystem.Invariance
import RuntimeTypes.Proofs.TypeSystem.Provenance

/-!
Messages that stay on their line.  Names were checked before they got anywhere,
and policies and malformed names are quoted; so a control character in a message
of the runtime comes from a field, which nothing checks.
-/

namespace RuntimeTypes

open Text (isPlain isControl)

namespace Field

variable {c : Char} {fields existing requested : List Field}

theorem exists_holds_of_mem_listText (control : isControl c = true)
    (inside : c ∈ (listText fields).toList) : ∃ field ∈ fields, field.Holds c := by
  rcases Text.mem_intercalate inside with separates | ⟨text, among, inside⟩
  · exact absurd separates (Text.not_mem_of_isPlain rfl control)
  · obtain ⟨field, listed, rfl⟩ := List.mem_map.1 among
    refine ⟨field, listed, ?_⟩
    change c ∈ (field.name ++ ": " ++ field.typeName).toList at inside
    rw [String.toList_append, String.toList_append, List.mem_append, List.mem_append] at inside
    rcases inside with (name | separates) | typeName
    · exact .inl name
    · exact absurd separates (Text.not_mem_of_isPlain rfl control)
    · exact .inr typeName

theorem exists_holds_of_mem (control : isControl c = true)
    (inside : c ∈ (listText existing).toList ∨ c ∈ (listText requested).toList) :
    ∃ field ∈ existing ++ requested, field.Holds c := by
  rcases inside with inside | inside
  · obtain ⟨field, among, holds⟩ := exists_holds_of_mem_listText control inside
    exact ⟨field, List.mem_append_left _ among, holds⟩
  · obtain ⟨field, among, holds⟩ := exists_holds_of_mem_listText control inside
    exact ⟨field, List.mem_append_right _ among, holds⟩

end Field

namespace TypeSystem

variable {s t : TypeSystem} {event : Event} {c : Char} {existing requested : List Field}

/-- All types have names that pass the check. -/
def Named (s : TypeSystem) : Prop :=
  ∀ ⦃d : Descriptor⦄, s.Holds d → QualifiedName.isWellFormed d.name = true

theorem invariant_named : Invariant Named where
  start environment := by
    intro d held
    simp [Holds, start, store] at held
  step {s t} _ step named := by
    intro d held
    cases step with
    | report event =>
        rw [report_eq] at held
        exact named held
    | define here based =>
        rw [Holds, store_settle] at held
        rcases Registry.mem_store_define held with held | ⟨fresh, rfl⟩
        · exact named held
        · have formed := (Registry.judge_eq_fresh_iff.1 fresh).1.wellFormed
          simpa [Registry.made, Descriptor.name, Definition.info] using formed
    | openGlobal =>
        have same : s.openGlobal.store.toList = s.store.toList := store_toList_openWith s {}
        rw [Holds, same] at held
        exact named held
    | setLogger | remember | addRegistry => exact named held
  opened {s} config _ named := by
    intro d held
    rw [Holds, store_toList_openWith] at held
    exact named held
  recorded config named := named

theorem Named.isPlain_name (named : s.Named) {d : Descriptor} (held : s.Holds d) :
    isPlain d.name = true :=
  QualifiedName.isPlain_of_isWellFormed (named held)

theorem Named.isPlain_baseText (named : s.Named) {base? : Option Descriptor}
    (based : ∀ b, base? = some b → s.Holds b) : isPlain (Descriptor.baseText base?) = true := by
  cases base? with
  | none => rfl
  | some b => exact named.isPlain_name (based b rfl)

/-- The fields that a report shows, those of a registered type and those that were
asked for.  A class asks for none. -/
inductive ShowsFields (s : TypeSystem) : Event → List Field → List Field → Prop
  | conflict {d : Descriptor} (held : s.Holds d) (requested : List Field) :
      ShowsFields s (.otherFields d.name d.fields requested) d.fields requested
  | classFailed {d : Descriptor} (held : s.Holds d) :
      ShowsFields s (.classFailed (.duplicateFields d.name (Field.listText d.fields)
        (Field.listText []))) d.fields []

/-- A report that shows fields holds no control character but theirs. -/
theorem ShowsFields.exists_holds (named : s.Named) (shows : s.ShowsFields event existing requested)
    (control : isControl c = true) (inside : c ∈ event.text.toList) :
    ∃ field ∈ existing ++ requested, field.Holds c := by
  cases shows with
  | @conflict d held =>
      have plain := named.isPlain_name held
      change c ∈ (_ ++ d.name ++ _ ++ (_ ++ Field.listText d.fields ++ _) ++
        (_ ++ Field.listText requested ++ _)).toList at inside
      simp (disch := first | assumption | decide) only [String.toList_append, List.mem_append,
        Text.not_mem_of_isPlain, false_or, or_false] at inside
      exact Field.exists_holds_of_mem control inside
  | @classFailed d held =>
      have plain := named.isPlain_name held
      change c ∈ (_ ++ (_ ++ d.name ++ _ ++ Field.listText d.fields ++ _ ++
        (_ ++ Field.listText [] ++ _))).toList at inside
      simp (disch := first | assumption | decide) only [String.toList_append, List.mem_append,
        Text.not_mem_of_isPlain, false_or, or_false] at inside
      exact Field.exists_holds_of_mem control (.inl inside)

/-- Behind every error that a class is known with stands a definition in the global
registry, on a base that was made here. -/
theorem Sound.refuses_of_known (sound : s.Sound) {k : ExceptionClass} {e : Error}
    (known : s.known? k = some (.error e)) :
    ∃ k' base? r, s.global? = some r ∧ r.Refuses (classDefinition k' base?) e ∧
      ∀ b, base? = some b → s.Holds b := by
  induction k with
  | root =>
      obtain ⟨r, used, settled⟩ := sound.justified known
      exact ⟨.root, none, r, used, Registry.refuses_of_answer (settled s.store).1, by simp⟩
  | derived ident typeName base ih =>
      rcases sound.justified known with ⟨_, above, ⟨⟩⟩ | ⟨d, above, r, used, settled⟩
      · exact ih above
      · refine ⟨_, some d, r, used, Registry.refuses_of_answer (settled s.store).1, ?_⟩
        rintro _ ⟨⟩
        exact sound.holds_of_known above

theorem Sound.holds_base (sound : s.Sound) {d : Descriptor} (held : s.Holds d) :
    ∀ b, d.base? = some b → s.Holds b :=
  fun _ above => (sound.numbered.base held above).1

/-- The message of a class that cannot be registered is plain, unless it shows the
fields of the type that has its name. -/
theorem Sound.isPlain_or_showsFields (sound : s.Sound) (named : s.Named) {k : ExceptionClass}
    {e : Error} (known : s.known? k = some (.error e)) :
    isPlain e.message = true ∨
      ∃ existing requested, s.ShowsFields (.classFailed e) existing requested := by
  obtain ⟨k, base?, r, used, refused, based⟩ := sound.refuses_of_known known
  cases refused with
  | malformed =>
      left
      change isPlain (_ ++ Text.quoted k.typeName) = true
      simp only [Text.isPlain_append, Text.isPlain_quoted, Bool.and_true]
      exact Text.isPlain_ofList rfl
  | undesignated formed =>
      left
      have plain := QualifiedName.isPlain_of_isWellFormed formed
      change isPlain (_ ++ (classDefinition k base?).name ++ _) = true
      simp only [Text.isPlain_append, plain, Bool.and_true, Bool.and_eq_true]
      and_intros <;> exact Text.isPlain_ofList rfl
  | @otherFields d found =>
      right
      obtain ⟨held, called⟩ := sound.filed .global used found
      refine ⟨d.fields, [], ?_⟩
      rw [← called]
      exact .classFailed held
  | @otherBase d found =>
      left
      obtain ⟨held, called⟩ := sound.filed .global used found
      rw [← called]
      change isPlain (_ ++ d.name ++ _ ++ Descriptor.baseText d.base? ++ _ ++
        Descriptor.baseText base? ++ _) = true
      simp only [Text.isPlain_append, named.isPlain_name held, named.isPlain_baseText based,
        named.isPlain_baseText (sound.holds_base held), Bool.and_true, Bool.and_eq_true]
      and_intros <;> exact Text.isPlain_ofList rfl

/-- What may be reported is plain, unless it shows fields. -/
theorem MayReport.isPlain_or_showsFields (sound : s.Sound) (named : s.Named)
    (may : s.MayReport event) (own : event.isHostMessage = false) :
    isPlain event.text = true ∨ ∃ existing requested, s.ShowsFields event existing requested := by
  cases may with
  | otherFields held requested => exact .inr ⟨_, _, .conflict held requested⟩
  | hostMessage => cases own
  | @rejectedRoot name formed =>
      left
      change isPlain (_ ++ name ++ _) = true
      simp only [Text.isPlain_append, QualifiedName.isPlain_of_isWellFormed formed, Bool.and_true,
        Bool.and_eq_true]
      and_intros <;> exact Text.isPlain_ofList rfl
  | @sameShape d held =>
      left
      change isPlain (_ ++ d.name ++ _) = true
      simp only [Text.isPlain_append, named.isPlain_name held, Bool.and_true, Bool.and_eq_true]
      and_intros <;> exact Text.isPlain_ofList rfl
  | @otherBase d base? held based =>
      left
      change isPlain (_ ++ d.name ++ _ ++ (_ ++ Descriptor.baseText d.base? ++ _) ++
        (_ ++ Descriptor.baseText base?)) = true
      simp only [Text.isPlain_append, named.isPlain_name held, named.isPlain_baseText based,
        named.isPlain_baseText (sound.holds_base held), Bool.and_true, Bool.and_eq_true]
      and_intros <;> exact Text.isPlain_ofList rfl
  | @registered d held =>
      left
      change isPlain (_ ++ d.name ++ _ ++ Descriptor.baseText d.base? ++ _ ++
        toString d.fields.length ++ _) = true
      simp only [Text.isPlain_append, named.isPlain_name held, Text.isPlain_toString_nat,
        named.isPlain_baseText (sound.holds_base held), Bool.and_true, Bool.and_eq_true]
      and_intros <;> exact Text.isPlain_ofList rfl
  | storeInUse chunkSize requested =>
      left
      change isPlain (_ ++ toString chunkSize ++ _ ++ toString requested) = true
      simp only [Text.isPlain_append, Text.isPlain_toString_nat, Bool.and_true, Bool.and_eq_true]
      and_intros <;> exact Text.isPlain_ofList rfl
  | policyInUse policy requested =>
      left
      change isPlain (_ ++ policy.inspect ++ _ ++ (_ ++ requested.inspect)) = true
      simp only [Text.isPlain_append, RootPolicy.isPlain_inspect, Bool.and_true, Bool.and_eq_true]
      and_intros <;> exact Text.isPlain_ofList rfl
  | initialized policy types =>
      left
      change isPlain (_ ++ policy.inspect ++ _ ++ toString types ++ _) = true
      simp only [Text.isPlain_append, Text.isPlain_toString_nat, InitPolicy.isPlain_inspect,
        Bool.and_true, Bool.and_eq_true]
      and_intros <;> exact Text.isPlain_ofList rfl
  | @classFailed k e known =>
      rcases sound.isPlain_or_showsFields named known with plain | showsFields
      · left
        change isPlain (_ ++ e.message) = true
        rw [Text.isPlain_append, plain, Bool.and_true]
        exact Text.isPlain_ofList rfl
      · exact .inr showsFields

/-- Messages cannot be forged.  Whatever a program does, a control character in a
message of the runtime stands in a field that the message shows: of a registered
type and of another definition of it, or of a type with the name of a class. -/
theorem messages_stay_on_line (reachable : s.Reachable) {line : Line}
    (written : line ∈ s.log.toList) (own : line.event.isHostMessage = false)
    (control : isControl c = true) (inside : c ∈ line.event.text.toList) :
    ∃ existing requested, s.ShowsFields line.event existing requested ∧
      ∃ field ∈ existing ++ requested, field.Holds c := by
  have named := invariant_named.reachable reachable
  have chronicled := reachable.chronicled
  have may := chronicled.lines line written
  rcases may.isPlain_or_showsFields chronicled.sound named own with plain | ⟨_, _, showsFields⟩
  · exact absurd inside (Text.not_mem_of_isPlain plain control)
  · exact ⟨_, _, showsFields, showsFields.exists_holds named control inside⟩

/-- A field that starts a new line in a message. -/
def lineField : Field := ⟨"line", "\n"⟩

/-- A program that registers the name of a class with this field, so that the class
is refused. -/
def twoLines : List Operation :=
  [.define .global { name := "System.Exception", fields := [lineField] }, .require .root]

/-- Both messages that show fields are on two lines here. -/
theorem messages_stay_on_line_twoLines :
    ∃ s, Reachable s ∧
      s.log.toList = [⟨.otherFields "System.Exception" [lineField] [], true⟩,
        ⟨.classFailed (.duplicateFields "System.Exception" (Field.listText [lineField])
          (Field.listText [])), true⟩] ∧
      ∀ line ∈ s.log.toList,
        line.event.isHostMessage = false ∧ isControl '\n' = true ∧
          '\n' ∈ line.event.text.toList ∧
          ∃ existing requested, s.ShowsFields line.event existing requested ∧
            ∃ field ∈ existing ++ requested, field.Holds '\n' := by
  have admitted : (start {}).AdmitsAll twoLines := by
    decide +kernel
  have reachable := reachable_performAll admitted
  have log : ((start {}).performAll twoLines).2.log.toList =
      [⟨.otherFields "System.Exception" [lineField] [], true⟩,
        ⟨.classFailed (.duplicateFields "System.Exception" (Field.listText [lineField])
          (Field.listText [])), true⟩] :=
    rfl
  have shown : '\n' ∈ (Field.listText [lineField]).toList := by
    decide +kernel
  have lines : ∀ line ∈ ((start {}).performAll twoLines).2.log.toList,
      line.event.isHostMessage = false ∧ '\n' ∈ line.event.text.toList := by
    rw [log, List.forall_mem_cons, List.forall_mem_singleton]
    refine ⟨⟨rfl, ?_⟩, ⟨rfl, ?_⟩⟩
    · change '\n' ∈ (_ ++ (_ ++ Field.listText [lineField] ++ _) ++ _).toList
      simp only [String.toList_append, List.mem_append, shown, true_or, or_true]
    · change '\n' ∈ (_ ++ (_ ++ Field.listText [lineField] ++ _ ++ _)).toList
      simp only [String.toList_append, List.mem_append, shown, true_or, or_true]
  refine ⟨_, reachable, log, ?_⟩
  intro line written
  obtain ⟨own, inside⟩ := lines line written
  exact ⟨own, rfl, inside, messages_stay_on_line reachable written own rfl inside⟩

end TypeSystem

end RuntimeTypes
