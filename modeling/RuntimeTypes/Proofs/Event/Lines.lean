import RuntimeTypes.Event
import RuntimeTypes.Text.Pieces

/-!
Lines as they are written.  Of a line of the runtime the first word is the tag, the
second the part of the program that writes, and the message follows; so the lines of
the registries, and the registrations among them, are known by what they read.
-/

namespace RuntimeTypes

namespace Text

/-- The words of a text, which are what stands between its spaces. -/
def words (text : String) : List String :=
  (pieces ' ' text.toList).map String.ofList

theorem head?_pieces_append {separator : Char} {cs : List Char} (ended : separator ∈ cs)
    (rest : List Char) : (pieces separator (cs ++ rest)).head? = (pieces separator cs).head? := by
  induction cs with
  | nil => cases ended
  | cons c cs ih =>
      rw [List.cons_append, pieces, pieces]
      split
      case isTrue => rfl
      case isFalse other =>
        have later := ih ((List.mem_cons.1 ended).resolve_left fun same => other same.symm)
        revert later
        cases pieces separator (cs ++ rest) <;> cases pieces separator cs <;> simp

theorem words_append {word : String} (whole : ' ' ∉ word.toList) (rest : String) :
    words (word ++ " " ++ rest) = word :: words rest := by
  have split : (word ++ " " ++ rest).toList = word.toList ++ ' ' :: rest.toList := by
    simp
  rw [words, split, pieces_append whole, List.map_cons, String.ofList_toList]
  rfl

/-- The first word of a text is that of its start, if a space ends it there. -/
theorem head?_words {start text : String} (starts : ∃ rest, text = start ++ rest)
    (ended : ' ' ∈ start.toList) : (words text).head? = (words start).head? := by
  obtain ⟨rest, rfl⟩ := starts
  rw [words, words, List.head?_map, List.head?_map, String.toList_append,
    head?_pieces_append ended]

/-- A character that is no space stays at the start of the first word. -/
theorem exists_head?_words {c : Char} (other : c ≠ ' ') (rest : String) :
    ∃ first, (words (c.toString ++ rest)).head? = some (String.ofList (c :: first)) := by
  have whole : (c.toString ++ rest).toList = c :: rest.toList := by
    simp
  rw [words, whole, pieces, if_neg other]
  split
  · exact ⟨[], rfl⟩
  · exact ⟨_, rfl⟩

end Text

namespace Event

variable {event : Event}

/-- Whether a report is a message of the host. -/
def isHostMessage : Event → Bool
  | hostMessage .. => true
  | _ => false

/-- Whether a report is one that a definition makes. -/
def isAboutDefinition : Event → Bool
  | rejectedRoot .. | sameShape .. | otherFields .. | otherBase .. | registered .. => true
  | storeInUse .. | policyInUse .. | initialized .. | classFailed .. | hostMessage .. => false

/-- Whether a report says that a type was registered. -/
def isRegistration : Event → Bool
  | registered .. => true
  | _ => false

theorem isAboutDefinition_of_isRegistration (registration : event.isRegistration = true) :
    event.isAboutDefinition = true := by
  cases event with
  | registered d => rfl
  | _ => cases registration

theorem isAboutDefinition_of_host (host : event.isHostMessage = true) :
    event.isAboutDefinition = false := by
  cases event with
  | hostMessage => rfl
  | _ => cases host

/-- The parts of the program that write messages of their own. -/
theorem target_of_own (own : event.isHostMessage = false) :
    event.isAboutDefinition = true ∧ event.target = "reflex::runtime::registry" ∨
      event.isAboutDefinition = false ∧
        (event.target = "reflex::runtime" ∨ event.target = "reflex::runtime::instance") := by
  cases event with
  | hostMessage => cases own
  | _ => simp [isAboutDefinition, target]

theorem space_not_mem_target (own : event.isHostMessage = false) :
    ' ' ∉ (event.target ++ ":").toList := by
  rcases target_of_own own with ⟨_, target⟩ | ⟨_, target | target⟩ <;> rw [target] <;>
    decide +kernel

/-- How the messages about definitions start. -/
theorem text_starts (about : event.isAboutDefinition = true) :
    event.isRegistration = true ∧ (∃ rest, event.text = "registered `" ++ rest) ∨
      event.isRegistration = false ∧ ((∃ rest, event.text = "rejected root type `" ++ rest) ∨
        (∃ rest, event.text = "conflicting definition of `" ++ rest) ∨
          ∃ rest, event.text = "`" ++ rest) := by
  cases event with
  | registered d =>
      refine .inl ⟨rfl, ?_⟩
      unfold text
      simp only [String.append_assoc]
      exact ⟨_, rfl⟩
  | rejectedRoot name =>
      refine .inr ⟨rfl, .inl ?_⟩
      unfold text
      simp only [String.append_assoc]
      exact ⟨_, rfl⟩
  | otherFields | otherBase =>
      refine .inr ⟨rfl, .inr (.inl ?_)⟩
      unfold text
      simp only [String.append_assoc]
      exact ⟨_, rfl⟩
  | sameShape name =>
      refine .inr ⟨rfl, .inr (.inr ?_)⟩
      unfold text
      simp only [String.append_assoc]
      exact ⟨_, rfl⟩
  | _ => cases about

/-- A registration is told from the other reports on definitions by its first word. -/
theorem head?_words_text (about : event.isAboutDefinition = true) :
    (Text.words event.text).head? = some "registered" ↔ event.isRegistration = true := by
  rcases text_starts about with ⟨kind, starts⟩ | ⟨kind, starts | starts | ⟨rest, starts⟩⟩ <;>
    rw [kind]
  · rw [Text.head?_words starts (by decide +kernel)]
    decide +kernel
  · rw [Text.head?_words starts (by decide +kernel)]
    decide +kernel
  · rw [Text.head?_words starts (by decide +kernel)]
    decide +kernel
  · have quoted : ('`' : Char) ≠ ' ' := by decide
    obtain ⟨first, found⟩ := Text.exists_head?_words quoted rest
    have start : "`" ++ rest = '`'.toString ++ rest := rfl
    rw [starts, start, found]
    simp only [Option.some.injEq, Bool.false_eq_true, iff_false]
    intro same
    simpa using congrArg String.toList same

end Event

namespace Line

variable {line : Line}

/-- Whether a line is one that the runtime wrote about its registries: the word
after the tag says so.  A host may write what it likes and is not heard. -/
def isOfRegistry (line : Line) : Bool :=
  !line.event.isHostMessage && (Text.words line.text)[1]? == some "reflex::runtime::registry:"

/-- Whether a line says that a type was registered: this is the first word of its message. -/
def isRegistration (line : Line) : Bool :=
  line.isOfRegistry && (Text.words line.text)[2]? == some "registered"

/-- The tag of a level, with the number of its colour or without colours. -/
def bracketed (colored : Bool) (colour level : String) : String :=
  if colored then "\x1b[" ++ colour ++ "m[" ++ level ++ "]\x1b[0m" else "[" ++ level ++ "]"

/-- The line reads as one about the registries: a tag, the target and a message. -/
def Reads (line : Line) (colour level message : String) : Prop :=
  line.text =
    bracketed line.colored colour level ++ " " ++ "reflex::runtime::registry" ++ ": " ++ message

theorem text_eq (line : Line) :
    line.text = bracketed line.colored line.event.level.colour line.event.level.name ++ " " ++
      line.event.target ++ ": " ++ line.event.text := by
  obtain ⟨event, colored⟩ := line
  cases colored <;> rfl

theorem space_not_mem_bracketed (colored : Bool) (level : Level) :
    ' ' ∉ (bracketed colored level.colour level.name).toList := by
  cases colored <;> cases level <;> decide +kernel

/-- The words of a line of the runtime. -/
theorem words_text (own : line.event.isHostMessage = false) :
    Text.words line.text =
      bracketed line.colored line.event.level.colour line.event.level.name ::
        (line.event.target ++ ":") :: Text.words line.event.text := by
  have parts : ∀ tag target message : String, tag ++ " " ++ target ++ ": " ++ message =
      tag ++ " " ++ (target ++ ":" ++ " " ++ message) := by
    intro tag target message
    have mark : ": " = ":" ++ " " := rfl
    simp only [mark, String.append_assoc]
  rw [text_eq, parts, Text.words_append (space_not_mem_bracketed _ _),
    Text.words_append (Event.space_not_mem_target own)]

theorem isOfRegistry_eq (line : Line) : line.isOfRegistry = line.event.isAboutDefinition := by
  rw [isOfRegistry]
  cases own : line.event.isHostMessage with
  | true => simp [Event.isAboutDefinition_of_host own]
  | false =>
      rw [words_text own]
      rcases Event.target_of_own own with ⟨about, target⟩ | ⟨about, target | target⟩ <;>
        simp [about, target]

theorem isRegistration_eq (line : Line) : line.isRegistration = line.event.isRegistration := by
  rw [isRegistration, isOfRegistry_eq]
  cases about : line.event.isAboutDefinition with
  | false =>
      cases registration : line.event.isRegistration with
      | false => rfl
      | true =>
          rw [Event.isAboutDefinition_of_isRegistration registration] at about
          cases about
  | true =>
      have own : line.event.isHostMessage = false := by
        apply Bool.eq_false_iff.2
        intro host
        rw [Event.isAboutDefinition_of_host host] at about
        cases about
      rw [words_text own, Bool.true_and, Bool.eq_iff_iff, ← Event.head?_words_text about]
      simp [List.head?_eq_getElem?]

end Line

end RuntimeTypes
