import RuntimeTypes.Proofs.Config.Variables
import RuntimeTypes.Proofs.Registry.Naming
import RuntimeTypes.Proofs.Text.Spelling
import RuntimeTypes.TypeSystem

/-!
The roots that a text allows.  A text is the word for all types, or a list of
names with commas between them and blanks around them; a list that is written
down in this way is read as the same list, and a registry lets the names on it
be roots.
-/

namespace RuntimeTypes

open Text (Inside Padded Bare SameLetter Spells)

/-- The pieces of a text that is cut at every separator. -/
structure Text.Cut (separator : Char) (pieces : List (List Char)) (cs : List Char) : Prop where
  nonempty : pieces ≠ []
  clean : ∀ piece ∈ pieces, separator ∉ piece
  whole : cs = Text.joined separator pieces

theorem Text.cut_iff {separator : Char} {list : List (List Char)} {cs : List Char} :
    Cut separator list cs ↔ list = pieces separator cs := by
  constructor
  · rintro ⟨nonempty, clean, rfl⟩
    exact (pieces_joined nonempty clean).symm
  · rintro rfl
    exact ⟨pieces_ne_nil _ _, fun piece => not_mem_of_mem_pieces, (joined_pieces _ _).symm⟩

namespace RootPolicy

variable {text name : String} {names : List String} {policy : RootPolicy}

/-- The names that a text holds: what stands between its commas, without the
blanks around it. -/
def Lists (text : String) (names : List String) : Prop :=
  ∃ pieces, Text.Cut ',' pieces text.toList ∧
    List.Forall₂ (fun name piece => Inside name.toList piece) names pieces

/-- A text in which names stand in order, with a comma between two neighbours and
any blanks around each. -/
def Writes (text : String) (names : List String) : Prop :=
  ∃ pieces, List.Forall₂ (fun name piece => Padded name.toList piece) names pieces ∧
    text.toList = Text.joined ',' pieces

/-- A name that can be written between two commas. -/
structure IsItem (name : String) : Prop where
  nonempty : name ≠ ""
  clean : ',' ∉ name.toList
  bare : Bare name.toList

instance (name : String) : Decidable (IsItem name) :=
  decidable_of_iff (name ≠ "" ∧ ',' ∉ name.toList ∧ Bare name.toList)
    ⟨fun all => ⟨all.1, all.2.1, all.2.2⟩, fun item => ⟨item.nonempty, item.clean, item.bare⟩⟩

theorem lists_iff : Lists text names ↔ names = listedNames text := by
  have trimmed : ∀ name piece, Inside (String.toList name) piece ↔
      name = String.ofList (Text.trimChars piece) := by
    intro name piece
    rw [Text.inside_iff, eq_comm, ← String.toList_inj, String.toList_ofList]
  simp only [Lists, Text.cut_iff, exists_eq_left, trimmed, listedNames]
  rw [← List.forall₂_map_right_iff, List.forall₂_eq_eq_eq]

theorem length_of_lists (lists : Lists text names) :
    names.length = text.toList.count ',' + 1 := by
  rw [lists_iff.1 lists, listedNames, List.length_map, Text.length_pieces]

/-- A written list holds the names that were written. -/
theorem Writes.lists (writes : Writes text names) (nonempty : names ≠ [])
    (items : ∀ name ∈ names, IsItem name) : Lists text names := by
  obtain ⟨pieces, padded, whole⟩ := writes
  have listed : List.Forall₂ (fun name piece => IsItem name ∧ Padded name.toList piece)
      names pieces := (List.forall₂_and_left _ _).2 ⟨items, padded⟩
  have cut : List.Forall₂ (fun name piece => Inside (String.toList name) piece ∧ ',' ∉ piece)
      names pieces := by
    apply listed.imp
    rintro name piece ⟨item, padded⟩
    exact ⟨⟨padded, item.bare⟩, Text.not_mem_of_padded padded rfl item.clean⟩
  refine ⟨pieces, ⟨?_, ?_, whole⟩, cut.imp fun _ _ both => both.1⟩
  · rintro rfl
    cases padded
    exact nonempty rfl
  · have separate : List.Forall₂ (fun piece _ => ',' ∉ piece ∧ True) pieces names :=
      cut.flip.imp fun _ _ both => ⟨both.2, trivial⟩
    exact ((List.forall₂_and_left _ _).1 separate).1

/-- A text that is the word for all types has no comma, and so is one name. -/
theorem Lists.eq_singleton_of_spells (lists : Lists text names) (spells : Spells text "any") :
    ∃ name, names = [name] ∧ List.Forall₂ SameLetter name.toList "any".toList := by
  obtain ⟨core, inside, alike⟩ := spells
  have clean : ',' ∉ core := by
    intro member
    have folded := List.mem_map_of_mem (f := Char.toLower) member
    rw [Text.map_toLower_eq_iff.2 alike] at folded
    exact absurd folded (by decide)
  have single : ',' ∉ text.toList := Text.not_mem_of_padded inside.padded rfl clean
  refine ⟨String.ofList core, ?_, by rwa [String.toList_ofList]⟩
  rw [lists_iff.1 lists, listedNames, Text.pieces_of_not_mem single, List.map_singleton,
    inside.trimChars_eq]

theorem ofText?_of_spells (spells : Spells text "any") : ofText? text = some any :=
  if_pos (Text.sameLetters_trim_iff.2 spells)

theorem ofText?_of_lists (other : ¬ Spells text "any") (lists : Lists text names) :
    ofText? text = if "" ∈ names then none else some (designated names) := by
  have blank : names.any String.isEmpty = true ↔ "" ∈ names := by
    simp [List.any_eq_true, String.isEmpty_iff]
  rw [ofText?, if_neg fun same => other (Text.sameLetters_trim_iff.1 same), ← lists_iff.1 lists]
  simp only [blank]

/-- What a text says about the roots. -/
def Means (text : String) : RootPolicy → Prop
  | any => Spells text "any"
  | designated names => ¬ Spells text "any" ∧ Lists text names ∧ "" ∉ names

theorem ofText?_eq_some_iff : ofText? text = some policy ↔ Means text policy := by
  by_cases spells : Spells text "any"
  · rw [ofText?_of_spells spells]
    cases policy <;> simp [Means, spells]
  · have lists : Lists text (listedNames text) := lists_iff.2 rfl
    rw [ofText?_of_lists spells lists]
    cases policy with
    | any => simp [Means, spells]
    | designated names =>
        simp only [Means, spells, not_false_eq_true, true_and, lists_iff]
        constructor
        · intro read
          split at read
          case isTrue => cases read
          case isFalse filled =>
            cases read
            exact ⟨rfl, filled⟩
        · rintro ⟨rfl, filled⟩
          rw [if_neg filled]

theorem allows_iff (decided : policy = any ∨ policy = designated names) :
    policy.allows name = true ↔ policy = any ∨ name = "System.Object" ∨
      name = "System.Exception" ∨ name ∈ names := by
  rcases decided with rfl | rfl
  · simp [allows]
  · simp [allows, builtinRoots, or_assoc]

end RootPolicy

namespace Registry

open QualifiedName (IsName)

variable {r : Registry} {definition : Definition}

/-- A new name is accepted without a base exactly if the policy has it. -/
theorem exists_answer_of_root_iff (store : Arena Descriptor) (root : definition.base? = none)
    (isName : IsName definition.name.toList) (free : r.lookup definition.name = none) :
    (∃ d, (r.define store definition).answer = .ok d) ↔
      r.policy.allows definition.name = true := by
  have formed := QualifiedName.isWellFormed_of_isName isName
  constructor
  · rintro ⟨d, answer⟩
    by_contra refused
    have judged := judge_of_not_permits (r := r) fun permits => refused (permits.allowed root)
    rw [formed] at judged
    simp [define, judged] at answer
  · intro allowed
    have permits : r.Permits definition := ⟨formed, fun _ => allowed⟩
    have fresh : r.judge definition = .fresh := judge_eq_fresh_iff.2 ⟨permits, free⟩
    rw [define_of_fresh fresh]
    exact ⟨_, rfl⟩

end Registry

theorem TypeSystem.exists_define?_iff {s : TypeSystem} {ref : RegistryRef} {r : Registry}
    (here : s.registryAt ref = some r) (definition : Definition) :
    (∃ d t, s.define? ref definition = some (.ok d, t)) ↔
      ∃ d, (r.define s.store definition).answer = .ok d := by
  simp [define?, here, settle]

namespace Config

open QualifiedName (IsName)

variable {lookup : String → Option String} {text : String} {names : List String}
  {config settings : Config} {policy : RootPolicy}

theorem set?_rootsVariable (raw : String) (config : Config) :
    rootsVariable.set? raw config =
      (RootPolicy.ofText? raw).map fun policy => { config with rootPolicy := policy } := by
  rw [rootsVariable]

/-- Once the other values were read, the text of the roots decides. -/
theorem result_read_of_roots
    (earlier : (readFrom lookup [levelVariable, initVariable] {}).result = .ok config)
    (value : lookup "REFLEX_ROOTS" = some text) :
    (read lookup).result =
      ((RootPolicy.ofText? text).elim (.error (.invalidConfig "REFLEX_ROOTS" text)) fun policy =>
        .ok { config with rootPolicy := policy }) := by
  have whole : (read lookup).result = (readFrom lookup [rootsVariable] config).result :=
    result_readFrom_append earlier
  have last : (readFrom lookup [rootsVariable] config).result =
      (rootsVariable.set? text config).elim (.error (.invalidConfig "REFLEX_ROOTS" text)) .ok :=
    result_readFrom_singleton (v := rootsVariable) value
  rw [whole, last, set?_rootsVariable]
  cases RootPolicy.ofText? text <;> rfl

/-- How a text decides about the roots.  `names` are what stands between its
commas, and `config` are the settings that were read before. -/
structure DecidesRoots (text : String) (names : List String) (config : Config)
    (result : Except Error Config) : Prop where
  any : result = .ok { config with rootPolicy := .any } ↔ Spells text "any"
  listed : result = .ok { config with rootPolicy := .designated names } ↔
    ¬ Spells text "any" ∧ "" ∉ names
  refused : result = .error (.invalidConfig "REFLEX_ROOTS" text) ↔
    ¬ Spells text "any" ∧ "" ∈ names
  enforced : ∀ settings, result = .ok settings →
    ∀ (s : TypeSystem) (ref : RegistryRef) (r : Registry) (definition : Definition),
      s.registryAt ref = some r → r.policy = settings.rootPolicy →
      definition.base? = none → IsName definition.name.toList →
      r.lookup definition.name = none →
      ((∃ d t, s.define? ref definition = some (.ok d, t)) ↔
        settings.rootPolicy = .any ∨ definition.name = "System.Object" ∨
          definition.name = "System.Exception" ∨ definition.name ∈ names)

/-- A registry enforces the policy that was read, whichever of the two it is. -/
theorem enforced_of_decided {r : Registry} {definition : Definition} {s : TypeSystem}
    {ref : RegistryRef} (decided : policy = .any ∨ policy = .designated names)
    (here : s.registryAt ref = some r) (given : r.policy = policy)
    (root : definition.base? = none) (isName : IsName definition.name.toList)
    (free : r.lookup definition.name = none) :
    (∃ d t, s.define? ref definition = some (.ok d, t)) ↔
      policy = .any ∨ definition.name = "System.Object" ∨
        definition.name = "System.Exception" ∨ definition.name ∈ names := by
  rw [TypeSystem.exists_define?_iff here, Registry.exists_answer_of_root_iff _ root isName free,
    given, RootPolicy.allows_iff decided]

theorem decidesRoots (lists : RootPolicy.Lists text names)
    (earlier : (readFrom lookup [levelVariable, initVariable] {}).result = .ok config)
    (value : lookup "REFLEX_ROOTS" = some text) :
    DecidesRoots text names config (read lookup).result := by
  have result := result_read_of_roots earlier value
  by_cases spells : Spells text "any"
  · rw [RootPolicy.ofText?_of_spells spells, Option.elim_some] at result
    rw [result]
    refine ⟨by simp [spells], by simp [spells], by simp [spells], ?_⟩
    rintro _ ⟨⟩ s ref r definition here given root isName free
    exact enforced_of_decided (.inl rfl) here given root isName free
  · rw [RootPolicy.ofText?_of_lists spells lists] at result
    by_cases blank : "" ∈ names
    · rw [if_pos blank, Option.elim_none] at result
      rw [result]
      refine ⟨by simp [spells], by simp [blank], by simp [spells, blank], ?_⟩
      rintro _ ⟨⟩
    · rw [if_neg blank, Option.elim_some] at result
      rw [result]
      refine ⟨by simp [spells], by simp [spells, blank], by simp [blank], ?_⟩
      rintro _ ⟨⟩ s ref r definition here given root isName free
      exact enforced_of_decided (.inr rfl) here given root isName free

/-- The text of the roots is read as it is written.  It holds one name more than
commas, and these names decide what it means; names that are written with commas
between them and blanks around them are read as these names. -/
theorem roots_read_as_written
    (earlier : (readFrom lookup [levelVariable, initVariable] {}).result = .ok config)
    (value : lookup "REFLEX_ROOTS" = some text) :
    (∃ names, RootPolicy.Lists text names ∧ (∀ other, RootPolicy.Lists text other → other = names) ∧
      names.length = text.toList.count ',' + 1 ∧
      DecidesRoots text names config (read lookup).result) ∧
    ∀ names, names ≠ [] → (∀ name ∈ names, RootPolicy.IsItem name) →
      (¬ ∃ name, names = [name] ∧ List.Forall₂ SameLetter name.toList "any".toList) →
      RootPolicy.Writes text names →
      (read lookup).result = .ok { config with rootPolicy := .designated names } := by
  constructor
  · have lists : RootPolicy.Lists text (RootPolicy.listedNames text) :=
      RootPolicy.lists_iff.2 rfl
    refine ⟨_, lists, ?_, RootPolicy.length_of_lists lists, decidesRoots lists earlier value⟩
    intro other lists'
    exact RootPolicy.lists_iff.1 lists'
  · intro names nonempty items notAny writes
    have lists := writes.lists nonempty items
    have other : ¬ Spells text "any" := fun spells => notAny (lists.eq_singleton_of_spells spells)
    have filled : "" ∉ names := fun blank => (items "" blank).nonempty rfl
    exact (decidesRoots lists earlier value).listed.2 ⟨other, filled⟩

/-- Three names, one of which is the word for all types, with blanks of several kinds. -/
def spacedRoots : String :=
  " App.Root ,\tany,B c\u2003"

def spacedLookup : String → Option String
  | "REFLEX_LOG" => some " Debug"
  | "REFLEX_ROOTS" => some spacedRoots
  | _ => none

theorem roots_read_as_written_spacedRoots :
    (readFrom spacedLookup [levelVariable, initVariable] {}).result =
        .ok { logLevel := .debug } ∧
      spacedLookup "REFLEX_ROOTS" = some spacedRoots ∧
      (∀ name ∈ ["App.Root", "any", "B c"], RootPolicy.IsItem name) ∧
      RootPolicy.Writes spacedRoots ["App.Root", "any", "B c"] ∧
      3 = spacedRoots.toList.count ',' + 1 ∧
      (read spacedLookup).result =
        .ok { logLevel := .debug, rootPolicy := .designated ["App.Root", "any", "B c"] } := by
  have earlier : (readFrom spacedLookup [levelVariable, initVariable] {}).result =
      .ok { logLevel := .debug } := by
    decide +kernel
  have items : ∀ name ∈ ["App.Root", "any", "B c"], RootPolicy.IsItem name := by
    decide +kernel
  have writes : RootPolicy.Writes spacedRoots ["App.Root", "any", "B c"] :=
    ⟨[" App.Root ".toList, "\tany".toList, "B c\u2003".toList],
      .cons (Text.padded_append [' '] [' '] rfl) (.cons (Text.padded_append ['\t'] [] rfl)
        (.cons (Text.padded_append [] ['\u2003'] rfl) .nil)), by decide +kernel⟩
  have value : spacedLookup "REFLEX_ROOTS" = some spacedRoots := rfl
  obtain ⟨⟨names, _, once, length, _⟩, written⟩ := roots_read_as_written earlier value
  have several : ¬ ∃ name, ["App.Root", "any", "B c"] = [name] ∧
      List.Forall₂ SameLetter (String.toList name) "any".toList := by
    rintro ⟨name, single, _⟩
    cases single
  have result := written _ (by simp) items several writes
  rw [← once _ (writes.lists (by simp) items)] at length
  exact ⟨earlier, value, items, writes, length, result⟩

end Config

end RuntimeTypes
