import RuntimeTypes.Proofs.Config.RootNames

/-!
Reading the settings of a process.  Three variables are asked for in order, each
decides one setting by itself, and the first value that cannot be read is
reported as it was given.
-/

namespace RuntimeTypes

open Text (Spells)

namespace Level

variable {text : String} {level level' : Level}

/-- What a text says about the level. -/
def Means (text : String) (level : Level) : Prop :=
  Spells text level.name

theorem eq_of_spells (spells : Spells text level.name) (spells' : Spells text level'.name) :
    level = level' := by
  have same := spells.sameLetters spells'
  revert same
  cases level <;> cases level' <;> decide

theorem ofText?_eq_some_iff : ofText? text = some level ↔ Means text level := by
  have matched : ∀ other : Level,
      Text.sameLetters other.name (Text.trim text) = true ↔ Spells text other.name := by
    intro other
    rw [Text.sameLetters_comm, Text.sameLetters_trim_iff]
  rw [ofText?]
  constructor
  · intro found
    have hit := List.find?_some found
    exact (matched level).1 hit
  · intro spells
    cases found : all.find? fun other => Text.sameLetters other.name (Text.trim text) with
    | none =>
        have missed := List.find?_eq_none.1 found level (by cases level <;> simp [all])
        exact absurd ((matched level).2 spells) missed
    | some other =>
        have hit := List.find?_some found
        rw [eq_of_spells ((matched other).1 hit) spells]

end Level

namespace InitPolicy

variable {text : String} {policy : InitPolicy}

/-- The word for a policy in a setting. -/
def word : InitPolicy → String
  | onDemand => "lazy"
  | eager => "eager"

/-- What a text says about the time of registration. -/
def Means (text : String) (policy : InitPolicy) : Prop :=
  Spells text policy.word

theorem ofText?_eq_some_iff : ofText? text = some policy ↔ Means text policy := by
  have apart : Spells text "lazy" → ¬ Spells text "eager" := by
    intro spells spells'
    exact absurd (spells.sameLetters spells') (by decide)
  by_cases spells : Spells text "lazy"
  · rw [ofText?, if_pos (Text.sameLetters_trim_iff.2 spells)]
    cases policy <;> simp [Means, word, spells, apart spells]
  · rw [ofText?, if_neg fun same => spells (Text.sameLetters_trim_iff.1 same)]
    by_cases spells' : Spells text "eager"
    · rw [if_pos (Text.sameLetters_trim_iff.2 spells')]
      cases policy <;> simp [Means, word, spells, spells']
    · rw [if_neg fun same => spells' (Text.sameLetters_trim_iff.1 same)]
      cases policy <;> simp [Means, word, spells, spells']

end InitPolicy

namespace Config

variable {lookup : String → Option String} {config next : Config}

/-- The variables as users know them, in the order in which they are asked for. -/
def manual : List Entry :=
  [⟨"REFLEX_LOG", fun raw => ∃ level, Level.Means raw level⟩,
    ⟨"REFLEX_INIT", fun raw => ∃ policy, InitPolicy.Means raw policy⟩,
    ⟨"REFLEX_ROOTS", fun raw => ∃ policy, RootPolicy.Means raw policy⟩]

section Settings

theorem set?_levelVariable (raw : String) (config : Config) :
    levelVariable.set? raw config =
      (Level.ofText? raw).map fun level => { config with logLevel := level } := by
  rw [levelVariable]

theorem set?_initVariable (raw : String) (config : Config) :
    initVariable.set? raw config =
      (InitPolicy.ofText? raw).map fun policy => { config with initPolicy := policy } := by
  rw [initVariable]

theorem described : List.Forall₂ Entry.Describes manual readingOrder :=
  .cons (describes_of_parse set?_levelVariable fun _ _ => Level.ofText?_eq_some_iff)
    (.cons (describes_of_parse set?_initVariable fun _ _ => InitPolicy.ofText?_eq_some_iff)
      (.cons (describes_of_parse set?_rootsVariable fun _ _ => RootPolicy.ofText?_eq_some_iff)
        .nil))

theorem update?_levelVariable :
    levelVariable.update? lookup config = some next ↔
      ∃ level, Says Level.Means (lookup "REFLEX_LOG") config.logLevel level ∧
        next = { config with logLevel := level } :=
  update?_eq_some_iff set?_levelVariable (fun _ _ => Level.ofText?_eq_some_iff) rfl

theorem update?_initVariable :
    initVariable.update? lookup config = some next ↔
      ∃ policy, Says InitPolicy.Means (lookup "REFLEX_INIT") config.initPolicy policy ∧
        next = { config with initPolicy := policy } :=
  update?_eq_some_iff set?_initVariable (fun _ _ => InitPolicy.ofText?_eq_some_iff) rfl

theorem update?_rootsVariable :
    rootsVariable.update? lookup config = some next ↔
      ∃ policy, Says RootPolicy.Means (lookup "REFLEX_ROOTS") config.rootPolicy policy ∧
        next = { config with rootPolicy := policy } :=
  update?_eq_some_iff set?_rootsVariable (fun _ _ => RootPolicy.ofText?_eq_some_iff) rfl

/-- Settings in which each of three is what its own variable says, and the others
are as in every process. -/
structure SaidBy (config : Config) (lookup : String → Option String) : Prop where
  logLevel : Says Level.Means (lookup "REFLEX_LOG") .warn config.logLevel
  initPolicy : Says InitPolicy.Means (lookup "REFLEX_INIT") .onDemand config.initPolicy
  rootPolicy : Says RootPolicy.Means (lookup "REFLEX_ROOTS") (.designated []) config.rootPolicy
  arenaChunkSize : config.arenaChunkSize = 64
  registryCapacity : config.registryCapacity = 64

theorem result_read_eq_ok_iff : (read lookup).result = .ok config ↔ config.SaidBy lookup := by
  rw [read, result_readFrom_eq_ok_iff, readingOrder]
  simp only [List.foldlM_cons, List.foldlM_nil, Option.bind_eq_bind, Option.bind_eq_some_iff,
    Option.pure_def, Option.some.injEq, update?_levelVariable, update?_initVariable,
    update?_rootsVariable]
  constructor
  · rintro ⟨_, ⟨level, first, rfl⟩, _, ⟨policy, second, rfl⟩, _, ⟨roots, third, rfl⟩, rfl⟩
    exact ⟨first, second, third, rfl, rfl⟩
  · rintro ⟨first, second, third, chunkSize, capacity⟩
    refine ⟨_, ⟨_, first, rfl⟩, _, ⟨_, second, rfl⟩, _, ⟨_, third, rfl⟩, ?_⟩
    obtain ⟨_, _, _, _, _⟩ := config
    cases chunkSize
    cases capacity
    rfl

end Settings

/-- How the settings are read.  All values count or the first that cannot be read
is reported; what comes after that is not asked for, and what was not asked for
does not count. -/
structure InOrder (lookup : String → Option String) (reading : Reading) : Prop where
  settings : ∀ config, reading.result = .ok config ↔ config.SaidBy lookup
  succeeds : (∃ config, reading.result = .ok config) ↔ ∀ entry ∈ manual, entry.Accepts lookup
  all : (∀ entry ∈ manual, entry.Accepts lookup) →
    reading.asked = ["REFLEX_LOG", "REFLEX_INIT", "REFLEX_ROOTS"]
  fails : (¬ ∀ entry ∈ manual, entry.Accepts lookup) →
    ∃ before entry raw, FirstUnreadable lookup manual before entry raw
  stops : ∀ before entry raw, FirstUnreadable lookup manual before entry raw →
    reading.result = .error (.invalidConfig entry.key raw) ∧
      reading.asked = before.map Entry.key ++ [entry.key]
  asked : reading.asked <+: ["REFLEX_LOG", "REFLEX_INIT", "REFLEX_ROOTS"]
  aside : ∀ lookup', (∀ key ∈ reading.asked, lookup' key = lookup key) → read lookup' = reading

theorem read_in_order (lookup : String → Option String) : InOrder lookup (read lookup) := by
  have all : (∀ entry ∈ manual, entry.Accepts lookup) →
      ∃ last, read lookup = ⟨["REFLEX_LOG", "REFLEX_INIT", "REFLEX_ROOTS"], .ok last⟩ :=
    fun accepted => readFrom_of_accepts described accepted {}
  have stops : ∀ before entry raw, FirstUnreadable lookup manual before entry raw →
      read lookup =
        ⟨before.map Entry.key ++ [entry.key], .error (.invalidConfig entry.key raw)⟩ :=
    fun _ _ _ first => readFrom_of_firstUnreadable described first {}
  constructor
  case settings => exact fun config => result_read_eq_ok_iff
  case succeeds =>
    constructor
    · rintro ⟨config, result⟩
      rcases accepts_or_firstUnreadable lookup manual with accepted | ⟨before, entry, raw, first⟩
      · exact accepted
      · rw [stops before entry raw first] at result
        cases result
    · intro accepted
      obtain ⟨last, reading⟩ := all accepted
      exact ⟨last, by rw [reading]⟩
  case all =>
    intro accepted
    obtain ⟨last, reading⟩ := all accepted
    rw [reading]
  case fails => exact (accepts_or_firstUnreadable lookup manual).resolve_left
  case stops =>
    intro before entry raw first
    rw [stops before entry raw first]
    exact ⟨rfl, rfl⟩
  case asked =>
    rcases accepts_or_firstUnreadable lookup manual with accepted | ⟨before, entry, raw, first⟩
    · obtain ⟨last, reading⟩ := all accepted
      rw [reading]
    · rw [stops before entry raw first]
      obtain ⟨after, whole⟩ := first.place
      have keys := congrArg (List.map Entry.key) whole
      rw [List.map_append, List.map_cons, List.append_cons] at keys
      exact ⟨after.map Entry.key, keys.symm⟩
  case aside => exact fun lookup' same => readFrom_congr same

/-- The second value cannot be read, so the third is not asked for, although it
could not be read either. -/
example :
    let lookup : String → Option String
      | "REFLEX_LOG" => some "TRACE "
      | "REFLEX_INIT" => some " Later"
      | "REFLEX_ROOTS" => some "A,,B"
      | _ => none
    (read lookup).asked = ["REFLEX_LOG", "REFLEX_INIT"] ∧
      (read lookup).result = .error (.invalidConfig "REFLEX_INIT" " Later") := by
  decide +kernel

end Config

end RuntimeTypes
