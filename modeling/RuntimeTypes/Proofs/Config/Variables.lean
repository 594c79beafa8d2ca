import Mathlib.Data.List.Forall2
import RuntimeTypes.Config

/-!
Reading any variables in order.  A reading goes on as long as values can be
read, and it depends on the values that it asked for and on no others.
-/

namespace RuntimeTypes

namespace Config

variable {lookup lookup' : String → Option String} {v : Variable} {rest order : List Variable}
  {config next last : Config} {raw : String}

/-- What one variable makes of the settings, unless its value cannot be read. -/
def Variable.update? (v : Variable) (lookup : String → Option String) (config : Config) :
    Option Config :=
  match lookup v.key with
  | none => some config
  | some raw => v.set? raw config

section Step

theorem update?_cases (v : Variable) (lookup : String → Option String) (config : Config) :
    (∃ next, v.update? lookup config = some next) ∨
      ∃ raw, lookup v.key = some raw ∧ v.set? raw config = none := by
  unfold Variable.update?
  cases lookup v.key with
  | none => exact .inl ⟨config, rfl⟩
  | some raw =>
      cases set : v.set? raw config with
      | none => exact .inr ⟨raw, rfl, set⟩
      | some next => exact .inl ⟨next, set⟩

theorem readFrom_cons_of_update? (applied : v.update? lookup config = some next) :
    readFrom lookup (v :: rest) config =
      ⟨v.key :: (readFrom lookup rest next).asked, (readFrom lookup rest next).result⟩ := by
  unfold Variable.update? at applied
  cases value : lookup v.key with
  | none =>
      rw [value] at applied
      cases applied
      simp only [readFrom, value]
  | some raw =>
      rw [value] at applied
      simp only [readFrom, value]
      rw [show v.set? raw config = some next from applied]

theorem readFrom_cons_of_unreadable (value : lookup v.key = some raw)
    (unreadable : v.set? raw config = none) :
    readFrom lookup (v :: rest) config = ⟨[v.key], .error (.invalidConfig v.key raw)⟩ := by
  simp only [readFrom, value, unreadable]

theorem update?_of_unreadable (value : lookup v.key = some raw)
    (unreadable : v.set? raw config = none) : v.update? lookup config = none := by
  simp only [Variable.update?, value, unreadable]

end Step

section Run

/-- A reading succeeds with what the variables make of the settings in turn. -/
theorem result_readFrom_eq_ok_iff :
    (readFrom lookup order config).result = .ok last ↔
      order.foldlM (fun config v => v.update? lookup config) config = some last := by
  induction order generalizing config with
  | nil => simp [readFrom]
  | cons v rest ih =>
      rw [List.foldlM_cons]
      rcases update?_cases v lookup config with ⟨next, applied⟩ | ⟨raw, value, unreadable⟩
      · rw [readFrom_cons_of_update? applied, applied]
        exact ih
      · rw [readFrom_cons_of_unreadable value unreadable, update?_of_unreadable value unreadable]
        simp

/-- What the first variables make of the settings is where the others begin. -/
theorem result_readFrom_append (earlier : (readFrom lookup order config).result = .ok last) :
    (readFrom lookup (order ++ rest) config).result = (readFrom lookup rest last).result := by
  induction order generalizing config with
  | nil =>
      cases earlier
      rfl
  | cons v order ih =>
      rcases update?_cases v lookup config with ⟨next, applied⟩ | ⟨raw, value, unreadable⟩
      · rw [readFrom_cons_of_update? applied] at earlier
        rw [List.cons_append, readFrom_cons_of_update? applied]
        exact ih earlier
      · rw [readFrom_cons_of_unreadable value unreadable] at earlier
        cases earlier

theorem result_readFrom_singleton (value : lookup v.key = some raw) :
    (readFrom lookup [v] config).result =
      (v.set? raw config).elim (.error (.invalidConfig v.key raw)) .ok := by
  simp only [readFrom, value]
  cases v.set? raw config <;> rfl

/-- Only the values that were asked for count. -/
theorem readFrom_congr
    (same : ∀ key ∈ (readFrom lookup order config).asked, lookup' key = lookup key) :
    readFrom lookup' order config = readFrom lookup order config := by
  induction order generalizing config with
  | nil => rfl
  | cons v rest ih =>
      rcases update?_cases v lookup config with ⟨next, applied⟩ | ⟨raw, value, unreadable⟩
      · rw [readFrom_cons_of_update? applied] at same ⊢
        have agree : lookup' v.key = lookup v.key := same v.key List.mem_cons_self
        have applied' : v.update? lookup' config = some next := by
          rw [Variable.update?, agree]
          exact applied
        rw [readFrom_cons_of_update? applied',
          ih fun key asked => same key (List.mem_cons_of_mem v.key asked)]
      · rw [readFrom_cons_of_unreadable value unreadable] at same ⊢
        have agree : lookup' v.key = lookup v.key := same v.key List.mem_cons_self
        exact readFrom_cons_of_unreadable (agree.trans value) unreadable

end Run

/-- A variable as it is described to users: its key, and the texts that can be read. -/
structure Entry where
  key : String
  readable : String → Prop

namespace Entry

/-- The value, if there is one, can be read. -/
def Accepts (entry : Entry) (lookup : String → Option String) : Prop :=
  ∀ raw, lookup entry.key = some raw → entry.readable raw

/-- A variable keeps to its description, whatever the settings were before. -/
structure Describes (entry : Entry) (v : Variable) : Prop where
  key : v.key = entry.key
  readable : ∀ raw config, (v.set? raw config).isSome = true ↔ entry.readable raw

end Entry

/-- Some entries with values that can be read are followed by one with a value
that cannot. -/
structure FirstUnreadable (lookup : String → Option String) (manual before : List Entry)
    (entry : Entry) (raw : String) : Prop where
  place : ∃ after, manual = before ++ entry :: after
  accepted : ∀ earlier ∈ before, earlier.Accepts lookup
  value : lookup entry.key = some raw
  unreadable : ¬ entry.readable raw

section Manual

variable {manual before : List Entry} {entry : Entry}

theorem accepts_or_firstUnreadable (lookup : String → Option String) (manual : List Entry) :
    (∀ entry ∈ manual, entry.Accepts lookup) ∨
      ∃ before entry raw, FirstUnreadable lookup manual before entry raw := by
  induction manual with
  | nil => exact .inl (List.forall_mem_nil _)
  | cons first rest ih =>
      by_cases accepts : first.Accepts lookup
      · rcases ih with all | ⟨before, entry, raw, ⟨after, rfl⟩, accepted, value, unreadable⟩
        · exact .inl (List.forall_mem_cons.2 ⟨accepts, all⟩)
        · exact .inr ⟨first :: before, entry, raw, ⟨after, rfl⟩,
            List.forall_mem_cons.2 ⟨accepts, accepted⟩, value, unreadable⟩
      · simp only [Entry.Accepts, not_forall] at accepts
        obtain ⟨raw, value, unreadable⟩ := accepts
        refine .inr ⟨[], first, raw, ⟨rest, rfl⟩, ?_, value, unreadable⟩
        exact List.forall_mem_nil _

theorem Entry.Describes.exists_update? (describes : entry.Describes v)
    (accepts : entry.Accepts lookup) (config : Config) :
    ∃ next, v.update? lookup config = some next := by
  rcases update?_cases v lookup config with applied | ⟨raw, value, unreadable⟩
  · exact applied
  · have readable := accepts raw (describes.key ▸ value)
    rw [← describes.readable raw config, unreadable] at readable
    cases readable

/-- Where all values can be read, all variables are asked for. -/
theorem readFrom_of_accepts (described : List.Forall₂ Entry.Describes manual order)
    (accepted : ∀ entry ∈ manual, entry.Accepts lookup) (config : Config) :
    ∃ last, readFrom lookup order config = ⟨manual.map Entry.key, .ok last⟩ := by
  induction described generalizing config with
  | nil => exact ⟨config, rfl⟩
  | @cons entry v manual rest describes _ ih =>
      rw [List.forall_mem_cons] at accepted
      obtain ⟨next, applied⟩ := describes.exists_update? accepted.1 config
      obtain ⟨last, later⟩ := ih accepted.2 next
      refine ⟨last, ?_⟩
      rw [readFrom_cons_of_update? applied, later, describes.key]
      rfl

/-- The first value that cannot be read is the last that is asked for. -/
theorem readFrom_of_firstUnreadable
    (described : List.Forall₂ Entry.Describes manual order)
    (first : FirstUnreadable lookup manual before entry raw) (config : Config) :
    readFrom lookup order config =
      ⟨before.map Entry.key ++ [entry.key], .error (.invalidConfig entry.key raw)⟩ := by
  obtain ⟨⟨after, rfl⟩, accepted, value, unreadable⟩ := first
  induction before generalizing order config with
  | nil =>
      cases described with
      | @cons _ v _ rest describes _ =>
          have refused : v.set? raw config = none := by
            rwa [← describes.readable raw config, Bool.not_eq_true, Option.isSome_eq_false_iff,
              Option.isNone_iff_eq_none] at unreadable
          rw [readFrom_cons_of_unreadable (describes.key ▸ value) refused, describes.key]
          rfl
  | cons earlier before ih =>
      rw [List.forall_mem_cons] at accepted
      cases described with
      | @cons _ v _ rest describes described =>
          obtain ⟨next, applied⟩ := describes.exists_update? accepted.1 config
          rw [readFrom_cons_of_update? applied, ih next accepted.2 described, describes.key]
          rfl

end Manual

/-- What a variable says about a setting: a text says what it means, and a
variable without a value says the default. -/
def Says {α : Type} (means : String → α → Prop) (value? : Option String) (default setting : α) :
    Prop :=
  match value? with
  | none => setting = default
  | some raw => means raw setting

section Setting

variable {α : Type} {parse : String → Option α} {means : String → α → Prop}
  {put : Config → α → Config}

/-- A variable whose texts are parsed into one setting describes that setting. -/
theorem describes_of_parse (set : ∀ raw config, v.set? raw config = (parse raw).map (put config))
    (parses : ∀ raw setting, parse raw = some setting ↔ means raw setting) :
    Entry.Describes ⟨v.key, fun raw => ∃ setting, means raw setting⟩ v where
  key := rfl
  readable raw config := by
    rw [set, Option.isSome_map, Option.isSome_iff_exists]
    exact exists_congr (parses raw)

theorem update?_eq_some_iff
    (set : ∀ raw config, v.set? raw config = (parse raw).map (put config))
    (parses : ∀ raw setting, parse raw = some setting ↔ means raw setting) {current : α}
    (kept : put config current = config) :
    v.update? lookup config = some next ↔
      ∃ setting, Says means (lookup v.key) current setting ∧ next = put config setting := by
  unfold Variable.update? Says
  cases lookup v.key with
  | none => simp [kept, eq_comm]
  | some raw => simp [set, parses, eq_comm]

end Setting

end Config

end RuntimeTypes
