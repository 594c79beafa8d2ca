import RuntimeTypes.Config
import RuntimeTypes.QualifiedName
import RuntimeTypes.Text.Inspect

/-!
Texts that stay on their line.  A plain text holds no control character; numbers,
qualified names and quoted texts are plain, whatever was quoted.
-/

namespace RuntimeTypes

namespace Text

variable {c : Char} {s t : String}

/-- Whether a text holds no control character. -/
def isPlain (s : String) : Bool :=
  s.toList.all fun c => !isControl c

theorem isPlain_iff : isPlain s = true ↔ ∀ c ∈ s.toList, isControl c = false := by
  simp [isPlain]

theorem not_mem_of_isPlain (plain : isPlain s = true) (control : isControl c = true) :
    c ∉ s.toList := by
  intro inside
  rw [isPlain_iff.1 plain c inside] at control
  cases control

/-- A text in quotation marks is shown to be plain by its characters, which is quicker
than to decode it. -/
theorem isPlain_ofList {cs : List Char} (plain : cs.all (fun c => !isControl c) = true) :
    isPlain (String.ofList cs) = true := by
  rwa [isPlain, String.toList_ofList]

@[simp] theorem isPlain_append (s t : String) : isPlain (s ++ t) = (isPlain s && isPlain t) := by
  simp [isPlain]

/-- What stands in a list of texts stands in one of them, or between two. -/
theorem mem_intercalate {items : List String} (inside : c ∈ (s.intercalate items).toList) :
    c ∈ s.toList ∨ ∃ item ∈ items, c ∈ item.toList := by
  induction items with
  | nil => simp at inside
  | cons item others ih =>
      cases others with
      | nil => exact .inr ⟨item, List.mem_cons_self, by simpa using inside⟩
      | cons next others =>
          simp only [String.intercalate_cons_cons, String.toList_append, List.mem_append,
            or_assoc] at inside
          rcases inside with first | between | later
          · exact .inr ⟨item, List.mem_cons_self, first⟩
          · exact .inl between
          · obtain between | ⟨other, among, later⟩ := ih later
            · exact .inl between
            · exact .inr ⟨other, List.mem_cons_of_mem item among, later⟩

theorem isPlain_intercalate {items : List String} (plain : isPlain s = true)
    (each : ∀ item ∈ items, isPlain item = true) : isPlain (s.intercalate items) = true := by
  rw [isPlain_iff]
  intro c inside
  rcases mem_intercalate inside with between | ⟨item, among, inside⟩
  · exact isPlain_iff.1 plain c between
  · exact isPlain_iff.1 (each item among) c inside

section Numbers

theorem isControl_digitChar (n : Nat) : isControl n.digitChar = false := by
  simp only [Nat.digitChar, apply_ite isControl]
  simp [isControl]

theorem exists_digitChar_of_mem_toDigitsCore {base fuel n : Nat} {digits : List Char}
    (inside : c ∈ Nat.toDigitsCore base fuel n digits) : c ∈ digits ∨ ∃ m, c = Nat.digitChar m := by
  induction fuel generalizing n digits with
  | zero => exact .inl inside
  | succ fuel ih =>
      rw [Nat.toDigitsCore] at inside
      split at inside
      · exact (List.mem_cons.1 inside).symm.imp_right fun same => ⟨_, same⟩
      · rcases ih inside with among | made
        · exact (List.mem_cons.1 among).symm.imp_right fun same => ⟨_, same⟩
        · exact .inr made

/-- Digits of any base are no control characters. -/
theorem isControl_of_mem_toDigits {base n : Nat} (inside : c ∈ Nat.toDigits base n) :
    isControl c = false := by
  rcases exists_digitChar_of_mem_toDigitsCore inside with none | ⟨m, rfl⟩
  · cases none
  · exact isControl_digitChar m

@[simp] theorem isPlain_toString_nat (n : Nat) : isPlain (toString n) = true := by
  rw [isPlain_iff]
  intro c inside
  have digits : (toString n).toList = Nat.toDigits 10 n := Nat.toList_repr
  rw [digits] at inside
  exact isControl_of_mem_toDigits inside

end Numbers

section Quoting

theorem isControl_of_mem_numbered {d : Char} (inside : d ∈ numbered c) : isControl d = false := by
  simp only [numbered, List.mem_append, List.mem_cons, List.not_mem_nil, or_false] at inside
  rcases inside with (((rfl | rfl | rfl) | digit) | rfl)
  · rfl
  · rfl
  · rfl
  · exact isControl_of_mem_toDigits digit
  · rfl

theorem isControl_of_mem_quotedChar {d : Char} (inside : d ∈ quotedChar c) :
    isControl d = false := by
  unfold quotedChar at inside
  split at inside
  case h_7 =>
    split at inside
    case isTrue => exact isControl_of_mem_numbered inside
    case isFalse shown =>
      obtain rfl := List.mem_singleton.1 inside
      simp [isHidden] at shown
      exact shown.1
  all_goals
    simp only [List.mem_cons, List.not_mem_nil, or_false] at inside
    rcases inside with rfl | rfl <;> rfl

/-- A quoted text is plain, whatever it quotes. -/
@[simp] theorem isPlain_quoted (s : String) : isPlain (quoted s) = true := by
  rw [isPlain_iff]
  intro c inside
  simp only [quoted, String.toList_ofList, quotedChars, List.mem_cons, List.mem_append,
    List.mem_flatMap, List.not_mem_nil, or_false] at inside
  rcases inside with rfl | ⟨d, _, inside⟩ | rfl
  · rfl
  · exact isControl_of_mem_quotedChar inside
  · rfl

end Quoting

end Text

theorem QualifiedName.isPlain_of_isWellFormed {name : String}
    (formed : isWellFormed name = true) : Text.isPlain name = true := by
  simp only [isWellFormed, Bool.and_eq_true, Bool.not_eq_true', List.any_eq_false] at formed
  rw [Text.isPlain_iff]
  intro c inside
  have allowed := formed.1.2 c inside
  simp only [isForbidden, Bool.or_eq_true, not_or, Bool.not_eq_true] at allowed
  exact allowed.2

theorem InitPolicy.isPlain_inspect (policy : InitPolicy) : Text.isPlain policy.inspect = true := by
  cases policy <;> rfl

/-- A policy is shown on one line, whatever names it lists. -/
theorem RootPolicy.isPlain_inspect (policy : RootPolicy) : Text.isPlain policy.inspect = true := by
  cases policy with
  | any => rfl
  | designated extra =>
      have items : Text.isPlain (", ".intercalate (extra.map Text.quoted)) = true := by
        apply Text.isPlain_intercalate rfl
        simp
      change Text.isPlain ("Designated" ++ "(" ++ ("[" ++ _ ++ "]") ++ ")") = true
      simp only [Text.isPlain_append, items, Bool.and_true]
      rfl

end RuntimeTypes
