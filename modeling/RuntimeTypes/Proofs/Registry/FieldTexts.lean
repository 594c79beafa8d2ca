import Mathlib.Tactic.ByContra
import RuntimeTypes.Descriptor
import RuntimeTypes.Text.Pieces

/-!
Lists of fields as they stand in messages.  Cut at its spaces, such a text shows
the names and types of the fields one by one, so that it tells different lists
apart as long as no field holds a space itself.
-/

namespace RuntimeTypes

namespace Field

variable {field : Field} {fields others : List Field}

/-- A character that stands in the name of the field or in the name of its type. -/
def Holds (field : Field) (c : Char) : Prop :=
  c ∈ field.name.toList ∨ c ∈ field.typeName.toList

/-- What stands between a field and the fields after it. -/
def mark : List Field → List Char
  | [] => []
  | _ :: _ => [',']

/-- The words of a list of fields: each name with a colon, each type name with a
comma unless it is the last one. -/
def words : List Field → List (List Char)
  | [] => []
  | field :: others =>
      (field.name.toList ++ [':']) :: (field.typeName.toList ++ mark others) :: words others

theorem toList_text (field : Field) :
    field.text.toList = field.name.toList ++ [':'] ++ ' ' :: field.typeName.toList := by
  change (field.name ++ ": " ++ field.typeName).toList = _
  simp

/-- The text of a list is its words with spaces between them. -/
theorem toList_listText (fields : List Field) :
    (listText fields).toList = Text.joined ' ' (words fields) := by
  induction fields with
  | nil => rfl
  | cons field others ih =>
      cases others with
      | nil => simp [listText, words, mark, Text.joined, toList_text]
      | cons next others =>
          have split : listText (field :: next :: others) =
              field.text ++ ", " ++ listText (next :: others) :=
            String.intercalate_cons_cons
          rw [split, String.toList_append, String.toList_append, toList_text, ih]
          simp [words, mark, Text.joined]

theorem space_not_mem_words (spaceless : ∀ field ∈ fields, ¬ field.Holds ' ') :
    ∀ word ∈ words fields, ' ' ∉ word := by
  induction fields with
  | nil => simp [words]
  | cons field others ih =>
      obtain ⟨first, later⟩ := List.forall_mem_cons.1 spaceless
      obtain ⟨name, typeName⟩ := not_or.1 first
      have marked : ' ' ∉ mark others := by
        cases others <;> simp [mark]
      simpa [words, name, typeName, marked] using ih later

theorem eq_of_words_eq (same : words fields = words others) : fields = others := by
  induction fields generalizing others with
  | nil =>
      cases others with
      | nil => rfl
      | cons other rest => cases same
  | cons field fields ih =>
      cases others with
      | nil => cases same
      | cons other rest =>
          obtain ⟨names, types, later⟩ : field.name.toList ++ [':'] = other.name.toList ++ [':'] ∧
              field.typeName.toList ++ mark fields = other.typeName.toList ++ mark rest ∧
                words fields = words rest := by
            simpa [words] using same
          obtain rfl := ih later
          have names := String.toList_inj.1 (List.append_cancel_right names)
          have types := String.toList_inj.1 (List.append_cancel_right types)
          obtain ⟨name, typeName⟩ := field
          obtain ⟨name', typeName'⟩ := other
          subst names types
          rfl

/-- A text that is not the empty one shows its words. -/
theorem pieces_listText (spaceless : ∀ field ∈ fields, ¬ field.Holds ' ') (some : fields ≠ []) :
    Text.pieces ' ' (listText fields).toList = words fields := by
  rw [toList_listText]
  apply Text.pieces_joined _ (space_not_mem_words spaceless)
  cases fields with
  | nil => exact absurd rfl some
  | cons field others => simp [words]

theorem listText_eq_empty_iff : listText fields = "" ↔ fields = [] := by
  constructor
  · intro empty
    have none := congrArg String.toList empty
    rw [toList_listText] at none
    cases fields with
    | nil => rfl
    | cons field others => simp [words, Text.joined] at none
  · rintro rfl
    rfl

/-- Lists of fields without spaces are told apart by their texts. -/
theorem eq_of_listText_eq (spaceless : ∀ field ∈ fields, ¬ field.Holds ' ')
    (spaceless' : ∀ field ∈ others, ¬ field.Holds ' ') (same : listText fields = listText others) :
    fields = others := by
  by_cases none : fields = []
  · subst none
    exact (listText_eq_empty_iff.1 same.symm).symm
  · have some : others ≠ [] := by
      rintro rfl
      exact none (listText_eq_empty_iff.1 same)
    apply eq_of_words_eq
    rw [← pieces_listText spaceless none, ← pieces_listText spaceless' some, same]

/-- Different lists with one text hold a space somewhere. -/
theorem exists_holds_space (differ : fields ≠ others) (same : listText fields = listText others) :
    ∃ field ∈ fields ++ others, field.Holds ' ' := by
  by_contra none
  simp only [List.mem_append, not_exists, not_and] at none
  apply differ
  exact eq_of_listText_eq (fun field among => none field (.inl among))
    (fun field among => none field (.inr among)) same

end Field

end RuntimeTypes
