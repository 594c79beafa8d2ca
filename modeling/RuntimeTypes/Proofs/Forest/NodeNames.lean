import RuntimeTypes.Forest
import Std.Data.String.ToNat

/-!
The names of nodes.  Whether they are well formed does not depend on the number,
no two nodes share a name, and they are ordered as the decimals are as texts.
-/

namespace RuntimeTypes

/-- What is written behind a text without a separator goes into its last piece. -/
theorem Text.exists_pieces_append (separator : Char) (cs : List Char) :
    ∃ before last, ∀ piece, separator ∉ piece →
      pieces separator (cs ++ piece) = before ++ [last ++ piece] := by
  induction cs with
  | nil => exact ⟨[], [], fun piece => pieces_of_not_mem⟩
  | cons c rest ih =>
      obtain ⟨before, last, split⟩ := ih
      by_cases separates : c = separator
      · refine ⟨[] :: before, last, ?_⟩
        intro piece single
        rw [List.cons_append, pieces, if_pos separates, split piece single, List.cons_append]
      · cases before with
        | nil =>
            refine ⟨[], c :: last, ?_⟩
            intro piece single
            rw [List.cons_append, pieces, if_neg separates, split piece single]
            rfl
        | cons first others =>
            refine ⟨(c :: first) :: others, last, ?_⟩
            intro piece single
            rw [List.cons_append, pieces, if_neg separates, split piece single]
            rfl

namespace QualifiedName

theorem isForbidden_of_isDigit {c : Char} (digit : c.isDigit = true) :
    c ≠ '.' ∧ isForbidden c = false := by
  have bounds : 48 ≤ c.toNat ∧ c.toNat ≤ 57 := by
    simpa [Char.isDigit, UInt32.le_iff_toNat_le] using digit
  constructor
  · rintro rfl
    exact absurd bounds (by decide)
  · simp [isForbidden, Text.isBlank, Text.isControl]
    omega

theorem isSegment_toString (n : Nat) : IsSegment (toString n).toList := by
  have digits : (toString n).toList = Nat.toDigits 10 n := Nat.toList_repr
  rw [digits]
  constructor
  · exact Nat.toDigits_ne_nil
  · intro c member
    exact isForbidden_of_isDigit (Nat.isDigit_of_mem_toDigits (by decide) (by decide) member)

/-- Whether a name with one more segment at its end is well formed depends on
what stands before the segment alone. -/
theorem exists_isWellFormed_append (label : String) :
    ∃ formed, ∀ s, IsSegment s.toList → isWellFormed (label ++ s) = formed := by
  obtain ⟨before, last, split⟩ := Text.exists_pieces_append '.' label.toList
  refine ⟨!label.toList.any isForbidden && !before.any List.isEmpty, ?_⟩
  intro s segment
  have single : '.' ∉ s.toList := fun member => (segment.2 _ member).1 rfl
  have clean : s.toList.any isForbidden = false :=
    List.any_eq_false.2 fun c member => by simp [(segment.2 c member).2]
  have filled : ∀ front, (front ++ s.toList).isEmpty = false := fun front =>
    List.isEmpty_eq_false_iff.2 (List.append_ne_nil_of_right_ne_nil front segment.1)
  simp only [isWellFormed, String.toList_append, split _ single, List.any_append, clean, filled,
    List.any_cons, List.any_nil, Bool.or_false, Bool.not_false, Bool.true_and]

end QualifiedName

namespace Forest

variable {label : String} {n i j : Nat}

theorem isWellFormed_nodeName (formed : QualifiedName.isWellFormed (nodeName label n) = true)
    (i : Nat) : QualifiedName.isWellFormed (nodeName label i) = true := by
  obtain ⟨answer, same⟩ := QualifiedName.exists_isWellFormed_append label
  rw [nodeName, same _ (QualifiedName.isSegment_toString n)] at formed
  rw [nodeName, same _ (QualifiedName.isSegment_toString i), formed]

theorem nodeName_inj : nodeName label i = nodeName label j ↔ i = j := by
  rw [nodeName, nodeName, String.append_right_inj]
  exact Nat.repr_inj

theorem nodeName_lt_nodeName :
    nodeName label i < nodeName label j ↔ toString i < toString j := by
  rw [nodeName, nodeName, String.lt_iff, String.lt_iff, String.toList_append, String.toList_append]
  induction label.toList with
  | nil => rfl
  | cons c rest ih => simpa using ih

end Forest

end RuntimeTypes
