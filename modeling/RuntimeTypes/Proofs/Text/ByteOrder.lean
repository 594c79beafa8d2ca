import Mathlib.Tactic.SplitIfs

/-!
Texts are compared character by character.  Comparing the bytes of their UTF-8
form gives the same order: a character with a greater number begins with a
greater byte, or takes as many bytes and differs first in a greater one.
-/

namespace RuntimeTypes

namespace Text

variable {a b : Char} {m n : Nat} {l l' : List UInt8} {cs cs' : List Char} {s t : String}

/-- The UTF-8 form of a text. -/
def bytes (text : String) : List UInt8 :=
  text.toUTF8.data.toList

theorem bytes_eq (text : String) : bytes text = text.toList.flatMap String.utf8EncodeChar := by
  rw [bytes, String.toUTF8_eq_toByteArray, ← String.utf8Encode_toList, List.utf8Encode,
    List.toList_data_toByteArray]

theorem byte_cons_lt_of_lt (bound : n < 256) (less : m < n) :
    UInt8.ofNat m :: l < UInt8.ofNat n :: l' := by
  apply List.cons_lt_cons_iff.2
  left
  rw [UInt8.lt_iff_toNat_lt, UInt8.toNat_ofNat_of_lt' bound,
    UInt8.toNat_ofNat_of_lt' (Nat.lt_trans less bound)]
  exact less

theorem byte_cons_lt_of_le (bound : n < 256) (le : m ≤ n) (rest : m = n → l < l') :
    UInt8.ofNat m :: l < UInt8.ofNat n :: l' := by
  rcases Nat.lt_or_eq_of_le le with less | rfl
  · exact byte_cons_lt_of_lt bound less
  · exact List.cons_lt_cons_iff.2 (.inr ⟨rfl, rest rfl⟩)

/-- Characters that take the same number of bytes differ first in the greater
byte; otherwise the first byte tells the number of bytes. -/
theorem utf8EncodeChar_append_lt (less : a < b) (l l' : List UInt8) :
    String.utf8EncodeChar a ++ l < String.utf8EncodeChar b ++ l' := by
  have order : a.val.toNat < b.val.toNat := less
  have small : b.val.toNat < 1114112 := by
    have valid := b.valid
    simp only [UInt32.isValidChar, Nat.isValidChar] at valid
    omega
  simp only [String.utf8EncodeChar]
  generalize a.val.toNat = v at order
  generalize b.val.toNat = w at order small
  split_ifs
  any_goals omega
  all_goals simp only [List.cons_append, List.nil_append]
  -- A form of one byte, or forms of different lengths: the first bytes differ.
  all_goals try exact byte_cons_lt_of_lt (by omega) (by omega)
  -- Two bytes, three, and four.
  · refine byte_cons_lt_of_le (by omega) (by omega) fun same => ?_
    exact byte_cons_lt_of_lt (by omega) (by omega)
  · refine byte_cons_lt_of_le (by omega) (by omega) fun same => ?_
    refine byte_cons_lt_of_le (by omega) (by omega) fun same' => ?_
    exact byte_cons_lt_of_lt (by omega) (by omega)
  · refine byte_cons_lt_of_le (by omega) (by omega) fun same => ?_
    refine byte_cons_lt_of_le (by omega) (by omega) fun same' => ?_
    refine byte_cons_lt_of_le (by omega) (by omega) fun same'' => ?_
    exact byte_cons_lt_of_lt (by omega) (by omega)

theorem flatMap_utf8EncodeChar_lt (less : cs < cs') :
    cs.flatMap String.utf8EncodeChar < cs'.flatMap String.utf8EncodeChar := by
  induction less with
  | @nil c rest =>
      have some : String.utf8EncodeChar c ≠ [] := String.utf8EncodeChar_ne_nil
      obtain ⟨first, others, encoded⟩ := List.exists_cons_of_ne_nil some
      rw [List.flatMap_nil, List.flatMap_cons, encoded]
      exact List.nil_lt_cons _ _
  | rel less =>
      rw [List.flatMap_cons, List.flatMap_cons]
      exact utf8EncodeChar_append_lt less _ _
  | cons _ ih =>
      rw [List.flatMap_cons, List.flatMap_cons]
      exact List.append_left_lt ih

/-- The greater text has the greater bytes. -/
theorem bytes_lt_bytes (less : s < t) : bytes s < bytes t := by
  rw [bytes_eq, bytes_eq]
  exact flatMap_utf8EncodeChar_lt (String.lt_iff.1 less)

end Text

end RuntimeTypes
