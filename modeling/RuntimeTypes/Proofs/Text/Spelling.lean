import Mathlib.Data.List.Forall2
import Mathlib.Data.List.TakeWhile
import RuntimeTypes.Text.Blank

/-!
Reading words leniently.  A text is taken for a word if it is that word up to
the case of ASCII letters, with any blanks around it.
-/

namespace RuntimeTypes

namespace Text

variable {a b : Char} {cs core : List Char} {text word word' : String}

/-- A text with blanks around it, and with nothing else. -/
def Padded (core cs : List Char) : Prop :=
  ∃ before after, (∀ c ∈ before ++ after, isBlank c = true) ∧ cs = before ++ (core ++ after)

/-- There is no blank at either end. -/
structure Bare (cs : List Char) : Prop where
  head : ∀ c ∈ cs.head?, isBlank c = false
  last : ∀ c ∈ cs.getLast?, isBlank c = false

instance (cs : List Char) : Decidable (Bare cs) :=
  decidable_of_iff (cs.head?.all (!isBlank ·) = true ∧ cs.getLast?.all (!isBlank ·) = true) <| by
    simp only [Option.all_eq_true, Bool.not_eq_true']
    exact ⟨fun both => ⟨both.1, both.2⟩, fun bare => ⟨bare.head, bare.last⟩⟩

/-- What stands between the outermost blanks of a text. -/
structure Inside (core cs : List Char) : Prop where
  padded : Padded core cs
  bare : Bare core

/-- An ASCII capital letter and the small one. -/
def CapitalOf (a b : Char) : Prop :=
  'A'.toNat ≤ a.toNat ∧ a.toNat ≤ 'Z'.toNat ∧ b.toNat = a.toNat + 32

/-- Characters that differ at most in the case of an ASCII letter. -/
def SameLetter (a b : Char) : Prop :=
  a = b ∨ CapitalOf a b ∨ CapitalOf b a

/-- A text that is taken for a word. -/
def Spells (text word : String) : Prop :=
  ∃ core, Inside core text.toList ∧ List.Forall₂ SameLetter core word.toList

section Trimming

theorem dropWhile_isBlank_of_head (head : ∀ c ∈ cs.head?, isBlank c = false) :
    cs.dropWhile isBlank = cs := by
  cases cs with
  | nil => rfl
  | cons c rest => rw [List.dropWhile_cons_of_neg (by simp [head c rfl])]

theorem head_dropWhile_isBlank (cs : List Char) :
    ∀ c ∈ (cs.dropWhile isBlank).head?, isBlank c = false := by
  intro c first
  have stops := List.head?_dropWhile_not isBlank cs
  rwa [Option.mem_def.1 first] at stops

theorem exists_blanks_append_dropWhile (cs : List Char) :
    ∃ before, (∀ c ∈ before, isBlank c = true) ∧ cs = before ++ cs.dropWhile isBlank :=
  ⟨cs.takeWhile isBlank, List.all_eq_true.1 List.all_takeWhile,
    List.takeWhile_append_dropWhile.symm⟩

theorem inside_trimChars (cs : List Char) : Inside (trimChars cs) cs := by
  obtain ⟨before, blank, whole⟩ := exists_blanks_append_dropWhile cs
  obtain ⟨after, blank', whole'⟩ :=
    exists_blanks_append_dropWhile (cs.dropWhile isBlank).reverse
  have rest : cs.dropWhile isBlank = trimChars cs ++ after.reverse := by
    rw [trimChars, ← List.reverse_append, ← whole', List.reverse_reverse]
  refine ⟨⟨before, after.reverse, ?_, by rw [← rest, ← whole]⟩, ?_, ?_⟩
  · intro c member
    rcases List.mem_append.1 member with member | member
    · exact blank c member
    · exact blank' c (List.mem_reverse.1 member)
  · intro c first
    -- What comes first in the core comes first behind the blanks.
    apply head_dropWhile_isBlank cs
    rw [rest, List.head?_append, Option.mem_def.1 first]
    rfl
  · intro c last
    apply head_dropWhile_isBlank (cs.dropWhile isBlank).reverse
    rwa [trimChars, List.getLast?_reverse] at last

theorem Inside.trimChars_eq (inside : Inside core cs) : trimChars cs = core := by
  obtain ⟨⟨before, after, blank, rfl⟩, bare⟩ := inside
  have front : ∀ c ∈ before, isBlank c = true := fun c member =>
    blank c (List.mem_append_left after member)
  have back : ∀ c ∈ after.reverse, isBlank c = true := fun c member =>
    blank c (List.mem_append_right before (List.mem_reverse.1 member))
  rw [trimChars, List.dropWhile_append_of_pos front]
  cases core with
  | nil =>
      have gone : after.dropWhile isBlank = [] :=
        List.dropWhile_eq_nil_iff.2 fun c member => back c (List.mem_reverse.2 member)
      rw [List.nil_append, gone]
      rfl
  | cons c rest =>
      have starts : (c :: rest ++ after).dropWhile isBlank = c :: rest ++ after :=
        dropWhile_isBlank_of_head bare.head
      have ends : (c :: rest).reverse.dropWhile isBlank = (c :: rest).reverse := by
        apply dropWhile_isBlank_of_head
        rw [List.head?_reverse]
        exact bare.last
      rw [starts, List.reverse_append, List.dropWhile_append_of_pos back, ends,
        List.reverse_reverse]

/-- A text has one core, which is what trimming leaves. -/
theorem inside_iff : Inside core cs ↔ trimChars cs = core :=
  ⟨Inside.trimChars_eq, fun same => same ▸ inside_trimChars cs⟩

theorem padded_append (before after : List Char)
    (blank : (before ++ after).all isBlank = true) : Padded core (before ++ (core ++ after)) :=
  ⟨before, after, List.all_eq_true.1 blank, rfl⟩

theorem not_mem_of_padded (padded : Padded core cs) (solid : isBlank a = false)
    (absent : a ∉ core) : a ∉ cs := by
  obtain ⟨before, after, blank, rfl⟩ := padded
  intro member
  simp only [List.mem_append] at member blank
  rcases member with member | member | member
  · exact absurd (blank a (.inl member)) (by simp [solid])
  · exact absent member
  · exact absurd (blank a (.inr member)) (by simp [solid])

end Trimming

section LetterCase

theorem toNat_toLower (c : Char) :
    c.toLower.toNat =
      if 'A'.toNat ≤ c.toNat ∧ c.toNat ≤ 'Z'.toNat then c.toNat + 32 else c.toNat := by
  have capital : (c.val ≥ 'A'.val ∧ c.val ≤ 'Z'.val) ↔
      ('A'.toNat ≤ c.toNat ∧ c.toNat ≤ 'Z'.toNat) := by
    simp only [ge_iff_le, UInt32.le_iff_toNat_le]
    rfl
  by_cases small : c.val ≥ 'A'.val ∧ c.val ≤ 'Z'.val
  · have lower : c.toLower = ⟨c.val + 32, _⟩ := dif_pos small
    have range := capital.1 small
    rw [if_pos range, lower]
    change (c.val + 32).toNat = c.val.toNat + 32
    rw [UInt32.toNat_add]
    change 'A'.toNat ≤ c.val.toNat ∧ c.val.toNat ≤ 90 at range
    change (c.val.toNat + 32) % 2 ^ 32 = _
    omega
  · have same : c.toLower = c := dif_neg small
    rw [if_neg fun range => small (capital.2 range), same]

theorem toLower_eq_iff : a.toLower = b.toLower ↔ SameLetter a b := by
  have letters : 'A'.toNat = 65 ∧ 'Z'.toNat = 90 := ⟨rfl, rfl⟩
  simp only [← Char.toNat_inj, toNat_toLower, SameLetter, CapitalOf, letters]
  split <;> split <;> omega

theorem map_toLower_eq_iff :
    cs.map Char.toLower = core.map Char.toLower ↔ List.Forall₂ SameLetter cs core := by
  rw [← List.forall₂_eq_eq_eq, List.forall₂_map_left_iff, List.forall₂_map_right_iff]
  simp only [toLower_eq_iff]

/-- The comparison that folds both texts finds the texts that match letter by letter. -/
theorem sameLetters_iff :
    sameLetters text word = true ↔ List.Forall₂ SameLetter text.toList word.toList := by
  rw [sameLetters, beq_iff_eq, map_toLower_eq_iff]

theorem SameLetter.isBlank_eq_false (same : SameLetter a b) (solid : isBlank b = false) :
    isBlank a = false := by
  rcases same with rfl | ⟨first, last, _⟩ | ⟨first, last, shift⟩
  · exact solid
  all_goals
    have letters : 'A'.toNat = 65 ∧ 'Z'.toNat = 90 := ⟨rfl, rfl⟩
    simp [isBlank]
    omega

theorem isBlank_eq_false_of_alike (alike : List.Forall₂ SameLetter cs core)
    (solid : ∀ c ∈ core, isBlank c = false) : ∀ c ∈ cs, isBlank c = false := by
  induction alike with
  | nil => exact solid
  | cons same _ ih =>
      rw [List.forall_mem_cons] at solid ⊢
      exact ⟨same.isBlank_eq_false solid.1, ih solid.2⟩

end LetterCase

section Words

theorem sameLetters_trim_iff : sameLetters (trim text) word = true ↔ Spells text word := by
  rw [sameLetters_iff, trim, String.toList_ofList]
  constructor
  · intro alike
    exact ⟨trimChars text.toList, inside_trimChars _, alike⟩
  · rintro ⟨core, inside, alike⟩
    rwa [inside.trimChars_eq]

theorem sameLetters_comm : sameLetters text word = sameLetters word text :=
  Bool.beq_comm

/-- Words that one text is taken for differ in case alone. -/
theorem Spells.sameLetters (spells : Spells text word) (spells' : Spells text word') :
    sameLetters word word' = true := by
  have first := sameLetters_trim_iff.2 spells
  have second := sameLetters_trim_iff.2 spells'
  simp only [Text.sameLetters, beq_iff_eq] at first second ⊢
  rw [← first, second]

/-- A word in any letters, with any blanks around it, is taken for the word. -/
theorem spells_of_padded (solid : ∀ c ∈ word.toList, isBlank c = false)
    (alike : List.Forall₂ SameLetter core word.toList) (padded : Padded core text.toList) :
    Spells text word := by
  have bare := isBlank_eq_false_of_alike alike solid
  exact ⟨core, ⟨padded, fun c first => bare c (List.mem_of_mem_head? first),
    fun c last => bare c (List.mem_of_mem_getLast? last)⟩, alike⟩

end Words

end Text

end RuntimeTypes
