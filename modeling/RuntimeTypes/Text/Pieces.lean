/-!
Cutting a text at a separating character.  A text with `n` separators has
`n + 1` pieces, and joining the pieces gives the text back.
-/

namespace RuntimeTypes.Text

/-- The pieces between the separators, empty ones included. -/
def pieces (separator : Char) : List Char → List (List Char)
  | [] => [[]]
  | c :: rest =>
      if c = separator then [] :: pieces separator rest
      else
        match pieces separator rest with
        | [] => [[c]]
        | first :: others => (c :: first) :: others

/-- The pieces written one after the other, with the separator between two neighbours. -/
def joined (separator : Char) : List (List Char) → List Char
  | [] => []
  | [last] => last
  | piece :: next :: others => piece ++ separator :: joined separator (next :: others)

theorem pieces_ne_nil (separator : Char) (cs : List Char) : pieces separator cs ≠ [] := by
  cases cs with
  | nil => simp [pieces]
  | cons c rest =>
      simp only [pieces]
      split
      · simp
      · split <;> simp

theorem joined_pieces (separator : Char) (cs : List Char) :
    joined separator (pieces separator cs) = cs := by
  induction cs with
  | nil => rfl
  | cons c rest ih =>
      simp only [pieces]
      split
      · rename_i hc
        cases hp : pieces separator rest with
        | nil => exact absurd hp (pieces_ne_nil separator rest)
        | cons first others => rw [joined, ← hp, ih, hc]; rfl
      · cases hp : pieces separator rest with
        | nil => exact absurd hp (pieces_ne_nil separator rest)
        | cons first others =>
            rw [hp] at ih
            cases others with
            | nil => simp only [joined] at ih ⊢; rw [ih]
            | cons next others => simp only [joined] at ih ⊢; rw [List.cons_append, ih]

/-- A text without separators is one piece. -/
theorem pieces_of_not_mem {separator : Char} {cs : List Char} (h : separator ∉ cs) :
    pieces separator cs = [cs] := by
  induction cs with
  | nil => rfl
  | cons c rest ih =>
      simp only [List.mem_cons, not_or] at h
      rw [pieces, if_neg (fun hc => h.1 hc.symm), ih h.2]

/-- What stands before the first separator is the first piece. -/
theorem pieces_append {separator : Char} {piece : List Char} (h : separator ∉ piece)
    (rest : List Char) :
    pieces separator (piece ++ separator :: rest) = piece :: pieces separator rest := by
  induction piece with
  | nil => simp [pieces]
  | cons c others ih =>
      simp only [List.mem_cons, not_or] at h
      rw [List.cons_append, pieces, if_neg (fun hc => h.1 hc.symm), ih h.2]

/-- Pieces without separators come back as they were joined. -/
theorem pieces_joined {separator : Char} {list : List (List Char)} (hne : list ≠ [])
    (h : ∀ piece ∈ list, separator ∉ piece) :
    pieces separator (joined separator list) = list := by
  induction list with
  | nil => exact absurd rfl hne
  | cons piece others ih =>
      have hpiece : separator ∉ piece := h piece List.mem_cons_self
      cases others with
      | nil => exact pieces_of_not_mem hpiece
      | cons next more =>
          have hothers : ∀ p ∈ next :: more, separator ∉ p := by
            intro p hp
            exact h p (List.mem_cons_of_mem piece hp)
          rw [joined, pieces_append hpiece, ih (by simp) hothers]

/-- Every separator ends a piece. -/
theorem length_pieces (separator : Char) (cs : List Char) :
    (pieces separator cs).length = cs.count separator + 1 := by
  induction cs with
  | nil => rfl
  | cons c rest ih =>
      rw [pieces]
      split
      case isTrue hc => rw [List.length_cons, ih, hc, List.count_cons_self]
      case isFalse hc =>
        rw [List.count_cons_of_ne hc, ← ih]
        cases hp : pieces separator rest with
        | nil => exact absurd hp (pieces_ne_nil separator rest)
        | cons first others => rfl

theorem not_mem_of_mem_pieces {separator : Char} {cs piece : List Char}
    (h : piece ∈ pieces separator cs) : separator ∉ piece := by
  induction cs generalizing piece with
  | nil =>
      obtain rfl := List.mem_singleton.1 h
      exact List.not_mem_nil
  | cons c rest ih =>
      rw [pieces] at h
      split at h
      case isTrue =>
        rcases List.mem_cons.1 h with rfl | h
        · exact List.not_mem_nil
        · exact ih h
      case isFalse hc =>
        cases hp : pieces separator rest with
        | nil => exact absurd hp (pieces_ne_nil separator rest)
        | cons first others =>
            rw [hp] at h ih
            rcases List.mem_cons.1 h with rfl | h
            · rw [List.mem_cons, not_or]
              exact ⟨fun same => hc same.symm, ih List.mem_cons_self⟩
            · exact ih (List.mem_cons_of_mem first h)

/-- What stands in a joined text is a separator or stands in a piece. -/
theorem mem_joined {separator c : Char} {list : List (List Char)}
    (h : c ∈ joined separator list) : c = separator ∨ ∃ piece ∈ list, c ∈ piece := by
  induction list with
  | nil => cases h
  | cons piece others ih =>
      cases others with
      | nil => exact .inr ⟨piece, List.mem_cons_self, h⟩
      | cons next more =>
          rw [joined, List.mem_append, List.mem_cons] at h
          rcases h with h | rfl | h
          · exact .inr ⟨piece, List.mem_cons_self, h⟩
          · exact .inl rfl
          · rcases ih h with rfl | ⟨other, among, h⟩
            · exact .inl rfl
            · exact .inr ⟨other, List.mem_cons_of_mem piece among, h⟩

theorem mem_joined_of_mem {separator c : Char} {piece : List Char} {list : List (List Char)}
    (among : piece ∈ list) (h : c ∈ piece) : c ∈ joined separator list := by
  induction list with
  | nil => cases among
  | cons first others ih =>
      cases others with
      | nil =>
          obtain rfl := List.mem_singleton.1 among
          exact h
      | cons next more =>
          rw [joined, List.mem_append, List.mem_cons]
          rcases List.mem_cons.1 among with rfl | among
          · exact .inl h
          · exact .inr (.inr (ih among))

end RuntimeTypes.Text
