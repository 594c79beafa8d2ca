import RuntimeTypes.Hierarchy

/-!
Ancestors of a descriptor.  The chain of an ancestor is an end of the chain of
the descriptor; so ancestry is an order, and the ancestors of one descriptor
stand in a line.
-/

namespace RuntimeTypes

namespace Descriptor

variable {a b c d : Descriptor}

theorem chain_of_root (root : d.base? = none) : d.chain = [d] := by
  cases d with
  | root serial info => rfl
  | derived serial info base => cases root

theorem chain_of_base (base : d.base? = some b) : d.chain = d :: b.chain := by
  cases d with
  | root serial info => cases base
  | derived serial info above =>
      cases base
      rfl

theorem head?_chain (d : Descriptor) : d.chain.head? = some d := by
  cases d <;> rfl

theorem mem_chain_self (d : Descriptor) : d ∈ d.chain :=
  List.mem_of_head? (head?_chain d)

theorem length_chain (d : Descriptor) : d.chain.length = d.depth + 1 := by
  have positive := List.length_pos_iff.2 (chain_ne_nil d)
  rw [depth]
  omega

/-- Types that have their bases among them have whole chains among them. -/
theorem chain_subset_of_based {types : List Descriptor}
    (based : ∀ {x b}, x ∈ types → x.base? = some b → b ∈ types) (inside : d ∈ types) :
    d.chain ⊆ types := by
  induction d with
  | root serial info => simpa [chain] using inside
  | derived serial info base ih => exact List.cons_subset.2 ⟨inside, ih (based inside rfl)⟩

/-- Where identities tell the types of a chain apart, ancestry is membership. -/
theorem isSubtypeOf_iff_mem_chain (same_iff : ∀ x ∈ d.chain, x.same a = true ↔ x = a) :
    d.isSubtypeOf a = true ↔ a ∈ d.chain := by
  rw [isSubtypeOf, List.any_eq_true]
  constructor
  · rintro ⟨step, above, same⟩
    rwa [← (same_iff step above).1 same]
  · intro above
    exact ⟨a, above, (same_iff a above).2 rfl⟩

theorem eq_of_chain_eq (same : a.chain = b.chain) : a = b := by
  have heads := congrArg List.head? same
  rw [head?_chain, head?_chain] at heads
  exact Option.some.inj heads

theorem chain_suffix_of_mem (above : a ∈ d.chain) : a.chain <:+ d.chain := by
  induction d with
  | root serial info =>
      obtain rfl := List.mem_singleton.1 above
      exact List.suffix_rfl
  | derived serial info base ih =>
      rcases List.mem_cons.1 above with rfl | above
      · exact List.suffix_rfl
      · exact (ih above).trans (List.suffix_cons _ _)

theorem mem_chain_of_suffix (ending : a.chain <:+ d.chain) : a ∈ d.chain :=
  ending.subset (mem_chain_self a)

theorem mem_chain_trans (above : b ∈ a.chain) (above' : c ∈ b.chain) : c ∈ a.chain :=
  (chain_suffix_of_mem above).subset above'

/-- A chain that is an end of another and not longer than needed is the whole of it. -/
theorem eq_of_depth_le (above : a ∈ d.chain) (deep : d.depth ≤ a.depth) : a = d := by
  apply eq_of_chain_eq
  apply (chain_suffix_of_mem above).eq_of_length_le
  rw [length_chain, length_chain]
  omega

theorem depth_le (above : a ∈ d.chain) : a.depth ≤ d.depth := by
  have shorter := (chain_suffix_of_mem above).length_le
  rw [length_chain, length_chain] at shorter
  omega

theorem depth_lt (above : a ∈ d.chain) (strict : a ≠ d) : a.depth < d.depth := by
  rcases Nat.lt_or_ge a.depth d.depth with less | deep
  · exact less
  · exact absurd (eq_of_depth_le above deep) strict

theorem mem_chain_antisymm (above : b ∈ a.chain) (below : a ∈ b.chain) : a = b :=
  eq_of_depth_le below (depth_le above)

/-- Of two ancestors one comes before the other. -/
theorem mem_chain_or_mem_chain (above : a ∈ d.chain) (above' : b ∈ d.chain) :
    b ∈ a.chain ∨ a ∈ b.chain := by
  rcases List.suffix_or_suffix_of_suffix (chain_suffix_of_mem above)
    (chain_suffix_of_mem above') with ending | ending
  · exact .inr (mem_chain_of_suffix ending)
  · exact .inl (mem_chain_of_suffix ending)

theorem getLast?_chain (d : Descriptor) : d.chain.getLast? = some d.rootOf := by
  obtain ⟨last, found⟩ := Option.ne_none_iff_exists'.1
    (mt List.getLast?_eq_none_iff.1 (chain_ne_nil d))
  rw [rootOf, found, Option.getD_some]

theorem base?_rootOf (d : Descriptor) : d.rootOf.base? = none := by
  induction d with
  | root serial info => rfl
  | derived serial info base ih =>
      have same : (derived serial info base).rootOf = base.rootOf := by
        apply Option.some.inj
        rw [← getLast?_chain, ← getLast?_chain, chain]
        exact List.getLast?_cons_of_ne_nil (chain_ne_nil base)
      rw [same, ih]

theorem rootOf_eq_of_mem (above : a ∈ d.chain) : a.rootOf = d.rootOf := by
  obtain ⟨before, whole⟩ := chain_suffix_of_mem above
  apply Option.some.inj
  rw [← getLast?_chain d, ← whole, List.getLast?_append, getLast?_chain, Option.some_or]

theorem rootOf_mem_chain (d : Descriptor) : d.rootOf ∈ d.chain :=
  List.mem_of_getLast? d.getLast?_chain

/-- A chain ends at the only root in it. -/
theorem eq_rootOf_of_mem (above : a ∈ d.chain) (root : a.base? = none) : a = d.rootOf := by
  have ends := a.getLast?_chain
  rw [chain_of_root root, List.getLast?_singleton] at ends
  rw [← rootOf_eq_of_mem above]
  exact Option.some.inj ends

/-- Below an ancestor, a chain passes a type that is built on it. -/
theorem exists_base?_of_mem_chain (above : a ∈ d.chain) (strict : a ≠ d) :
    ∃ b ∈ d.chain, b.base? = some a := by
  induction d with
  | root serial info => exact absurd (List.mem_singleton.1 above) strict
  | derived serial info base ih =>
      have above : a ∈ base.chain := (List.mem_cons.1 above).resolve_left strict
      by_cases direct : a = base
      · exact ⟨_, mem_chain_self _, congrArg some direct.symm⟩
      · obtain ⟨b, inside, built⟩ := ih above direct
        exact ⟨b, List.mem_cons_of_mem _ inside, built⟩

theorem depth_of_base (base : d.base? = some b) : d.depth = b.depth + 1 := by
  have longer := congrArg List.length (chain_of_base base)
  rw [List.length_cons, length_chain, length_chain] at longer
  omega

/-- A chain passes one type only that is built on a given one. -/
theorem eq_of_mem_chain_of_base (inside : b ∈ d.chain) (inside' : c ∈ d.chain)
    (built : b.base? = some a) (built' : c.base? = some a) : b = c := by
  have deep : b.depth = c.depth := by
    rw [depth_of_base built, depth_of_base built']
  rcases mem_chain_or_mem_chain inside inside' with above | above
  · exact (eq_of_depth_le above (Nat.le_of_eq deep)).symm
  · exact eq_of_depth_le above (Nat.le_of_eq deep.symm)

end Descriptor

namespace Walk

variable {n : Nat} {w : Walk}

theorem rest_advance (w : Walk) : w.advance.2.rest = w.rest.tail := by
  obtain ⟨next?⟩ := w
  cases next? with
  | none => rfl
  | some d =>
      cases d with
      | root serial info => rfl
      | derived serial info base => rfl

theorem rest_advanceMany (n : Nat) (w : Walk) : (w.advanceMany n).2.rest = w.rest.drop n := by
  induction n generalizing w with
  | zero => rfl
  | succ n ih =>
      rw [advanceMany, ih, rest_advance, List.drop_tail]

/-- A walk finds what is left one by one, and nothing once all of it was visited. -/
theorem found_advanceMany (n : Nat) (w : Walk) :
    (w.advanceMany n).1.map Prod.fst = (List.range n).map (w.rest[·]?) := by
  induction n generalizing w with
  | zero => rfl
  | succ n ih =>
      have first : w.advance.1 = w.rest[0]? := by
        rw [advance_rest, List.head?_eq_getElem?]
      rw [advanceMany, List.map_cons, ih, rest_advance, first, List.range_succ_eq_map,
        List.map_cons, List.map_map]
      congr 1
      apply List.map_congr_left
      intro k _
      rw [List.getElem?_tail]
      rfl

/-- As long as there are descriptors left, steps visit them in order. -/
theorem visited_advanceMany (bound : n ≤ w.rest.length) :
    (w.advanceMany n).1.map Prod.fst = (w.rest.take n).map some := by
  rw [found_advanceMany]
  apply List.ext_getElem
  · simp [Nat.min_eq_left bound]
  · intro i inside _
    have inside : i < n := by simpa using inside
    simp [Nat.lt_of_lt_of_le inside bound]

theorem next?_eq_none_of_rest (ended : w.rest = []) : w.next? = none := by
  obtain ⟨next?⟩ := w
  cases next? with
  | none => rfl
  | some d => exact absurd ended (Descriptor.chain_ne_nil d)

end Walk

end RuntimeTypes
