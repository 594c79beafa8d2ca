import RuntimeTypes.Proofs.Registry.Judgement

/-!
What a registry lists, and how many types it counts, depends on its look-ups
alone: the order of the lists is that of the names.
-/

namespace RuntimeTypes

namespace Registry

variable {β : Type} {r r' : Registry} {f g : Descriptor → β} {d : Descriptor}

theorem allTypes_eq (r : Registry) : r.allTypes = r.types.toList.map Prod.snd := by
  change r.types.foldr (fun _ d listed => d :: listed) [] = _
  rw [Std.TreeMap.foldr_eq_foldr_toList, List.map_eq_foldr]

theorem mem_allTypes : d ∈ r.allTypes ↔ ∃ name, r.lookup name = some d := by
  simp only [allTypes_eq, List.mem_map, Prod.exists, exists_eq_right,
    Std.TreeMap.mem_toList_iff_getElem?_eq_some]
  rfl

theorem mem_subtypesOf {base : Descriptor} :
    d ∈ r.subtypesOf base ↔
      d ∈ r.allTypes ∧ Descriptor.sameBase d.base? (some base) = true :=
  List.mem_filter

/-- Where types are filed under their names, they are listed in the order of the names. -/
theorem pairwise_allTypes (filed : ∀ name d, r.lookup name = some d → d.name = name) :
    r.allTypes.Pairwise fun a b => a.name < b.name := by
  rw [allTypes_eq, List.pairwise_map]
  have ordered : r.types.toList.Pairwise fun a b => compare a.1 b.1 = .lt :=
    Std.TreeMap.ordered_keys_toList
  apply ordered.imp_of_mem
  intro a b here there less
  rw [filed a.1 a.2 (Std.TreeMap.mem_toList_iff_getElem?_eq_some.1 here),
    filed b.1 b.2 (Std.TreeMap.mem_toList_iff_getElem?_eq_some.1 there)]
  exact compareOfLessAndEq_eq_lt.1 less

/-- What is listed of the types depends on the look-ups alone. -/
theorem map_allTypes_congr (same : ∀ name, (r.lookup name).map f = (r'.lookup name).map g) :
    r.allTypes.map f = r'.allTypes.map g := by
  have entries : (r.types.map fun _ => f).toList = (r'.types.map fun _ => g).toList := by
    apply Std.TreeMap.Equiv.toList_eq
    apply Std.TreeMap.Equiv.of_forall_constGet?_eq
    intro name
    rw [Std.TreeMap.getElem?_map, Std.TreeMap.getElem?_map]
    exact same name
  have listed := congrArg (List.map Prod.snd) entries
  simpa [allTypes_eq, Std.TreeMap.toList_map, Function.comp_def] using listed

theorem length_allTypes (r : Registry) : r.allTypes.length = r.size := by
  rw [allTypes_eq, List.length_map, Std.TreeMap.length_toList]
  rfl

theorem size_congr (same : ∀ name, (r.lookup name).map f = (r'.lookup name).map g) :
    r.size = r'.size := by
  have listed := congrArg List.length (map_allTypes_congr same)
  simpa only [List.length_map, length_allTypes] using listed

end Registry

end RuntimeTypes
