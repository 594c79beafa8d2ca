import Mathlib.Data.List.Find
import RuntimeTypes.Proofs.Forest.NodeNames
import RuntimeTypes.Proofs.Forest.Paths
import RuntimeTypes.Proofs.Hierarchy.Ancestors
import RuntimeTypes.Proofs.Registry.Listings

/-!
Forests in a registry.  Each node that is defined becomes a type of its own,
built on the type of its parent; so what is asked about the types is answered by
the list of parents.
-/

namespace RuntimeTypes

namespace Forest

variable {label : String} {first : Nat} {parents : Parents} {nodes : Array Descriptor}
  {r later : Registry} {store : Arena Descriptor} {i k : Nat} {a b d : Descriptor}

/-- The definition of the next node. -/
def nextDefinition (label : String) (nodes : Array Descriptor) (parent? : Option Nat) :
    Definition where
  name := nodeName label nodes.size
  base? := parent?.bind fun j => nodes[j]?

theorem plantAfter_of_ok {parent? : Option Nat}
    (answer : (r.define store (nextDefinition label nodes parent?)).answer = .ok d)
    (rest : Parents) :
    plantAfter label r store nodes (parent? :: rest) =
      plantAfter label (r.define store (nextDefinition label nodes parent?)).registry
        (r.define store (nextDefinition label nodes parent?)).store (nodes.push d) rest := by
  unfold nextDefinition at answer ⊢
  simp only [plantAfter, answer]

theorem plantAfter_of_error {parent? : Option Nat} {e : Error}
    (answer : (r.define store (nextDefinition label nodes parent?)).answer = .error e)
    (rest : Parents) :
    plantAfter label r store nodes (parent? :: rest) =
      ⟨.error e, (r.define store (nextDefinition label nodes parent?)).registry,
        (r.define store (nextDefinition label nodes parent?)).store⟩ := by
  unfold nextDefinition at answer ⊢
  simp only [plantAfter, answer]

/-- The types of the first nodes of a list, in a registry that has no others.
Their serial numbers follow each other from `first` on. -/
structure Planted (label : String) (first : Nat) (parents : Parents) (nodes : Array Descriptor)
    (r : Registry) (store : Arena Descriptor) : Prop where
  bound : nodes.size ≤ parents.length
  policy : r.policy = .any
  count : r.size = nodes.size
  stored : store.size = first + nodes.size
  node : ∀ {i : Nat} {d : Descriptor}, nodes[i]? = some d →
    d = Descriptor.make (first + i) ⟨nodeName label i, [], none⟩
      ((parentOf parents i).bind fun j => nodes[j]?)
  filed : ∀ {name d}, r.lookup name = some d ↔ ∃ i, nodes[i]? = some d ∧ nodeName label i = name

theorem planted_empty (label : String) (parents : Parents) (store : Arena Descriptor) :
    Planted label store.size parents #[] (.empty .any) store where
  bound := Nat.zero_le _
  policy := rfl
  count := rfl
  stored := rfl
  node found := by simp at found
  filed := by simp

theorem lt_size_of_getElem? (found : nodes[i]? = some d) : i < nodes.size :=
  (Array.getElem?_eq_some_iff.1 found).1

/-- The next node gets a name that is free. -/
theorem Planted.judge_next (planted : Planted label first parents nodes r store)
    (formed : ∀ i, QualifiedName.isWellFormed (nodeName label i) = true) (parent? : Option Nat) :
    r.judge (nextDefinition label nodes parent?) = .fresh := by
  apply Registry.judge_eq_fresh_iff.2
  refine ⟨⟨formed _, fun _ => ?_⟩, ?_⟩
  · rw [planted.policy]
    rfl
  · apply Option.eq_none_iff_forall_ne_some.2
    intro d taken
    obtain ⟨i, found, same⟩ := planted.filed.1 taken
    have inside := lt_size_of_getElem? found
    rw [nodeName_inj.1 same] at inside
    exact Nat.lt_irrefl _ inside

/-- A base that is there stays where it is when another node is added. -/
theorem bind_getElem?_push (parent? : Option Nat) (earlier : ∀ j, parent? = some j → j < nodes.size)
    (d : Descriptor) :
    (parent?.bind fun j => (nodes.push d)[j]?) = parent?.bind fun j => nodes[j]? := by
  apply Option.bind_congr
  intro j parent
  rw [Array.getElem?_push, if_neg (Nat.ne_of_lt (earlier j parent))]

/-- Under the name of the next node its type is found, and under each other name
what was found before. -/
theorem Planted.filed_push (planted : Planted label first parents nodes r store)
    (a : Descriptor) {name : String} :
    (if nodeName label nodes.size = name then some a else r.lookup name) = some d ↔
      ∃ i, (nodes.push a)[i]? = some d ∧ nodeName label i = name := by
  split
  case isTrue same =>
    constructor
    · rintro ⟨rfl⟩
      exact ⟨nodes.size, Array.getElem?_push_size, same⟩
    · rintro ⟨i, found, named⟩
      obtain rfl : nodes.size = i := nodeName_inj.1 (same.trans named.symm)
      rwa [Array.getElem?_push_size] at found
  case isFalse other =>
    rw [planted.filed]
    apply exists_congr
    intro i
    apply and_congr_left
    rintro rfl
    have before : i ≠ nodes.size := by
      rintro rfl
      exact other rfl
    rw [Array.getElem?_push, if_neg before]

/-- What the registration of the next node leaves behind. -/
theorem Planted.register_next (planted : Planted label first parents nodes r store)
    (ordered : Ordered 0 parents)
    (formed : ∀ i, QualifiedName.isWellFormed (nodeName label i) = true)
    (more : nodes.size < parents.length) :
    Planted label first parents
      (nodes.push (Registry.made store (nextDefinition label nodes (parentOf parents nodes.size))))
      (r.register store (nextDefinition label nodes (parentOf parents nodes.size))).registry
      (r.register store (nextDefinition label nodes (parentOf parents nodes.size))).store := by
  have fresh := planted.judge_next formed (parentOf parents nodes.size)
  have free := (Registry.judge_eq_fresh_iff.1 fresh).2
  constructor
  case bound => rwa [Array.size_push]
  case policy => exact planted.policy
  case count => rw [Registry.size_register free, planted.count, Array.size_push]
  case stored =>
    rw [Array.size_push, ← Nat.add_assoc, ← planted.stored]
    exact Arena.size_alloc store _
  case node =>
    intro i d found
    have inside := lt_size_of_getElem? found
    rw [Array.size_push] at inside
    have earlier : ∀ j, parentOf parents i = some j → j < nodes.size := by
      intro j parent
      have := ordered.lt parent
      omega
    rw [bind_getElem?_push _ earlier]
    rw [Array.getElem?_push] at found
    split at found
    case isTrue last =>
      cases found
      rw [last, ← planted.stored]
      rfl
    case isFalse => exact planted.node found
  case filed =>
    intro name d
    rw [Registry.lookup_register]
    exact planted.filed_push _

theorem parentOf_of_lt (inside : i < parents.length) : parentOf parents i = parents[i] := by
  rw [parentOf, List.getElem?_eq_getElem inside]
  rfl

/-- The rest of the list is planted behind the nodes that are there. -/
theorem Planted.plant_rest {rest : Parents} (planted : Planted label first parents nodes r store)
    (ordered : Ordered 0 parents)
    (formed : ∀ i, QualifiedName.isWellFormed (nodeName label i) = true)
    (left : parents.drop nodes.size = rest) :
    ∃ nodes' r' store', plantAfter label r store nodes rest = ⟨.ok nodes', r', store'⟩ ∧
      Planted label first parents nodes' r' store' ∧ nodes'.size = parents.length := by
  induction rest generalizing nodes r store with
  | nil =>
      have whole := List.drop_eq_nil_iff.1 left
      exact ⟨nodes, r, store, rfl, planted, Nat.le_antisymm planted.bound whole⟩
  | cons parent? rest ih =>
      have more : nodes.size < parents.length := by
        apply Nat.lt_of_not_le
        intro whole
        rw [List.drop_eq_nil_iff.2 whole] at left
        cases left
      rw [List.drop_eq_getElem_cons more, ← parentOf_of_lt more] at left
      obtain ⟨rfl, left⟩ := List.cons.inj left
      have fresh := planted.judge_next formed (parentOf parents nodes.size)
      rw [plantAfter_of_ok (by rw [Registry.define_of_fresh fresh]; rfl) rest,
        Registry.define_of_fresh fresh]
      apply ih (planted.register_next ordered formed more)
      rwa [Array.size_push]

theorem extends_plantAfter (label : String) (r : Registry) (store : Arena Descriptor)
    (nodes : Array Descriptor) (rest : Parents) :
    r.Extends (plantAfter label r store nodes rest).registry := by
  induction rest generalizing r store nodes with
  | nil => exact .refl r
  | cons parent? rest ih =>
      have kept := Registry.extends_define r store (nextDefinition label nodes parent?)
      cases answer : (r.define store (nextDefinition label nodes parent?)).answer with
      | error e =>
          rw [plantAfter_of_error answer]
          exact kept
      | ok d =>
          rw [plantAfter_of_ok answer]
          exact kept.trans (ih _ _ _)

/-- What was planted once is found again, in that registry and in what became of it. -/
theorem plantAfter_again {rest : Parents} {nodes' : Array Descriptor} {r' : Registry}
    {store' : Arena Descriptor}
    (planted : plantAfter label r store nodes rest = ⟨.ok nodes', r', store'⟩)
    (kept : r'.Extends later) (other : Arena Descriptor) :
    plantAfter label later other nodes rest = ⟨.ok nodes', later, other⟩ := by
  induction rest generalizing r store nodes with
  | nil =>
      cases planted
      rfl
  | cons parent? rest ih =>
      cases answer : (r.define store (nextDefinition label nodes parent?)).answer with
      | error e =>
          rw [plantAfter_of_error answer] at planted
          cases planted
      | ok d =>
          rw [plantAfter_of_ok answer] at planted
          have settled := Registry.settles_define r store (nextDefinition label nodes parent?)
          have grown := extends_plantAfter label
            (r.define store (nextDefinition label nodes parent?)).registry
            (r.define store (nextDefinition label nodes parent?)).store (nodes.push d) rest
          rw [planted] at grown
          obtain ⟨answer', same, same'⟩ := settled.extends (grown.trans kept) other
          rw [plantAfter_of_ok (answer'.trans answer), same, same']
          exact ih planted

namespace Planted

variable (planted : Planted label first parents nodes r store)

include planted

theorem base? (found : nodes[i]? = some d) :
    d.base? = (parentOf parents i).bind fun j => nodes[j]? := by
  rw [planted.node found, Descriptor.base?_make]

theorem name (found : nodes[i]? = some d) : d.name = nodeName label i := by
  rw [planted.node found, Descriptor.name, Descriptor.info_make]

/-- Each node has a type of its own. -/
theorem same_iff (found : nodes[i]? = some a) (found' : nodes[k]? = some b) :
    a.same b = true ↔ i = k := by
  have serial : a.serial = first + i := by
    rw [planted.node found, Descriptor.serial_make]
  have serial' : b.serial = first + k := by
    rw [planted.node found', Descriptor.serial_make]
  rw [Descriptor.same, serial, serial', beq_iff_eq, Nat.add_left_cancel_iff]

theorem mem_allTypes : d ∈ r.allTypes ↔ ∃ i : Nat, nodes[i]? = some d := by
  simp only [Registry.mem_allTypes, planted.filed]
  constructor
  · rintro ⟨_, i, found, _⟩
    exact ⟨i, found⟩
  · rintro ⟨i, found⟩
    exact ⟨_, i, found, rfl⟩

theorem pairwise_allTypes : r.allTypes.Pairwise fun a b => a.name < b.name := by
  apply Registry.pairwise_allTypes
  intro name d taken
  obtain ⟨i, found, rfl⟩ := planted.filed.1 taken
  exact planted.name found

variable (ordered : Ordered 0 parents)

include ordered

/-- The parent of a node is a node, and its type the base. -/
theorem exists_base (found : nodes[i]? = some d) (parent : parentOf parents i = some k) :
    ∃ b, nodes[k]? = some b ∧ d.base? = some b := by
  have inside : k < nodes.size := Nat.lt_trans (ordered.lt parent) (lt_size_of_getElem? found)
  have found' : nodes[k]? = some nodes[k] := Array.getElem?_eq_getElem inside
  refine ⟨nodes[k], found', ?_⟩
  rw [planted.base? found, parent, Option.bind_some, found']

theorem chain (found : nodes[i]? = some d) :
    d.chain.map some = (path parents i).map fun j => nodes[j]? := by
  induction i using ordered.induction generalizing d with
  | root i root =>
      have base : d.base? = none := by
        rw [planted.base? found, root]
        rfl
      rw [Descriptor.chain_of_root base, path_of_root root, List.map_singleton,
        List.map_singleton, found]
  | child i j parent ih =>
      obtain ⟨b, found', base⟩ := planted.exists_base ordered found parent
      rw [Descriptor.chain_of_base base, ordered.path_of_child parent, List.map_cons,
        List.map_cons, ih found', found]

theorem exists_of_mem_path (found : nodes[i]? = some d) (along : k ∈ path parents i) :
    ∃ a, nodes[k]? = some a := by
  have listed : nodes[k]? ∈ d.chain.map some := by
    rw [planted.chain ordered found]
    exact List.mem_map_of_mem along
  obtain ⟨a, _, there⟩ := List.mem_map.1 listed
  exact ⟨a, there.symm⟩

/-- The chain as a list of types: no number on the path is without one. -/
theorem chain_eq_filterMap (found : nodes[i]? = some d) :
    d.chain = (path parents i).filterMap fun j => nodes[j]? := by
  have mapped := congrArg (List.filterMap id) (planted.chain ordered found)
  simpa [List.filterMap_map, Function.comp_def] using mapped

theorem mem_chain_iff (found : nodes[i]? = some a) :
    b ∈ a.chain ↔ ∃ j ∈ path parents i, nodes[j]? = some b := by
  rw [planted.chain_eq_filterMap ordered found, List.mem_filterMap]

theorem isSubtypeOf_iff (found : nodes[i]? = some a) (found' : nodes[k]? = some b) :
    a.isSubtypeOf b = true ↔ k ∈ path parents i := by
  rw [Descriptor.isSubtypeOf, List.any_eq_true]
  constructor
  · rintro ⟨step, above, same⟩
    obtain ⟨j, along, there⟩ := (planted.mem_chain_iff ordered found).1 above
    rwa [← (planted.same_iff there found').1 same]
  · intro along
    refine ⟨b, (planted.mem_chain_iff ordered found).2 ⟨k, along, found'⟩, ?_⟩
    exact (planted.same_iff found' found').2 rfl

theorem rootOf (found : nodes[i]? = some d) :
    ∃ k, (path parents i).getLast? = some k ∧ parentOf parents k = none ∧
      nodes[k]? = some d.rootOf := by
  obtain ⟨k, last, root⟩ := ordered.getLast?_path i
  refine ⟨k, last, root, ?_⟩
  have ends := congrArg List.getLast? (planted.chain ordered found)
  rw [List.getLast?_map, List.getLast?_map, last, Descriptor.getLast?_chain] at ends
  exact (Option.some.inj ends).symm

/-- The search along the chain is a search along the path. -/
theorem commonBase? (found : nodes[i]? = some a) (found' : nodes[k]? = some b) :
    a.commonBase? b =
      ((path parents i).find? fun j => j ∈ path parents k).bind fun j => nodes[j]? := by
  rw [Descriptor.commonBase?, planted.chain_eq_filterMap ordered found, List.find?_filterMap]
  congr 1
  apply List.find?_congr
  intro j along
  obtain ⟨candidate, there⟩ := planted.exists_of_mem_path ordered found along
  rw [there, Option.any_some, Bool.eq_iff_iff, decide_eq_true_iff]
  exact planted.isSubtypeOf_iff ordered found' there

theorem mem_subtypesOf (found : nodes[i]? = some d) :
    b ∈ r.subtypesOf d ↔ ∃ j, nodes[j]? = some b ∧ parentOf parents j = some i := by
  rw [Registry.mem_subtypesOf, planted.mem_allTypes, ← exists_and_right]
  apply exists_congr
  intro j
  apply and_congr_right
  intro there
  cases parent : parentOf parents j with
  | none =>
      rw [planted.base? there, parent]
      simp [Descriptor.sameBase]
  | some k =>
      obtain ⟨base, found', direct⟩ := planted.exists_base ordered there parent
      rw [direct, Option.some.injEq]
      exact planted.same_iff found' found

end Planted

/-- The types of the nodes show the list of parents: what is asked about them has
the answer that the numbers give. -/
structure Depicts (label : String) (parents : Parents) (nodes : Array Descriptor)
    (r : Registry) : Prop where
  size : nodes.size = parents.length
  count : r.size = parents.length
  name : ∀ {i : Nat} {d : Descriptor}, nodes[i]? = some d → d.name = nodeName label i
  same : ∀ {i k : Nat} {a b : Descriptor}, nodes[i]? = some a → nodes[k]? = some b →
    (a.same b = true ↔ i = k)
  chain : ∀ {i : Nat} {d : Descriptor}, nodes[i]? = some d →
    d.chain.map some = (path parents i).map fun j => nodes[j]?
  depth : ∀ {i : Nat} {d : Descriptor}, nodes[i]? = some d → d.depth + 1 = (path parents i).length
  rootOf : ∀ {i : Nat} {d : Descriptor}, nodes[i]? = some d →
    ∃ k, (path parents i).getLast? = some k ∧ parentOf parents k = none ∧
      nodes[k]? = some d.rootOf
  isSubtypeOf : ∀ {i k : Nat} {a b : Descriptor}, nodes[i]? = some a → nodes[k]? = some b →
    (a.isSubtypeOf b = true ↔ Leads parents i k)
  commonBase? : ∀ {i k : Nat} {a b : Descriptor}, nodes[i]? = some a → nodes[k]? = some b →
    a.commonBase? b =
      ((path parents i).find? fun j => j ∈ path parents k).bind fun j => nodes[j]?
  subtypesOf : ∀ {i : Nat} {a b : Descriptor}, nodes[i]? = some a →
    (b ∈ r.subtypesOf a ↔ ∃ j, nodes[j]? = some b ∧ parentOf parents j = some i)
  subtypesOf_sorted : ∀ d, (r.subtypesOf d).Pairwise fun a b => a.name < b.name
  allTypes : ∀ {d}, d ∈ r.allTypes ↔ ∃ i : Nat, nodes[i]? = some d
  allTypes_sorted : r.allTypes.Pairwise fun a b => a.name < b.name

theorem Planted.depicts (planted : Planted label first parents nodes r store)
    (ordered : Ordered 0 parents) (whole : nodes.size = parents.length) :
    Depicts label parents nodes r where
  size := whole
  count := planted.count.trans whole
  name := planted.name
  same := planted.same_iff
  chain := planted.chain ordered
  depth {i d} found := by
    have lengths := congrArg List.length (planted.chain ordered found)
    rwa [List.length_map, List.length_map, Descriptor.length_chain] at lengths
  rootOf := planted.rootOf ordered
  isSubtypeOf found found' := (planted.isSubtypeOf_iff ordered found found').trans
    ordered.mem_path_iff
  commonBase? := planted.commonBase? ordered
  subtypesOf := planted.mem_subtypesOf ordered
  subtypesOf_sorted _ := planted.pairwise_allTypes.filter _
  allTypes := planted.mem_allTypes
  allTypes_sorted := planted.pairwise_allTypes

/-- A forest is planted as it is described.  In a new registry in which every
type may be a root each node gets a type; the types show the list of parents;
and planting the list again gives the same types and changes nothing. -/
theorem plant_depicts_parents {n : Nat} (store : Arena Descriptor)
    (formed : QualifiedName.isWellFormed (nodeName label n) = true)
    (ordered : Ordered 0 parents) :
    ∃ nodes r after, plant label (.empty .any) store parents = ⟨.ok nodes, r, after⟩ ∧
      Depicts label parents nodes r ∧ nodeName label 10 < nodeName label 2 ∧
      ∀ other, plant label r other parents = ⟨.ok nodes, r, other⟩ := by
  have planted := planted_empty label parents store
  obtain ⟨nodes, r, after, done, planted, whole⟩ :=
    planted.plant_rest ordered (isWellFormed_nodeName formed) (List.drop_zero)
  refine ⟨nodes, r, after, done, planted.depicts ordered whole, ?_, ?_⟩
  · exact nodeName_lt_nodeName.2 (by decide)
  · exact plantAfter_again done (.refl r)

/-- Two roots, and ten nodes below them. -/
def twoTrees : Parents :=
  [none, some 0, some 0, some 1, none, some 4, some 1, some 3, some 5, some 5, some 2, some 10]

theorem plant_depicts_parents_twoTrees :
    QualifiedName.isWellFormed (nodeName "Tree.T" 0) = true ∧ Ordered 0 twoTrees ∧
      ∃ nodes r after,
        plant "Tree.T" (.empty .any) (.ofChunkSize 64) twoTrees = ⟨.ok nodes, r, after⟩ ∧
          Depicts "Tree.T" twoTrees nodes r ∧
          (∀ other, plant "Tree.T" r other twoTrees = ⟨.ok nodes, r, other⟩) ∧
          r.allTypes.map Descriptor.name =
            ["Tree.T0", "Tree.T1", "Tree.T10", "Tree.T11", "Tree.T2", "Tree.T3", "Tree.T4",
              "Tree.T5", "Tree.T6", "Tree.T7", "Tree.T8", "Tree.T9"] := by
  have formed : QualifiedName.isWellFormed (nodeName "Tree.T" 0) = true := by
    decide +kernel
  have ordered : Ordered 0 twoTrees := by
    simp [Ordered, twoTrees]
  have listed : (plant "Tree.T" (.empty .any) (.ofChunkSize 64) twoTrees).registry.allTypes.map
      Descriptor.name =
        ["Tree.T0", "Tree.T1", "Tree.T10", "Tree.T11", "Tree.T2", "Tree.T3", "Tree.T4",
          "Tree.T5", "Tree.T6", "Tree.T7", "Tree.T8", "Tree.T9"] := by
    decide +kernel
  obtain ⟨nodes, r, after, done, depicts, _, again⟩ :=
    plant_depicts_parents (.ofChunkSize 64) formed ordered
  rw [done] at listed
  exact ⟨formed, ordered, nodes, r, after, done, depicts, again, listed⟩

end Forest

end RuntimeTypes
