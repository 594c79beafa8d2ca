import Mathlib.Data.Set.Card
import RuntimeTypes.Proofs.Registry.Listings
import RuntimeTypes.Registry.Batch

/-!
Roots that are defined by nothing but their names.  The check of a name accepts
what the grammar of names generates, and the names decide everything else: which
calls succeed, which of them get the same type, and what is listed in the end.
-/

namespace RuntimeTypes

namespace QualifiedName

variable {name : String} {segments : List (List Char)}

theorem isForbidden_dot : isForbidden '.' = false := by
  decide

/-- A text without blanks, control characters and empty pieces is made of segments. -/
theorem isName_of_isWellFormed (formed : isWellFormed name = true) : IsName name.toList := by
  simp only [isWellFormed, Bool.and_eq_true, Bool.not_eq_true', List.any_eq_false] at formed
  obtain ⟨⟨_, clean⟩, filled⟩ := formed
  refine ⟨Text.pieces '.' name.toList, Text.pieces_ne_nil _ _, ?_, (Text.joined_pieces _ _).symm⟩
  intro segment among
  constructor
  · rintro rfl
    exact filled [] among rfl
  · intro c member
    constructor
    · rintro rfl
      exact Text.not_mem_of_mem_pieces among member
    · have inside : c ∈ Text.joined '.' (Text.pieces '.' name.toList) :=
        Text.mem_joined_of_mem among member
      rw [Text.joined_pieces] at inside
      simpa using clean c inside

theorem isWellFormed_of_isName (isName : IsName name.toList) : isWellFormed name = true := by
  obtain ⟨segments, some, segmented, whole⟩ := isName
  have cut : Text.pieces '.' name.toList = segments := by
    rw [whole]
    apply Text.pieces_joined some
    intro segment among dot
    exact ((segmented segment among).2 '.' dot).1 rfl
  have filled : ∀ segment ∈ segments, segment ≠ [] := fun segment among =>
    (segmented segment among).1
  have clean : ∀ c ∈ name.toList, isForbidden c = false := by
    intro c member
    rw [whole] at member
    rcases Text.mem_joined member with rfl | ⟨segment, among, member⟩
    · exact isForbidden_dot
    · exact ((segmented segment among).2 c member).2
  have nonempty : name.toList ≠ [] := by
    intro empty
    rw [empty] at cut
    exact filled [] (by simp [← cut, Text.pieces]) rfl
  simp only [isWellFormed, cut, Bool.and_eq_true, Bool.not_eq_true', List.any_eq_false]
  refine ⟨⟨?_, ?_⟩, ?_⟩
  · simpa using nonempty
  · intro c member
    simp [clean c member]
  · intro segment among
    simpa using filled segment among

/-- The check accepts what the grammar generates. -/
theorem isWellFormed_iff_isName : isWellFormed name = true ↔ IsName name.toList :=
  ⟨isName_of_isWellFormed, isWellFormed_of_isName⟩

end QualifiedName

namespace Registry

open QualifiedName (IsName)

variable {r last : Registry} {store : Arena Descriptor} {name : String} {d e : Descriptor}

/-- A registry that holds nothing but roots that were defined by their names. -/
structure HoldsRoots (r : Registry) (store : Arena Descriptor) : Prop where
  policy : r.policy = .any
  isName : ∀ {name : String} {d : Descriptor}, r.lookup name = some d → IsName name.toList
  root : ∀ {name : String} {d : Descriptor}, r.lookup name = some d →
    d = .root d.serial ⟨name, [], none⟩ ∧ d.serial < store.size
  apart : ∀ {a b : String} {d e : Descriptor}, r.lookup a = some d → r.lookup b = some e →
    d.serial = e.serial → a = b

theorem holdsRoots_empty (store : Arena Descriptor) : (empty .any).HoldsRoots store where
  policy := rfl
  isName found := by simp at found
  root found := by simp at found
  apart found := by simp at found

namespace HoldsRoots

variable (holds : r.HoldsRoots store)

include holds

theorem permits_iff : r.Permits (rootDefinition name) ↔ IsName name.toList := by
  rw [← QualifiedName.isWellFormed_iff_isName]
  refine ⟨fun permits => permits.wellFormed, fun formed => ⟨formed, fun _ => ?_⟩⟩
  rw [holds.policy]
  rfl

/-- A name outside the grammar is refused, and nothing changes. -/
theorem define_of_not_isName (other : ¬ IsName name.toList) :
    (r.define store (rootDefinition name)).answer = .error (.invalidTypeName name) ∧
      (r.define store (rootDefinition name)).registry = r ∧
        (r.define store (rootDefinition name)).store = store := by
  have judged := judge_of_not_permits fun permits => other (holds.permits_iff.1 permits)
  have malformed : QualifiedName.isWellFormed (rootDefinition name).name = false := by
    rw [← Bool.not_eq_true]
    exact fun formed => other (QualifiedName.isName_of_isWellFormed formed)
  rw [malformed] at judged
  simp only [define, judged]
  exact ⟨rfl, rfl, rfl⟩

/-- A name of the grammar is answered with the type that the registry has under it from then on. -/
theorem define_of_isName (isName : IsName name.toList) :
    ∃ d, (r.define store (rootDefinition name)).answer = .ok d ∧
      (r.define store (rootDefinition name)).registry.lookup name = some d := by
  have permits := holds.permits_iff.2 isName
  cases found : r.lookup name with
  | none =>
      have fresh : r.judge (rootDefinition name) = .fresh := judge_eq_fresh_iff.2 ⟨permits, found⟩
      rw [define_of_fresh fresh]
      refine ⟨made store (rootDefinition name), rfl, ?_⟩
      rw [lookup_register]
      exact if_pos rfl
  | some d =>
      have known : r.judge (rootDefinition name) = .known d := by
        refine judge_eq_known_iff.2 ⟨permits, found, ?_, ?_⟩
        all_goals
          rw [(holds.root found).1]
          rfl
      refine ⟨d, by simp only [define, known], ?_⟩
      rw [(define_of_ne_fresh (by simp [known])).1, found]

theorem register (fresh : r.judge (rootDefinition name) = .fresh) :
    (r.register store (rootDefinition name)).registry.HoldsRoots
      (r.register store (rootDefinition name)).store := by
  have grown : (r.register store (rootDefinition name)).store.size = store.size + 1 :=
    Arena.size_alloc store _
  have found_cases : ∀ {other d}, (r.register store (rootDefinition name)).registry.lookup other =
      some d → r.lookup other = some d ∨ other = name ∧ d = .root store.size ⟨name, [], none⟩ := by
    intro other d found
    rw [← define_of_fresh fresh] at found
    rcases lookup_define found with found | ⟨_, same, made⟩
    · exact .inl found
    · exact .inr ⟨same, made⟩
  constructor
  case policy => exact holds.policy
  case isName =>
    intro other d found
    rcases found_cases found with found | ⟨rfl, _⟩
    · exact holds.isName found
    · exact holds.permits_iff.1 (judge_eq_fresh_iff.1 fresh).1
  case root =>
    intro other d found
    rw [grown]
    rcases found_cases found with found | ⟨rfl, rfl⟩
    · exact ⟨(holds.root found).1, Nat.lt_succ_of_lt (holds.root found).2⟩
    · exact ⟨rfl, Nat.lt_succ_self _⟩
  case apart =>
    intro a b d e found found' same
    rcases found_cases found with before | ⟨rfl, rfl⟩
    · rcases found_cases found' with before' | ⟨_, rfl⟩
      · exact holds.apart before before' same
      -- The number of the new root is above all numbers before it.
      · exact absurd same (Nat.ne_of_lt (holds.root before).2)
    · rcases found_cases found' with before' | ⟨own, _⟩
      · exact absurd same.symm (Nat.ne_of_lt (holds.root before').2)
      · exact own.symm

/-- One more definition leaves nothing but roots. -/
theorem define (name : String) :
    (r.define store (rootDefinition name)).registry.HoldsRoots
      (r.define store (rootDefinition name)).store := by
  by_cases fresh : r.judge (rootDefinition name) = .fresh
  · rw [define_of_fresh fresh]
    exact holds.register fresh
  · obtain ⟨registry, store⟩ := @define_of_ne_fresh r store _ fresh
    rw [registry, store]
    exact holds

/-- The only new name is that of the definition, if it is a name. -/
theorem isSome_lookup_define (name other : String) :
    ((r.define store (rootDefinition name)).registry.lookup other).isSome = true ↔
      (r.lookup other).isSome = true ∨ other = name ∧ IsName other.toList := by
  by_cases isName : IsName name.toList
  · obtain ⟨d, _, found⟩ := holds.define_of_isName isName
    by_cases same : other = name
    · subst same
      simp [found, isName]
    · rw [lookup_define_of_ne r store fun own => same own.symm]
      simp [same]
  · rw [(holds.define_of_not_isName isName).2.1]
    refine ⟨.inl, ?_⟩
    rintro (found | ⟨rfl, inside⟩)
    · exact found
    · exact absurd inside isName

end HoldsRoots

/-- The answer to a name, as the registry shows it in the end. -/
def answerTo (last : Registry) (name : String) : Except Error Descriptor :=
  (last.lookup name).elim (.error (.invalidTypeName name)) .ok

theorem answerTo_eq_ok_iff : last.answerTo name = .ok d ↔ last.lookup name = some d := by
  unfold answerTo
  cases last.lookup name <;> simp

theorem answerTo_of_none (none : last.lookup name = none) :
    last.answerTo name = .error (.invalidTypeName name) := by
  rw [answerTo, none]
  rfl

theorem HoldsRoots.answer_define {later : Arena Descriptor} (holds : r.HoldsRoots store)
    (name : String) (grown : (r.define store (rootDefinition name)).registry.Extends last)
    (holds' : last.HoldsRoots later) :
    (r.define store (rootDefinition name)).answer = last.answerTo name := by
  by_cases isName : IsName name.toList
  · obtain ⟨d, answer, found⟩ := holds.define_of_isName isName
    rw [answer, answerTo_eq_ok_iff.2 (grown.lookup found)]
  · have free : last.lookup name = none :=
      Option.eq_none_iff_forall_ne_some.2 fun d found => isName (holds'.isName found)
    rw [(holds.define_of_not_isName isName).1, answerTo_of_none free]

/-- What a run of definitions by names leaves behind. -/
structure Enters (r : Registry) (names : List String) (done : Batch) : Prop where
  holds : done.registry.HoldsRoots done.store
  grown : r.Extends done.registry
  answers : done.answers = names.map done.registry.answerTo
  bound : ∀ name, (done.registry.lookup name).isSome = true ↔
    (r.lookup name).isSome = true ∨ name ∈ names ∧ IsName name.toList

/-- The induction is on the names; what a definition answers is still there in the end. -/
theorem HoldsRoots.enters (holds : r.HoldsRoots store) (names : List String) :
    r.Enters names (r.defineRoots store names) := by
  induction names generalizing r store with
  | nil => exact ⟨holds, .refl r, rfl, fun name => by simp [defineRoots, defineAll]⟩
  | cons first rest ih =>
      have later := ih (holds.define first)
      refine ⟨later.holds, (r.extends_define store _).trans later.grown, ?_, ?_⟩
      · exact congrArg₂ List.cons (holds.answer_define first later.grown later.holds)
          later.answers
      · intro name
        have bound := later.bound name
        rw [holds.isSome_lookup_define, or_assoc, ← or_and_right, ← List.mem_cons] at bound
        exact bound

/-- What comes of defining roots by a list of names.  A call succeeds if its name
is of the grammar, calls get one type if they are given one name, and the list of
all types has the accepted names in the order of their characters. -/
structure Follows (names : List String) (done : Batch) : Prop where
  length : done.answers.length = names.length
  accepted : ∀ {i : Nat} {name : String}, names[i]? = some name →
    ((∃ d, done.answers[i]? = some (.ok d)) ↔ IsName name.toList)
  refused : ∀ {i : Nat} {name : String}, names[i]? = some name → ¬ IsName name.toList →
    done.answers[i]? = some (.error (.invalidTypeName name))
  shown : ∀ {i : Nat} {d : Descriptor}, done.answers[i]? = some (.ok d) →
    names[i]? = some d.name ∧ d.base? = none ∧ done.registry.lookup d.name = some d
  identical : ∀ {i j : Nat} {name name' : String}, names[i]? = some name →
    names[j]? = some name' →
    ((∃ d e, done.answers[i]? = some (.ok d) ∧ done.answers[j]? = some (.ok e) ∧
      d.same e = true) ↔ name = name' ∧ IsName name.toList)
  listed : ∀ name, name ∈ done.registry.allTypes.map Descriptor.name ↔
    name ∈ names ∧ IsName name.toList
  types : ∀ d, d ∈ done.registry.allTypes ↔ .ok d ∈ done.answers
  sorted : (done.registry.allTypes.map Descriptor.name).Pairwise (· < ·)
  size : done.registry.size = {name | name ∈ names ∧ IsName name.toList}.ncard

namespace Enters

variable {names : List String} {done : Batch} (enters : (empty .any).Enters names done)

include enters

theorem lookup_iff (name : String) :
    (∃ d, done.registry.lookup name = some d) ↔ name ∈ names ∧ IsName name.toList := by
  rw [← Option.isSome_iff_exists, enters.bound name, lookup_empty]
  simp

theorem getElem?_answers {i : Nat} {name : String} (asked : names[i]? = some name) :
    done.answers[i]? = some (done.registry.answerTo name) := by
  rw [enters.answers, List.getElem?_map, asked]
  rfl

theorem accepted {i : Nat} {name : String} (asked : names[i]? = some name) :
    (∃ d, done.answers[i]? = some (.ok d)) ↔ IsName name.toList := by
  simp only [enters.getElem?_answers asked, Option.some.injEq, answerTo_eq_ok_iff,
    enters.lookup_iff, List.mem_of_getElem? asked, true_and]

theorem refused {i : Nat} {name : String} (asked : names[i]? = some name)
    (other : ¬ IsName name.toList) :
    done.answers[i]? = some (.error (.invalidTypeName name)) := by
  have free : done.registry.lookup name = none :=
    Option.eq_none_iff_forall_ne_some.2 fun _ found => other (enters.holds.isName found)
  rw [enters.getElem?_answers asked, answerTo_of_none free]

theorem named (name : String) (d : Descriptor) (found : done.registry.lookup name = some d) :
    d.name = name := by
  rw [(enters.holds.root found).1]
  rfl

theorem shown {i : Nat} {d : Descriptor} (answered : done.answers[i]? = some (.ok d)) :
    names[i]? = some d.name ∧ d.base? = none ∧ done.registry.lookup d.name = some d := by
  rw [enters.answers, List.getElem?_map] at answered
  obtain ⟨name, asked, answer⟩ := Option.map_eq_some_iff.1 answered
  have found := answerTo_eq_ok_iff.1 answer
  have based : d.base? = none := by
    rw [(enters.holds.root found).1]
    rfl
  rw [enters.named name d found]
  exact ⟨asked, based, found⟩

theorem listed (name : String) :
    name ∈ done.registry.allTypes.map Descriptor.name ↔ name ∈ names ∧ IsName name.toList := by
  rw [← enters.lookup_iff, List.mem_map]
  constructor
  · rintro ⟨d, among, rfl⟩
    obtain ⟨name, found⟩ := mem_allTypes.1 among
    rw [enters.named name d found]
    exact ⟨d, found⟩
  · rintro ⟨d, found⟩
    exact ⟨d, mem_allTypes.2 ⟨name, found⟩, enters.named name d found⟩

theorem types (d : Descriptor) : d ∈ done.registry.allTypes ↔ .ok d ∈ done.answers := by
  rw [mem_allTypes, enters.answers, List.mem_map]
  constructor
  · rintro ⟨name, found⟩
    have among := ((enters.lookup_iff name).1 ⟨d, found⟩).1
    exact ⟨name, among, answerTo_eq_ok_iff.2 found⟩
  · rintro ⟨name, _, answer⟩
    exact ⟨name, answerTo_eq_ok_iff.1 answer⟩

theorem sorted : (done.registry.allTypes.map Descriptor.name).Pairwise (· < ·) :=
  List.pairwise_map.2 (pairwise_allTypes enters.named)

theorem size : done.registry.size = {name | name ∈ names ∧ IsName name.toList}.ncard := by
  have distinct : (done.registry.allTypes.map Descriptor.name).Nodup :=
    enters.sorted.imp fun less => String.ne_of_lt less
  have members : {name | name ∈ names ∧ IsName name.toList} =
      ((done.registry.allTypes.map Descriptor.name).toFinset : Set String) := by
    ext name
    simp only [Set.mem_ofPred_eq, List.coe_toFinset, enters.listed]
  rw [members, Set.ncard_coe_finset, List.toFinset_card_of_nodup distinct, List.length_map,
    length_allTypes]

theorem identical {i j : Nat} {name name' : String} (asked : names[i]? = some name)
    (asked' : names[j]? = some name') :
    (∃ d e, done.answers[i]? = some (.ok d) ∧ done.answers[j]? = some (.ok e) ∧
      d.same e = true) ↔ name = name' ∧ IsName name.toList := by
  simp only [enters.getElem?_answers asked, enters.getElem?_answers asked', Option.some.injEq,
    answerTo_eq_ok_iff]
  constructor
  · rintro ⟨d, e, found, found', same⟩
    have serials : d.serial = e.serial := by simpa [Descriptor.same] using same
    exact ⟨enters.holds.apart found found' serials, enters.holds.isName found⟩
  · rintro ⟨rfl, isName⟩
    obtain ⟨d, found⟩ := (enters.lookup_iff name).2 ⟨List.mem_of_getElem? asked, isName⟩
    exact ⟨d, d, found, found, by simp [Descriptor.same]⟩

end Enters

/-- Names decide what becomes of roots, whatever is in the store before. -/
theorem roots_follow_grammar (store : Arena Descriptor) (names : List String) :
    Follows names ((empty .any).defineRoots store names) := by
  have enters := (holdsRoots_empty store).enters names
  exact {
    length := by rw [enters.answers, List.length_map]
    accepted := enters.accepted
    refused := enters.refused
    shown := enters.shown
    identical := enters.identical
    listed := enters.listed
    types := enters.types
    sorted := enters.sorted
    size := enters.size }

/-- Dots at the ends, two dots in a row, a blank and a control character are
refused; a name that is repeated is listed once. -/
example :
    let done := (empty .any).defineRoots (.ofChunkSize 64)
      ["b.é", "", ".b", "b.", "b..c", "b c", "b\u0085", "a", "b.é", "b"]
    done.answers.map (fun answer => answer.toOption.map Descriptor.serial) =
        [some 0, none, none, none, none, none, none, some 1, some 0, some 2] ∧
      done.registry.allTypes.map Descriptor.name = ["a", "b", "b.é"] := by
  decide +kernel

end Registry

end RuntimeTypes
