import Mathlib.Data.Set.Card
import RuntimeTypes.Proofs.TypeSystem.Operations

/-!
Registries as first-wins maps.  The ledger is what definitions and look-ups
show of the state: one list of records, and for each registry a map from names
to records, in which a base is told by its number.
-/

namespace RuntimeTypes

/-- What a definition leaves behind, with the number of its base. -/
structure Record where
  number : Nat
  name : String
  base? : Option Nat
  fields : List Field
  handle? : Option Constructor
  deriving DecidableEq

def Descriptor.record (d : Descriptor) : Record where
  number := d.serial
  name := d.name
  base? := d.base?.map serial
  fields := d.fields
  handle? := d.handle?

/-- The record that a definition asks for, under some number. -/
def Definition.record (definition : Definition) (number : Nat) : Record where
  number := number
  name := definition.name
  base? := definition.base?.map Descriptor.serial
  fields := definition.fields
  handle? := definition.handle?

/-- A map in which a name that is bound stays bound to the same record. -/
structure Book where
  policy : RootPolicy
  bound : String → Option Record

def Book.bind (book : Book) (record : Record) : Book where
  policy := book.policy
  bound name := if record.name = name then some record else book.bound name

/-- The records in the order in which they were made, and the books they are in. -/
structure Ledger where
  records : List Record
  global : Book
  isolated : List Book

/-- What can be asked of a ledger: a new book, or a record in a book. -/
inductive Call where
  | create (policy : RootPolicy)
  | define (ref : RegistryRef) (definition : Definition)

def Call.operation : Call → Operation
  | create policy => .addRegistry policy
  | define ref definition => .define ref definition

namespace Ledger

def book? (l : Ledger) : RegistryRef → Option Book
  | .global => some l.global
  | .isolated index => l.isolated[index]?

def setBook (l : Ledger) (book : Book) : RegistryRef → Ledger
  | .global => { l with global := book }
  | .isolated index => { l with isolated := l.isolated.set index book }

/-- The name behind a number, as it stands in messages. -/
def baseText (l : Ledger) : Option Nat → String
  | none => "<none>"
  | some number => (l.records[number]?.map Record.name).getD ""

/-- The answer where the name is bound: the record that is bound, if it has the
base and the fields that are asked for. -/
def compare (l : Ledger) (existing asked : Record) : Except Error Record :=
  if existing.base? = asked.base? ∧ existing.fields = asked.fields then .ok existing
  else if existing.base? ≠ asked.base? then
    .error (.duplicateType asked.name (l.baseText existing.base?) (l.baseText asked.base?))
  else
    .error (.duplicateFields asked.name (Field.listText existing.fields)
      (Field.listText asked.fields))

/-- Answers a definition from a book.  Only a free name is bound, to a new record. -/
def enter (l : Ledger) (ref : RegistryRef) (book : Book) (asked : Record) :
    Except Error Record × Ledger :=
  if ¬ QualifiedName.isWellFormed asked.name then (.error (.invalidTypeName asked.name), l)
  else if asked.base? = none ∧ ¬ book.policy.allows asked.name then
    (.error (.undesignatedRoot asked.name), l)
  else
    match book.bound asked.name with
    | none => (.ok asked, { l.setBook (book.bind asked) ref with records := l.records ++ [asked] })
    | some existing => (l.compare existing asked, l)

/-- Carries out a call; the answer is that of a definition in a book that exists. -/
def perform (l : Ledger) : Call → Option (Except Error Record) × Ledger
  | .create policy => (none, { l with isolated := l.isolated ++ [⟨policy, fun _ => none⟩] })
  | .define ref definition =>
      match l.book? ref with
      | none => (none, l)
      | some book =>
          let done := l.enter ref book (definition.record l.records.length)
          (some done.1, done.2)

def performAll (l : Ledger) : List Call → List (Option (Except Error Record)) × Ledger
  | [] => ([], l)
  | call :: rest =>
      let done := l.perform call
      let later := done.2.performAll rest
      (done.1 :: later.1, later.2)

end Ledger

def Registry.book (r : Registry) : Book where
  policy := r.policy
  bound name := (r.lookup name).map Descriptor.record

/-- The answer of a definition, the descriptor as its record. -/
def Answer.record? : Answer → Option (Except Error Record)
  | type answer => some (answer.map Descriptor.record)
  | _ => none

def TypeSystem.ledger (s : TypeSystem) : Ledger where
  records := s.store.toList.map Descriptor.record
  global := s.globalRegistry.book
  isolated := s.isolated.toList.map Registry.book

namespace Definition

variable (definition : Definition) (number : Nat)

@[simp] theorem name_record : (definition.record number).name = definition.name := rfl

@[simp] theorem base?_record :
    (definition.record number).base? = definition.base?.map Descriptor.serial := rfl

@[simp] theorem fields_record : (definition.record number).fields = definition.fields := rfl

end Definition

namespace Ledger

section Enter

variable {l : Ledger} {ref : RegistryRef} {book : Book} {asked existing : Record}

theorem enter_of_malformed (malformed : QualifiedName.isWellFormed asked.name = false) :
    l.enter ref book asked = (.error (.invalidTypeName asked.name), l) := by
  simp [enter, malformed]

theorem enter_of_undesignated (formed : QualifiedName.isWellFormed asked.name = true)
    (root : asked.base? = none) (refused : book.policy.allows asked.name = false) :
    l.enter ref book asked = (.error (.undesignatedRoot asked.name), l) := by
  simp [enter, formed, root, refused]

theorem enter_of_free (formed : QualifiedName.isWellFormed asked.name = true)
    (allowed : asked.base? = none → book.policy.allows asked.name = true)
    (free : book.bound asked.name = none) :
    l.enter ref book asked =
      (.ok asked, { l.setBook (book.bind asked) ref with records := l.records ++ [asked] }) := by
  unfold enter
  rw [if_neg (not_not_intro formed), if_neg fun refused => refused.2 (allowed refused.1), free]

theorem enter_of_bound (formed : QualifiedName.isWellFormed asked.name = true)
    (allowed : asked.base? = none → book.policy.allows asked.name = true)
    (bound : book.bound asked.name = some existing) :
    l.enter ref book asked = (l.compare existing asked, l) := by
  unfold enter
  rw [if_neg (not_not_intro formed), if_neg fun refused => refused.2 (allowed refused.1), bound]

end Enter

theorem setBook_self {l : Ledger} {ref : RegistryRef} {book : Book}
    (here : l.book? ref = some book) : l.setBook book ref = l := by
  cases ref with
  | global =>
      cases here
      rfl
  | isolated index =>
      obtain ⟨bound, same⟩ := List.getElem?_eq_some_iff.1 here
      rw [setBook, ← same, List.set_getElem_self]

end Ledger

namespace Descriptor

theorem sameBase_iff {base? base?' : Option Descriptor} :
    sameBase base? base?' = true ↔ base?.map serial = base?'.map serial := by
  cases base? <;> cases base?' <;> simp [sameBase, same]

end Descriptor

namespace Registry

theorem record_made (store : Arena Descriptor) (definition : Definition) :
    (made store definition).record = definition.record store.size := by
  simp [made, Descriptor.record, Definition.record, Descriptor.name, Descriptor.fields,
    Descriptor.handle?, Definition.info]

theorem book_register (r : Registry) (store : Arena Descriptor) (definition : Definition) :
    (r.register store definition).registry.book =
      r.book.bind (definition.record store.size) := by
  change Book.mk r.policy _ = Book.mk r.policy _
  congr 1
  funext name
  rw [lookup_register]
  by_cases same : definition.name = name
  · simp [same, record_made]
  · simp [same, book]

theorem records_register (r : Registry) (store : Arena Descriptor) (definition : Definition) :
    (r.register store definition).store.toList.map Descriptor.record =
      store.toList.map Descriptor.record ++ [definition.record store.size] := by
  change (store.alloc (made store definition)).2.toList.map Descriptor.record = _
  rw [Arena.toList_alloc, List.map_append, List.map_singleton, record_made]

theorem answer_register (r : Registry) (store : Arena Descriptor) (definition : Definition) :
    (r.register store definition).answer.map Descriptor.record =
      .ok (definition.record store.size) :=
  congrArg Except.ok (record_made store definition)

end Registry

namespace TypeSystem

variable {s t : TypeSystem} {ref : RegistryRef} {r : Registry} {definition : Definition}

theorem book?_ledger (s : TypeSystem) (ref : RegistryRef) :
    s.ledger.book? ref = (s.registryAt ref).map Registry.book := by
  cases ref with
  | global => rfl
  | isolated index => simp [ledger, Ledger.book?, registryAt]

theorem ledger_settle (s : TypeSystem) (ref : RegistryRef) (outcome : Registry.Outcome) :
    (s.settle ref outcome).2.ledger =
      { s.ledger.setBook outcome.registry.book ref with
        records := outcome.store.toList.map Descriptor.record } := by
  rw [settle_eq]
  cases ref with
  | global => rfl
  | isolated index =>
      simp [ledger, setRegistry, Ledger.setBook, store, globalRegistry]

theorem ledger_settle_of_taken (here : s.registryAt ref = some r)
    (taken : r.judge definition ≠ .fresh) :
    (s.settle ref (r.define s.store definition)).2.ledger = s.ledger := by
  have bound : s.ledger.book? ref = some r.book := by
    rw [book?_ledger, here]
    rfl
  obtain ⟨registry, store⟩ := @Registry.define_of_ne_fresh r s.store definition taken
  rw [ledger_settle, registry, store, Ledger.setBook_self bound]
  rfl

/-- The ledger has the name of a base under the number of the base. -/
theorem Sound.baseText_ledger (sound : s.Sound) {base? : Option Descriptor}
    (based : ∀ base, base? = some base → s.Holds base) :
    s.ledger.baseText (base?.map Descriptor.serial) = Descriptor.baseText base? := by
  cases base? with
  | none => rfl
  | some base =>
      obtain ⟨place, found⟩ := List.mem_iff_getElem?.1 (based base rfl)
      have number := sound.numbered.serial found
      simp [Ledger.baseText, ledger, number, found, Descriptor.baseText, Descriptor.record]

/-- A bound name is answered as the ledger says. -/
theorem Sound.compare_ledger (sound : s.Sound) {existing : Descriptor} (held : s.Holds existing)
    (based : ∀ base, definition.base? = some base → s.Holds base)
    (judged : r.judge definition = Registry.compared existing definition) (number : Nat) :
    s.ledger.compare existing.record (definition.record number) =
      (r.define s.store definition).answer.map Descriptor.record := by
  have texts := sound.baseText_ledger based
  have texts' := sound.baseText_ledger fun base above => (sound.numbered.base held above).1
  by_cases base : Descriptor.sameBase existing.base? definition.base? = true
  · have same := Descriptor.sameBase_iff.1 base
    by_cases fields : existing.fields = definition.fields
    · have verdict : r.judge definition = .known existing := by
        simp [judged, Registry.compared, base, fields]
      simp only [Registry.define, verdict]
      exact if_pos ⟨same, fields⟩
    · have verdict : r.judge definition = .otherFields existing := by
        simp [judged, Registry.compared, base, fields]
      simp only [Registry.define, verdict, Ledger.compare, Descriptor.record, Definition.record,
        same, fields, and_false, if_false, ne_eq, not_true_eq_false]
      rfl
  · have other : existing.base?.map Descriptor.serial ≠ definition.base?.map Descriptor.serial :=
      fun same => base (Descriptor.sameBase_iff.2 same)
    have verdict : r.judge definition = .otherBase existing := by
      simp [judged, Registry.compared, base]
    simp only [Registry.define, verdict, Ledger.compare, Descriptor.record, Definition.record,
      other, false_and, if_false, ne_eq, not_false_eq_true, if_true, texts, texts']
    rfl

/-- A definition is answered, and changes the registries and the store, as the
ledger says. -/
theorem Sound.enter_ledger (sound : s.Sound) (here : s.registryAt ref = some r)
    (based : ∀ base, definition.base? = some base → s.Holds base) :
    s.ledger.enter ref r.book (definition.record s.ledger.records.length) =
      ((r.define s.store definition).answer.map Descriptor.record,
        (s.settle ref (r.define s.store definition)).2.ledger) := by
  have count : s.ledger.records.length = s.store.size := by
    rw [sound.numbered.size, ledger, List.length_map]
  rw [count]
  by_cases permits : r.Permits definition
  · have formed : QualifiedName.isWellFormed (definition.record s.store.size).name = true :=
      permits.wellFormed
    have allowed : (definition.record s.store.size).base? = none →
        r.book.policy.allows (definition.record s.store.size).name = true :=
      fun root => permits.allowed (Option.map_eq_none_iff.1 root)
    cases found : r.lookup definition.name with
    | none =>
        have free : r.book.bound (definition.record s.store.size).name = none := by
          simp [Registry.book, found]
        have fresh := Registry.judge_eq_fresh_iff.2 ⟨permits, found⟩
        rw [Ledger.enter_of_free formed allowed free, ledger_settle,
          Registry.define_of_fresh fresh, Registry.book_register, Registry.records_register,
          Registry.answer_register]
        rfl
    | some existing =>
        have bound : r.book.bound (definition.record s.store.size).name =
            some existing.record := by
          simp [Registry.book, found]
        have judged : r.judge definition = Registry.compared existing definition := by
          rw [Registry.judge_of_permits permits, found]
          rfl
        have taken : r.judge definition ≠ .fresh := by
          rw [judged]
          exact Registry.compared_ne_fresh existing definition
        have held := (sound.filed_at here found).1
        rw [Ledger.enter_of_bound formed allowed bound, ledger_settle_of_taken here taken,
          sound.compare_ledger held based judged]
  · have judged := Registry.judge_of_not_permits permits
    have taken : r.judge definition ≠ .fresh := by
      rw [judged]
      split <;> simp
    rw [ledger_settle_of_taken here taken]
    cases formed : QualifiedName.isWellFormed definition.name with
    | false =>
        rw [formed] at judged
        have formed : QualifiedName.isWellFormed (definition.record s.store.size).name = false :=
          formed
        rw [Ledger.enter_of_malformed formed, Registry.define, judged]
        rfl
    | true =>
        rw [formed] at judged
        have formed' : QualifiedName.isWellFormed (definition.record s.store.size).name = true :=
          formed
        have refused : definition.base? = none ∧ r.policy.allows definition.name = false := by
          by_contra allowed
          apply permits
          refine ⟨formed, ?_⟩
          intro root
          simpa [root] using allowed
        have root : (definition.record s.store.size).base? = none := by
          simp [refused.1]
        have barred : r.book.policy.allows (definition.record s.store.size).name = false :=
          refused.2
        rw [Ledger.enter_of_undesignated formed' root barred, Registry.define, judged]
        rfl

theorem ledger_addRegistry (s : TypeSystem) (policy : RootPolicy) :
    (s.addRegistry policy).2.ledger =
      { s.ledger with isolated := s.ledger.isolated ++ [⟨policy, fun _ => none⟩] } := by
  have book : (Registry.empty policy).book = ⟨policy, fun _ => none⟩ := by
    change Book.mk policy _ = _
    congr 1
  simp [ledger, addRegistry, store, globalRegistry, book]

theorem Sound.perform_ledger (sound : s.Sound) (call : Call) (admitted : s.Admits call.operation) :
    s.ledger.perform call =
      ((s.perform call.operation).1.record?, (s.perform call.operation).2.ledger) := by
  cases call with
  | create policy =>
      simp only [Ledger.perform, Call.operation, TypeSystem.perform, ledger_addRegistry]
      rfl
  | define ref definition =>
      simp only [Ledger.perform, Call.operation, TypeSystem.perform, define?, book?_ledger]
      cases here : s.registryAt ref with
      | none => rfl
      | some r =>
          have entered := sound.enter_ledger here admitted
          simp only [Option.map_some, entered]
          rfl

/-- A run of calls gives the answers that the ledger gives, and ends in the
state that the ledger describes. -/
theorem Sound.performAll_ledger (sound : s.Sound) {calls : List Call}
    (admitted : s.AdmitsAll (calls.map Call.operation)) :
    s.ledger.performAll calls =
      ((s.performAll (calls.map Call.operation)).1.map Answer.record?,
        (s.performAll (calls.map Call.operation)).2.ledger) := by
  induction calls generalizing s with
  | nil => rfl
  | cons call rest ih =>
      obtain ⟨first, later⟩ := admitted
      have step := sound.perform_ledger call first
      have run := ih (sound.perform first).1 later
      simp only [Ledger.performAll, List.map_cons, performAll, step, run]

theorem registryAt_settle (here : s.registryAt ref = some r) (outcome : Registry.Outcome)
    (other : RegistryRef) : (s.settle ref outcome).2.registryAt other =
      if other = ref then some outcome.registry else s.registryAt other := by
  have used := inUse?_settle s ref outcome other here
  cases other with
  | isolated index => exact used
  | global =>
      change some (((s.settle ref outcome).2.inUse? .global).getD _) = _
      rw [used]
      split <;> rfl

/-- A definition that does not bind a free name changes no registry and stores nothing. -/
theorem unchanged_of_define? {answer : Except Error Descriptor}
    (done : s.define? ref definition = some (answer, t)) :
    (∃ r d, s.registryAt ref = some r ∧ r.lookup definition.name = none ∧ answer = .ok d) ∨
      t.store = s.store ∧ ∀ other, t.registryAt other = s.registryAt other := by
  unfold define? at done
  cases here : s.registryAt ref with
  | none => simp [here] at done
  | some r =>
      rw [here, Option.map_some] at done
      have settled := Option.some.inj done
      by_cases fresh : r.judge definition = .fresh
      · have free := (Registry.judge_eq_fresh_iff.1 fresh).2
        rw [Registry.define_of_fresh fresh] at settled
        exact .inl ⟨r, _, rfl, free, (congrArg Prod.fst settled).symm⟩
      · obtain ⟨registry, store⟩ := @Registry.define_of_ne_fresh r s.store definition fresh
        obtain rfl : (s.settle ref (r.define s.store definition)).2 = t :=
          congrArg Prod.snd settled
        refine .inr ⟨by rw [store_settle, store], ?_⟩
        intro other
        rw [registryAt_settle here, registry]
        split
        case isTrue same => rw [same, here]
        case isFalse => rfl

end TypeSystem

/-- A registry shows what a book says: look-ups read the map, and the size of
the registry is the size of the map. -/
structure Registry.Shows (r : Registry) (book : Book) : Prop where
  policy : r.policy = book.policy
  lookup : ∀ name, (r.lookup name).map Descriptor.record = book.bound name
  contains : ∀ name, r.contains name = (book.bound name).isSome
  size : r.size = {name | book.bound name ≠ none}.ncard

theorem Registry.shows_book (r : Registry) : r.Shows r.book where
  policy := rfl
  lookup _ := rfl
  contains name := by
    rw [contains_eq_isSome, book, Option.isSome_map]
  size := by
    have bound : {name | r.book.bound name ≠ none} = (r.types.keys.toFinset : Set String) := by
      ext name
      have found := r.contains_eq_isSome name
      simp only [Set.mem_ofPred_eq, book, ne_eq, Option.map_eq_none_iff, List.coe_toFinset,
        Std.TreeMap.mem_keys, ← Std.TreeMap.contains_iff_mem]
      rw [show r.types.contains name = (r.lookup name).isSome from found]
      simp [Option.isSome_iff_ne_none]
    rw [bound, Set.ncard_coe_finset, List.toFinset_card_of_nodup Std.TreeMap.nodup_keys,
      Std.TreeMap.length_keys]
    rfl

namespace TypeSystem

variable {s : TypeSystem}

/-- Registries are first-wins maps over one store.  Calls are answered as the
ledger says, every registry shows its book, the store holds as many types as
all registries together, and only a call that binds a free name changes anything. -/
theorem performAll_refines (reachable : s.Reachable) {calls : List Call}
    (admitted : s.AdmitsAll (calls.map Call.operation)) :
    let done := s.performAll (calls.map Call.operation)
    s.ledger.performAll calls = (done.1.map Answer.record?, done.2.ledger) ∧
      (∀ ref r, done.2.registryAt ref = some r →
        ∃ book, done.2.ledger.book? ref = some book ∧ r.Shows book) ∧
      done.2.store.size = done.2.ledger.records.length ∧
      done.2.store.size = (done.2.registries.map Registry.size).sum ∧
      ∀ ref definition answer t, done.2.define? ref definition = some (answer, t) →
        (∃ r d, done.2.registryAt ref = some r ∧ r.lookup definition.name = none ∧
          answer = .ok d) ∨
        t.store = done.2.store ∧ ∀ other, t.registryAt other = done.2.registryAt other := by
  intro done
  have sound : done.2.Sound := (reachable.leads (leads_performAll admitted)).sound
  refine ⟨reachable.sound.performAll_ledger admitted, ?_, ?_, sound.tallied, ?_⟩
  · intro ref r here
    refine ⟨r.book, ?_, r.shows_book⟩
    rw [book?_ledger, here]
    rfl
  · rw [sound.numbered.size, ledger, List.length_map]
  · intro ref definition answer t answered
    exact unchanged_of_define? answered

/-- A base, a type on top of it, and the same type without it, in a registry of its own. -/
def baseAndType : List Call :=
  [.create .any, .define (.isolated 0) { name := "Base" },
    .define (.isolated 0) { name := "Type", base? := some (.root 0 ⟨"Base", [], none⟩) },
    .define (.isolated 0) { name := "Type" }]

theorem performAll_refines_baseAndType :
    let done := (start {}).performAll (baseAndType.map Call.operation)
    (start {}).AdmitsAll (baseAndType.map Call.operation) ∧
      (start {}).ledger.performAll baseAndType = (done.1.map Answer.record?, done.2.ledger) ∧
      done.2.store.size = (done.2.registries.map Registry.size).sum ∧
      done.1.map Answer.record? =
        [none, some (.ok ⟨0, "Base", none, [], none⟩), some (.ok ⟨1, "Type", some 0, [], none⟩),
          some (.error (.duplicateType "Type" "Base" "<none>"))] := by
  have admitted : (start {}).AdmitsAll (baseAndType.map Call.operation) := by
    refine ⟨trivial, ?_, ?_, ?_, trivial⟩
    · intro base none
      cases none
    · intro base same
      cases same
      unfold Holds
      decide +kernel
    · intro base none
      cases none
  have refined := performAll_refines ⟨{}, .refl⟩ admitted
  exact ⟨admitted, refined.1, refined.2.2.2.1, by decide +kernel⟩

end TypeSystem

end RuntimeTypes
