import Mathlib.Algebra.Order.BigOperators.Group.List
import Mathlib.Algebra.Order.Group.Nat
import Mathlib.Algebra.Ring.Nat
import Mathlib.Data.List.Induction
import Mathlib.Data.Nat.Init
import RuntimeTypes.Arena

/-!
The store as a list that only grows.  A record is pushed into the last chunk,
which has room for it; nothing else is touched.  So a slot is given out once,
keeps its record, and no chunk ever holds more than it was made for.
-/

namespace RuntimeTypes

namespace Arena

variable {α : Type} {a : Arena α} {before : Array (Chunk α)} {last : Chunk α} {slot : Slot}
  {record : α} {records : List α} {k m : Nat}

/-- The chunk that takes the next record has room, and stands behind the others:
it is the last chunk of the store, or a new one. -/
structure Opens (a : Arena α) (before : Array (Chunk α)) (last : Chunk α) : Prop where
  roomy : a.makeRoom.chunks = before.push last
  room : last.records.size < last.capacity
  origin : a.chunks = before.push last ∨
    a.chunks = before ∧ a.isFull = true ∧ last = a.newChunk

theorem makeRoom_eq (a : Arena α) : a.makeRoom = { a with chunks := a.makeRoom.chunks } := by
  unfold makeRoom
  split <;> rfl

theorem modify_push_size (before : Array (Chunk α)) (last : Chunk α) (f : Chunk α → Chunk α) :
    (before.push last).modify before.size f = before.push (f last) := by
  apply Array.ext
  · simp
  · intro i bound bound'
    simp only [Array.getElem_modify, Array.getElem_push]
    grind

namespace Opens

variable (opens : a.Opens before last)

include opens

/-- All that storing a record does. -/
theorem alloc_eq (record : α) : a.alloc record =
    (⟨before.size, last.records.size⟩,
      { a with
        chunks := before.push { last with records := last.records.push record }
        size := a.size + 1 }) := by
  rw [alloc, makeRoom_eq, opens.roomy]
  simp only [openSlot, put, Array.size_push, Array.back?_push, Nat.add_sub_cancel,
    modify_push_size, Option.map_some, Option.getD_some]

theorem get?_open : a.get? ⟨before.size, last.records.size⟩ = none := by
  rcases opens.origin with same | ⟨same, _⟩
  · simp [get?, same]
  · simp [get?, same]

theorem get?_alloc_self (record : α) :
    (a.alloc record).2.get? (a.alloc record).1 = some record := by
  rw [opens.alloc_eq]
  simp [get?]

theorem get?_alloc_of_some (found : a.get? slot = some record) (other : α) :
    (a.alloc other).2.get? slot = some record := by
  rw [opens.alloc_eq]
  rcases opens.origin with same | ⟨same, _⟩
  all_goals
    simp only [get?, same] at found ⊢
    grind

end Opens

/-- The capacities of the chunks in order. -/
def capacities (a : Arena α) : List Nat :=
  a.chunks.toList.map Chunk.capacity

theorem Opens.capacities_prefix (opens : a.Opens before last) (record : α) :
    a.capacities <+: (a.alloc record).2.capacities := by
  rw [opens.alloc_eq]
  rcases opens.origin with same | ⟨same, _⟩
  · simp [capacities, same]
  · simp [capacities, same]

/-- What a chunk may have room for. -/
def Fitting (a : Arena α) (capacity : Nat) : Prop :=
  0 < capacity ∧ if a.weightless then capacity = maxWord else capacity ≤ maxChunkSize

/-- All chunks but the last are full, the last one is neither empty nor
overfull, and the separate count is right. -/
structure Packed (a : Arena α) : Prop where
  sized : 0 < a.chunkSize ∧ a.chunkSize ≤ maxChunkSize
  fitting : ∀ chunk ∈ a.chunks, a.Fitting chunk.capacity
  full : ∀ chunk ∈ a.chunks.pop, chunk.records.size = chunk.capacity
  filling : ∀ last, a.chunks.back? = some last →
    0 < last.records.size ∧ last.records.size ≤ last.capacity
  counted : a.size = a.toList.length

theorem clampChunkSize_bounds (requested : Nat) :
    0 < clampChunkSize requested ∧ clampChunkSize requested ≤ maxChunkSize := by
  simp only [clampChunkSize, maxChunkSize]
  omega

/-- A store without chunks is packed. -/
theorem packed_of_empty (sized : 0 < a.chunkSize ∧ a.chunkSize ≤ maxChunkSize)
    (empty : a.chunks = #[]) (zero : a.size = 0) : a.Packed where
  sized := sized
  fitting := by simp [empty]
  full := by simp [empty]
  filling := by simp [empty]
  counted := by simp [toList, empty, zero]

namespace Packed

variable (packed : a.Packed)

include packed

theorem nextCapacity_bounds : 0 < a.nextCapacity ∧ a.nextCapacity ≤ maxChunkSize := by
  have sized := packed.sized
  unfold nextCapacity
  split <;> omega

theorem fitting_newChunk : a.Fitting a.newChunk.capacity := by
  have bounds := packed.nextCapacity_bounds
  unfold Fitting newChunk
  cases a.weightless with
  | true => simp [maxWord]
  | false => simpa using bounds

/-- A chunk that is not full has room, and so has a new one. -/
theorem exists_opens : ∃ before last, a.Opens before last := by
  by_cases full : a.isFull = true
  · refine ⟨a.chunks, a.newChunk, ?_, packed.fitting_newChunk.1, .inr ⟨rfl, full, rfl⟩⟩
    simp [makeRoom, full]
  · obtain ⟨before, last, whole⟩ : ∃ (before : Array (Chunk α)) (last : Chunk α),
        a.chunks = before.push last := by
      apply Array.exists_push_of_ne_empty
      intro empty
      simp [isFull, empty] at full
    have bound := (packed.filling last (by simp [whole])).2
    have unequal : last.records.size ≠ last.capacity := by
      simpa [isFull, whole] using full
    refine ⟨before, last, ?_, by omega, .inl whole⟩
    simp [makeRoom, full, whole]

theorem full_of_isFull (isFull : a.isFull = true) {chunk : Chunk α} (inside : chunk ∈ a.chunks) :
    chunk.records.size = chunk.capacity := by
  obtain ⟨before, last, whole⟩ := Array.exists_push_of_ne_empty (Array.ne_empty_of_mem inside)
  rw [whole, Array.mem_push] at inside
  rcases inside with inside | rfl
  · exact packed.full chunk (by simpa [whole] using inside)
  · simpa [Arena.isFull, whole] using isFull

/-- Behind the chunks that are full, the next record goes into one that fits. -/
theorem of_opens (opens : a.Opens before last) :
    (∀ chunk ∈ before, a.Fitting chunk.capacity ∧ chunk.records.size = chunk.capacity) ∧
      a.Fitting last.capacity := by
  rcases opens.origin with same | ⟨same, isFull, rfl⟩
  · refine ⟨?_, packed.fitting last (by simp [same])⟩
    intro chunk inside
    exact ⟨packed.fitting chunk (by simp [same, inside]),
      packed.full chunk (by simpa [same] using inside)⟩
  · refine ⟨?_, packed.fitting_newChunk⟩
    intro chunk inside
    rw [← same] at inside
    exact ⟨packed.fitting chunk inside, packed.full_of_isFull isFull inside⟩

theorem alloc (record : α) : (a.alloc record).2.Packed := by
  obtain ⟨before, last, opens⟩ := packed.exists_opens
  obtain ⟨closed, fitting⟩ := packed.of_opens opens
  have counted : (a.alloc record).2.size = (a.alloc record).2.toList.length := by
    rw [size_alloc, toList_alloc, List.length_append, packed.counted]
    rfl
  rw [opens.alloc_eq] at counted ⊢
  refine ⟨packed.sized, ?fitting, ?full, ?filling, counted⟩
  case fitting =>
    intro chunk inside
    rcases Array.mem_push.1 inside with inside | rfl
    · exact (closed chunk inside).1
    · exact fitting
  case full =>
    intro chunk inside
    rw [Array.pop_push] at inside
    exact (closed chunk inside).2
  case filling =>
    intro chunk found
    have room := opens.room
    simp only [Array.back?_push, Option.some.injEq] at found
    subst found
    simp only [Array.size_push]
    omega

end Packed

section Run

/-- The store after the first records of a sequence. -/
def stage (a : Arena α) (records : List α) (m : Nat) : Arena α :=
  (a.allocAll (records.take m)).2

theorem allocAll_concat (a : Arena α) (records : List α) (record : α) :
    a.allocAll (records ++ [record]) =
      ((a.allocAll records).1.push ((a.allocAll records).2.alloc record).1,
        ((a.allocAll records).2.alloc record).2) := by
  simp [allocAll]

theorem stage_succ (here : records[k]? = some record) :
    a.stage records (k + 1) = ((a.stage records k).alloc record).2 := by
  rw [stage, List.take_add_one, here, Option.toList_some, allocAll_concat, stage]

theorem stage_of_length_le (ended : records.length ≤ m) :
    a.stage records m = (a.allocAll records).2 := by
  rw [stage, List.take_of_length_le ended]

theorem packed_allocAll (packed : a.Packed) (records : List α) : (a.allocAll records).2.Packed := by
  induction records using List.reverseRecOn with
  | nil => exact packed
  | append_singleton records record ih =>
      rw [allocAll_concat]
      exact ih.alloc record

theorem packed_stage (packed : a.Packed) (records : List α) (m : Nat) :
    (a.stage records m).Packed :=
  packed_allocAll packed _

theorem toList_allocAll (a : Arena α) (records : List α) :
    (a.allocAll records).2.toList = a.toList ++ records := by
  induction records using List.reverseRecOn with
  | nil => simp [allocAll]
  | append_singleton records record ih =>
      rw [allocAll_concat, toList_alloc, ih, List.append_assoc]

theorem size_slots (a : Arena α) (records : List α) :
    (a.allocAll records).1.size = records.length := by
  induction records using List.reverseRecOn with
  | nil => rfl
  | append_singleton records record ih =>
      rw [allocAll_concat, Array.size_push, ih, List.length_append, List.length_singleton]

theorem stage_append (bound : m ≤ records.length) (more : List α) :
    a.stage (records ++ more) m = a.stage records m := by
  rw [stage, stage, List.take_append_of_le_length bound]

/-- Each record gets the slot that is open when its turn comes. -/
theorem slot_allocAll (here : records[k]? = some record) :
    (a.allocAll records).1[k]? = some ((a.stage records k).alloc record).1 := by
  induction records using List.reverseRecOn with
  | nil => simp at here
  | append_singleton records last ih =>
      have bound : k ≤ records.length := by
        have inside := (List.getElem?_eq_some_iff.1 here).1
        rw [List.length_append, List.length_singleton] at inside
        omega
      rw [allocAll_concat, Array.getElem?_push, size_slots, stage_append bound]
      by_cases newest : k = records.length
      · subst newest
        obtain rfl : last = record := by simpa using here
        rw [if_pos rfl, stage_of_length_le (Nat.le_refl _)]
      · rw [if_neg newest]
        apply ih
        rwa [List.getElem?_append_left (by omega)] at here

/-- A step of a run stores the next record, or the run is over. -/
theorem stage_succ_cases (a : Arena α) (records : List α) (m : Nat) :
    a.stage records (m + 1) = a.stage records m ∨
      ∃ record, records[m]? = some record ∧
        a.stage records (m + 1) = ((a.stage records m).alloc record).2 := by
  cases here : records[m]? with
  | none =>
      have ended := List.getElem?_eq_none_iff.1 here
      left
      rw [stage_of_length_le ended, stage_of_length_le (Nat.le_succ_of_le ended)]
  | some record => exact .inr ⟨record, rfl, stage_succ here⟩

variable (packed : a.Packed)

include packed

/-- From its allocation on, a slot holds its record. -/
theorem get?_stage (here : records[k]? = some record) (later : k < m) :
    (a.stage records m).get? ((a.stage records k).alloc record).1 = some record := by
  induction m, later using Nat.le_induction with
  | base =>
      obtain ⟨before, last, opens⟩ := (packed_stage packed records k).exists_opens
      rw [stage_succ here]
      exact opens.get?_alloc_self record
  | succ m later ih =>
      rcases stage_succ_cases a records m with same | ⟨other, _, stored⟩
      · rw [same]
        exact ih
      · obtain ⟨before, last, opens⟩ := (packed_stage packed records m).exists_opens
        rw [stored]
        exact opens.get?_alloc_of_some ih other

/-- The slot for the next record holds nothing yet, so it is none of those before. -/
theorem slot_ne (here : records[k]? = some record) (order : k < m) (other : α) :
    ((a.stage records k).alloc record).1 ≠ ((a.stage records m).alloc other).1 := by
  intro same
  have kept := get?_stage packed here order
  obtain ⟨before, last, opens⟩ := (packed_stage packed records m).exists_opens
  rw [same, opens.alloc_eq, opens.get?_open] at kept
  cases kept

theorem slots_nodup (records : List α) : (a.allocAll records).1.toList.Nodup := by
  rw [List.Nodup, List.pairwise_iff_getElem]
  intro i j bound bound' order
  rw [Array.length_toList, size_slots] at bound bound'
  have first := slot_allocAll (a := a) (List.getElem?_eq_getElem bound)
  have second := slot_allocAll (a := a) (List.getElem?_eq_getElem bound')
  rw [Array.getElem_toList, Array.getElem_toList, (Array.getElem?_eq_some_iff.1 first).2,
    (Array.getElem?_eq_some_iff.1 second).2]
  exact slot_ne packed (List.getElem?_eq_getElem bound) order _

theorem capacities_stage (records : List α) (order : k ≤ m) :
    (a.stage records k).capacities <+: (a.stage records m).capacities := by
  induction m, order using Nat.le_induction with
  | base => exact List.prefix_rfl
  | succ m order ih =>
      rcases stage_succ_cases a records m with same | ⟨record, _, stored⟩
      · rw [same]
        exact ih
      · obtain ⟨before, last, opens⟩ := (packed_stage packed records m).exists_opens
        rw [stored]
        exact ih.trans (opens.capacities_prefix record)

end Run

section Totals

theorem total_eq_sum (count : Chunk α → Nat) (a : Arena α) :
    a.total count = (a.chunks.toList.map count).sum := by
  rw [total, List.sum_eq_foldr, List.foldr_map]

theorem stats_allocated (a : Arena α) : a.stats.allocated = a.toList.length := by
  change a.total _ = _
  rw [total_eq_sum, toList, List.length_flatMap]
  simp

variable (packed : a.Packed)

include packed

/-- The full chunks hold what they have room for; only the last one may have room left. -/
theorem stats_capacity (whole : a.chunks = before.push last) :
    a.stats.capacity + last.records.size = a.stats.allocated + last.capacity := by
  have full : before.toList.map Chunk.capacity =
      before.toList.map fun chunk => chunk.records.size := by
    apply List.map_congr_left
    intro chunk inside
    exact (packed.full chunk (by simpa [whole] using inside)).symm
  change a.total _ + _ = a.total _ + _
  rw [total_eq_sum, total_eq_sum, whole, Array.toList_push, List.map_append, List.map_append, full,
    List.sum_append, List.sum_append]
  simp only [List.map_cons, List.map_nil, List.sum_cons, List.sum_nil]
  omega

/-- Where there are few enough records, the room for them can be counted in a word. -/
theorem capacity_le_maxWord (few : a.size ≤ 9223372036854775808) :
    a.stats.capacity ≤ maxWord := by
  by_cases empty : a.chunks = #[]
  · simp [stats, total, empty]
  · obtain ⟨before, last, whole⟩ := Array.exists_push_of_ne_empty empty
    have capacity := stats_capacity packed whole
    have fitting := packed.fitting last (by simp [whole])
    rw [packed.counted, ← stats_allocated] at few
    cases weight : a.weightless with
    | false =>
        have bound : last.capacity ≤ maxChunkSize := by simpa [Fitting, weight] using fitting.2
        simp only [maxChunkSize, maxWord] at bound ⊢
        omega
    | true =>
        -- The first chunk has room for all records, so there is no other.
        have alone : before = #[] := by
          rw [Array.eq_empty_iff_forall_not_mem]
          intro chunk inside
          have inside' : chunk ∈ a.chunks := by simp [whole, inside]
          have large : chunk.capacity = maxWord := by
            simpa [Fitting, weight] using (packed.fitting chunk inside').2
          have full := packed.full chunk (by simpa [whole] using inside)
          have part : chunk.records.size ≤ a.stats.allocated := by
            change _ ≤ a.total _
            rw [total_eq_sum]
            exact List.le_sum_of_mem (List.mem_map_of_mem (Array.mem_toList_iff.2 inside'))
          simp only [maxWord] at large
          omega
        have large : last.capacity = maxWord := by simpa [Fitting, weight] using fitting.2
        simp [stats, total, whole, alone, large]

end Totals

/-- A store that takes records one after the other is a list of them with lasting
slots.  `stage a records m` is the store after the first `m` records: the record
at `k` is pushed where there is room for it, and is found in its slot from then on. -/
structure AppendOnly (a : Arena α) (records : List α) : Prop where
  answered : ∀ {k record}, records[k]? = some record →
    (a.allocAll records).1[k]? = some ((a.stage records k).alloc record).1
  distinct : (a.allocAll records).1.toList.Nodup
  kept : ∀ {k m slot}, k < m → (a.allocAll records).1[k]? = some slot →
    (a.stage records m).get? slot = records[k]?
  pushed : ∀ {k record}, records[k]? = some record →
    ∃ (before : Array (Chunk α)) (last : Chunk α), (a.stage records k).Opens before last ∧
      (a.stage records (k + 1)).chunks =
        before.push { last with records := last.records.push record }
  capacities : ∀ {k m}, k ≤ m → (a.stage records k).capacities <+: (a.stage records m).capacities
  full : ∀ m, ∀ chunk ∈ (a.stage records m).chunks.pop, chunk.records.size = chunk.capacity
  filling : ∀ m last, (a.stage records m).chunks.back? = some last → 0 < last.records.size
  counted : ∀ {m}, m ≤ records.length →
    (a.stage records m).size = m ∧ (a.stage records m).stats.allocated = m
  countable : ∀ m, (a.stage records m).stats.capacity ≤ maxWord
  released : ∀ m, (a.stage records m).release = records.take m

theorem appendOnly_of_empty (sized : 0 < a.chunkSize ∧ a.chunkSize ≤ maxChunkSize)
    (empty : a.chunks = #[]) (zero : a.size = 0)
    (few : records.length ≤ 9223372036854775808) : a.AppendOnly records := by
  have packed : a.Packed := packed_of_empty sized empty zero
  have listed : ∀ m, (a.stage records m).toList = records.take m := by
    intro m
    rw [stage, toList_allocAll, show a.toList = [] by simp [toList, empty], List.nil_append]
  have count : ∀ m, (a.stage records m).size = (records.take m).length := by
    intro m
    rw [(packed_stage packed records m).counted, listed]
  constructor
  case answered => exact slot_allocAll
  case distinct => exact slots_nodup packed records
  case kept =>
    intro k m slot later found
    have bound : k < records.length := by
      rw [← size_slots a records]
      exact (Array.getElem?_eq_some_iff.1 found).1
    have here := List.getElem?_eq_getElem bound
    rw [slot_allocAll here] at found
    cases found
    rw [get?_stage packed here later, here]
  case pushed =>
    intro k record here
    obtain ⟨before, last, opens⟩ := (packed_stage packed records k).exists_opens
    refine ⟨before, last, opens, ?_⟩
    rw [stage_succ here, opens.alloc_eq]
  case capacities => exact capacities_stage packed records
  case full => exact fun m => (packed_stage packed records m).full
  case filling => exact fun m last found => ((packed_stage packed records m).filling last found).1
  case counted =>
    intro m bound
    have length : (records.take m).length = m := List.length_take_of_le bound
    refine ⟨(count m).trans length, ?_⟩
    rw [stats_allocated, listed, length]
  case countable =>
    intro m
    apply capacity_le_maxWord (packed_stage packed records m)
    rw [count]
    exact Nat.le_trans (List.length_take_le' m records) few
  case released => exact listed

/-- Whatever size the first chunk is asked to have, and whether records take
space or not: every record keeps its slot and no other gets it, chunks are filled
up to what they were made for and not further, and what the store gives back in
the end is every record once. -/
theorem records_keep_slots (requested : Nat) (records : List α)
    (few : records.length ≤ 9223372036854775808) :
    (ofChunkSize requested : Arena α).AppendOnly records ∧
      (ofWeightless requested : Arena α).AppendOnly records :=
  ⟨appendOnly_of_empty (clampChunkSize_bounds requested) rfl rfl few,
    appendOnly_of_empty (clampChunkSize_bounds requested) rfl rfl few⟩

/-- Five records in chunks for one, two and four. -/
theorem records_keep_slots_threeChunks :
    [10, 11, 12, 13, 14].length ≤ 9223372036854775808 ∧
      ((ofChunkSize 0 : Arena Nat).allocAll [10, 11, 12, 13, 14]).1.toList.Nodup ∧
      ((ofChunkSize 0 : Arena Nat).stage [10, 11, 12, 13, 14] 5).get? ⟨1, 1⟩ = some 12 ∧
      ((ofChunkSize 0 : Arena Nat).stage [10, 11, 12, 13, 14] 5).capacities = [1, 2, 4] ∧
      ((ofWeightless 0 : Arena Nat).stage [10, 11, 12, 13, 14] 5).capacities = [maxWord] ∧
      ((ofWeightless 0 : Arena Nat).stage [10, 11, 12, 13, 14] 5).release =
        [10, 11, 12, 13, 14] := by
  obtain ⟨heavy, light⟩ := records_keep_slots 0 [10, 11, 12, 13, 14] (by decide)
  refine ⟨by decide, heavy.distinct, ?_, by decide, by decide, light.released 5⟩
  exact heavy.kept (by decide : 2 < 5) (by decide)

end Arena

end RuntimeTypes
