import Mathlib.Order.Bounds.Defs
import RuntimeTypes.Proofs.Arena.Slots

/-!
The sizes of the chunks.  Each new chunk looks only at the one before it, but
what comes out is a schedule that the size of the first chunk fixes: capacities
double until they reach the limit.  As all chunks but the last are full, the
schedule also tells how many chunks there are, and how much room is left over.
-/

namespace RuntimeTypes

namespace Arena

variable {α : Type} {a : Arena α} {c i k n : Nat}

/-- The capacity of the chunk at a place, if the first one has room for `c` records. -/
def scheduled (c i : Nat) : Nat :=
  min (c * 2 ^ i) maxChunkSize

/-- The room in the first `k` chunks. -/
def scheduledRoom (c k : Nat) : Nat :=
  ((List.range k).map (scheduled c)).sum

theorem scheduledRoom_succ (c k : Nat) :
    scheduledRoom c (k + 1) = scheduledRoom c k + scheduled c k := by
  simp [scheduledRoom, List.range_succ]

theorem scheduledRoom_mono (c : Nat) : Monotone (scheduledRoom c) := by
  apply monotone_nat_of_le_succ
  intro k
  rw [scheduledRoom_succ]
  exact Nat.le_add_right _ _

theorem scheduled_le_maxChunkSize (c i : Nat) : scheduled c i ≤ maxChunkSize :=
  Nat.min_le_right _ _

theorem scheduled_zero (bound : c ≤ maxChunkSize) : scheduled c 0 = c := by
  rw [scheduled, Nat.pow_zero, Nat.mul_one, Nat.min_eq_left bound]

/-- Twice the capacity before, up to the limit: cutting off early changes nothing. -/
theorem scheduled_succ (c i : Nat) :
    scheduled c (i + 1) = min (scheduled c i * 2) maxChunkSize := by
  rw [scheduled, scheduled, Nat.pow_succ, ← Nat.mul_assoc]
  omega

theorem le_scheduled (bound : c ≤ maxChunkSize) (i : Nat) : c ≤ scheduled c i := by
  apply Nat.le_min.2
  exact ⟨Nat.le_mul_of_pos_right c (Nat.two_pow_pos i), bound⟩

/-- A chunk is at most as large as all chunks before it and the first one together. -/
theorem scheduled_le_scheduledRoom_add (c k : Nat) : scheduled c k ≤ scheduledRoom c k + c := by
  induction k with
  | zero =>
      have first : scheduled c 0 ≤ c * 2 ^ 0 := Nat.min_le_left _ _
      omega
  | succ k ih =>
      rw [scheduled_succ, scheduledRoom_succ]
      omega

/-- The chunks have the capacities of the schedule. -/
def OnSchedule (a : Arena α) : Prop :=
  a.capacities = (List.range a.chunks.size).map (scheduled a.chunkSize)

theorem OnSchedule.capacity_last {before : Array (Chunk α)} {last : Chunk α}
    (schedule : a.OnSchedule) (whole : a.chunks = before.push last) :
    last.capacity = scheduled a.chunkSize before.size := by
  have ends := congrArg List.getLast? schedule
  simpa [capacities, whole, List.range_succ] using ends

/-- The word is large enough for the doubled capacity, and the capacity of the
first chunk is never above it. -/
theorem OnSchedule.doubled (schedule : a.OnSchedule) (bound : a.chunkSize ≤ maxChunkSize)
    {last : Chunk α} (found : a.chunks.back? = some last) :
    min (last.capacity * 2) maxWord = last.capacity * 2 ∧
      a.chunkSize ≤ min (last.capacity * 2) maxChunkSize := by
  obtain ⟨before, whole⟩ : ∃ before : Array (Chunk α), a.chunks = before.push last :=
    Array.back?_eq_some_iff.1 found
  have capacity := schedule.capacity_last whole
  have upper := scheduled_le_maxChunkSize a.chunkSize before.size
  have lower := le_scheduled bound before.size
  simp only [maxChunkSize, maxWord] at bound upper ⊢
  omega

theorem OnSchedule.nextCapacity_eq (schedule : a.OnSchedule) (bound : a.chunkSize ≤ maxChunkSize) :
    a.nextCapacity = scheduled a.chunkSize a.chunks.size := by
  unfold nextCapacity
  cases found : a.chunks.back? with
  | none =>
      have empty : a.chunks = #[] := Array.back?_eq_none_iff.1 found
      rw [empty]
      exact (scheduled_zero bound).symm
  | some last =>
      obtain ⟨unsaturated, above⟩ := schedule.doubled bound found
      obtain ⟨before, whole⟩ : ∃ before : Array (Chunk α), a.chunks = before.push last :=
        Array.back?_eq_some_iff.1 found
      have capacity := schedule.capacity_last whole
      dsimp only
      rw [unsaturated, Nat.max_eq_left above, whole, Array.size_push, scheduled_succ, capacity]

theorem onSchedule_of_empty (empty : a.chunks = #[]) : a.OnSchedule := by
  simp [OnSchedule, capacities, empty]

/-- A record changes no capacity, or brings the next chunk of the schedule. -/
theorem OnSchedule.alloc (schedule : a.OnSchedule) (packed : a.Packed)
    (weight : a.weightless = false) (record : α) : (a.alloc record).2.OnSchedule := by
  obtain ⟨before, last, opens⟩ := packed.exists_opens
  rw [opens.alloc_eq]
  rcases opens.origin with same | ⟨same, _, new⟩
  · simpa [OnSchedule, capacities, same] using schedule
  · have next : last.capacity = scheduled a.chunkSize before.size := by
      rw [new, ← same]
      simpa [newChunk, weight] using schedule.nextCapacity_eq packed.sized.2
    simp only [OnSchedule, capacities, same] at schedule
    simp [OnSchedule, capacities, List.range_succ, schedule, next]

theorem weightless_alloc (a : Arena α) (record : α) :
    (a.alloc record).2.weightless = a.weightless := by
  change a.makeRoom.weightless = a.weightless
  rw [makeRoom_eq]

section Run

variable {records : List α}

theorem chunkSize_allocAll (a : Arena α) (records : List α) :
    (a.allocAll records).2.chunkSize = a.chunkSize := by
  induction records using List.reverseRecOn with
  | nil => rfl
  | append_singleton records record ih => rw [allocAll_concat, chunkSize_alloc, ih]

theorem weightless_allocAll (a : Arena α) (records : List α) :
    (a.allocAll records).2.weightless = a.weightless := by
  induction records using List.reverseRecOn with
  | nil => rfl
  | append_singleton records record ih => rw [allocAll_concat, weightless_alloc, ih]

theorem onSchedule_allocAll (packed : a.Packed) (schedule : a.OnSchedule)
    (weight : a.weightless = false) (records : List α) :
    (a.allocAll records).2.OnSchedule := by
  induction records using List.reverseRecOn with
  | nil => exact schedule
  | append_singleton records record ih =>
      rw [allocAll_concat]
      apply ih.alloc (packed_allocAll packed records)
      rw [weightless_allocAll, weight]

end Run

theorem stats_capacity_eq_sum (a : Arena α) : a.stats.capacity = a.capacities.sum :=
  total_eq_sum _ a

theorem OnSchedule.stats_capacity_eq (schedule : a.OnSchedule) :
    a.stats.capacity = scheduledRoom a.chunkSize a.stats.chunkCount := by
  rw [stats_capacity_eq_sum, schedule]
  rfl

/-- As every chunk was needed, there is no smaller number of chunks that would do. -/
theorem OnSchedule.isLeast_chunkCount (schedule : a.OnSchedule) (packed : a.Packed) :
    IsLeast {k | a.stats.allocated ≤ scheduledRoom a.chunkSize k} a.stats.chunkCount := by
  by_cases empty : a.chunks = #[]
  · simp [IsLeast, lowerBounds, stats, total, empty]
  · obtain ⟨before, last, whole⟩ := Array.exists_push_of_ne_empty empty
    have filling := packed.filling last (by simp [whole])
    have room := stats_capacity packed whole
    have capacity := schedule.capacity_last whole
    have count : a.stats.chunkCount = before.size + 1 := by
      simp [stats, whole]
    rw [schedule.stats_capacity_eq, count, scheduledRoom_succ] at room
    rw [count]
    constructor
    · change _ ≤ scheduledRoom a.chunkSize (before.size + 1)
      rw [scheduledRoom_succ]
      omega
    · intro k enough
      by_contra fewer
      have less : scheduledRoom a.chunkSize k ≤ scheduledRoom a.chunkSize before.size :=
        scheduledRoom_mono _ (by omega)
      have enough : a.stats.allocated ≤ scheduledRoom a.chunkSize k := enough
      omega

/-- What is left over: less than a chunk, and not much more than is used. -/
theorem scheduledRoom_le_of_isLeast (least : IsLeast {k | n ≤ scheduledRoom c k} k)
    (some : 1 ≤ n) :
    n ≤ scheduledRoom c k ∧ scheduledRoom c k ≤ n + 16383 ∧ scheduledRoom c k ≤ 2 * n + c - 2 := by
  obtain ⟨enough, needed⟩ := least
  have enough : n ≤ scheduledRoom c k := enough
  cases k with
  | zero =>
      have none : scheduledRoom c 0 = 0 := rfl
      omega
  | succ k =>
      have short : ¬ n ≤ scheduledRoom c k := fun enough => by
        have := needed enough
        omega
      have small := scheduled_le_maxChunkSize c k
      have half := scheduled_le_scheduledRoom_add c k
      rw [scheduledRoom_succ] at enough ⊢
      simp only [maxChunkSize] at small
      omega

/-- What the size of the first chunk tells of a store with `n` records that take space. -/
structure Grown (a : Arena α) (c n : Nat) : Prop where
  allocated : a.stats.allocated = n
  capacities : a.capacities = (List.range a.stats.chunkCount).map (scheduled c)
  chunkCount : IsLeast {k | n ≤ scheduledRoom c k} a.stats.chunkCount
  capacity : a.stats.capacity = scheduledRoom c a.stats.chunkCount
  unused : 1 ≤ n → n ≤ a.stats.capacity ∧ a.stats.capacity ≤ n + 16383 ∧
    a.stats.capacity ≤ 2 * n + c - 2
  unsaturated : ∀ last, a.chunks.back? = some last →
    min (last.capacity * 2) maxWord = last.capacity * 2
  unraised : ∀ last, a.chunks.back? = some last →
    max (min (min (last.capacity * 2) maxWord) maxChunkSize) a.chunkSize =
      min (min (last.capacity * 2) maxWord) maxChunkSize

theorem Packed.grown (packed : a.Packed) (schedule : a.OnSchedule) :
    a.Grown a.chunkSize a.stats.allocated where
  allocated := rfl
  capacities := schedule
  chunkCount := schedule.isLeast_chunkCount packed
  capacity := schedule.stats_capacity_eq
  unused some := by
    have least := schedule.isLeast_chunkCount packed
    rw [schedule.stats_capacity_eq]
    exact scheduledRoom_le_of_isLeast least some
  unsaturated _ found := (schedule.doubled packed.sized.2 found).1
  unraised _ found := by
    obtain ⟨unsaturated, above⟩ := schedule.doubled packed.sized.2 found
    rw [unsaturated, Nat.max_eq_left above]

/-- A word counts more records than there are, so the first chunk never fills. -/
theorem Packed.stats_of_weightless (packed : a.Packed) (weight : a.weightless = true)
    (some : 1 ≤ a.stats.allocated) (few : a.stats.allocated ≤ 9223372036854775808) :
    a.stats.chunkCount = 1 ∧ a.stats.capacity = maxWord := by
  have equal : a.capacities = List.replicate a.stats.chunkCount maxWord := by
    rw [List.eq_replicate_iff]
    refine ⟨by simp [capacities, stats], ?_⟩
    intro capacity inside
    obtain ⟨chunk, among, rfl⟩ := List.mem_map.1 inside
    simpa [Fitting, weight] using (packed.fitting chunk (Array.mem_toList_iff.1 among)).2
  have whole : a.stats.capacity = a.stats.chunkCount * maxWord := by
    rw [stats_capacity_eq_sum, equal, List.sum_replicate_nat]
  have bound : a.stats.capacity ≤ maxWord := by
    apply capacity_le_maxWord packed
    rwa [packed.counted, ← stats_allocated]
  have used : a.stats.chunkCount ≠ 0 := by
    intro none
    have empty : a.chunks = #[] := Array.eq_empty_of_size_eq_zero none
    simp [stats, total, empty] at some
  rw [whole] at bound ⊢
  simp only [maxWord] at bound ⊢
  omega

theorem packed_allocAll_of_empty (sized : 0 < a.chunkSize ∧ a.chunkSize ≤ maxChunkSize)
    (empty : a.chunks = #[]) (zero : a.size = 0) (records : List α) :
    (a.allocAll records).2.Packed ∧ (a.allocAll records).2.stats.allocated = records.length := by
  refine ⟨packed_allocAll (packed_of_empty sized empty zero) records, ?_⟩
  rw [stats_allocated, toList_allocAll]
  simp [toList, empty]

/-- The size of the first chunk and the number of records fix the sizes of all
chunks; but for the first chunk, no more room is left over than is used.
Records that take no space need one chunk. -/
theorem chunks_follow_schedule (requested : Nat) (records : List α)
    (few : records.length ≤ 9223372036854775808) :
    ((ofChunkSize requested : Arena α).allocAll records).2.Grown (clampChunkSize requested)
        records.length ∧
      (records ≠ [] →
        ((ofWeightless requested : Arena α).allocAll records).2.stats =
          ⟨records.length, 1, maxWord⟩) := by
  have sized := clampChunkSize_bounds requested
  constructor
  · obtain ⟨packed, allocated⟩ :=
      packed_allocAll_of_empty (a := ofChunkSize requested) sized rfl rfl records
    have schedule := onSchedule_allocAll (a := ofChunkSize requested)
      (packed_of_empty sized rfl rfl) (onSchedule_of_empty rfl) rfl records
    have grown := packed.grown schedule
    rwa [allocated, chunkSize_allocAll] at grown
  · intro some
    obtain ⟨packed, allocated⟩ :=
      packed_allocAll_of_empty (a := ofWeightless requested) sized rfl rfl records
    have weight := weightless_allocAll (ofWeightless requested) records
    rw [← List.length_pos_iff, ← allocated] at some
    rw [← allocated] at few
    obtain ⟨count, capacity⟩ := packed.stats_of_weightless weight some few
    rw [← allocated, ← count, ← capacity]

/-- Ten records fill chunks for three and six and begin one for twelve, so as
much room is left over as can be; without weight they are in one chunk. -/
theorem chunks_follow_schedule_tenInThree :
    (List.range 10).length ≤ 9223372036854775808 ∧
      ((ofChunkSize 3 : Arena Nat).allocAll (List.range 10)).2.Grown 3 10 ∧
      ((ofChunkSize 3 : Arena Nat).allocAll (List.range 10)).2.stats = ⟨10, 3, 2 * 10 + 3 - 2⟩ ∧
      List.range 10 ≠ [] ∧
      ((ofWeightless 3 : Arena Nat).allocAll (List.range 10)).2.stats = ⟨10, 1, maxWord⟩ := by
  obtain ⟨heavy, light⟩ := chunks_follow_schedule 3 (List.range 10) (by decide)
  exact ⟨by decide, heavy, by decide +kernel, by decide, light (by decide)⟩

end Arena

end RuntimeTypes
