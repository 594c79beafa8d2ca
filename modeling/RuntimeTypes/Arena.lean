import RuntimeTypes.Text.Inspect

/-!
A store that only grows.  Records lie in chunks; a chunk is filled up to the
capacity it was made with and then left alone, and each new chunk is twice as
large as the one before it, up to a limit.  A record keeps its slot for the
whole life of the store.
-/

namespace RuntimeTypes

/-- A run of records with room for `capacity` of them. -/
structure Chunk (α : Type) where
  capacity : Nat
  records : Array α

/-- The place of a record: its chunk, and its index there. -/
structure Slot where
  chunk : Nat
  index : Nat
  deriving DecidableEq

structure Arena (α : Type) where
  /-- Capacity of the first chunk. -/
  chunkSize : Nat
  /-- Whether records take no space, so that the first chunk has room for all of them. -/
  weightless : Bool := false
  /-- Full chunks, then the one that is being filled. -/
  chunks : Array (Chunk α) := #[]
  /-- How many records were stored; kept apart from the chunks. -/
  size : Nat := 0

namespace Arena

/-- Capacity of the first chunk where nothing else is asked for. -/
def defaultChunkSize : Nat :=
  64

/-- No chunk is made for more records than this. -/
def maxChunkSize : Nat :=
  16384

/-- The largest number that a machine word holds. -/
def maxWord : Nat :=
  18446744073709551615

/-- The chunk size that is used for a requested one. -/
def clampChunkSize (requested : Nat) : Nat :=
  min (max requested 1) maxChunkSize

variable {α : Type}

/-- An empty store whose first chunk has the requested size, as far as allowed. -/
def ofChunkSize (requested : Nat) : Arena α where
  chunkSize := clampChunkSize requested

/-- An empty store of records that take no space. -/
def ofWeightless (requested : Nat) : Arena α where
  chunkSize := clampChunkSize requested
  weightless := true

/-- The capacity to ask for when a chunk is added: twice that of the last one,
within the word, not above the limit and not below the first chunk. -/
def nextCapacity (a : Arena α) : Nat :=
  match a.chunks.back? with
  | none => a.chunkSize
  | some last => max (min (min (last.capacity * 2) maxWord) maxChunkSize) a.chunkSize

/-- Whether the next record needs a new chunk. -/
def isFull (a : Arena α) : Bool :=
  match a.chunks.back? with
  | none => true
  | some last => last.records.size == last.capacity

/-- An empty chunk.  Where records take no space it has room for as many as a word can count. -/
def newChunk (a : Arena α) : Chunk α where
  capacity := if a.weightless then maxWord else a.nextCapacity
  records := #[]

/-- Adds a chunk if the last one is full. -/
def makeRoom (a : Arena α) : Arena α :=
  if a.isFull then { a with chunks := a.chunks.push a.newChunk } else a

/-- The slot that the next record of the last chunk gets. -/
def openSlot (a : Arena α) : Slot where
  chunk := a.chunks.size - 1
  index := (a.chunks.back?.map fun last => last.records.size).getD 0

/-- Writes a record behind the others of the last chunk. -/
def put (a : Arena α) (record : α) : Arena α :=
  { a with
    chunks := a.chunks.modify (a.chunks.size - 1) fun last =>
      { last with records := last.records.push record }
    size := a.size + 1 }

/-- Stores a record and tells its slot. -/
def alloc (a : Arena α) (record : α) : Slot × Arena α :=
  let roomy := a.makeRoom
  (roomy.openSlot, roomy.put record)

/-- Stores records one after the other; the slots are in the same order. -/
def allocAll (a : Arena α) (records : List α) : Array Slot × Arena α :=
  records.foldl
    (fun done record =>
      let stored := done.2.alloc record
      (done.1.push stored.1, stored.2))
    (#[], a)

/-- The record in a slot. -/
def get? (a : Arena α) (slot : Slot) : Option α :=
  a.chunks[slot.chunk]?.bind fun chunk => chunk.records[slot.index]?

/-- All records in the order in which they were stored. -/
def toList (a : Arena α) : List α :=
  a.chunks.toList.flatMap fun chunk => chunk.records.toList

/-- Ends the store and gives back every record. -/
def release (a : Arena α) : List α :=
  a.toList

/-- What the chunks hold together. -/
structure Stats where
  allocated : Nat
  chunkCount : Nat
  capacity : Nat
  deriving DecidableEq

/-- A count added up over the chunks. -/
def total (count : Chunk α → Nat) (a : Arena α) : Nat :=
  a.chunks.toList.foldr (fun chunk rest => count chunk + rest) 0

def stats (a : Arena α) : Stats where
  allocated := a.total fun chunk => chunk.records.size
  chunkCount := a.chunks.size
  capacity := a.total Chunk.capacity

/-- The counts as developers see them in a shown value. -/
def Stats.inspect (stats : Stats) : String :=
  Text.recordText "ArenaStats"
    [("allocated", toString stats.allocated),
     ("chunk_count", toString stats.chunkCount),
     ("capacity", toString stats.capacity)]

/-- The store as developers see it in a shown value. -/
def inspect (a : Arena α) : String :=
  Text.recordText "MetaArena"
    [("chunk_size", toString a.chunkSize), ("stats", a.stats.inspect)]

/-- A store without a chunk is full, so there is a chunk after making room. -/
theorem makeRoom_chunks_ne_empty (a : Arena α) : a.makeRoom.chunks ≠ #[] := by
  cases full : a.isFull with
  | true => simp [makeRoom, full]
  | false =>
      intro none
      simp only [makeRoom, full] at none
      simp [isFull, show a.chunks = #[] from none] at full

/-- A new chunk holds nothing yet. -/
theorem toList_makeRoom (a : Arena α) : a.makeRoom.toList = a.toList := by
  unfold makeRoom
  split
  · simp [toList, newChunk]
  · rfl

private theorem modify_length_append (before : List (Chunk α)) (last : Chunk α)
    (f : Chunk α → Chunk α) : (before ++ [last]).modify before.length f = before ++ [f last] := by
  induction before with
  | nil => rfl
  | cons chunk rest ih => simp [List.modify_succ_cons, ih]

/-- Where there is a chunk to write to, the record comes last. -/
theorem toList_put {a : Arena α} (h : a.chunks ≠ #[]) (record : α) :
    (a.put record).toList = a.toList ++ [record] := by
  obtain ⟨chunkSize, weightless, ⟨chunks⟩, size⟩ := a
  rcases List.eq_nil_or_concat chunks with rfl | ⟨before, last, rfl⟩
  · exact absurd rfl h
  · simp [toList, put, modify_length_append]

/-- Storing a record puts it behind all earlier ones. -/
theorem toList_alloc (a : Arena α) (record : α) :
    (a.alloc record).2.toList = a.toList ++ [record] := by
  rw [show (a.alloc record).2 = a.makeRoom.put record from rfl,
    toList_put (makeRoom_chunks_ne_empty a), toList_makeRoom]

@[simp] theorem toList_ofChunkSize (requested : Nat) :
    (ofChunkSize requested : Arena α).toList = [] := rfl

/-- Making room counts no record. -/
theorem size_makeRoom (a : Arena α) : a.makeRoom.size = a.size := by
  unfold makeRoom
  split <;> rfl

/-- Each record that is stored counts once. -/
theorem size_alloc (a : Arena α) (record : α) : (a.alloc record).2.size = a.size + 1 := by
  rw [← size_makeRoom a]
  rfl

theorem chunkSize_alloc (a : Arena α) (record : α) :
    (a.alloc record).2.chunkSize = a.chunkSize := by
  change a.makeRoom.chunkSize = a.chunkSize
  unfold makeRoom
  split <;> rfl

end Arena

end RuntimeTypes
