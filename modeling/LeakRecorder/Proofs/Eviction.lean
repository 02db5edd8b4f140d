/-
# LeakRecorder.Proofs.Eviction — which chunks are deleted

Deleting goes chunk by chunk and stops as soon as the total is within the limit or
one chunk is left. Seen as a whole it deletes the shortest front of the chunks
without which the rest is within the limit, and everything but the last chunk when
there is no such front (`Evicts`, `evict_eq`). As long as the total is the sum of
the sizes, no deletion takes away more than there is (`evictionFits`).

A chunk's file lies below the parent of the base path, under a name that its number
decides alone (`chunkName_inj`), so chunks never share a file, and deleting some
leaves the files of the others (`removes_removeAll`).
-/
import LeakRecorder.Proofs.Files
import LeakRecorder.Sink.Rotating
import Mathlib.Algebra.Ring.Nat
import Std.Data.String.ToNat

set_option autoImplicit false

namespace LeakRecorder

namespace RotatingSink

/-! ## Sizes -/

/-- The size of chunks together. -/
def totalSize (chunks : List Chunk) : Nat := (chunks.map (·.size)).sum

@[simp] theorem totalSize_nil : totalSize [] = 0 := rfl

@[simp] theorem totalSize_cons (chunk : Chunk) (chunks : List Chunk) :
    totalSize (chunk :: chunks) = chunk.size + totalSize chunks := by
  simp [totalSize]

@[simp] theorem totalSize_append (chunks more : List Chunk) :
    totalSize (chunks ++ more) = totalSize chunks + totalSize more := by
  simp [totalSize]

/-- Deletes the files of chunks; one that cannot be deleted is left. -/
def removeAll (dir : Directory) (chunks : List Chunk) : Directory :=
  chunks.foldl (fun dir chunk => (dir.removeFile chunk.path).toOption.getD dir) dir

/-- Of chunks that were deleted and chunks that are left, oldest first: the shortest front is
deleted without which the rest is within the limit, or else all but the last. -/
structure Evicts (limit : Nat) (deleted left : List Chunk) : Prop where
  last : left ≠ []
  enough : totalSize left ≤ limit ∨ left.length = 1
  shortest : ∀ shorter more, deleted = shorter ++ more → more ≠ [] →
    limit < totalSize (more ++ left)

theorem Evicts.none {limit : Nat} {chunks : List Chunk} (last : chunks ≠ [])
    (enough : totalSize chunks ≤ limit ∨ chunks.length = 1) : Evicts limit [] chunks where
  last := last
  enough := enough
  shortest := by
    intro shorter more parts some
    simp [eq_comm, some] at parts

theorem Evicts.cons {limit : Nat} {deleted left : List Chunk} (evicts : Evicts limit deleted left)
    {oldest : Chunk} (exceeds : limit < totalSize (oldest :: deleted ++ left)) :
    Evicts limit (oldest :: deleted) left where
  last := evicts.last
  enough := evicts.enough
  shortest := by
    intro shorter more parts some
    cases shorter with
    | nil =>
        rw [List.nil_append] at parts
        rw [← parts]
        exact exceeds
    | cons first shorter =>
        rw [List.cons_append, List.cons.injEq] at parts
        exact evicts.shortest shorter more parts.2 some

/-- **What eviction deletes.** The total has to be the sum of the sizes. -/
theorem evict_eq (limit : Nat) {chunks : List Chunk} (some : chunks ≠ []) (dir : Directory) :
    ∃ deleted left, chunks = deleted ++ left ∧ Evicts limit deleted left ∧
      evict limit chunks (totalSize chunks) dir =
        (left, totalSize left, removeAll dir deleted) := by
  induction chunks generalizing dir with
  | nil => exact absurd rfl some
  | cons oldest rest ih =>
      cases rest with
      | nil => exact ⟨[], [oldest], rfl, .none some (.inr rfl), rfl⟩
      | cons next newer =>
          by_cases exceeds : limit < totalSize (oldest :: next :: newer)
          · obtain ⟨deleted, left, parts, evicts, same⟩ :=
              ih (by simp) ((dir.removeFile oldest.path).toOption.getD dir)
            rw [parts] at exceeds
            refine ⟨oldest :: deleted, left, by rw [parts, List.cons_append],
              evicts.cons exceeds, ?_⟩
            have rest : totalSize (oldest :: next :: newer) - oldest.size =
                totalSize (next :: newer) := by
              rw [totalSize_cons oldest]
              omega
            rw [← parts] at exceeds
            rw [evict, if_pos exceeds, rest, same]
            rfl
          · refine ⟨[], oldest :: next :: newer, rfl, .none some (.inl (by omega)), ?_⟩
            rw [evict, if_neg exceeds]
            rfl

/-- While chunks are deleted, there is as much left of the total as the next deletion takes. -/
def EvictionFits (limit : Nat) : List Chunk → Nat → Prop
  | oldest :: next :: newer, total => limit < total →
      oldest.size ≤ total ∧ EvictionFits limit (next :: newer) (total - oldest.size)
  | _, _ => True

theorem evictionFits (limit : Nat) (chunks : List Chunk) :
    EvictionFits limit chunks (totalSize chunks) := by
  induction chunks with
  | nil => exact True.intro
  | cons oldest rest ih =>
      cases rest with
      | nil => exact True.intro
      | cons next newer =>
          intro _
          have rest : totalSize (oldest :: next :: newer) - oldest.size =
              totalSize (next :: newer) := by
            rw [totalSize_cons oldest]
            omega
          refine ⟨?_, ?_⟩
          · rw [totalSize_cons]
            omega
          · rw [rest]
            exact ih

/-! ## Files -/

/-- The name of a chunk's file. -/
def chunkName (base : Path) (index : Nat) : String := base.stem ++ "." ++ toString index ++ ".bin"

theorem chunkName_inj {base : Path} {index other : Nat} :
    chunkName base index = chunkName base other ↔ index = other := by
  rw [chunkName, chunkName, String.append_left_inj, String.append_right_inj,
    Nat.toString_eq_repr, Nat.toString_eq_repr, Nat.repr_inj]

/-- Where a chunk's file lies when the parent of the base path leads to `above`. -/
def place (base : Path) (above : Location) (index : Nat) : Location :=
  above ++ [chunkName base index]

theorem place_inj {base : Path} {above : Location} {index other : Nat} :
    place base above index = place base above other ↔ index = other := by
  simp [place, chunkName_inj]

theorem locate?_chunkPath_iff {dir : Directory} {base : Path} {index : Nat} {location : Location} :
    dir.locate? (chunkPath base index) = some location ↔
      ∃ above, dir.enter [] base.parent.parts = .ok above ∧ location = place base above index :=
  Directory.locate?_append_iff

theorem locate?_chunkPath {dir : Directory} {base : Path} {above : Location}
    (entered : dir.enter [] base.parent.parts = .ok above) (index : Nat) :
    dir.locate? (chunkPath base index) = some (place base above index) :=
  locate?_chunkPath_iff.mpr ⟨above, entered, rfl⟩

/-- A chunk by its number in the row, the number of its file and the bytes that belong into it. -/
structure Filing where
  index : Nat
  number : Nat
  bytes : Bytes

/-- The chunk as a sink below the base path tracks it. -/
def Filing.chunk (base : Path) (filing : Filing) : Chunk :=
  { path := chunkPath base filing.index, size := filing.bytes.length }

/-- Deleting chunks that have their files removes their names and nothing else. -/
theorem removes_removeAll {base : Path} {above : Location} {filings : List Filing}
    {dir : Directory} (entered : dir.enter [] base.parent.parts = .ok above)
    (named : ∀ filing ∈ filings,
      dir.node? (place base above filing.index) = some (.file filing.number))
    (distinct : (filings.map (·.index)).Nodup) :
    Directory.Removes (filings.map fun filing => place base above filing.index) dir
      (removeAll dir (filings.map (Filing.chunk base))) := by
  induction filings generalizing dir with
  | nil => exact .refl dir
  | cons oldest newer ih =>
      rw [List.forall_mem_cons] at named
      rw [List.map_cons, List.nodup_cons] at distinct
      obtain ⟨after, removed, removes⟩ :=
        Directory.removeFile_file (locate?_chunkPath entered oldest.index) named.1
      have still : ∀ filing ∈ newer,
          after.node? (place base above filing.index) = some (.file filing.number) := by
        intro filing member
        have other : place base above filing.index ∉ [place base above oldest.index] := by
          rw [List.mem_singleton, place_inj]
          intro same
          exact distinct.1 (same ▸ List.mem_map_of_mem member)
        rw [removes.elsewhere _ other, named.2 filing member]
      have later := ih (removes.keepsDirectories.enter entered) still distinct.2
      have first : removeAll dir ((oldest :: newer).map (Filing.chunk base)) =
          removeAll after (newer.map (Filing.chunk base)) := by
        show removeAll ((dir.removeFile (chunkPath base oldest.index)).toOption.getD dir) _ = _
        rw [removed]
        rfl
      rw [first]
      exact removes.trans later

end RotatingSink

end LeakRecorder
