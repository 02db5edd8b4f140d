/-
# LeakRecorder.Proofs.ChunkContents — what the chunk files have in the end

A sink that is asked to write, to flush and to rotate numbers its chunks by the
rotations and puts every payload that it takes into the chunk of its time, so the
file of a chunk is the header and the frames of those payloads (`chunkBytes`). The
files that are left are the latest ones without a gap: each rotation deletes from
the oldest on (`MakesRoom`), and no request does anything else to another chunk than
the current one (`Lined`).

All of this has reached the files when the sink is closed. When it is flushed last,
that is so only if it has not stopped with something held back. A payload that stops
a sink is flushed at once, but a rotation under a limit that leaves no room for a
header is not: the sink stops with the new header held back, and every flush from
then on does nothing (`chunks_hold_accepted_iff`, `flush_withholds_header`).
-/
import LeakRecorder.Proofs.Serving
import LeakRecorder.Sink.Outlet

set_option autoImplicit false

namespace LeakRecorder

namespace RotatingSink

/-- The header and the frames of what is taken between two rotations. -/
def chunkBytes (start : RotatingSink × Directory) (requests : List Request) (index : Nat) : Bytes :=
  Stream.header ++ (acceptedIn index start requests).flatMap Stream.frame

theorem chunkBytes_ne_nil (start : RotatingSink × Directory) (requests : List Request)
    (index : Nat) : chunkBytes start requests index ≠ [] := by
  rw [← List.length_pos_iff, chunkBytes, List.length_append, Stream.length_header]
  exact Nat.add_pos_left (by decide) _

theorem chunkBytes_concat (start : RotatingSink × Directory) (requests : List Request)
    (request : Request) (index : Nat) :
    chunkBytes start (requests ++ [request]) index =
      chunkBytes start requests index ++
        if requests.count .rotate = index then
          ((Sink.rotating.serveAll start requests).1.accepted? request).toList.flatMap Stream.frame
        else [] := by
  rw [chunkBytes, acceptedIn_concat, List.flatMap_append, ← List.append_assoc, ← chunkBytes]
  split <;> rfl

theorem chunkBytes_of_none {start : RotatingSink × Directory} {requests : List Request}
    {request : Request}
    (nothing : (Sink.rotating.serveAll start requests).1.accepted? request = none) :
    chunkBytes start (requests ++ [request]) = chunkBytes start requests := by
  funext index
  rw [chunkBytes_concat, nothing]
  simp

theorem chunkBytes_of_lt {start : RotatingSink × Directory} {requests : List Request}
    {index : Nat} (later : requests.count .rotate < index) :
    chunkBytes start requests index = Stream.header := by
  rw [chunkBytes, acceptedIn_of_lt start later]
  simp

/-- The chunk files of a directory: those from one number to another, with these bytes. -/
def HoldsChunks (base : Path) (first last : Nat) (bytes : Nat → Bytes) (dir : Directory) : Prop :=
  ∀ index, dir.open? (chunkPath base index) =
    if first ≤ index ∧ index ≤ last then some (bytes index) else none

/-- The limit leaves room for a header, or no rotation has asked for it yet. -/
def Roomy (limit : UInt64) (rotations : Nat) : Prop :=
  Stream.headerSize ≤ limit.toNat ∨ rotations = 0

/-- A rotation opens the next chunk and deletes the oldest ones until there is room. -/
structure MakesRoom (base : Path) (index limit : Nat) (before after : RotatingSink × Directory)
    (deleted : List Chunk) : Prop where
  parts : before.1.chunks ++ [⟨chunkPath base index, Stream.headerSize⟩] =
    deleted ++ after.1.chunks
  evicts : Evicts limit deleted after.1.chunks
  total : after.1.total = totalSize after.1.chunks
  current : after.1.currentPath? = some (chunkPath base index)
  gone : ∀ chunk ∈ deleted, after.2.open? chunk.path = none

/-- The chunks of a sink after so many rotations: their numbers are the last ones from `first` on,
they have the bytes that their numbers say, and no other chunk has a file. -/
structure Lined (first rotations : Nat) (bytes : Nat → Bytes) (above : Location)
    (older : List Filing) (current : Filing) (sink : RotatingSink) (dir : Directory) : Prop where
  filed : Filed above older current sink dir
  row : older.map (·.index) = List.range' first older.length
  ends : first + older.length = rotations
  latest : current.index = rotations
  next : sink.nextIndex = rotations + 1
  told : ∀ filing ∈ older ++ [current], filing.bytes = bytes filing.index
  absent : ∀ index number, index < first ∨ rotations < index →
    dir.node? (place sink.base above index) ≠ some (.file number)

variable {first rotations : Nat} {bytes more : Nat → Bytes} {above : Location}
  {older : List Filing} {current : Filing} {sink : RotatingSink} {dir : Directory}
  {payload : Bytes}

theorem Lined.flushFile (lined : Lined first rotations bytes above older current sink dir) :
    Lined first rotations bytes above older current (sink.flushFile dir).1
      (sink.flushFile dir).2 where
  filed := lined.filed.flushFile
  row := lined.row
  ends := lined.ends
  latest := lined.latest
  next := lined.next
  told := lined.told
  absent index number outside := by
    have names := (OpenFile.passes_flush sink.file dir).alters.node?
    rw [show (sink.flushFile dir).2.node? _ = _ from names _]
    exact lined.absent index number outside

/-- The payload goes into the chunk of the last rotation. -/
theorem Lined.write (lined : Lined first rotations bytes above older current sink dir)
    (accepts : sink.Accepts payload)
    (others : ∀ index, index ≠ rotations → more index = bytes index)
    (here : more rotations = bytes rotations ++ Stream.frame payload) :
    Lined first rotations more above older
      { current with bytes := current.bytes ++ Stream.frame payload }
      (sink.write dir payload).1 (sink.write dir payload).2.1 := by
  have wrote := lined.filed.write accepts
  have told := lined.told
  rw [List.forall_mem_append, List.forall_mem_singleton] at told
  refine ⟨wrote.filed, lined.row, lined.ends, lined.latest, by rw [wrote.next, lined.next],
    ?_, ?_⟩
  · rw [List.forall_mem_append, List.forall_mem_singleton]
    constructor
    · intro filing member
      have before := lined.filed.index_lt filing member
      rw [lined.latest] at before
      rw [others _ (Nat.ne_of_lt before), told.1 filing member]
    · show current.bytes ++ _ = more current.index
      rw [told.2, lined.latest, here]
  · intro index number outside
    rw [wrote.base, wrote.names]
    exact lined.absent index number outside

/-- Parts of the row are rows. -/
theorem Lined.split (lined : Lined first rotations bytes above older current sink dir)
    {deleted left : List Filing} (parts : older ++ [current] = deleted ++ left) :
    deleted.map (·.index) = List.range' first deleted.length ∧
      left.map (·.index) = List.range' (first + deleted.length) left.length ∧
      first + deleted.length + left.length = rotations + 1 := by
  have length := congrArg List.length parts
  simp only [List.length_append, List.length_singleton] at length
  have ends := lined.ends
  have row : deleted.map (·.index) ++ left.map (·.index) =
      List.range' first (deleted.length + left.length) := by
    rw [← List.map_append, ← parts, ← length, List.map_append, List.map_singleton,
      List.range'_concat, lined.row, lined.latest, ← ends, Nat.one_mul]
  rw [← List.range'_append_1] at row
  obtain ⟨rowDeleted, rowLeft⟩ := List.append_inj row (by simp)
  exact ⟨rowDeleted, rowLeft, by omega⟩

/-- A rotation deletes from the oldest number on, and the number of the new chunk is the next. -/
theorem Lined.rotate (lined : Lined first rotations bytes above older current sink dir)
    {deleted left : List Filing} {new : Filing} {after : RotatingSink} {later : Directory}
    (rotated : Rotated above older current deleted left new sink after dir later)
    (others : ∀ index, index ≠ rotations + 1 → more index = bytes index)
    (here : more (rotations + 1) = Stream.header) :
    Lined (first + deleted.length) (rotations + 1) more above left new after later := by
  obtain ⟨rowDeleted, rowLeft, ends⟩ := lined.split rotated.parts
  refine ⟨rotated.filed, rowLeft, ends, by rw [rotated.index, lined.next],
    by rw [rotated.next, lined.next], ?_, ?_⟩
  · rw [List.forall_mem_append, List.forall_mem_singleton]
    constructor
    · intro filing member
      have inside : filing ∈ older ++ [current] := by
        rw [rotated.parts]
        exact List.mem_append_right _ member
      have born := lined.filed.born filing inside
      rw [lined.next] at born
      rw [others _ (Nat.ne_of_lt born), lined.told filing inside]
    · rw [rotated.bytes, rotated.index, lined.next, here]
  · intro index number outside named
    rw [rotated.base] at named
    by_cases isNext : index = sink.nextIndex
    · have := lined.next
      omega
    by_cases removed : ∃ filing ∈ deleted, filing.index = index
    · obtain ⟨filing, member, rfl⟩ := removed
      rw [rotated.gone filing member] at named
      cases named
    · have kept : ∀ filing ∈ deleted, filing.index ≠ index := by
        intro filing member same
        exact removed ⟨filing, member, same⟩
      rw [rotated.elsewhere index isNext kept] at named
      refine lined.absent index number ?_ named
      -- A number between the old first one and the new is that of a chunk that is deleted.
      by_contra between
      have inRow : index ∈ List.range' first deleted.length := by
        rw [List.mem_range'_1]
        omega
      rw [← rowDeleted] at inRow
      obtain ⟨filing, member, same⟩ := List.mem_map.mp inRow
      exact kept filing member same

/-- Which files there are and what they have once the current one has its bytes. -/
theorem Lined.holdsChunks (lined : Lined first rotations bytes above older current sink dir)
    (settled : dir.content current.number = some current.bytes) :
    HoldsChunks sink.base first rotations bytes dir := by
  intro index
  split
  next inside =>
    have inRow : index ∈ (older ++ [current]).map (·.index) := by
      rw [List.map_append, List.map_singleton, lined.row, lined.latest, List.mem_append,
        List.mem_range'_1, List.mem_singleton]
      have := lined.ends
      omega
    obtain ⟨filing, member, rfl⟩ := List.mem_map.mp inRow
    rw [lined.filed.open? member, lined.filed.content settled filing member,
      lined.told filing member]
  next outside =>
    have noFile := lined.absent index
    rw [Directory.open?, locate?_chunkPath lined.filed.entered, Option.bind_some]
    apply Directory.read?_of_not_file
    intro number
    apply noFile number
    omega

theorem Lined.currentPath? (lined : Lined first rotations bytes above older current sink dir) :
    sink.currentPath? = some (chunkPath sink.base rotations) := by
  rw [lined.filed.currentPath?, lined.latest]

/-- What is deleted makes room for the new chunk and has no file any more. -/
theorem Rotated.makesRoom (filed : Filed above older current sink dir) {deleted left : List Filing}
    {new : Filing} {after : RotatingSink} {later : Directory}
    (rotated : Rotated above older current deleted left new sink after dir later) :
    MakesRoom sink.base sink.nextIndex sink.maxTotalSize.toNat (sink, dir) (after, later)
      (deleted.map (Filing.chunk sink.base)) where
  parts := by
    show sink.chunks ++ _ = _ ++ after.chunks
    rw [filed.chunks, rotated.parts, rotated.filed.chunks, rotated.base, List.map_append,
      List.map_append, List.append_assoc, List.map_singleton, Filing.chunk, rotated.index,
      rotated.bytes]
    rfl
  evicts := by
    show Evicts _ _ after.chunks
    rw [rotated.filed.chunks, rotated.base]
    exact rotated.evicts
  total := rotated.filed.total
  current := by
    show after.currentPath? = _
    rw [rotated.filed.currentPath?, rotated.base, rotated.index]
  gone := by
    rw [List.forall_mem_map]
    intro filing member
    have located := locate?_chunkPath rotated.filed.entered filing.index
    rw [rotated.base] at located
    show later.open? (chunkPath sink.base filing.index) = none
    rw [Directory.open?, located, Option.bind_some, Directory.read?, rotated.gone filing member]

/-! ## Runs -/

/-- What is known of a sink after so many rotations, none of which has failed. -/
structure Kept (base : Path) (limit : UInt64) (rotations : Nat) (bytes : Nat → Bytes) (first : Nat)
    (above : Location) (older : List Filing) (current : Filing) (sink : RotatingSink)
    (dir : Directory) : Prop where
  lined : Lined first rotations bytes above older current sink dir
  base : sink.base = base
  limited : sink.maxTotalSize = limit
  settled : Roomy limit rotations → sink.stopped = true →
    dir.content current.number = some current.bytes
  /-- The header of the current chunk is held back, and stays so. -/
  bare : ¬ Roomy limit rotations → sink.stopped = true ∧ dir.content current.number = some []

variable {base : Path} {limit : UInt64}

theorem Kept.flush
    (kept : Kept base limit rotations bytes first above older current sink dir) :
    Kept base limit rotations bytes first above older current (sink.flush dir).1
      (sink.flush dir).2 := by
  rw [RotatingSink.flush]
  split
  next => exact kept
  next goes =>
    refine ⟨kept.lined.flushFile, kept.base, kept.limited,
      fun _ _ => kept.lined.filed.content_flushFile, fun cramped => ?_⟩
    exact absurd (kept.bare cramped).1 goes

theorem Kept.write
    (kept : Kept base limit rotations bytes first above older current sink dir)
    (accepts : sink.Accepts payload)
    (others : ∀ index, index ≠ rotations → more index = bytes index)
    (here : more rotations = bytes rotations ++ Stream.frame payload) :
    Kept base limit rotations more first above older
      { current with bytes := current.bytes ++ Stream.frame payload }
      (sink.write dir payload).1 (sink.write dir payload).2.1 := by
  have wrote := kept.lined.filed.write accepts
  refine ⟨kept.lined.write accepts others here, by rw [wrote.base, kept.base],
    by rw [wrote.limit, kept.limited], fun _ => wrote.settled, fun cramped => ?_⟩
  have stopped := (kept.bare cramped).1
  rw [accepts.1] at stopped
  cases stopped

theorem Kept.rotate
    (kept : Kept base limit rotations bytes first above older current sink dir)
    (done : (sink.rotate dir).2.2 = .ok ())
    (others : ∀ index, index ≠ rotations + 1 → more index = bytes index)
    (here : more (rotations + 1) = Stream.header) :
    ∃ first older current, Kept base limit (rotations + 1) more first above older current
      (sink.rotate dir).1 (sink.rotate dir).2.1 := by
  obtain ⟨deleted, left, new, rotated⟩ := kept.lined.filed.rotate done
  refine ⟨_, left, new, kept.lined.rotate rotated others here, by rw [rotated.base, kept.base],
    by rw [rotated.limit, kept.limited], ?_, ?_⟩
  · intro roomy stopped
    rw [rotated.stopped_iff, kept.limited] at stopped
    rw [Roomy] at roomy
    omega
  · intro cramped
    refine ⟨?_, rotated.unflushed⟩
    rw [rotated.stopped_iff, kept.limited]
    rw [Roomy] at cramped
    omega

theorem Kept.makesRoom
    (kept : Kept base limit rotations bytes first above older current sink dir)
    (done : (sink.rotate dir).2.2 = .ok ()) :
    ∃ deleted, MakesRoom base (rotations + 1) limit.toNat (sink, dir)
      ((sink.rotate dir).1, (sink.rotate dir).2.1) deleted := by
  obtain ⟨deleted, left, new, rotated⟩ := kept.lined.filed.rotate done
  have room := rotated.makesRoom kept.lined.filed
  rw [kept.base, kept.limited, kept.lined.next] at room
  exact ⟨_, room⟩

section Runs

variable {start : RotatingSink × Directory} {maxChunkSize : UInt64}

theorem kept_create (sound : dir.Sound) (made : create dir base maxChunkSize limit = .ok start)
    (absent : ∀ index,
      (dir.makeDirectories base.parent).1.open? (chunkPath base index) = none) :
    ∃ first above older current,
      Kept base limit 0 (chunkBytes start []) first above older current start.1 start.2 := by
  obtain ⟨above, number, filed, sameBase, limited, next, goes, others⟩ := filed_create sound made
  refine ⟨0, above, [], _, ⟨filed, rfl, rfl, rfl, next, ?_, ?_⟩, sameBase, limited, ?_, ?_⟩
  · rw [List.nil_append, List.forall_mem_singleton]
    exact (List.append_nil _).symm
  · intro index number outside
    rw [sameBase]
    exact others index (by omega) (absent index) number
  · intro _ stopped
    rw [goes] at stopped
    cases stopped
  · intro cramped
    exact absurd (.inr rfl) cramped

theorem kept_serveAll (sound : dir.Sound) (made : create dir base maxChunkSize limit = .ok start)
    (absent : ∀ index,
      (dir.makeDirectories base.parent).1.open? (chunkPath base index) = none)
    {requests : List Request} (served : Sink.rotating.Serves start requests) :
    ∃ first above older current,
      Kept base limit (requests.count .rotate) (chunkBytes start requests) first above older current
        (Sink.rotating.serveAll start requests).1 (Sink.rotating.serveAll start requests).2 := by
  -- From the back, as the bytes of a chunk grow at their end.
  induction requests using List.reverseRecOn with
  | nil => exact kept_create sound made absent
  | append_singleton requests request ih =>
      obtain ⟨before, done, -⟩ := Sink.serves_append.mp served
      obtain ⟨first, above, older, current, kept⟩ := ih before
      have bytes := chunkBytes_concat start requests request
      have same := @chunkBytes_of_none start requests request
      rw [Sink.serveAll_concat, List.count_append]
      generalize Sink.rotating.serveAll start requests = state at kept done bytes same ⊢
      obtain ⟨sink, dir⟩ := state
      cases request with
      | write payload =>
          by_cases accepts : sink.Accepts payload
          · have others : ∀ index, index ≠ requests.count .rotate →
                chunkBytes start (requests ++ [.write payload]) index =
                  chunkBytes start requests index := by
              intro index other
              rw [bytes, if_neg (Ne.symm other), List.append_nil]
            have here : chunkBytes start (requests ++ [.write payload]) (requests.count .rotate) =
                chunkBytes start requests (requests.count .rotate) ++ Stream.frame payload := by
              rw [bytes, if_pos rfl, accepted?, if_pos accepts]
              simp
            exact ⟨first, above, older, _, kept.write accepts others here⟩
          · rw [same (by rw [accepted?, if_neg accepts]), serve_write_of_not_accepts accepts]
            exact ⟨first, above, older, current, kept⟩
      | flush =>
          rw [same rfl]
          exact ⟨first, above, older, current, kept.flush⟩
      | rotate =>
          have here : chunkBytes start (requests ++ [.rotate]) (requests.count .rotate + 1) =
              Stream.header := by
            rw [same rfl, chunkBytes_of_lt (Nat.lt_succ_self _)]
          obtain ⟨first, older, current, next⟩ :=
            kept.rotate done (fun index _ => by rw [same rfl]) here
          exact ⟨first, above, older, current, next⟩

/-- What the files have after a last flush: all of it, unless a header is held back. -/
theorem Kept.holdsChunks_flush_iff
    (kept : Kept base limit rotations bytes first above older current sink dir)
    (header : bytes rotations ≠ []) :
    HoldsChunks base first rotations bytes (sink.flush dir).2 ↔ Roomy limit rotations := by
  rw [← kept.base]
  constructor
  · intro holds
    by_contra cramped
    obtain ⟨stopped, bare⟩ := kept.bare cramped
    have still : (sink.flush dir).2 = dir := by rw [RotatingSink.flush, if_pos stopped]
    -- The file of the current chunk is there, but it is empty.
    have found := holds rotations
    have ends := kept.lined.ends
    have last : current ∈ older ++ [current] := by simp
    rw [still, if_pos (by omega), ← kept.lined.latest, kept.lined.filed.open? last, bare,
      kept.lined.latest, Option.some.injEq] at found
    exact header found.symm
  · intro roomy
    have flushed := kept.flush
    have settled := kept.lined.filed.content_flush (kept.settled roomy)
    have holds := flushed.lined.holdsChunks settled
    rwa [flushed.base, ← kept.base] at holds

/-- **What the chunk files have.** Requests to a new sink that have all succeeded, where no file of
a chunk was there before, leave the files of the last chunks without a gap, each with its header
and the frames of what was taken between its rotation and the next, once the sink is closed. After
a flush they are there exactly if the limit leaves room for a header or there was no rotation. Each
rotation deletes the oldest chunks only, and no more than needed. -/
theorem chunks_hold_accepted_iff (sound : dir.Sound)
    (made : create dir base maxChunkSize limit = .ok start)
    (absent : ∀ index,
      (dir.makeDirectories base.parent).1.open? (chunkPath base index) = none)
    (requests : List Request) (served : Sink.rotating.Serves start requests) :
    let state := Sink.rotating.serveAll start requests
    let rotations := requests.count .rotate
    (∃ first ≤ rotations, state.1.currentPath? = some (chunkPath base rotations) ∧
      HoldsChunks base first rotations (chunkBytes start requests)
        (Outlet.close ⟨state.2, .rotating state.1⟩).dir ∧
      (HoldsChunks base first rotations (chunkBytes start requests)
          (Sink.rotating.flush state).1.2 ↔
        Stream.headerSize ≤ limit.toNat ∨ rotations = 0)) ∧
    ∀ earlier later, requests = earlier ++ .rotate :: later →
      let before := Sink.rotating.serveAll start earlier
      ∃ deleted, MakesRoom base (earlier.count .rotate + 1) limit.toNat before
        (Sink.rotating.rotate before).1 deleted := by
  intro state rotations
  constructor
  · obtain ⟨first, above, older, current, kept⟩ := kept_serveAll sound made absent served
    have closed := kept.lined.flushFile.holdsChunks kept.lined.filed.content_flushFile
    have ends := kept.lined.ends
    refine ⟨first, by omega, ?_, ?_, kept.holdsChunks_flush_iff (chunkBytes_ne_nil _ _ _)⟩
    · rw [kept.lined.currentPath?, kept.base]
    · rw [← kept.base]
      exact closed
  · intro earlier later parts before
    rw [parts] at served
    obtain ⟨front, done, -⟩ := Sink.serves_append.mp served
    obtain ⟨first, above, older, current, kept⟩ := kept_serveAll sound made absent front
    exact kept.makesRoom done

end Runs

/-- The third chunk makes the limit delete the first. -/
theorem chunks_hold_accepted_deleted :
    ∃ start, create .empty ⟨[.down "chunk"]⟩ 100 40 = .ok start ∧
      let requests := [.write [1, 2], .rotate, .write [3], .flush, .rotate, .write [4, 5, 6]]
      Sink.rotating.Serves start requests ∧
      HoldsChunks ⟨[.down "chunk"]⟩ 1 2 (chunkBytes start requests)
        (Sink.rotating.flush (Sink.rotating.serveAll start requests)).1.2 := by
  have absent : ∀ index, (Directory.empty.makeDirectories
      (Path.parent ⟨[.down "chunk"]⟩)).1.open? (chunkPath ⟨[.down "chunk"]⟩ index) = none := by
    rw [Directory.makeDirectories_of_nowhere _ rfl]
    exact fun index => Directory.open?_of_directories (by simp [Directory.empty]) _
  have made : ∃ start, create .empty ⟨[.down "chunk"]⟩ 100 40 = .ok start := by
    rw [create, Directory.makeDirectories_of_nowhere _ rfl]
    exact ⟨_, rfl⟩
  obtain ⟨start, made⟩ := made
  have shape := made
  rw [create, Directory.makeDirectories_of_nowhere _ rfl] at shape
  cases shape
  refine ⟨_, made, ⟨by rfl, by rfl, by rfl, by rfl, by rfl, by rfl, trivial⟩, ?_⟩
  obtain ⟨⟨first, -, -, -, flushed⟩, -⟩ := chunks_hold_accepted_iff Directory.sound_empty made
    absent [.write [1, 2], .rotate, .write [3], .flush, .rotate, .write [4, 5, 6]]
    ⟨by rfl, by rfl, by rfl, by rfl, by rfl, by rfl, trivial⟩
  have holds := flushed.mpr (.inl (by decide))
  have gone := holds 0
  have there := congrArg Option.isSome (holds 1)
  rw [show Directory.open? _ (chunkPath ⟨[.down "chunk"]⟩ 0) = none from rfl] at gone
  rw [show (Directory.open? _ (chunkPath ⟨[.down "chunk"]⟩ 1)).isSome = true from rfl] at there
  obtain rfl : first = 1 := by
    split at gone
    next => cases gone
    next =>
      split at there
      next => omega
      next => cases there
  exact holds

/-- **A flush that lets nothing reach the file.** There is no room for the header of the second
chunk, so the sink stops before the header has reached its file, and is not flushed any more. -/
theorem flush_withholds_header :
    ∃ start, create .empty ⟨[.down "chunk"]⟩ 100 11 = .ok start ∧
      Sink.rotating.Serves start [.rotate, .flush] ∧
      let state := Sink.rotating.serveAll start [.rotate, .flush]
      state.2.open? (chunkPath ⟨[.down "chunk"]⟩ 1) = some [] ∧
      chunkBytes start [.rotate, .flush] 1 = Stream.header ∧
      ∀ first, ¬ HoldsChunks ⟨[.down "chunk"]⟩ first 1 (chunkBytes start [.rotate, .flush])
        state.2 := by
  rw [create, Directory.makeDirectories_of_nowhere _ rfl]
  refine ⟨_, rfl, ⟨by rfl, by rfl, trivial⟩, by rfl, by rfl, ?_⟩
  intro first holds
  have found := holds 1
  rw [show Directory.open? _ (chunkPath ⟨[.down "chunk"]⟩ 1) = some [] from rfl] at found
  split at found
  next =>
    rw [Option.some.injEq] at found
    exact chunkBytes_ne_nil _ _ _ found.symm
  next => cases found

end RotatingSink

end LeakRecorder
