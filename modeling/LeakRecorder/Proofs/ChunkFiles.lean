/-
# LeakRecorder.Proofs.ChunkFiles — the chunks that a sink tracks and their files

A sink tracks its chunks by path and size. `RotatingSink.Filed` says what stands
behind that: every chunk has a file of its own under its name, the files of the
older chunks have their bytes, and what belongs into the current chunk has been
given to the open file, whether it has reached it or is held back.

Each operation is one lemma about the filings. A payload that is taken goes behind
the bytes of the current chunk (`Filed.write`); a flush lets them reach the file
(`Filed.content_flushFile`); a rotation closes the current chunk, files the new one
and deletes some of the oldest; one whose file cannot be made uses up the number and
does no more than a flush (`Filed.rotate`).
-/
import LeakRecorder.Proofs.Eviction
import LeakRecorder.Proofs.Frames
import LeakRecorder.Proofs.OpenFiles

set_option autoImplicit false

namespace LeakRecorder

namespace RotatingSink

/-- The chunks of a sink are filed in a directory: the older ones with all their bytes, the current
one in the file that is open. -/
structure Filed (above : Location) (older : List Filing) (current : Filing) (sink : RotatingSink)
    (dir : Directory) : Prop where
  sound : dir.Sound
  entered : dir.enter [] sink.base.parent.parts = .ok above
  chunks : sink.chunks = (older ++ [current]).map (Filing.chunk sink.base)
  named : ∀ filing ∈ older ++ [current],
    dir.node? (place sink.base above filing.index) = some (.file filing.number)
  rising : ((older ++ [current]).map (·.index)).Pairwise (· < ·)
  born : ∀ filing ∈ older ++ [current], filing.index < sink.nextIndex
  full : ∀ filing ∈ older, dir.content filing.number = some filing.bytes
  number : sink.file.number = current.number
  given : sink.file.Holds dir current.bytes
  size : sink.currentSize = current.bytes.length
  total : sink.total = totalSize sink.chunks

variable {above : Location} {older : List Filing} {current : Filing} {sink after : RotatingSink}
  {dir later : Directory} {payload : Bytes}

theorem Filed.index_lt (filed : Filed above older current sink dir) :
    ∀ filing ∈ older, filing.index < current.index := by
  have rising := filed.rising
  rw [List.map_append, List.pairwise_append] at rising
  intro filing member
  exact rising.2.2 _ (List.mem_map_of_mem member) _ (by simp)

theorem Filed.number_ne (filed : Filed above older current sink dir) :
    ∀ filing ∈ older, filing.number ≠ current.number := by
  intro filing member same
  have first := filed.named filing (by simp [member])
  have second := filed.named current (by simp)
  rw [← same] at second
  have place := filed.sound.apart _ _ _ first second
  rw [place_inj] at place
  have := filed.index_lt filing member
  omega

/-- The file of a chunk is found under its path. -/
theorem Filed.open? (filed : Filed above older current sink dir) {filing : Filing}
    (member : filing ∈ older ++ [current]) :
    dir.open? (chunkPath sink.base filing.index) = dir.content filing.number :=
  Directory.open?_of_file (locate?_chunkPath filed.entered filing.index)
    (filed.named filing member)

theorem Filed.currentPath? (filed : Filed above older current sink dir) :
    sink.currentPath? = some (chunkPath sink.base current.index) := by
  rw [RotatingSink.currentPath?, filed.chunks, List.map_append, List.map_singleton,
    List.getLast?_concat]
  rfl

/-- What is done to the open file leaves the older chunks as they are. -/
theorem Filed.passed (filed : Filed above older current sink dir) {bytes : Bytes}
    (passes : OpenFile.Passes (sink.file, dir) (after.file, later))
    (given : after.file.Holds later bytes) (base : after.base = sink.base)
    (next : sink.nextIndex ≤ after.nextIndex)
    (chunks : after.chunks = (older ++ [{ current with bytes }]).map (Filing.chunk sink.base))
    (size : after.currentSize = bytes.length) (total : after.total = totalSize after.chunks) :
    Filed above older { current with bytes } after later where
  sound := passes.alters.sound filed.sound
  entered := by
    rw [base]
    exact passes.alters.keepsDirectories.enter filed.entered
  chunks := by rw [base, chunks]
  named := by
    have named := filed.named
    rw [List.forall_mem_append, List.forall_mem_singleton] at named ⊢
    simp only [base, passes.alters.node?]
    exact named
  rising := by
    have rising := filed.rising
    rw [List.map_append] at rising ⊢
    exact rising
  born := by
    have born := filed.born
    rw [List.forall_mem_append, List.forall_mem_singleton] at born ⊢
    exact ⟨fun filing member => Nat.lt_of_lt_of_le (born.1 filing member) next,
      Nat.lt_of_lt_of_le born.2 next⟩
  full := by
    intro filing member
    have differs : filing.number ≠ sink.file.number := by
      rw [filed.number]
      exact filed.number_ne filing member
    rw [passes.alters.others _ differs, filed.full filing member]
  number := by rw [passes.number, filed.number]
  given := given
  size := size
  total := total

/-! ## Flushing -/

theorem Filed.flushFile (filed : Filed above older current sink dir) :
    Filed above older current (sink.flushFile dir).1 (sink.flushFile dir).2 :=
  filed.passed (OpenFile.passes_flush sink.file dir) filed.given.flush rfl (Nat.le_refl _)
    filed.chunks filed.size filed.total

theorem Filed.content_flushFile (filed : Filed above older current sink dir) :
    (sink.flushFile dir).2.content current.number = some current.bytes := by
  rw [← filed.number]
  exact filed.given.content_flush

theorem Filed.flush (filed : Filed above older current sink dir) :
    Filed above older current (sink.flush dir).1 (sink.flush dir).2 := by
  rw [RotatingSink.flush]
  split
  · exact filed
  · exact filed.flushFile

/-- A sink that has stopped is not flushed, so it has to have been before. -/
theorem Filed.content_flush (filed : Filed above older current sink dir)
    (settled : sink.stopped = true → dir.content current.number = some current.bytes) :
    (sink.flush dir).2.content current.number = some current.bytes := by
  rw [RotatingSink.flush]
  split
  next stopped => exact settled stopped
  next => exact filed.content_flushFile

/-- Once the current chunk has reached its file, every chunk has. -/
theorem Filed.content (filed : Filed above older current sink dir)
    (settled : dir.content current.number = some current.bytes) :
    ∀ filing ∈ older ++ [current], dir.content filing.number = some filing.bytes := by
  rw [List.forall_mem_append, List.forall_mem_singleton]
  exact ⟨filed.full, settled⟩

/-! ## Writing -/

theorem resizeLast_append (size : Nat) (chunks : List Chunk) (last : Chunk) :
    resizeLast size (chunks ++ [last]) = chunks ++ [{ last with size }] := by
  induction chunks with
  | nil => rfl
  | cons first rest ih =>
      cases rest with
      | nil => rfl
      | cons next more =>
          show first :: resizeLast size (next :: more ++ [last]) = _
          rw [ih]
          rfl

/-- The sink takes a payload: it has not stopped, and a length can announce the payload. -/
def Accepts (sink : RotatingSink) (payload : Bytes) : Prop :=
  sink.stopped = false ∧ payload.length < Stream.lengthLimit

instance (sink : RotatingSink) (payload : Bytes) : Decidable (sink.Accepts payload) :=
  inferInstanceAs (Decidable (_ ∧ _))

/-- A payload that is not taken changes nothing. -/
theorem write_of_not_accepts (refused : ¬ sink.Accepts payload) (dir : Directory) :
    sink.write dir payload =
      (sink, dir, if sink.stopped then .ok () else .error .payloadTooLarge) := by
  rw [write]
  cases stopped : sink.stopped with
  | true => rfl
  | false =>
      have large : ¬ payload.length < Stream.lengthLimit := by
        simpa [Accepts, stopped] using refused
      rw [Stream.encodeParts, if_neg large]
      rfl

/-- The sink with a frame behind the bytes of its current chunk. -/
def grow (sink : RotatingSink) (file : OpenFile) (size : Nat) : RotatingSink :=
  { sink with
    file
    currentSize := sink.currentSize + size
    total := sink.total + size
    chunks := resizeLast (sink.currentSize + size) sink.chunks }

theorem write_of_accepts (accepts : sink.Accepts payload) (dir : Directory) :
    sink.write dir payload =
      let written := sink.file.writeAll dir (Stream.frameParts payload)
      let grown := sink.grow written.1 (Stream.frameSize payload.length)
      if grown.overTotal then
        ({ (grown.flushFile written.2).1 with stopped := true },
          (grown.flushFile written.2).2, .ok ())
      else (grown, written.2, .ok ()) := by
  rw [write, if_neg (by simp [accepts.1]), Stream.encodeParts, if_pos accepts.2]
  rfl

theorem write_ok_of_accepts (accepts : sink.Accepts payload) (dir : Directory) :
    (sink.write dir payload).2.2 = .ok () := by
  rw [write_of_accepts accepts]
  dsimp only
  split <;> rfl

theorem Filed.grow (filed : Filed above older current sink dir) (payload : Bytes) :
    Filed above older { current with bytes := current.bytes ++ Stream.frame payload }
      (sink.grow (sink.file.writeAll dir (Stream.frameParts payload)).1
        (Stream.frameSize payload.length))
      (sink.file.writeAll dir (Stream.frameParts payload)).2 := by
  have length : (current.bytes ++ Stream.frame payload).length =
      sink.currentSize + Stream.frameSize payload.length := by
    rw [List.length_append, Stream.length_frame, filed.size]
  have chunks : resizeLast (sink.currentSize + Stream.frameSize payload.length) sink.chunks =
      (older ++ [{ current with bytes := current.bytes ++ Stream.frame payload }]).map
        (Filing.chunk sink.base) := by
    rw [filed.chunks, List.map_append, List.map_append, List.map_singleton, List.map_singleton,
      resizeLast_append, Filing.chunk, Filing.chunk, length]
  refine filed.passed (OpenFile.passes_writeAll ..) (filed.given.writeAll _) rfl (Nat.le_refl _)
    chunks length.symm ?_
  show sink.total + _ = totalSize (resizeLast _ sink.chunks)
  rw [chunks, filed.total, filed.chunks]
  simp [Filing.chunk]
  omega

/-- What a payload that is taken does. -/
structure Wrote (above : Location) (older : List Filing) (current : Filing) (payload : Bytes)
    (sink after : RotatingSink) (dir later : Directory) : Prop where
  filed : Filed above older { current with bytes := current.bytes ++ Stream.frame payload } after
    later
  total : after.total = sink.total + Stream.frameSize payload.length
  stopped : after.stopped = after.overTotal
  settled : after.stopped = true →
    later.content current.number = some (current.bytes ++ Stream.frame payload)
  base : after.base = sink.base
  limit : after.maxTotalSize = sink.maxTotalSize
  next : after.nextIndex = sink.nextIndex
  names : ∀ location, later.node? location = dir.node? location

theorem Filed.write (filed : Filed above older current sink dir)
    (accepts : sink.Accepts payload) :
    Wrote above older current payload sink (sink.write dir payload).1 dir
      (sink.write dir payload).2.1 := by
  have grown := filed.grow payload
  have names := (OpenFile.passes_writeAll sink.file dir (Stream.frameParts payload)).alters.node?
  rw [write_of_accepts accepts]
  generalize sink.file.writeAll dir (Stream.frameParts payload) = written at grown names
  obtain ⟨file, passed⟩ := written
  dsimp only at grown names ⊢
  split
  -- What takes the total over the limit has reached its file before the sink stops.
  next exceeds =>
    have flushed := grown.flushFile
    have settled := grown.content_flushFile
    have still := (OpenFile.passes_flush file passed).alters.node?
    exact ⟨{ flushed with sound := flushed.sound }, rfl, exceeds.symm, fun _ => settled, rfl, rfl,
      rfl, fun location => (still location).trans (names location)⟩
  next within =>
    have goes : (sink.grow file (Stream.frameSize payload.length)).stopped = false := accepts.1
    refine ⟨grown, rfl, ?_, ?_, rfl, rfl, rfl, names⟩
    · rw [goes]
      simpa using within
    · intro stopped
      rw [goes] at stopped
      cases stopped

/-! ## Rotating -/

/-- The sink with its current chunk closed and a number used up. -/
def spend (sink : RotatingSink) (dir : Directory) : RotatingSink :=
  { (sink.flushFile dir).1 with nextIndex := sink.nextIndex + 1 }

/-- The sink in its new chunk before anything is deleted. -/
def renewed (sink : RotatingSink) (dir : Directory) (file : OpenFile) (made : Directory) :
    RotatingSink :=
  (sink.spend dir).goOnIn (chunkPath sink.base sink.nextIndex) (file.write made Stream.header).1

/-- A rotation closes the current chunk and then depends on the file of the next one. -/
theorem rotate_eq (sink : RotatingSink) (dir : Directory) :
    sink.rotate dir =
      match OpenFile.create (sink.flushFile dir).2 (chunkPath sink.base sink.nextIndex) with
      | .error cause => (sink.spend dir, (sink.flushFile dir).2, .error cause)
      | .ok (file, made) =>
          let evicted := (sink.renewed dir file made).evictOldest (file.write made Stream.header).2
          (evicted.1, evicted.2, .ok ()) := by
  cases opened : OpenFile.create (sink.flushFile dir).2 (chunkPath sink.base sink.nextIndex) with
  | error cause =>
      simp only [flushFile, OpenFile.flush, OpenFile.pass] at opened
      simp only [rotate, spend, flushFile, OpenFile.flush, OpenFile.pass, opened]
  | ok state =>
      obtain ⟨file, made⟩ := state
      simp only [flushFile, OpenFile.flush, OpenFile.pass] at opened
      simp only [rotate, flushFile, OpenFile.flush, OpenFile.pass, opened]
      rfl

theorem Filed.spend (filed : Filed above older current sink dir) :
    Filed above older current (sink.spend dir) (sink.flushFile dir).2 :=
  filed.passed (OpenFile.passes_flush sink.file dir) filed.given.flush rfl (Nat.le_succ _)
    filed.chunks filed.size filed.total

/-- The new chunk is filed behind the others, which are all closed now. -/
theorem Filed.renewed (filed : Filed above older current sink dir) {file : OpenFile}
    {made : Directory}
    (opened : OpenFile.create (sink.flushFile dir).2 (chunkPath sink.base sink.nextIndex) =
      .ok (file, made)) :
    Filed above (older ++ [current]) ⟨sink.nextIndex, file.number, Stream.header⟩
        (sink.renewed dir file made) (file.write made Stream.header).2 ∧
      Directory.Creates (place sink.base above sink.nextIndex) file.number
        (sink.flushFile dir).2 made := by
  have closed := filed.flushFile
  have settled := closed.content filed.content_flushFile
  obtain ⟨location, located, creates, holds⟩ := OpenFile.create_ok closed.sound opened
  have entered : (sink.flushFile dir).2.enter [] sink.base.parent.parts = .ok above :=
    closed.entered
  rw [locate?_chunkPath entered] at located
  cases located
  have passes := OpenFile.passes_write file made Stream.header
  -- The next number is larger than all that are in use, so no chunk has the new file's name.
  have differs : ∀ filing ∈ older ++ [current],
      place sink.base above filing.index ≠ place sink.base above sink.nextIndex := by
    intro filing member same
    rw [place_inj] at same
    have := filed.born filing member
    omega
  refine ⟨⟨?_, ?_, ?_, ?_, ?_, ?_, ?_, passes.number, ?_, rfl, ?_⟩, creates⟩
  · exact passes.alters.sound creates.sound
  · exact passes.alters.keepsDirectories.enter (creates.keepsDirectories.enter entered)
  · show sink.chunks ++ [Filing.chunk sink.base ⟨sink.nextIndex, file.number, Stream.header⟩] =
      List.map (Filing.chunk sink.base) (older ++ [current] ++ [_])
    rw [filed.chunks]
    simp
  · rw [List.forall_mem_append, List.forall_mem_singleton]
    refine ⟨fun filing member => ?_, ?_⟩
    · rw [passes.alters.node?]
      have same := creates.elsewhere _ (differs filing member)
      exact same.trans (closed.named filing member)
    · rw [passes.alters.node?]
      exact creates.here
  · rw [List.map_append, List.pairwise_append]
    refine ⟨filed.rising, List.pairwise_singleton .., ?_⟩
    intro index member other isNew
    rw [List.map_singleton, List.mem_singleton] at isNew
    obtain ⟨filing, inside, rfl⟩ := List.mem_map.mp member
    rw [isNew]
    exact filed.born filing inside
  · rw [List.forall_mem_append, List.forall_mem_singleton]
    refine ⟨fun filing member => ?_, Nat.lt_succ_self _⟩
    exact Nat.lt_succ_of_lt (filed.born filing member)
  · intro filing member
    have other := creates.number_ne (differs filing member) (closed.named filing member)
    rw [passes.alters.others _ other]
    exact creates.others _ _ other (settled filing member)
  · exact holds.write Stream.header
  · show sink.total + Stream.headerSize = totalSize (sink.chunks ++ _)
    rw [totalSize_append, filed.total]
    rfl

/-- A front of the chunks without the last one is a front of the older ones. -/
theorem Filing.exists_front {base : Path} {older : List Filing} {current : Filing}
    {gone stays : List Chunk} (parts : (older ++ [current]).map (Filing.chunk base) = gone ++ stays)
    (some : stays ≠ []) :
    ∃ deleted left, older = deleted ++ left ∧ gone = deleted.map (Filing.chunk base) ∧
      stays = (left ++ [current]).map (Filing.chunk base) := by
  obtain ⟨deleted, rest, whole, rfl, rfl⟩ := List.map_eq_append_iff.mp parts
  rcases List.eq_nil_or_concat rest with rfl | ⟨left, last, rfl⟩
  · exact absurd rfl some
  · rw [List.concat_eq_append, ← List.append_assoc] at whole
    obtain ⟨front, same⟩ := List.append_inj' whole rfl
    rw [List.cons.injEq] at same
    exact ⟨deleted, left, front, rfl, by rw [List.concat_eq_append, same.1]⟩

/-- Deleting the oldest chunks leaves the others filed. -/
theorem Filed.removeAll {deleted left : List Filing}
    (filed : Filed above (deleted ++ left) current sink dir)
    (base : after.base = sink.base) (file : after.file = sink.file)
    (next : after.nextIndex = sink.nextIndex)
    (chunks : after.chunks = (left ++ [current]).map (Filing.chunk sink.base))
    (size : after.currentSize = sink.currentSize) (total : after.total = totalSize after.chunks) :
    Filed above left current after
        (RotatingSink.removeAll dir (deleted.map (Filing.chunk sink.base))) ∧
      Directory.Removes (deleted.map fun filing => place sink.base above filing.index) dir
        (RotatingSink.removeAll dir (deleted.map (Filing.chunk sink.base))) := by
  have named := filed.named
  have rising := filed.rising
  have born := filed.born
  rw [List.append_assoc, List.forall_mem_append] at named born
  rw [List.append_assoc, List.map_append, List.pairwise_append] at rising
  have removes := removes_removeAll filed.entered named.1 (rising.1.imp Nat.ne_of_lt)
  refine ⟨⟨?_, ?_, by rw [base, chunks], ?_, rising.2.1, ?_, ?_, by rw [file, filed.number], ?_,
    by rw [size, filed.size], total⟩, removes⟩
  · exact removes.sound filed.sound
  · rw [base]
    exact removes.keepsDirectories.enter filed.entered
  · intro filing member
    have kept : place sink.base above filing.index ∉
        deleted.map fun filing => place sink.base above filing.index := by
      intro removed
      obtain ⟨gone, inside, at_⟩ := List.mem_map.mp removed
      rw [place_inj] at at_
      have := rising.2.2 _ (List.mem_map_of_mem inside) _ (List.mem_map_of_mem member)
      omega
    rw [base, removes.elsewhere _ kept]
    exact named.2 filing member
  · rw [next]
    exact born.2
  · intro filing member
    rw [removes.content]
    exact filed.full filing (List.mem_append_right _ member)
  · obtain ⟨reached, held, rest⟩ := filed.given
    rw [file]
    exact ⟨reached, (removes.content _).trans held, rest⟩

theorem Filed.evictOldest (filed : Filed above older current sink dir) :
    ∃ deleted left, older = deleted ++ left ∧
      Evicts sink.maxTotalSize.toNat (deleted.map (Filing.chunk sink.base))
        ((left ++ [current]).map (Filing.chunk sink.base)) ∧
      Filed above left current (sink.evictOldest dir).1 (sink.evictOldest dir).2 ∧
      Directory.Removes (deleted.map fun filing => place sink.base above filing.index) dir
        (sink.evictOldest dir).2 := by
  have some : (older ++ [current]).map (Filing.chunk sink.base) ≠ [] := by simp
  obtain ⟨gone, stays, parts, evicts, same⟩ := evict_eq sink.maxTotalSize.toNat some dir
  obtain ⟨deleted, left, rfl, rfl, rfl⟩ := Filing.exists_front parts evicts.last
  rw [← filed.chunks, ← filed.total] at same
  have evicted : sink.evictOldest dir =
      ({ sink with
          chunks := (left ++ [current]).map (Filing.chunk sink.base)
          total := totalSize ((left ++ [current]).map (Filing.chunk sink.base))
          stopped := decide (sink.maxTotalSize.toNat <
            totalSize ((left ++ [current]).map (Filing.chunk sink.base))) },
        RotatingSink.removeAll dir (deleted.map (Filing.chunk sink.base))) := by
    rw [RotatingSink.evictOldest, same]
    rfl
  rw [evicted]
  exact ⟨deleted, left, rfl, evicts, filed.removeAll rfl rfl rfl rfl rfl rfl⟩

/-- What a rotation does that has its new chunk. -/
structure Rotated (above : Location) (older : List Filing) (current : Filing)
    (deleted left : List Filing) (new : Filing) (sink after : RotatingSink)
    (dir later : Directory) : Prop where
  parts : older ++ [current] = deleted ++ left
  evicts : Evicts sink.maxTotalSize.toNat (deleted.map (Filing.chunk sink.base))
    ((left ++ [new]).map (Filing.chunk sink.base))
  filed : Filed above left new after later
  index : new.index = sink.nextIndex
  bytes : new.bytes = Stream.header
  next : after.nextIndex = sink.nextIndex + 1
  base : after.base = sink.base
  limit : after.maxTotalSize = sink.maxTotalSize
  stopped : after.stopped = after.overTotal
  /-- The header is held back. -/
  unflushed : later.content new.number = some []
  gone : ∀ filing ∈ deleted, later.node? (place sink.base above filing.index) = none
  elsewhere : ∀ index, index ≠ sink.nextIndex → (∀ filing ∈ deleted, filing.index ≠ index) →
    later.node? (place sink.base above index) = dir.node? (place sink.base above index)

/-- A rotation leaves room, since the new chunk has a header only. -/
theorem Rotated.room {deleted left : List Filing} {new : Filing}
    (rotated : Rotated above older current deleted left new sink after dir later)
    (header : Stream.headerSize ≤ sink.maxTotalSize.toNat) :
    after.total ≤ sink.maxTotalSize.toNat := by
  rw [rotated.filed.total, rotated.filed.chunks, rotated.base]
  rcases rotated.evicts.enough with fits | alone
  · exact fits
  · have none : left = [] := by simpa using alone
    rw [none, List.nil_append, List.map_singleton, totalSize_cons, totalSize_nil, Filing.chunk,
      rotated.bytes]
    exact header

/-- After a rotation a sink has stopped only if there is no room for the header. -/
theorem Rotated.stopped_iff {deleted left : List Filing} {new : Filing}
    (rotated : Rotated above older current deleted left new sink after dir later) :
    after.stopped = true ↔ sink.maxTotalSize.toNat < Stream.headerSize := by
  rw [rotated.stopped, overTotal, rotated.limit, decide_eq_true_iff]
  constructor
  · intro exceeds
    by_contra header
    have := rotated.room (by omega)
    omega
  · intro small
    have size : new.bytes.length = Stream.headerSize := by
      rw [rotated.bytes]
      rfl
    rw [rotated.filed.total, rotated.filed.chunks, List.map_append, totalSize_append,
      List.map_singleton, totalSize_cons]
    show _ < _ + (new.bytes.length + _)
    omega

/-- A rotation that failed has only closed the current chunk and used up a number. -/
theorem rotate_of_error {cause : IoError} (error : (sink.rotate dir).2.2 = .error cause) :
    sink.rotate dir = (sink.spend dir, (sink.flushFile dir).2, .error cause) := by
  rw [rotate_eq] at error ⊢
  cases opened : OpenFile.create (sink.flushFile dir).2 (chunkPath sink.base sink.nextIndex) with
  | error found =>
      rw [opened] at error
      cases error
      rfl
  | ok state =>
      rw [opened] at error
      cases error

theorem Filed.rotate (filed : Filed above older current sink dir)
    (done : (sink.rotate dir).2.2 = .ok ()) :
    ∃ deleted left new, Rotated above older current deleted left new sink (sink.rotate dir).1 dir
      (sink.rotate dir).2.1 := by
  rw [rotate_eq] at done ⊢
  cases opened : OpenFile.create (sink.flushFile dir).2 (chunkPath sink.base sink.nextIndex) with
  | error cause =>
      rw [opened] at done
      cases done
  | ok state =>
      obtain ⟨file, made⟩ := state
      obtain ⟨fresh, creates⟩ := filed.renewed opened
      obtain ⟨deleted, left, parts, evicts, final, removes⟩ := fresh.evictOldest
      obtain ⟨-, -, -, holds⟩ := OpenFile.create_ok filed.flushFile.sound opened
      have fits : file.pending.size + Stream.header.length ≤ OpenFile.capacity := by
        rw [holds.nothing]
        decide
      -- A header is short, so the new file has not got it yet.
      have held : (file.write made Stream.header).2 = made :=
        OpenFile.write_of_fits made fits (by decide)
      refine ⟨deleted, left, _, parts, evicts, final, rfl, rfl, rfl, rfl, rfl, rfl, ?_, ?_, ?_⟩
      · rw [removes.content, held, creates.empty]
      · intro filing member
        exact removes.gone _ (List.mem_map_of_mem member)
      · intro index isOld kept
        have stays : place sink.base above index ∉
            deleted.map fun filing => place sink.base above filing.index := by
          intro removed
          obtain ⟨filing, inside, at_⟩ := List.mem_map.mp removed
          exact kept filing inside (place_inj.mp at_)
        have differs : place sink.base above index ≠ place sink.base above sink.nextIndex := by
          rw [Ne, place_inj]
          exact isOld
        rw [removes.elsewhere _ stays, held, creates.elsewhere _ differs]
        exact (OpenFile.passes_flush sink.file dir).alters.node? _

/-! ## Starting -/

/-- A sink that has just been created has one chunk with the header. A name of another chunk is a
file's only if it was one when the directories had been made. -/
theorem filed_create {dir start : Directory} {base : Path} {maxChunkSize maxTotalSize : UInt64}
    (sound : dir.Sound) (made : create dir base maxChunkSize maxTotalSize = .ok (sink, start)) :
    ∃ above number, Filed above [] ⟨0, number, Stream.header⟩ sink start ∧
      sink.base = base ∧ sink.maxTotalSize = maxTotalSize ∧ sink.nextIndex = 1 ∧
      sink.stopped = false ∧ ∀ index, index ≠ 0 →
        (dir.makeDirectories base.parent).1.open? (chunkPath base index) = none →
        ∀ number, start.node? (place base above index) ≠ some (.file number) := by
  have ready := (Directory.addsDirectories_makeDirectories dir base.parent).sound sound
  rw [create] at made
  generalize dir.makeDirectories base.parent = outcome at made ready ⊢
  obtain ⟨ground, result⟩ := outcome
  cases result with
  | error cause => cases made
  | ok _ =>
      cases opened : OpenFile.create ground (chunkPath base 0) with
      | error cause =>
          simp only [bind, Except.bind, opened] at made
          cases made
      | ok state =>
          obtain ⟨file, fresh⟩ := state
          simp only [bind, Except.bind, opened] at made
          cases made
          obtain ⟨location, located, creates, holds⟩ := OpenFile.create_ok ready opened
          obtain ⟨above, entered, rfl⟩ := locate?_chunkPath_iff.mp located
          have passes := OpenFile.passes_write file fresh Stream.header
          refine ⟨above, file.number, ⟨?_, ?_, rfl, ?_, by simp, by simp, by simp, passes.number,
            holds.write Stream.header, rfl, rfl⟩, rfl, rfl, rfl, rfl, ?_⟩
          · exact passes.alters.sound creates.sound
          · exact passes.alters.keepsDirectories.enter (creates.keepsDirectories.enter entered)
          · rw [List.nil_append, List.forall_mem_singleton, passes.alters.node?]
            exact creates.here
          · intro index other absent number
            have still : (file.write fresh Stream.header).2.node? (place base above index) =
                ground.node? (place base above index) := by
              rw [passes.alters.node?]
              exact creates.elsewhere _ fun same => other (place_inj.mp same)
            rw [Directory.open?, locate?_chunkPath entered, Option.bind_some] at absent
            rw [still]
            exact ready.not_file absent

end RotatingSink

end LeakRecorder
