/-
# LeakRecorder.Proofs.Budget — the counters of a sink and its limit

A rotating sink keeps the sizes of its chunks, the size of the current one, their
total and whether it has stopped, and updates them one by one. `Accounted` says what
they are worth: they agree with each other and with the files, the sink has stopped
exactly when the total is over its limit, and it is over by at most the payload that
was taken last. The limit has to leave room for a header.

Every request keeps this (`Within.write`, `Within.flush`, `Within.rotate`), whether it
succeeds or not, so it holds after any run (`within_serveAll`). What the next request
does to the counters is `Steady`.
-/
import LeakRecorder.Proofs.Serving

set_option autoImplicit false

namespace LeakRecorder

namespace RotatingSink

/-- The bytes of the file that a path names once the sink has been flushed. -/
def flushed? (state : RotatingSink × Directory) (path : Path) : Option Bytes :=
  (Sink.rotating.flush state).1.2.open? path

/-- The payload that was taken last. -/
def lastAccepted? (start : RotatingSink × Directory) (requests : List Request) : Option Bytes :=
  (accepted 0 start requests).getLast?.map (·.2)

/-- What the payload that was taken last has added to the total. -/
def excess (last? : Option Bytes) : Nat :=
  (last?.map fun payload => Stream.frameSize payload.length).getD 0

/-- What the counters of a sink say under a limit, the payload taken last being `last?`. -/
structure Accounted (limit : Nat) (last? : Option Bytes) (state : RotatingSink × Directory) :
    Prop where
  limited : state.1.maxTotalSize.toNat = limit
  total : state.1.total = totalSize state.1.chunks
  current : state.1.chunks.getLast?.map (·.size) = some state.1.currentSize
  sizes : ∀ chunk ∈ state.1.chunks,
    (flushed? state chunk.path).map List.length = some chunk.size
  stopped : state.1.stopped = true ↔ limit < state.1.total
  within : state.1.total ≤ limit + excess last?
  /-- Whatever file the next chunk has, deleting chunks takes no more off the total than there
  is. -/
  fits : ∀ path file, EvictionFits limit (state.1.goOnIn path file).chunks
    (state.1.goOnIn path file).total

/-- What the next request does to the counters of a sink. -/
structure Steady (state : RotatingSink × Directory) : Prop where
  resumes : (Sink.rotating.rotate state).2 = .ok () →
    (Sink.rotating.rotate state).1.1.stopped = false
  refuses : ∀ payload, (∃ cause, (Sink.rotating.write state payload).2 = .error cause) ↔
    state.1.stopped = false ∧ Stream.lengthLimit ≤ payload.length
  refused : ∀ payload cause, (Sink.rotating.write state payload).2 = .error cause →
    (Sink.rotating.write state payload).1 = state
  failed : ∀ cause, (Sink.rotating.rotate state).2 = .error cause →
    (Sink.rotating.rotate state).1.1.chunks = state.1.chunks ∧
    (Sink.rotating.rotate state).1.1.currentSize = state.1.currentSize ∧
    (Sink.rotating.rotate state).1.1.total = state.1.total ∧
    (Sink.rotating.rotate state).1.1.stopped = state.1.stopped
  /-- Payloads that come after a rotation that failed go behind the bytes of the old chunk. -/
  goesOn : ∀ cause payload, (Sink.rotating.rotate state).2 = .error cause →
    state.1.Accepts payload → ∃ path bytes, state.1.currentPath? = some path ∧
      flushed? state path = some bytes ∧
      flushed? (Sink.rotating.write (Sink.rotating.rotate state).1 payload).1 path =
        some (bytes ++ Stream.frame payload)

/-- A sink with its filings is within its limit. -/
structure Within (limit : Nat) (last? : Option Bytes) (above : Location) (older : List Filing)
    (current : Filing) (sink : RotatingSink) (dir : Directory) : Prop where
  filed : Filed above older current sink dir
  limited : sink.maxTotalSize.toNat = limit
  stopped : sink.stopped = sink.overTotal
  settled : sink.stopped = true → dir.content current.number = some current.bytes
  within : sink.total ≤ limit + excess last?

variable {limit : Nat} {last? : Option Bytes} {above : Location} {older : List Filing}
  {current : Filing} {sink : RotatingSink} {dir : Directory} {payload : Bytes}

/-- A sink that goes on has room. -/
theorem Within.room (held : Within limit last? above older current sink dir)
    (goes : sink.stopped = false) : sink.total ≤ limit := by
  have := held.stopped
  rw [goes, overTotal, held.limited] at this
  simpa using this.symm

theorem Within.flushFile (held : Within limit last? above older current sink dir) :
    Within limit last? above older current (sink.flushFile dir).1 (sink.flushFile dir).2 where
  filed := held.filed.flushFile
  limited := held.limited
  stopped := held.stopped
  settled _ := held.filed.content_flushFile
  within := held.within

theorem Within.flush (held : Within limit last? above older current sink dir) :
    Within limit last? above older current (sink.flush dir).1 (sink.flush dir).2 := by
  rw [RotatingSink.flush]
  split
  · exact held
  · exact held.flushFile

theorem Within.write (held : Within limit last? above older current sink dir)
    (accepts : sink.Accepts payload) :
    Within limit (some payload) above older
      { current with bytes := current.bytes ++ Stream.frame payload }
      (sink.write dir payload).1 (sink.write dir payload).2.1 := by
  have wrote := held.filed.write accepts
  refine ⟨wrote.filed, by rw [wrote.limit, held.limited], wrote.stopped, wrote.settled, ?_⟩
  have := held.room accepts.1
  rw [wrote.total]
  show _ ≤ limit + Stream.frameSize payload.length
  omega

theorem Within.spend (held : Within limit last? above older current sink dir) :
    Within limit last? above older current (sink.spend dir) (sink.flushFile dir).2 where
  filed := held.filed.spend
  limited := held.limited
  stopped := held.stopped
  settled _ := held.filed.content_flushFile
  within := held.within

theorem Within.rotate (header : Stream.headerSize ≤ limit)
    (held : Within limit last? above older current sink dir) :
    ∃ older current, Within limit last? above older current (sink.rotate dir).1
      (sink.rotate dir).2.1 := by
  cases done : (sink.rotate dir).2.2 with
  | error cause =>
      rw [rotate_of_error done]
      exact ⟨older, current, held.spend⟩
  | ok _ =>
      obtain ⟨deleted, left, new, rotated⟩ := held.filed.rotate done
      rw [← held.limited] at header
      have limited : (sink.rotate dir).1.maxTotalSize.toNat = limit := by
        rw [rotated.limit, held.limited]
      refine ⟨left, new, rotated.filed, limited, rotated.stopped, ?_, ?_⟩
      · intro stopped
        have := rotated.stopped_iff.mp stopped
        omega
      · have := rotated.room header
        rw [← held.limited]
        omega

/-- Flushing lets the file of every chunk have its bytes. -/
theorem Within.flushed? (held : Within limit last? above older current sink dir) {filing : Filing}
    (member : filing ∈ older ++ [current]) :
    flushed? (sink, dir) (chunkPath sink.base filing.index) = some filing.bytes := by
  have flushed := held.filed.flush
  have base : (sink.flush dir).1.base = sink.base := by
    rw [RotatingSink.flush]
    split <;> rfl
  have found := flushed.open? member
  rw [base, flushed.content (held.filed.content_flush held.settled) filing member] at found
  exact found

theorem Within.accounted (held : Within limit last? above older current sink dir) :
    Accounted limit last? (sink, dir) where
  limited := held.limited
  total := held.filed.total
  current := by
    show sink.chunks.getLast?.map (·.size) = some sink.currentSize
    rw [held.filed.chunks, List.map_append, List.map_singleton, List.getLast?_concat,
      held.filed.size]
    rfl
  sizes := by
    show ∀ chunk ∈ sink.chunks, _
    rw [held.filed.chunks, List.forall_mem_map]
    intro filing member
    show (RotatingSink.flushed? (sink, dir) (chunkPath sink.base filing.index)).map List.length = _
    rw [held.flushed? member]
    rfl
  stopped := by
    show sink.stopped = true ↔ limit < sink.total
    rw [held.stopped, overTotal, held.limited, decide_eq_true_iff]
  within := held.within
  fits path file := by
    have total : (sink.goOnIn path file).total = totalSize (sink.goOnIn path file).chunks := by
      show sink.total + Stream.headerSize = totalSize (sink.chunks ++ [_])
      rw [totalSize_append, held.filed.total]
      rfl
    show EvictionFits limit (sink.goOnIn path file).chunks (sink.goOnIn path file).total
    rw [total]
    exact evictionFits limit _

/-- What can be refused is a payload whose length no frame can announce. -/
theorem write_error_iff :
    (∃ cause, (sink.write dir payload).2.2 = .error cause) ↔
      sink.stopped = false ∧ Stream.lengthLimit ≤ payload.length := by
  by_cases accepts : sink.Accepts payload
  · have small := accepts.2
    rw [write_ok_of_accepts accepts]
    constructor
    · rintro ⟨cause, error⟩
      cases error
    · rintro ⟨-, large⟩
      omega
  · rw [write_of_not_accepts accepts]
    cases stopped : sink.stopped with
    | true => simp
    | false =>
        have large : ¬ payload.length < Stream.lengthLimit := by
          simpa [Accepts, stopped] using accepts
        simpa using large

theorem Within.steady (header : Stream.headerSize ≤ limit)
    (held : Within limit last? above older current sink dir) : Steady (sink, dir) where
  resumes done := by
    obtain ⟨deleted, left, new, rotated⟩ := held.filed.rotate done
    rw [← Bool.not_eq_true]
    show ¬ (sink.rotate dir).1.stopped = true
    rw [rotated.stopped_iff, held.limited]
    omega
  refuses payload := write_error_iff
  refused payload cause error := by
    have refused : ¬ sink.Accepts payload := fun accepts => by
      cases (write_ok_of_accepts accepts dir).symm.trans error
    exact serve_write_of_not_accepts refused dir
  failed cause error := by
    have after : (Sink.rotating.rotate (sink, dir)).1.1 = sink.spend dir := by
      show (sink.rotate dir).1 = _
      rw [rotate_of_error error]
    rw [after]
    exact ⟨rfl, rfl, rfl, rfl⟩
  goesOn cause payload error accepts := by
    -- The sink still has its chunk, so the payload is written to it as if nothing had been asked.
    have after : (Sink.rotating.rotate (sink, dir)).1 =
        (sink.spend dir, (sink.flushFile dir).2) := by
      show ((sink.rotate dir).1, (sink.rotate dir).2.1) = _
      rw [rotate_of_error error]
    rw [after]
    have still : (sink.spend dir).Accepts payload := accepts
    have final := (held.spend.write still).flushed?
      (List.mem_append_right _ (List.mem_singleton_self _))
    rw [(held.spend.filed.write still).base] at final
    exact ⟨_, _, held.filed.currentPath?, held.flushed? (by simp), final⟩

/-! ## Runs -/

theorem lastAccepted?_concat (start : RotatingSink × Directory) (requests : List Request)
    (request : Request) :
    lastAccepted? start (requests ++ [request]) =
      ((Sink.rotating.serveAll start requests).1.accepted? request).or
        (lastAccepted? start requests) := by
  rw [lastAccepted?, accepted_concat, List.getLast?_append]
  cases (Sink.rotating.serveAll start requests).1.accepted? request <;> rfl

theorem Within.serve (header : Stream.headerSize ≤ limit)
    (held : Within limit last? above older current sink dir) (request : Request) :
    ∃ older current, Within limit ((sink.accepted? request).or last?) above older current
      (Sink.rotating.serve (sink, dir) request).1.1
      (Sink.rotating.serve (sink, dir) request).1.2 := by
  cases request with
  | write payload =>
      by_cases accepts : sink.Accepts payload
      · rw [accepted?, if_pos accepts]
        exact ⟨older, _, held.write accepts⟩
      · rw [accepted?, if_neg accepts]
        rw [serve_write_of_not_accepts accepts]
        exact ⟨older, current, held⟩
  | flush => exact ⟨older, current, held.flush⟩
  | rotate => exact held.rotate header

section Runs

variable {base : Path} {maxChunkSize maxTotalSize : UInt64} {start : RotatingSink × Directory}

theorem within_create (sound : dir.Sound) (header : Stream.headerSize ≤ maxTotalSize.toNat)
    (made : create dir base maxChunkSize maxTotalSize = .ok start) :
    ∃ above older current,
      Within maxTotalSize.toNat none above older current start.1 start.2 := by
  obtain ⟨above, number, filed, -, limit, -, goes, -⟩ := filed_create sound made
  have total : start.1.total = Stream.headerSize := by
    rw [filed.total, filed.chunks]
    rfl
  refine ⟨above, [], _, filed, by rw [limit], ?_, ?_, ?_⟩
  · rw [goes, overTotal, total, limit]
    simpa using header
  · intro stopped
    rw [goes] at stopped
    cases stopped
  · rw [total]
    exact header

theorem within_serveAll (sound : dir.Sound) (header : Stream.headerSize ≤ maxTotalSize.toNat)
    (made : create dir base maxChunkSize maxTotalSize = .ok start) (requests : List Request) :
    ∃ above older current, Within maxTotalSize.toNat (lastAccepted? start requests) above older
      current (Sink.rotating.serveAll start requests).1
      (Sink.rotating.serveAll start requests).2 := by
  induction requests using List.reverseRecOn with
  | nil => exact within_create sound header made
  | append_singleton requests request ih =>
      obtain ⟨above, older, current, held⟩ := ih
      obtain ⟨next, last, still⟩ := held.serve header request
      rw [lastAccepted?_concat, Sink.serveAll_concat]
      exact ⟨above, next, last, still⟩

/-- **The counters and the limit.** After any requests to a new sink, some of which may have been
refused or have found no file for the next chunk, the counters agree with the chunks and their
files, and the total is over the limit by the last payload at most. -/
theorem counters_within_limit (sound : dir.Sound)
    (header : Stream.headerSize ≤ maxTotalSize.toNat)
    (made : create dir base maxChunkSize maxTotalSize = .ok start) (requests : List Request) :
    Accounted maxTotalSize.toNat (lastAccepted? start requests)
        (Sink.rotating.serveAll start requests) ∧
      Steady (Sink.rotating.serveAll start requests) := by
  obtain ⟨above, older, current, held⟩ := within_serveAll sound header made requests
  exact ⟨held.accounted, held.steady header⟩

end Runs

/-- The second chunk cannot have its file, since there is a directory of that name, so the third
request fails. The last payload stops the sink. -/
theorem counters_within_limit_stopped :
    ∃ start, create ⟨[(["chunk.1.bin"], .dir)], #[]⟩ ⟨[.down "chunk"]⟩ 100 40 = .ok start ∧
      (Sink.rotating.rotate (Sink.rotating.serveAll start [.write [1, 2], .flush])).2 =
        .error .isADirectory ∧
      let state := Sink.rotating.serveAll start
        [.write [1, 2], .flush, .rotate, .write [3], .rotate, .write [4, 5, 6]]
      state.1.stopped = true ∧ Accounted 40 (some [4, 5, 6]) state ∧ Steady state := by
  have made : ∃ start, create ⟨[(["chunk.1.bin"], .dir)], #[]⟩ ⟨[.down "chunk"]⟩ 100 40 =
      .ok start := by
    rw [create, Directory.makeDirectories_of_nowhere _ rfl]
    exact ⟨_, rfl⟩
  obtain ⟨start, made⟩ := made
  have account := counters_within_limit (Directory.sound_of_directories (by simp)) (by decide) made
    [.write [1, 2], .flush, .rotate, .write [3], .rotate, .write [4, 5, 6]]
  refine ⟨start, made, ?_⟩
  rw [create, Directory.makeDirectories_of_nowhere _ rfl] at made
  cases made
  exact ⟨by rfl, by rfl, account⟩

end RotatingSink

end LeakRecorder
