/-
# LeakRecorder.Proofs.Recording — a recording in one file can always be read

Operations fail, and what an operation has done before it failed stays. None of
this reaches the file halfway: a write composes its payloads before it commits the
first, a payload is accepted whole or refused, and nothing else writes.

Three facts are carried along a run. The file has been given the header and a frame
of every accepted payload (`FileSink.Records`). Every blob is one block that can be
decoded (`BlobStore.Legible`). And every accepted payload is of one of three kinds
(`Commit.Tells`): the blobs that the write sent, one block each; the block of the
traces that it found pending; or the block of the edges.

So after a flush a reader takes the header and one checkpoint for each accepted
payload, in the order in which they were accepted (`recording_readable`).
-/
import LeakRecorder.Proofs.Commits
import LeakRecorder.Proofs.Frames
import LeakRecorder.Proofs.OpenFiles
import LeakRecorder.Proofs.StackTraces
import LeakRecorder.Proofs.WriteOutcome
import LeakRecorder.Sink.File

set_option autoImplicit false

namespace LeakRecorder

/-- Items that each have a partner have a list of partners. -/
theorem exists_forall₂ {α β : Type} {R : α → β → Prop} {xs : List α}
    (each : ∀ x ∈ xs, ∃ y, R x y) : ∃ ys, List.Forall₂ R xs ys := by
  induction xs with
  | nil => exact ⟨[], .nil⟩
  | cons x xs ih =>
      rw [List.forall_mem_cons] at each
      obtain ⟨y, related⟩ := each.1
      obtain ⟨ys, others⟩ := ih each.2
      exact ⟨y :: ys, .cons related others⟩

variable {σ ρ : Type}

/-! ## The file -/

/-- The path names the open file. -/
def OpenFile.Named (path : Path) (file : OpenFile) (dir : Directory) : Prop :=
  ∃ location, dir.locate? path = some location ∧
    dir.node? location = some (.file file.number)

theorem OpenFile.Passes.named {path : Path} {before after : OpenFile × Directory}
    (passes : Passes before after) (named : Named path before.1 before.2) :
    Named path after.1 after.2 := by
  obtain ⟨location, located, found⟩ := named
  refine ⟨location, passes.alters.keepsDirectories.locate? located, ?_⟩
  rw [passes.alters.node?, passes.number, found]

theorem OpenFile.Named.open? {path : Path} {file : OpenFile} {dir : Directory}
    (named : Named path file dir) : dir.open? path = dir.content file.number := by
  obtain ⟨location, located, found⟩ := named
  exact Directory.open?_of_file located found

/-- The path names the sink's file, which has been given the header and a frame of each payload. -/
structure FileSink.Records (path : Path) (payloads : List Bytes) (state : FileSink × Directory) :
    Prop where
  named : OpenFile.Named path state.1.file state.2
  given : state.1.file.Holds state.2 (Stream.header ++ payloads.flatMap Stream.frame)
  fits : ∀ payload ∈ payloads, payload.length < Stream.lengthLimit

theorem FileSink.records_create {dir start : Directory} {path : Path} {sink : FileSink}
    (sound : dir.Sound) (opened : create dir path = .ok (sink, start)) :
    Records path [] (sink, start) := by
  rw [create] at opened
  cases made : OpenFile.create dir path with
  | error cause =>
      rw [made] at opened
      cases opened
  | ok state =>
      obtain ⟨file, after⟩ := state
      obtain ⟨location, located, creates, holds⟩ := OpenFile.create_ok sound made
      rw [made] at opened
      cases opened
      have named : OpenFile.Named path file after :=
        ⟨location, creates.keepsDirectories.locate? located, creates.here⟩
      refine ⟨(OpenFile.passes_write file after Stream.header).named named, ?_, by simp⟩
      show (file.write after Stream.header).1.Holds (file.write after Stream.header).2 _
      rw [List.flatMap_nil, List.append_nil]
      exact holds.write Stream.header

/-- The file has been given what was accepted, whatever is asked of the sink. -/
theorem FileSink.tracks_file (path : Path) : Sink.file.Tracks (Records path) where
  accepts := by
    intro payloads state payload after records written
    obtain ⟨sink, dir⟩ := state
    cases encoded : Stream.encodeParts payload with
    | error cause => simp [Sink.file, FileSink.write, encoded] at written
    | ok parts =>
        simp only [Sink.file, FileSink.write, encoded, Prod.mk.injEq, and_true] at written
        obtain ⟨small, rfl⟩ := Stream.encodeParts_ok_iff.mp encoded
        rw [← written]
        refine ⟨(OpenFile.passes_writeAll ..).named records.named, ?_, ?_⟩
        · have given := records.given.writeAll (Stream.frameParts payload)
          rw [List.append_assoc] at given
          rw [List.flatMap_append, List.flatMap_singleton]
          exact given
        · rw [List.forall_mem_append, List.forall_mem_singleton]
          exact ⟨records.fits, small⟩
  refuses := by
    intro payloads state payload after cause records written
    obtain ⟨sink, dir⟩ := state
    cases encoded : Stream.encodeParts payload with
    | error reason =>
        simp only [Sink.file, FileSink.write, encoded, Prod.mk.injEq] at written
        rw [← written.1]
        exact records
    | ok parts => simp [Sink.file, FileSink.write, encoded] at written
  flush := by
    intro payloads state records
    exact ⟨(OpenFile.passes_flush ..).named records.named, records.given.flush, records.fits⟩
  rotate := fun records => records

/-- After a flush the file under the path has the header and the frames. -/
theorem FileSink.Records.open? {path : Path} {payloads : List Bytes}
    {state : FileSink × Directory} (records : Records path payloads state) :
    (state.1.flush state.2).2.open? path =
      some (Stream.header ++ payloads.flatMap Stream.frame) := by
  have named := (OpenFile.passes_flush state.1.file state.2).named records.named
  rw [← records.given.content_flush]
  exact named.open?

/-! ## The blobs -/

namespace BlobStore

/-- Every blob is one block that can be decoded. -/
def Legible (store : BlobStore) : Prop :=
  store.All fun bytes => ∃ block, Payload.decode bytes = .ok [block]

/-- Blobs that are there are read back in their order, one block each. -/
theorem Legible.decode {store : BlobStore} (legible : store.Legible) {ids : List BlobId}
    (there : ∀ id ∈ ids, ∃ blob, store.get? id = some blob) :
    ∃ blocks, Payload.decode (ids.flatMap store.bytesOf) = .ok blocks ∧
      List.Forall₂ (fun id block => ∃ blob, store.get? id = some blob ∧
        Payload.decode blob.bytes = .ok [block]) ids blocks := by
  induction ids with
  | nil => exact ⟨[], Payload.decode_nil, .nil⟩
  | cons id ids ih =>
      rw [List.forall_mem_cons] at there
      obtain ⟨blob, present⟩ := there.1
      obtain ⟨block, decoded⟩ := legible id blob present
      obtain ⟨blocks, rest, each⟩ := ih there.2
      refine ⟨block :: blocks, ?_, .cons ⟨blob, present, decoded⟩ each⟩
      rw [List.flatMap_cons, bytesOf_eq present, Payload.decode_append decoded, rest]
      rfl

end BlobStore

/-- Blobs are the blocks of threads and of type sets, and the chains are the edges of a store or
fail. -/
def Operation.Plain : Operation ρ → Prop
  | .addBlob .thread bytes => ∃ record : ThreadRecord, bytes = record.toBlob
  | .addBlob .typeSet bytes => ∃ records, ClassRecord.toBlob records = .ok bytes
  | .addBlob .stackTrace _ => False
  | .write chains _ => (∃ edges, chains = .ofEdges edges) ∨ ∃ cause, chains.part.2 = .error cause
  | _ => True

theorem ThreadRecord.decode_toBlob (record : ThreadRecord) :
    ∃ block, Payload.decode record.toBlob = .ok [block] := by
  have countable : (Record.thread record).Countable := True.intro
  rw [record.toBlob_eq]
  exact ⟨_, Payload.decode_encode (Block.wellFormed_single countable)⟩

theorem ClassRecord.decode_toBlob {records : List ClassRecord} {bytes : Bytes}
    (built : toBlob records = .ok bytes) : ∃ block, Payload.decode bytes = .ok [block] := by
  by_cases few : records.length < countLimit
  · rw [toBlob_of_few few] at built
    cases built
    exact ⟨_, Payload.decode_encode
      (Block.wellFormed_map .loadedClass few (fun _ => rfl) fun _ _ => True.intro)⟩
  · rw [toBlob, if_neg few] at built
    cases built

/-- A blob that is handed in, or made of a trace, can be decoded. -/
theorem Operation.Plain.makes {operation : Operation ρ} (plain : operation.Plain) {bytes : Bytes}
    (made : operation.Makes bytes) : ∃ block, Payload.decode bytes = .ok [block] := by
  rcases made with ⟨kind, rfl⟩ | ⟨trace, few, rfl⟩
  · cases kind with
    | thread =>
        obtain ⟨record, rfl⟩ := plain
        exact record.decode_toBlob
    | typeSet =>
        obtain ⟨records, built⟩ := plain
        exact ClassRecord.decode_toBlob built
    | stackTrace => exact plain.elim
  · exact ⟨_, Payload.decode_traceBlock_single few⟩

/-! ## What a payload is decoded as -/

/-- How the blocks of an accepted payload came into it. -/
inductive Commit.Tells (source : TraceSource ρ) (commit : Commit σ ρ) : List Block → Prop
  /-- As the blobs that the write sent, one block each; samples of the window carry them. -/
  | blobs {blocks : List Block}
      (each : List.Forall₂ (fun id block =>
        (∃ sample ∈ commit.before.sampler.visited commit.emitAll, id ∈ sample.blobs) ∧
          ∃ blob, commit.before.blobs.get? id = some blob ∧
            Payload.decode blob.bytes = .ok [block])
        (commit.before.sends commit.emitAll) blocks) : Tells source commit blocks
  /-- As the block of the traces that the write found pending. -/
  | pending {traces : List Trace}
      (count : traces.length = (commit.before.pendingIds commit.emitAll).length)
      (each : ∀ trace ∈ traces, trace ∈ (source.visit commit.before.traces).1 ∧
        trace.shouldWrite = true ∧ trace.id ∈ commit.before.pendingIds commit.emitAll) :
      Tells source commit [traceBlock traces]
  /-- As the edges of the store that was handed in. -/
  | edges {store : EdgeStore} (chains : commit.chains = .ofEdges store)
      (decoded : Payload.decode store.toBlock.encode = .ok [store.toBlock.kept]) :
      Tells source commit [store.toBlock.kept]

section Tells

variable {host : Host σ ρ} {chains : ReferenceChains} {emitAll : Bool} {before : Profiler σ ρ}

theorem Sample.mem_blobs_of_offered {exited : ExitedThreads} {sample : Sample} {id : BlobId}
    (offered : id ∈ sample.offered exited) : id ∈ sample.blobs := by
  simp only [Sample.offered, List.mem_append] at offered
  simp only [Sample.blobs, List.mem_append]
  rcases offered with (trace | thread) | typeSet
  · exact .inl (.inl trace)
  · split at thread
    · exact .inl (.inr thread)
    · cases thread
  · exact .inr typeSet

theorem tells_blobs (linked : before.sampler.Linked) (legible : before.blobs.Legible) :
    ∃ blocks,
      Payload.decode (before.emitWindow .empty emitAll).payload.toBytes = .ok blocks ∧
      ∀ payload, Commit.Tells host.source ⟨before, chains, emitAll, payload⟩ blocks := by
  have sent : ∀ id ∈ before.sends emitAll,
      (∃ sample ∈ before.sampler.visited emitAll, id ∈ sample.blobs) ∧
        ∃ blob, before.blobs.get? id = some blob := by
    intro id sends
    obtain ⟨offers, owed⟩ := BlobStore.mem_due.mp sends
    obtain ⟨sample, visited, offered⟩ := List.mem_flatMap.mp offers
    obtain ⟨blob, present, -⟩ := BlobStore.owes_iff.mp owed
    exact ⟨⟨sample, visited, Sample.mem_blobs_of_offered offered⟩, blob, present⟩
  obtain ⟨blocks, decoded, each⟩ := legible.decode fun id sends => (sent id sends).2
  refine ⟨blocks, ?_, fun payload => .blobs ?_⟩
  · rw [Profiler.toBytes_emitWindow emitAll linked, decoded]
  · exact (List.forall₂_and_left _ _).mpr ⟨fun id sends => (sent id sends).1, each⟩

theorem tells_pending (linked : before.sampler.Linked) {block : Buffer} {count : Nat}
    (built : Profiler.pendingPart host.source emitAll before = .ok (block, count))
    (filled : block.toBytes ≠ []) :
    ∃ blocks, Payload.decode block.toBytes = .ok blocks ∧
      ∀ payload, Commit.Tells host.source ⟨before, chains, emitAll, payload⟩ blocks := by
  rw [Profiler.pendingPart] at built
  split at built
  · cases built
    exact absurd rfl filled
  obtain ⟨-, number, bytes, few, frames⟩ := pendingBlock_ok built
  rw [← number] at few
  have decoded := Payload.decode_encode (wellFormed_traceBlock few frames)
  rw [← bytes, kept_traceBlock] at decoded
  refine ⟨_, decoded, fun payload => .pending ?_ ?_⟩
  · rw [number, Profiler.size_emitWindow emitAll linked]
  · intro trace owed
    rw [owedAmong, List.mem_filter, Bool.and_eq_true,
      Profiler.contains_emitWindow emitAll linked] at owed
    exact ⟨owed.1, owed.2.1, owed.2.2⟩

theorem tells_edges (plain : (@Operation.write ρ chains emitAll).Plain) {edges : Buffer}
    {records : Nat} (written : chains.part = (edges, .ok records)) (filled : edges.toBytes ≠ []) :
    ∃ blocks, Payload.decode edges.toBytes = .ok blocks ∧
      ∀ payload, Commit.Tells host.source ⟨before, chains, emitAll, payload⟩ blocks := by
  rcases plain with ⟨store, rfl⟩ | ⟨cause, failed⟩
  · have few := ReferenceChains.few_of_part written
    obtain ⟨same, part, bytes⟩ := ReferenceChains.part_ofEdges few
    rw [part] at written
    cases written
    rw [bytes, Block.encodeFilled] at filled
    rw [bytes, Block.encodeFilled]
    split at filled
    · exact absurd rfl filled
    next some =>
      have decoded := Payload.decode_encode (wellFormed_edgeBlock few)
      rw [if_neg some]
      exact ⟨_, decoded, fun payload => .edges rfl decoded⟩
  · rw [written] at failed
    cases failed

theorem accepted_tells (linked : before.sampler.Linked) (legible : before.blobs.Legible)
    (plain : (@Operation.write ρ chains emitAll).Plain) {payload : Bytes}
    (member : payload ∈ before.accepted host chains emitAll) :
    ∃ blocks, Payload.decode payload = .ok blocks ∧
      Commit.Tells host.source ⟨before, chains, emitAll, payload⟩ blocks := by
  cases composed : before.compose host chains emitAll with
  | error cause =>
      rw [Profiler.accepted_of_not_composed host chains emitAll before composed] at member
      cases member
  | ok result =>
      obtain ⟨payloads, stats⟩ := result
      have front := Profiler.accepted_isPrefix host chains emitAll before composed
      obtain ⟨block, count, edges, records, built, written, rfl, -⟩ :=
        Profiler.compose_ok_iff.mp composed
      have handed := front.subset member
      rw [handedOver, List.mem_filter] at handed
      obtain ⟨one, filled⟩ := handed
      have filled : payload ≠ [] := by simpa using filled
      simp only [List.map_cons, List.map_nil, List.mem_cons, List.not_mem_nil, or_false] at one
      have some : ∃ blocks, Payload.decode payload = .ok blocks ∧
          ∀ payload, Commit.Tells host.source ⟨before, chains, emitAll, payload⟩ blocks := by
        rcases one with rfl | rfl | rfl
        · exact tells_blobs linked legible
        · exact tells_pending linked built filled
        · exact tells_edges plain written filled
      obtain ⟨blocks, decoded, tells⟩ := some
      exact ⟨blocks, decoded, tells payload⟩

theorem Operation.commits_tell (linked : before.sampler.Linked) (legible : before.blobs.Legible)
    {operation : Operation ρ} (plain : operation.Plain) {commit : Commit σ ρ}
    (member : commit ∈ operation.commits host before) :
    ∃ blocks, Payload.decode commit.payload = .ok blocks ∧ commit.Tells host.source blocks := by
  cases operation with
  | write chains emitAll =>
      obtain ⟨payload, accepted, rfl⟩ := List.mem_map.mp member
      exact accepted_tells linked legible plain accepted
  | _ => cases member

end Tells

/-! ## Runs -/

theorem drive_tells (host : Host σ ρ) (operations : List (Operation ρ)) {before : Profiler σ ρ}
    (linked : before.sampler.Linked) (legible : before.blobs.Legible)
    (plain : ∀ operation ∈ operations, operation.Plain) :
    ∀ commit ∈ commits host operations before,
      ∃ blocks, Payload.decode commit.payload = .ok blocks ∧
        commit.Tells host.source blocks := by
  induction operations generalizing before with
  | nil =>
      intro commit member
      cases member
  | cons operation rest ih =>
      rw [List.forall_mem_cons] at plain
      intro commit member
      rcases List.mem_append.mp member with here | later
      · exact Operation.commits_tell linked legible plain.1 here
      · have evolved := operation.evolved host linked
        exact ih evolved.linked (evolved.all (fun _ => plain.1.makes) legible) plain.2 commit later

/-- **A recording can always be read.** Whatever is done and whatever fails, once it is flushed the
file has the header and one checkpoint for each payload that was accepted, in order; every block is
a blob that a sample carries, the pending traces, or the edges. -/
theorem recording_readable (source : TraceSource ρ) (keepsCopy : Retention) (options : Options)
    (traces : ρ) {dir start : Directory} {path : Path} {sink : FileSink} (sound : dir.Sound)
    (opened : FileSink.create dir path = .ok (sink, start)) (operations : List (Operation ρ))
    (plain : ∀ operation ∈ operations, operation.Plain) :
    let host : Host (FileSink × Directory) ρ := ⟨.file, source, keepsCopy⟩
    let profiler := Profiler.create options (sink, start) traces
    let flushed := (drive host operations profiler).flush host
    ∃ bytes next checkpoints last,
      flushed.2 = .ok () ∧ flushed.1.sink.2.open? path = some bytes ∧
      (Playback.ofBytes bytes).header = (.ok ("OLDOBJCK", 1), next) ∧
      next.remaining = (.ok checkpoints, last) ∧
      List.Forall₂ (fun commit blocks => Payload.decode commit.payload = .ok blocks ∧
        commit.Tells source blocks) (commits host operations profiler) checkpoints := by
  intro host profiler flushed
  have empty : profiler.blobs.Legible := by
    intro id blob present
    cases present
  have told := drive_tells host operations (linked_create options (sink, start) traces) empty plain
  obtain ⟨checkpoints, each⟩ := exists_forall₂ told
  have started : FileSink.Records path [] profiler.sink := FileSink.records_create sound opened
  have tracks : host.sink.Tracks (FileSink.Records path) := FileSink.tracks_file path
  have records := drive_reflects tracks operations started
  rw [List.nil_append] at records
  have decodes : Playback.Decodes ((commits host operations profiler).map (·.payload))
      checkpoints := by
    rw [Playback.Decodes, List.forall₂_map_left_iff]
    exact each.imp fun _ _ both => both.1
  obtain ⟨next, last, header, remaining⟩ := Playback.reads_frames records.fits decodes
  exact ⟨_, next, checkpoints, last, rfl, records.open?, header, remaining, each⟩

/-- A thread's blob is written, a stopped profiler refuses to rotate, and the edges are written. -/
def failingRun : List (Operation TraceLog) :=
  let record : ThreadRecord := { tid := ⟨7⟩, osThread := 70, name := "", isVirtual := true }
  let draft : Sample.Draft :=
    { key := ⟨0, ⟨0⟩⟩, thread := ⟨7⟩, isVirtual := true, allocatedAt := 1
      object := some { address := 16, classId := ⟨1⟩ }, threadBlob := some ⟨0⟩ }
  [.addBlob .thread record.toBlob, .push draft, .write (.ofEdges .empty) true, .rotateChunk,
    .write (.ofEdges ⟨[{ edge := 1, referrer := 0, field := "" }]⟩) true]

theorem recording_readable_failingRun :
    ∃ sink start, FileSink.create .empty ⟨[.down "r"]⟩ = .ok (sink, start) ∧
      ∃ bytes next checkpoints last,
        ((drive ⟨.file, .log, Retention.unwritten⟩ failingRun
          (.create .standard (sink, start) .empty)).flush
            ⟨.file, .log, Retention.unwritten⟩).1.sink.2.open? ⟨[.down "r"]⟩ = some bytes ∧
        (Playback.ofBytes bytes).header = (.ok ("OLDOBJCK", 1), next) ∧
        next.remaining = (.ok checkpoints, last) ∧ checkpoints.length = 2 := by
  refine ⟨_, _, rfl, ?_⟩
  have plain : ∀ operation ∈ failingRun, operation.Plain := by
    simp only [failingRun, List.forall_mem_cons, Operation.Plain]
    exact ⟨⟨_, rfl⟩, trivial, .inl ⟨_, rfl⟩, trivial, .inl ⟨_, rfl⟩, by simp⟩
  obtain ⟨bytes, next, checkpoints, last, -, opened, header, remaining, each⟩ :=
    recording_readable .log Retention.unwritten .standard .empty Directory.sound_empty
      (show FileSink.create .empty ⟨[.down "r"]⟩ = .ok _ from rfl) failingRun plain
  refine ⟨bytes, next, checkpoints, last, opened, header, remaining, ?_⟩
  rw [← each.length_eq]
  decide

end LeakRecorder
