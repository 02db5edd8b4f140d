/-
# LeakRecorder.Proofs.Repetition — how often an epoch emits a stack trace

A stack trace reaches the stream as a record of a blob or as a record of the block
of pending traces. `Payload.emissions` reads the records back from the payloads.
`run_emissions` says what it reads from the payloads of a run: the traces of the
blobs that were sent and the traces that were pending, write by write, and nothing
else.

The means against repetition cover less than that. The flag of a blob keeps the
blob from being sent twice (`nodup_sends`), and a write takes each pending
trace once; but two blobs can be of one trace, and nothing remembers the pending
traces of an earlier write. `epoch_emits_once_iff` is the exact condition for an
epoch to emit no trace twice.
-/
import LeakRecorder.Proofs.Reading
import LeakRecorder.Proofs.Run

set_option autoImplicit false

namespace LeakRecorder

/-! ## Stack traces in payloads -/

namespace Payload

/-- The stack traces that a payload emits, record by record. -/
def traceIds (payload : Bytes) : Except FormatError (List TraceId) :=
  (decode payload).map (·.flatMap Block.traceIds)

/-- The stack traces that payloads emit, record by record. -/
def emissions : List Bytes → Except FormatError (List TraceId)
  | [] => .ok []
  | payload :: rest =>
      match traceIds payload, emissions rest with
      | .ok here, .ok later => .ok (here ++ later)
      | .error cause, _ => .error cause
      | .ok _, .error cause => .error cause

@[simp] theorem traceIds_nil : traceIds [] = .ok [] := by
  rw [traceIds, decode_nil]
  rfl

theorem traceIds_append {first second : Bytes} {here later : List TraceId}
    (one : traceIds first = .ok here) (two : traceIds second = .ok later) :
    traceIds (first ++ second) = .ok (here ++ later) := by
  rw [traceIds] at one two ⊢
  cases front : decode first with
  | error cause =>
      rw [front] at one
      cases one
  | ok blocks =>
      cases back : decode second with
      | error cause =>
          rw [back] at two
          cases two
      | ok more =>
          rw [front] at one
          rw [back] at two
          cases one
          cases two
          rw [decode_append front, back]
          exact congrArg Except.ok List.flatMap_append

theorem traceIds_flatMap {α : Type} {items : List α} {bytes : α → Bytes}
    {ids : α → List TraceId} (each : ∀ a ∈ items, traceIds (bytes a) = .ok (ids a)) :
    traceIds (items.flatMap bytes) = .ok (items.flatMap ids) := by
  induction items with
  | nil => exact traceIds_nil
  | cons a rest ih =>
      rw [List.flatMap_cons, List.flatMap_cons]
      exact traceIds_append (each a List.mem_cons_self)
        (ih fun b member => each b (List.mem_cons_of_mem _ member))

theorem traceIds_encode {block : Block} (wellFormed : block.WellFormed) :
    traceIds block.encode = .ok block.traceIds := by
  rw [traceIds, decode_encode wellFormed]
  show Except.ok ([block.kept].flatMap Block.traceIds) = _
  rw [List.flatMap_singleton, Block.traceIds_kept]

theorem traceIds_encodeFilled {block : Block} (wellFormed : block.WellFormed) :
    traceIds block.encodeFilled = .ok block.traceIds := by
  rw [Block.encodeFilled]
  split
  next empty =>
    rw [traceIds_nil, Block.traceIds, empty]
    rfl
  next => exact traceIds_encode wellFormed

theorem traceIds_edgeBlock (edges : EdgeStore) : edges.toBlock.traceIds = [] := by
  rw [Block.traceIds, EdgeStore.toBlock, List.filterMap_map]
  exact List.filterMap_eq_nil_iff.mpr fun _ _ => rfl

theorem emissions_append {first second : List Bytes} {here later : List TraceId}
    (one : emissions first = .ok here) (two : emissions second = .ok later) :
    emissions (first ++ second) = .ok (here ++ later) := by
  induction first generalizing here with
  | nil =>
      cases one
      exact two
  | cons payload rest ih =>
      rw [emissions] at one
      cases read : traceIds payload with
      | error cause =>
          rw [read] at one
          cases one
      | ok ids =>
          cases tail : emissions rest with
          | error cause =>
              rw [read, tail] at one
              cases one
          | ok more =>
              rw [read, tail] at one
              cases one
              rw [List.cons_append, emissions, read, ih tail]
              exact congrArg Except.ok (List.append_assoc ..).symm

/-- A payload that is not handed over emits nothing. -/
theorem emissions_handedOver {payload : Buffer} {rest : List Buffer} {here later : List TraceId}
    (one : traceIds payload.toBytes = .ok here)
    (two : emissions (handedOver rest) = .ok later) :
    emissions (handedOver (payload :: rest)) = .ok (here ++ later) := by
  by_cases empty : payload.toBytes = []
  · rw [empty, traceIds_nil] at one
    cases one
    rw [handedOver_cons_of_empty empty]
    exact two
  · rw [handedOver_cons_of_filled empty, emissions, one, two]

/-- The payload can be read back. -/
def Readable (payload : Bytes) : Prop := ∃ ids, traceIds payload = .ok ids

end Payload

/-! ## Stack traces of blobs -/

namespace BlobStore

/-- The stack traces that a blob emits, record by record. -/
def emits (store : BlobStore) (id : BlobId) : List TraceId :=
  match Payload.traceIds (store.bytesOf id) with
  | .ok ids => ids
  | .error _ => []

/-- Where every blob can be read back, so can the bytes under any identifier. -/
theorem traceIds_bytesOf {store : BlobStore} (readable : store.All Payload.Readable)
    (id : BlobId) : Payload.traceIds (store.bytesOf id) = .ok (store.emits id) := by
  have some : Payload.Readable (store.bytesOf id) := by
    cases present : store.get? id with
    | none =>
        rw [bytesOf, present]
        exact ⟨[], Payload.traceIds_nil⟩
    | some blob =>
        rw [bytesOf_eq present]
        exact readable id blob present
  obtain ⟨ids, read⟩ := some
  rw [emits, read]

theorem Keeps.emits {old new : BlobStore} (keeps : old.Keeps new) {id : BlobId} {blob : Blob}
    (present : old.get? id = some blob) : new.emits id = old.emits id := by
  obtain ⟨written, kept⟩ := keeps id blob present
  rw [BlobStore.emits, BlobStore.emits, bytesOf_eq present, bytesOf_eq kept]

end BlobStore

/-! ## Stack traces of a step -/

namespace Operation

/-- A blob that is handed in can be read back, and so can reference chains, which hold no stack
trace; and the capture side files each trace under its own identifier. -/
def Sound : Operation TraceLog → Prop
  | .addBlob _ bytes => Payload.Readable bytes
  | .capture change => ∀ log, log.Keyed → (change log).Keyed
  | .write chains _ => ∀ payload records, chains.part = (payload, .ok records) →
      Payload.traceIds payload.toBytes = .ok []
  | _ => True

theorem sound_record (trace : Trace) : (capture (·.record trace)).Sound :=
  fun _ keyed => keyed.record trace

theorem sound_markWritten (id : TraceId) : (capture (·.markWritten id)).Sound :=
  fun _ keyed => keyed.markWritten id

theorem sound_ofEdges (edges : EdgeStore) (emitAll : Bool) :
    (write (.ofEdges edges) emitAll).Sound := by
  intro chain records written
  have few := ReferenceChains.few_of_part written
  obtain ⟨payload, part, bytes⟩ := ReferenceChains.part_ofEdges few
  rw [part] at written
  cases written
  rw [bytes, ← Payload.traceIds_edgeBlock edges]
  exact Payload.traceIds_encodeFilled (wellFormed_edgeBlock few)

/-- A blob that is handed in, or made of a trace, can be read back. -/
theorem Sound.makes {operation : Operation TraceLog} (sound : operation.Sound) {bytes : Bytes}
    (made : operation.Makes bytes) : Payload.Readable bytes := by
  rcases made with ⟨kind, rfl⟩ | ⟨trace, few, rfl⟩
  · exact sound
  · refine ⟨_, Payload.traceIds_encode (wellFormed_traceBlock ?_ ?_)⟩
    · show 1 < countLimit
      decide
    · intro other member
      rw [List.mem_singleton.mp member]
      exact few

/-- The traces that a write finds pending; nothing for every other operation. -/
def pendings {σ ρ : Type} (operation : Operation ρ) (profiler : Profiler σ ρ) :
    List (List TraceId) :=
  match operation with
  | .write _ emitAll => [profiler.pendingIds emitAll]
  | _ => []

/-- The operation, if it is a rotation. -/
def rotations {σ ρ : Type} (host : Host σ ρ) (operation : Operation ρ)
    (profiler : Profiler σ ρ) : List (Operation ρ) :=
  match operation with
  | .rotate | .rotateChunk => [operation]
  | .rotateIfNeeded => if host.sink.needsRotation profiler.sink then [operation] else []
  | _ => []

theorem resets_of_rotations {σ ρ : Type} {host : Host σ ρ} {operation : Operation ρ}
    {profiler : Profiler σ ρ} (none : operation.rotations host profiler = []) :
    operation.resets host profiler = [] := by
  cases operation with
  | rotate | rotateChunk => cases none
  | rotateIfNeeded =>
      rw [rotations] at none
      rw [resets]
      split at none
      · cases none
      next idle => rw [if_neg idle]
  | _ => rfl

end Operation

section Steps

variable {σ : Type} {host : Host σ TraceLog} {operation : Operation TraceLog}
  {before after : Profiler σ TraceLog}

/-- What a run keeps over a log of traces: one chain, traces under their own identifiers, blobs that
can be read back. -/
structure Legible (profiler : Profiler σ TraceLog) : Prop where
  linked : profiler.sampler.Linked
  keyed : profiler.traces.Keyed
  readable : profiler.blobs.All Payload.Readable

theorem legible_create (options : Options) (sink : σ) :
    Legible (.create options sink TraceLog.empty) where
  linked := Sampler.linked_empty
  keyed := TraceLog.keyed_empty
  readable := by
    intro id blob present
    cases present

theorem Legible.step (legible : Legible before) (source : host.source = .log)
    (sound : operation.Sound) : Legible (operation.step host before).1 := by
  have evolved := operation.evolved host legible.linked
  refine ⟨evolved.linked, ?_, evolved.all (fun _ => sound.makes) legible.readable⟩
  rcases evolved.traces with same | cleared | ⟨change, rfl, changed⟩
  · rw [same]
    exact legible.keyed
  · rw [cleared, source]
    exact TraceLog.keyed_empty
  · rw [changed]
    exact sound before.traces legible.keyed

theorem Legible.drive (legible : Legible before) (source : host.source = .log)
    {operations : List (Operation TraceLog)} (sound : ∀ operation ∈ operations, operation.Sound) :
    Legible (drive host operations before) :=
  drive_keeps host operations Legible
    (fun operation member _ legible => legible.step source (sound operation member)) legible

/-- An operation that succeeds emits the traces of the blobs that it sends and the traces that it
finds pending. -/
theorem step_emissions (source : host.source = .log) (legible : Legible before)
    (sound : operation.Sound) (done : operation.step host before = (after, .ok ())) :
    ∃ told, Payload.emissions ((operation.commits host before).map (·.payload)) = .ok told ∧
      told.Perm ((operation.sends before).flatMap before.blobs.emits ++
        (operation.pendings before).flatten) := by
  cases operation with
  | write chains emitAll =>
      obtain ⟨sends, block, _, chain, _, built, written, payloads, -⟩ :=
        Operation.write_succeeds done
      rw [source] at built
      obtain ⟨-, traces, selects, blockBytes⟩ :=
        Profiler.pendingPart_log_ok legible.linked legible.keyed built
      have blobs : Payload.traceIds (before.emitWindow .empty emitAll).payload.toBytes =
          .ok ((before.sends emitAll).flatMap before.blobs.emits) := by
        rw [Profiler.toBytes_emitWindow emitAll legible.linked]
        exact Payload.traceIds_flatMap fun id _ => BlobStore.traceIds_bytesOf legible.readable id
      have pending : Payload.traceIds block.toBytes = .ok (traces.map (·.id)) := by
        rw [blockBytes, ← traceIds_traceBlock]
        exact Payload.traceIds_encodeFilled (wellFormed_traceBlock selects.few selects.frames)
      have none := sound chain _ written
      rw [sends, payloads]
      refine ⟨_, ?_, List.Perm.append_left _ (selects.each.trans ?_)⟩
      · have chains : Payload.emissions (handedOver [chain]) = .ok [] :=
          Payload.emissions_handedOver none rfl
        have blocks := Payload.emissions_handedOver pending chains
        rw [List.append_nil] at blocks
        exact Payload.emissions_handedOver blobs blocks
      · rw [Operation.pendings, List.flatten_singleton]
  | _ => exact ⟨[], rfl, List.Perm.refl _⟩

end Steps

/-! ## Stack traces of an epoch -/

section Epoch

variable {σ : Type} {host : Host σ TraceLog} {operations : List (Operation TraceLog)}
  {before after : Profiler σ TraceLog}

/-- A run in which nothing fails emits the traces of the blobs that it sends and the traces that it
finds pending. -/
theorem run_emissions (source : host.source = .log)
    (sound : ∀ operation ∈ operations, operation.Sound)
    (done : run host operations before = .ok after) (legible : Legible before) :
    ∃ told,
      Payload.emissions ((commits host operations before).map (·.payload)) = .ok told ∧
      told.Perm ((collect host Operation.sends operations before).flatMap after.blobs.emits ++
        (collect host Operation.pendings operations before).flatten) := by
  induction operations generalizing before with
  | nil => exact ⟨[], rfl, List.Perm.refl _⟩
  | cons operation rest ih =>
      obtain ⟨next, one, later⟩ := run_cons_ok.mp done
      rw [List.forall_mem_cons] at sound
      have moved := legible.step source sound.1
      rw [one] at moved
      obtain ⟨here, readHere, toldHere⟩ := step_emissions source legible sound.1 one
      obtain ⟨more, readMore, toldMore⟩ := ih sound.2 later moved
      have same : (operation.sends before).flatMap before.blobs.emits =
          (operation.sends before).flatMap after.blobs.emits := by
        apply List.flatMap_congr
        intro id sent
        obtain ⟨blob, present, -⟩ := BlobStore.owes_iff.mp (Operation.owes_of_sends sent)
        exact ((run_blobs done legible.linked).emits present).symm
      rw [commits, collect, collect, collect, one, List.map_append, List.flatMap_append,
        List.flatten_append, ← same]
      refine ⟨here ++ more, Payload.emissions_append readHere readMore, ?_⟩
      refine (toldHere.append toldMore).trans ?_
      rw [List.append_assoc, List.append_assoc]
      exact List.Perm.append_left _ (List.perm_append_comm_assoc ..)

theorem collect_resets_of_oneEpoch
    (oneEpoch : collect host (Operation.rotations host) operations before = []) :
    collect host (Operation.resets host) operations before = [] := by
  induction operations generalizing before with
  | nil => rfl
  | cons operation rest ih =>
      rw [collect, List.append_eq_nil_iff] at oneEpoch
      rw [collect, Operation.resets_of_rotations oneEpoch.1, ih oneEpoch.2]
      rfl

/-- Without a rotation nothing is sent twice: the flag of a blob remembers it. -/
theorem nodup_sends (linked : before.sampler.Linked)
    (oneEpoch : collect host (Operation.rotations host) operations before = []) :
    (collect host Operation.sends operations before).Nodup := by
  induction operations generalizing before with
  | nil => exact List.nodup_nil
  | cons operation rest ih =>
      have moved := (operation.evolved host linked).linked
      rw [collect, List.append_eq_nil_iff] at oneEpoch
      rw [collect]
      refine List.nodup_append'.mpr ⟨operation.nodup_sends before, ih moved oneEpoch.2, ?_⟩
      intro id sent again
      have has := (operation.has_step host linked id).mpr (.inr sent)
      refine (drive_has_on host rest moved has ?_).2 again
      rw [collect_resets_of_oneEpoch oneEpoch.2]
      exact List.not_mem_nil

theorem nodup_of_mem_pendings {ids : List TraceId}
    (pending : ids ∈ collect host Operation.pendings operations before) : ids.Nodup := by
  induction operations generalizing before with
  | nil => cases pending
  | cons operation rest ih =>
      rw [collect, List.mem_append] at pending
      rcases pending with here | later
      · cases operation with
        | write chains emitAll =>
            rw [List.mem_singleton.mp here]
            exact List.nodup_dedup _
        | _ => cases here
      · exact ih later

end Epoch

/-- No trace is told twice: no blob that is sent repeats one, no two of them are of one, no two
writes find one pending, and none that is pending is in a blob that is sent. -/
structure ToldOnce (blobs : BlobStore) (sent : List BlobId) (pendings : List (List TraceId)) :
    Prop where
  within : ∀ id ∈ sent, (blobs.emits id).Nodup
  between : sent.Pairwise fun one other => List.Disjoint (blobs.emits one) (blobs.emits other)
  writes : pendings.Pairwise List.Disjoint
  across : ∀ id ∈ sent, ∀ ids ∈ pendings, List.Disjoint (blobs.emits id) ids

theorem nodup_told_iff {blobs : BlobStore} {sent : List BlobId} {pendings : List (List TraceId)}
    (each : ∀ ids ∈ pendings, ids.Nodup) :
    (sent.flatMap blobs.emits ++ pendings.flatten).Nodup ↔ ToldOnce blobs sent pendings := by
  rw [List.nodup_append', List.nodup_flatMap, List.nodup_flatten]
  constructor
  · rintro ⟨⟨within, between⟩, ⟨-, writes⟩, across⟩
    refine ⟨within, between, writes, ?_⟩
    intro id member ids pending trace inBlob inBlock
    exact across (List.mem_flatMap.mpr ⟨id, member, inBlob⟩)
      (List.mem_flatten.mpr ⟨ids, pending, inBlock⟩)
  · intro once
    refine ⟨⟨once.within, once.between⟩, ⟨each, once.writes⟩, ?_⟩
    intro trace inBlobs inBlocks
    obtain ⟨id, member, inBlob⟩ := List.mem_flatMap.mp inBlobs
    obtain ⟨ids, pending, inBlock⟩ := List.mem_flatten.mp inBlocks
    exact once.across id member ids pending inBlob inBlock

/-- **When an epoch emits every stack trace at most once.** Between two rotations, from any state
that a profiler can come to and while nothing fails, the payloads can be read back, no blob is sent
twice, and no stack trace has two records exactly when `ToldOnce` holds of the blobs that were sent
and of the traces that each write found pending. -/
theorem epoch_emits_once_iff {σ : Type} {host : Host σ TraceLog} (source : host.source = .log)
    {kept : σ → List Bytes} (keeps : host.sink.Keeps kept) {options : Options} {sink : σ}
    {earlier epoch : List (Operation TraceLog)} {before after : Profiler σ TraceLog}
    (sound : ∀ operation ∈ earlier ++ epoch, operation.Sound)
    (recorded : drive host earlier (.create options sink .empty) = before)
    (oneEpoch : collect host (Operation.rotations host) epoch before = [])
    (done : run host epoch before = .ok after) :
    let sent := collect host Operation.sends epoch before
    let pendings := collect host Operation.pendings epoch before
    ∃ since told, kept after.sink = kept before.sink ++ since ∧
      Payload.emissions since = .ok told ∧ sent.Nodup ∧
      ((∀ id, told.count id ≤ 1) ↔ ToldOnce after.blobs sent pendings) := by
  rw [List.forall_mem_append] at sound
  have legible : Legible before := by
    rw [← recorded]
    exact (legible_create options sink).drive source sound.1
  obtain ⟨told, read, perm⟩ := run_emissions source sound.2 done legible
  refine ⟨_, told, run_kept keeps done, read, nodup_sends legible.linked oneEpoch, ?_⟩
  rw [← List.nodup_iff_count_le_one, perm.nodup_iff]
  exact nodup_told_iff fun ids => nodup_of_mem_pendings

/-- A trace that the capture side owes. -/
def owedTrace : Trace :=
  { id := ⟨5⟩, hash := 5, reachedRoot := true, frames := [], written := false }

/-- The trace is recorded and a sample of it is taken. -/
def recordedSample : List (Operation TraceLog) :=
  [.capture (·.record owedTrace),
    .push
      { key := owedTrace.key, thread := ⟨0⟩, isVirtual := false, allocatedAt := 1
        object := some { address := 16, classId := ⟨1⟩ }, threadBlob := none }]

theorem epoch_emits_once_pending :
    ∃ before after : Profiler MemorySink TraceLog, ∃ since told,
      run ⟨.memory, .log, Retention.unwritten⟩ [.start, .rotate]
        (.create .standard (.ofLimit none) .empty) = .ok before ∧
      run ⟨.memory, .log, Retention.unwritten⟩
        (recordedSample ++ [.write (.ofEdges .empty) true]) before = .ok after ∧
      after.sink.payloads.toList = before.sink.payloads.toList ++ since ∧
      Payload.emissions since = .ok told ∧ ∀ id, told.count id ≤ 1 := by
  have exact := @epoch_emits_once_iff MemorySink ⟨.memory, .log, Retention.unwritten⟩ rfl
    _ Sink.keeps_memory .standard (.ofLimit none) [.start, .rotate]
    (recordedSample ++ [.write (.ofEdges .empty) true]) _ _
    (by
      simp only [recordedSample, List.cons_append, List.nil_append, List.forall_mem_cons]
      exact ⟨trivial, trivial, Operation.sound_record owedTrace, trivial,
        Operation.sound_ofEdges .empty true, by simp⟩) rfl rfl rfl
  obtain ⟨since, told, same, read, -, once⟩ := exact
  refine ⟨_, _, since, told, rfl, rfl, same, read, once.mpr ?_⟩
  exact
    { within := List.forall_mem_nil _
      between := List.Pairwise.nil
      writes := List.pairwise_singleton _ [owedTrace.id]
      across := List.forall_mem_nil _ }

/-- Two rotations each make a blob of the trace for a sample of their own, and the epoch sends both
blobs. -/
theorem epoch_repeats_trace :
    ∃ before after : Profiler MemorySink TraceLog, ∃ since,
      run ⟨.memory, .log, Retention.unwritten⟩
        ([.start] ++ recordedSample ++ [.rotate, .installTypeSet none] ++
          recordedSample ++ [.rotate])
        (.create { Options.standard with queueSize := 1 } (.ofLimit none) .empty) = .ok before ∧
      run ⟨.memory, .log, Retention.unwritten⟩ [.write (.ofEdges .empty) true] before =
        .ok after ∧
      after.sink.payloads.toList = before.sink.payloads.toList ++ since ∧
      Payload.emissions since = .ok [⟨5⟩, ⟨5⟩] := by
  have once : Payload.traceIds (traceBlock [owedTrace]).encode = .ok [⟨5⟩] :=
    Payload.traceIds_encode (wellFormed_traceBlock (by decide) (by decide))
  refine ⟨_, _, [(traceBlock [owedTrace]).encode ++ (traceBlock [owedTrace]).encode], rfl, rfl,
    by decide, ?_⟩
  rw [Payload.emissions, Payload.traceIds_append once once]
  rfl

end LeakRecorder
