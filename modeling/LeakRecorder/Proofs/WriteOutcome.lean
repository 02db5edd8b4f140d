/-
# LeakRecorder.Proofs.WriteOutcome — a write over a log of traces

The capture side's log files one trace under each identifier, so the only way for
the block of pending traces to fail is that the capture side does not owe one of
them: it never recorded the trace, has released it, or has written it itself
(`pendingPart_log_iff`). A block that was composed has one record for each pending
trace, in rising order (`pendingPart_log_ok`).

With edges as reference chains and a sink that accepts everything, this settles
the whole outcome of a write (`write_exact`).
-/
import LeakRecorder.Proofs.WritePass

set_option autoImplicit false

namespace LeakRecorder

/-- The encoding of a block; nothing when the block has no record. -/
def Block.encodeFilled (block : Block) : Bytes :=
  if block.records = [] then [] else block.encode

/-- A payload with every edge of a store. -/
theorem ReferenceChains.part_ofEdges {edges : EdgeStore} (few : edges.size < countLimit) :
    ∃ payload, (ReferenceChains.ofEdges edges).part = (payload, .ok edges.size) ∧
      payload.toBytes = edges.toBlock.encodeFilled := by
  obtain ⟨records⟩ := edges
  cases records with
  | nil => exact ⟨.empty, rfl, rfl⟩
  | cons edge rest =>
      refine ⟨_, EdgeStore.writeChains_of_few few .empty, ?_⟩
      rw [Buffer.toBytes_append]
      rfl

theorem ReferenceChains.few_of_part {edges : EdgeStore} {payload : Buffer} {count : Nat}
    (written : (ReferenceChains.ofEdges edges).part = (payload, .ok count)) :
    edges.size < countLimit := by
  obtain ⟨records⟩ := edges
  cases records with
  | nil => decide
  | cons edge rest =>
      by_contra many
      have refused : EdgeStore.writeChains ⟨edge :: rest⟩ .empty =
          (.empty, .error (.format .tooManyEdges)) := if_neg many
      have same := refused.symm.trans written
      cases same

/-- The pending traces of a write are taken from the log: each of them once, in rising order. They
and their frames can be counted. -/
structure TraceLog.Selects (log : TraceLog) (ids : List TraceId) (traces : List Trace) : Prop where
  each : (traces.map (·.id)).Perm ids
  rising : traces.Pairwise fun earlier later => earlier.id.val < later.id.val
  filed : ∀ trace ∈ traces, log.get? trace.id = some trace
  few : traces.length < countLimit
  frames : ∀ trace ∈ traces, trace.frames.length < countLimit

namespace Profiler

variable {σ : Type}

section Log

variable {emitAll : Bool} {profiler : Profiler σ TraceLog} (linked : profiler.sampler.Linked)
  (keyed : profiler.traces.Keyed)
include linked keyed

/-- A composed block has one record for each pending trace. -/
theorem pendingPart_log_ok {block : Buffer} {count : Nat}
    (built : pendingPart .log emitAll profiler = .ok (block, count)) :
    count = (profiler.pendingIds emitAll).length ∧
      ∃ traces, profiler.traces.Selects (profiler.pendingIds emitAll) traces ∧
        block.toBytes = (traceBlock traces).encodeFilled := by
  have same := contains_emitWindow emitAll linked
  have size := size_emitWindow emitAll linked
  rw [pendingPart] at built
  by_cases nothing : profiler.pendingIds emitAll = []
  · rw [if_pos ((isEmpty_emitWindow emitAll linked).mpr nothing)] at built
    cases built
    rw [nothing]
    exact ⟨rfl, [], ⟨.nil, .nil, by simp, (by decide), by simp⟩, rfl⟩
  · rw [if_neg (fun empty => nothing ((isEmpty_emitWindow emitAll linked).mp empty))] at built
    obtain ⟨total, length, bytes, few, frames⟩ := pendingBlock_ok built
    change (owedAmong _ profiler.traces.toList).length = _ at length
    have each := TraceLog.owed_perm keyed (List.nodup_dedup _) same length
    rw [← length] at few
    refine ⟨total.trans size, owedAmong _ profiler.traces.toList, ⟨each, ?_, ?_, few, frames⟩, ?_⟩
    · exact (TraceLog.toList_rising keyed).filter _
    · intro trace owed
      exact ((TraceLog.mem_owed keyed).mp owed).1
    · have filled : (traceBlock (owedAmong (profiler.emitWindow .empty emitAll).pending
          profiler.traces.toList)).records ≠ [] := by
        intro none
        refine nothing (List.length_eq_zero_iff.mp ?_)
        rw [← size, ← length, ← List.length_eq_zero_iff.mpr none]
        exact (List.length_map _).symm
      rw [Block.encodeFilled, if_neg filled]
      exact bytes

/-- The block of pending traces can be composed exactly when each of them is still owed. -/
theorem pendingPart_log_iff
    (frames : ∀ trace ∈ profiler.traces.toList, trace.frames.length < countLimit)
    (few : (profiler.pendingIds emitAll).length < countLimit) :
    (∃ built, pendingPart .log emitAll profiler = .ok built) ↔
      ∀ id ∈ profiler.pendingIds emitAll,
        ∃ trace, profiler.traces.get? id = some trace ∧ trace.shouldWrite = true := by
  have same := contains_emitWindow emitAll linked
  have owed := TraceLog.length_owed_iff keyed (List.nodup_dedup _) same
  rw [pendingPart]
  by_cases nothing : profiler.pendingIds emitAll = []
  · rw [if_pos ((isEmpty_emitWindow emitAll linked).mpr nothing), nothing]
    constructor
    · intro _ id none
      cases none
    · intro _
      exact ⟨_, rfl⟩
  · rw [if_neg (fun empty => nothing ((isEmpty_emitWindow emitAll linked).mp empty))]
    refine Iff.trans ?_ owed
    constructor
    · rintro ⟨⟨block, count⟩, built⟩
      exact (pendingBlock_ok built).2.1
    · intro length
      rw [← size_emitWindow emitAll linked] at few
      obtain ⟨block, built⟩ : ∃ block, pendingBlock _ (TraceSource.log.visit profiler.traces) =
          .ok (block, _) := pendingBlock_of_matches rfl frames few length
      exact ⟨_, built⟩

end Log

/-- What a write hands over when `traces` are its pending traces: the blobs that it sends, the
block of the traces, the block of the edges, each unless there is nothing in it. -/
def handsOver (profiler : Profiler σ TraceLog) (emitAll : Bool) (traces : List Trace)
    (edges : EdgeStore) : List Bytes :=
  [(profiler.sends emitAll).flatMap profiler.blobs.bytesOf, (traceBlock traces).encodeFilled,
    edges.toBlock.encodeFilled].filter (· ≠ [])

/-- A write that succeeded: what the sink was given, what the blobs' flags are, what was counted.
Nothing but the sink and the flags has changed. -/
structure Wrote (host : Host σ TraceLog) (edges : EdgeStore) (emitAll : Bool)
    (before after : Profiler σ TraceLog) (stats : WriteStats) : Prop where
  handed : ∃ traces, before.traces.Selects (before.pendingIds emitAll) traces ∧
    after.sink = host.sink.takeAll before.sink (before.handsOver emitAll traces edges)
  flags : ∀ id, after.blobs.get? id = (before.blobs.get? id).map fun blob =>
    if id ∈ before.offers emitAll then { blob with written := true } else blob
  rest : after = { before with sink := after.sink, blobs := after.blobs }
  samples : stats.samples = (before.sampler.visited emitAll).length
  blobs : stats.blobsWritten = (before.sends emitAll).length
  pending : stats.pending = (before.pendingIds emitAll).length
  dedupRecords : stats.dedupRecords = (before.pendingIds emitAll).length
  chainRecords : stats.chainRecords = edges.size

section Write

variable {host : Host σ TraceLog} {profiler : Profiler σ TraceLog} {edges : EdgeStore}
  {emitAll : Bool}

/-- A write over a log that succeeded has done what it is for. -/
theorem wrote_of_ok (source : host.source = .log) (linked : profiler.sampler.Linked)
    (keyed : profiler.traces.Keyed) {after : Profiler σ TraceLog} {stats : WriteStats}
    (done : write host (.ofEdges edges) emitAll profiler = (after, .ok stats)) :
    Wrote host edges emitAll profiler after stats := by
  obtain ⟨block, dedupRecords, chain, chainRecords, built, written, committed, same, rfl⟩ :=
    write_ok done
  rw [source] at built
  obtain ⟨dedup, traces, selects, blockBytes⟩ := pendingPart_log_ok linked keyed built
  obtain ⟨payload, part, edgeBytes⟩ :=
    ReferenceChains.part_ofEdges (ReferenceChains.few_of_part written)
  obtain ⟨rfl, rfl⟩ : chain = payload ∧ chainRecords = edges.size := by
    rw [part] at written
    cases written
    exact ⟨rfl, rfl⟩
  refine
    { handed := ⟨traces, selects, ?_⟩
      flags := fun id => by rw [same]; exact get?_afterWindow emitAll linked id
      rest := by rw [same]; rfl
      samples := samples_emitWindow emitAll linked
      blobs := blobsWritten_emitWindow emitAll linked
      pending := size_emitWindow emitAll linked
      dedupRecords := dedup
      chainRecords := rfl }
  have handed : handedOver [(profiler.emitWindow .empty emitAll).payload, block, chain] =
      profiler.handsOver emitAll traces edges := by
    simp only [handsOver, handedOver, List.map_cons, List.map_nil,
      toBytes_emitWindow emitAll linked, blockBytes, edgeBytes]
  rw [← handed]
  exact (commitAll_ok host.sink committed).takeAll_eq

/-- **The exact meaning of a write.** Over a log of traces, with a sink that accepts everything, a
write succeeds exactly when the capture side still owes every pending trace, and then it has done
what `Wrote` says. -/
theorem write_exact (source : host.source = .log) (linked : profiler.sampler.Linked)
    (keyed : profiler.traces.Keyed) (accepts : host.sink.Accepts profiler.sink)
    (room : reserve profiler.options.passSetSize = .ok ()) (fewEdges : edges.size < countLimit)
    (fewFrames : ∀ trace ∈ profiler.traces.toList, trace.frames.length < countLimit)
    (fewPending : (profiler.pendingIds emitAll).length < countLimit) :
    ((∃ after stats, write host (.ofEdges edges) emitAll profiler = (after, .ok stats)) ↔
      ∀ id ∈ profiler.pendingIds emitAll,
        ∃ trace, profiler.traces.get? id = some trace ∧ trace.shouldWrite = true) ∧
    ∀ after stats, write host (.ofEdges edges) emitAll profiler = (after, .ok stats) →
      Wrote host edges emitAll profiler after stats := by
  refine ⟨?_, fun after stats => wrote_of_ok source linked keyed⟩
  rw [← pendingPart_log_iff linked keyed fewFrames fewPending]
  obtain ⟨payload, part, -⟩ := ReferenceChains.part_ofEdges fewEdges
  constructor
  · rintro ⟨after, stats, done⟩
    obtain ⟨block, dedupRecords, -, -, built, -⟩ := write_ok done
    rw [source] at built
    exact ⟨_, built⟩
  · rintro ⟨⟨block, dedupRecords⟩, built⟩
    rw [← source] at built
    have composed : compose host (.ofEdges edges) emitAll profiler = .ok (_, _) :=
      compose_ok_iff.mpr ⟨block, dedupRecords, payload, edges.size, built, part, rfl, rfl⟩
    obtain ⟨sink, committed⟩ := commitAll_of_accepts host.sink accepts
      [(profiler.emitWindow .empty emitAll).payload, block, payload]
    rw [write_eq, room, composed]
    dsimp only
    rw [committed]
    exact ⟨_, _, rfl⟩

end Write

/-- Two samples of one virtual thread share its blob and leave one trace pending; a third sample
is dead, and its thread's blob is not. -/
def sharedThread : Profiler MemorySink TraceLog :=
  let owed : Trace := { id := ⟨5⟩, hash := 9, reachedRoot := true, frames := [], written := false }
  let draft (thread : Nat) (object : Option ObjectRef) : Sample.Draft :=
    { key := owed.key, thread := ⟨7⟩, isVirtual := true, allocatedAt := 1, object
      threadBlob := some ⟨thread⟩ }
  let object : Option ObjectRef := some { address := 16, classId := ⟨1⟩ }
  let profiler := create .standard (MemorySink.ofLimit none) (TraceLog.empty.record owed)
  { profiler with
    blobs := ((profiler.blobs.add .thread [1]).2.add .thread [2]).2
    sampler := (((profiler.sampler.push (draft 0 object)).2.push (draft 1 none)).2.push
      (draft 0 object)).2 }

theorem write_exact_sharedThread :
    sharedThread.pendingIds true = [⟨5⟩] ∧ sharedThread.sends true = [⟨0⟩] ∧
      ∃ after stats,
        write ⟨.memory, .log, Retention.unwritten⟩ (.ofEdges .empty) true sharedThread =
          (after, .ok stats) ∧
        Wrote ⟨.memory, .log, Retention.unwritten⟩ .empty true sharedThread after stats := by
  have exact := @write_exact MemorySink ⟨.memory, .log, Retention.unwritten⟩ sharedThread .empty
    true rfl
    (((Sampler.linked_empty.push _).push _).push _) (TraceLog.keyed_empty.record _)
    (Sink.accepts_memory rfl) (by decide) (by decide) (by decide) (by decide)
  obtain ⟨after, stats, done⟩ := exact.1.mpr (by decide)
  exact ⟨by decide, by decide, after, stats, done, exact.2 after stats done⟩

end Profiler

end LeakRecorder
