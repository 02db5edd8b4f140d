/-
# LeakRecorder.Proofs.PendingRecords — what a matching count says, and what not

A write compares the number of records in the block of pending traces with the number
of pending traces, and commits the block when they are equal. The traces come out of a
visit to the source, and nothing is assumed of the source: it may leave traces out,
visit written ones, repeat itself. What the comparison is worth then:

* whatever was visited, a committed block is decoded as its records, they are of
  pending traces only, and they are as many as the pending traces;
* they are one for each pending trace exactly when the visit comes to no owed trace of
  the same identifier twice, and exactly when it leaves no pending trace out
  (`write_records_once_iff`).

The comparison counts visits and not identifiers. A trace that is visited twice makes up
for one that is missing, and the write goes through (`twice_recorded_for_missing`).
-/
import LeakRecorder.Proofs.Reading
import LeakRecorder.Proofs.WritePass

set_option autoImplicit false

namespace LeakRecorder

/-! ## Equally many -/

section Count

variable {α : Type} {recorded wanted : List α} (distinct : wanted.Nodup)
include distinct

theorem count_eq_one_iff_perm [DecidableEq α] :
    (∀ a, recorded.count a = if a ∈ wanted then 1 else 0) ↔ recorded.Perm wanted := by
  rw [List.perm_iff_count]
  apply forall_congr'
  intro a
  rw [distinct.count]

variable (length : recorded.length = wanted.length)
include length

/-- Equally many items out of a list that repeats nothing are that list if they repeat nothing. -/
theorem perm_iff_nodup (within : recorded ⊆ wanted) : recorded.Perm wanted ↔ recorded.Nodup := by
  constructor
  · intro same
    exact same.nodup_iff.mpr distinct
  · intro nodup
    apply (List.subperm_of_subset nodup within).perm_of_length_le
    exact Nat.le_of_eq length.symm

/-- They are that list if they leave nothing out. -/
theorem perm_iff_subset : recorded.Perm wanted ↔ wanted ⊆ recorded := by
  constructor
  · intro same a member
    exact same.mem_iff.mpr member
  · intro covered
    have whole := List.subperm_of_subset distinct covered
    exact (whole.perm_of_length_le (Nat.le_of_eq length)).symm

end Count

/-! ## The block of a write -/

/-- The block has one record for each of the identifiers, and no other record. -/
structure Block.RecordsOnce (block : Block) (ids : List TraceId) : Prop where
  traces : ∀ record ∈ block.records, ∃ trace, record = .trace trace
  once : ∀ id, block.traceIds.count id = if id ∈ ids then 1 else 0

namespace Profiler

variable {σ ρ : Type}

theorem nodup_pendingIds (profiler : Profiler σ ρ) (emitAll : Bool) :
    (profiler.pendingIds emitAll).Nodup := List.nodup_dedup _

/-- The visits to traces that are pending and that the capture side still owes. -/
def owedVisits (source : TraceSource ρ) (emitAll : Bool) (profiler : Profiler σ ρ) : List Trace :=
  (source.visit profiler.traces).1.filter fun trace =>
    trace.shouldWrite && decide (trace.id ∈ profiler.pendingIds emitAll)

section Owed

variable {source : TraceSource ρ} {emitAll : Bool} {profiler : Profiler σ ρ}

theorem mem_owedVisits {trace : Trace} :
    trace ∈ profiler.owedVisits source emitAll ↔
      trace ∈ (source.visit profiler.traces).1 ∧ trace.shouldWrite = true ∧
        trace.id ∈ profiler.pendingIds emitAll := by
  rw [owedVisits, List.mem_filter, Bool.and_eq_true, decide_eq_true_eq]

theorem owedAmong_emitWindow (linked : profiler.sampler.Linked) :
    owedAmong (profiler.emitWindow .empty emitAll).pending (source.visit profiler.traces).1 =
      profiler.owedVisits source emitAll := by
  apply List.filter_congr
  intro trace _
  congr 1
  rw [Bool.eq_iff_iff, decide_eq_true_eq]
  exact contains_emitWindow emitAll linked trace.id

/-- A block that was composed while traces are pending. -/
theorem pendingPart_ok (linked : profiler.sampler.Linked)
    (pending : profiler.pendingIds emitAll ≠ []) {block : Buffer} {count : Nat}
    (built : pendingPart source emitAll profiler = .ok (block, count)) :
    count = (profiler.pendingIds emitAll).length ∧
      (profiler.owedVisits source emitAll).length = (profiler.pendingIds emitAll).length ∧
      block.toBytes = (traceBlock (profiler.owedVisits source emitAll)).encode ∧
      (traceBlock (profiler.owedVisits source emitAll)).WellFormed := by
  have filled : ¬ (profiler.emitWindow .empty emitAll).pending.isEmpty = true := by
    intro empty
    exact pending ((isEmpty_emitWindow emitAll linked).mp empty)
  rw [pendingPart, if_neg filled] at built
  obtain ⟨total, length, bytes, few, frames⟩ := pendingBlock_ok built
  rw [owedAmong_emitWindow linked] at length bytes frames
  rw [size_emitWindow emitAll linked] at total length few
  refine ⟨total, length, bytes, wellFormed_traceBlock ?_ frames⟩
  rw [length]
  exact few

/-- One record for each pending trace: the records are equally many, and of pending traces. -/
theorem recordsOnce_iff_perm :
    (traceBlock (profiler.owedVisits source emitAll)).RecordsOnce (profiler.pendingIds emitAll) ↔
      ((profiler.owedVisits source emitAll).map (·.id)).Perm (profiler.pendingIds emitAll) := by
  rw [← count_eq_one_iff_perm (nodup_pendingIds profiler emitAll), ← traceIds_traceBlock]
  constructor
  · exact Block.RecordsOnce.once
  · refine fun once => ⟨?_, once⟩
    intro record member
    obtain ⟨trace, -, rfl⟩ := List.mem_map.mp member
    exact ⟨trace.toRecord, rfl⟩

theorem subset_owedVisits :
    profiler.pendingIds emitAll ⊆ (profiler.owedVisits source emitAll).map (·.id) ↔
      ∀ id ∈ profiler.pendingIds emitAll, ∃ trace ∈ (source.visit profiler.traces).1,
        trace.id = id ∧ trace.shouldWrite = true := by
  constructor
  · intro covered id member
    obtain ⟨trace, owed, rfl⟩ := List.mem_map.mp (covered member)
    obtain ⟨visited, unwritten, -⟩ := mem_owedVisits.mp owed
    exact ⟨trace, visited, rfl, unwritten⟩
  · intro each id member
    obtain ⟨trace, visited, rfl, unwritten⟩ := each id member
    exact List.mem_map_of_mem (mem_owedVisits.mpr ⟨visited, unwritten, member⟩)

end Owed

theorem handedOver_three {front block back : Buffer} (filled : block.toBytes ≠ []) :
    handedOver [front, block, back] =
      handedOver [front] ++ block.toBytes :: handedOver [back] := by
  by_cases empty : front.toBytes = []
  · rw [handedOver_cons_of_empty empty, handedOver_cons_of_empty empty,
      handedOver_cons_of_filled filled]
    rfl
  · rw [handedOver_cons_of_filled empty, handedOver_cons_of_filled empty,
      handedOver_cons_of_filled filled]
    rfl

/-- **What the count check is worth.** Over any source of traces, a write that succeeds while traces
are pending commits a block that is decoded as the owed visits, in their order. There are as many of
them as pending traces, and they are of pending traces. They are one record for each pending trace
exactly when no identifier is visited twice among them, and exactly when no pending trace is left
out. -/
theorem write_records_once_iff {host : Host σ ρ} {chains : ReferenceChains} {emitAll : Bool}
    {before after : Profiler σ ρ} {stats : WriteStats} (linked : before.sampler.Linked)
    (pending : before.pendingIds emitAll ≠ [])
    (done : write host chains emitAll before = (after, .ok stats)) :
    ∃ payload block,
      host.sink.Took
        (handedOver [(before.emitWindow .empty emitAll).payload] ++
          payload :: handedOver [chains.part.1]) before.sink after.sink ∧
      Payload.decode payload = .ok [block] ∧
      block = traceBlock (before.owedVisits host.source emitAll) ∧
      stats.dedupRecords = block.records.length ∧
      block.records.length = (before.pendingIds emitAll).length ∧
      block.traceIds ⊆ before.pendingIds emitAll ∧
      (block.RecordsOnce (before.pendingIds emitAll) ↔ block.traceIds.Nodup) ∧
      (block.RecordsOnce (before.pendingIds emitAll) ↔
        ∀ id ∈ before.pendingIds emitAll, ∃ trace ∈ (host.source.visit before.traces).1,
          trace.id = id ∧ trace.shouldWrite = true) := by
  obtain ⟨block, dedupRecords, edges, chainRecords, built, written, committed, -, rfl⟩ :=
    write_ok done
  obtain ⟨total, length, bytes, wellFormed⟩ := pendingPart_ok linked pending built
  have records : (traceBlock (before.owedVisits host.source emitAll)).records.length =
      (before.pendingIds emitAll).length := (List.length_map _).trans length
  have within : (before.owedVisits host.source emitAll).map (·.id) ⊆
      before.pendingIds emitAll := by
    intro id member
    obtain ⟨trace, owed, rfl⟩ := List.mem_map.mp member
    exact (mem_owedVisits.mp owed).2.2
  have equally : ((before.owedVisits host.source emitAll).map (·.id)).length =
      (before.pendingIds emitAll).length := (List.length_map _).trans length
  have distinct := nodup_pendingIds before emitAll
  refine ⟨block.toBytes, _, ?_, ?_, rfl, total.trans records.symm, records, ?_, ?_, ?_⟩
  · have taken := commitAll_ok host.sink committed
    rw [handedOver_three (by rw [bytes]; exact traceBlock_ne_nil _)] at taken
    rw [written]
    exact taken
  · rw [bytes, Payload.decode_encode wellFormed, kept_traceBlock]
  · rw [traceIds_traceBlock]
    exact within
  · rw [recordsOnce_iff_perm, traceIds_traceBlock]
    exact perm_iff_nodup distinct equally within
  · rw [recordsOnce_iff_perm, ← subset_owedVisits]
    exact perm_iff_subset distinct equally

/-- A trace without frames that the capture side still owes. -/
def owedTrace (number : UInt64) : Trace :=
  { id := ⟨number⟩, hash := number, reachedRoot := true, frames := [], written := false }

/-- Live samples of two traces, over a log. -/
def twoPending (log : TraceLog) : Profiler MemorySink TraceLog :=
  let draft (number : UInt64) : Sample.Draft :=
    { key := (owedTrace number).key, thread := ⟨0⟩, isVirtual := false, allocatedAt := 1
      object := some { address := 16 * number, classId := ⟨1⟩ }, threadBlob := none }
  let profiler := create .standard (MemorySink.ofLimit none) log
  { profiler with sampler := ((profiler.sampler.push (draft 1)).2.push (draft 2)).2 }

/-- The log visits both traces, and a third that is not pending. -/
theorem write_records_once_both :
    ∃ (before after : Profiler MemorySink TraceLog) (stats : WriteStats) (block : Block),
      before = twoPending (((TraceLog.empty.record (owedTrace 2)).record (owedTrace 3)).record
        (owedTrace 1)) ∧
      before.pendingIds true = [⟨2⟩, ⟨1⟩] ∧
      write ⟨.memory, .log, Retention.unwritten⟩ (.ofEdges .empty) true before =
        (after, .ok stats) ∧
      block = traceBlock [owedTrace 1, owedTrace 2] ∧ block.RecordsOnce [⟨2⟩, ⟨1⟩] := by
  obtain ⟨payload, block, -, -, records, -, -, -, once, -⟩ :=
    @write_records_once_iff MemorySink TraceLog ⟨.memory, .log, Retention.unwritten⟩
      (.ofEdges .empty) true (twoPending (((TraceLog.empty.record (owedTrace 2)).record
        (owedTrace 3)).record (owedTrace 1))) _ _ ((Sampler.linked_empty.push _).push _)
      (by decide) rfl
  refine ⟨_, _, _, block, rfl, by decide, rfl, records, once.mpr ?_⟩
  rw [records]
  decide

/-- Traces 1 and 2 are pending; the source knows only the first and visits it twice. The write
succeeds, and commits two records of the first trace and none of the second. -/
theorem twice_recorded_for_missing :
    ∃ (before after : Profiler MemorySink TraceLog) (stats : WriteStats) (payload : Bytes)
      (block : Block),
      before = twoPending (TraceLog.empty.record (owedTrace 1)) ∧ before.sampler.Linked ∧
      before.pendingIds true = [⟨2⟩, ⟨1⟩] ∧
      write ⟨.memory, .visitingTwice, Retention.unwritten⟩ (.ofEdges .empty) true before =
        (after, .ok stats) ∧
      after.sink.payloads.toList = [payload] ∧ Payload.decode payload = .ok [block] ∧
      block.traceIds = [⟨1⟩, ⟨1⟩] ∧ ¬ block.RecordsOnce (before.pendingIds true) := by
  have wellFormed : (traceBlock [owedTrace 1, owedTrace 1]).WellFormed :=
    wellFormed_traceBlock (by decide) (by decide)
  have decoded := Payload.decode_encode wellFormed
  rw [kept_traceBlock] at decoded
  refine ⟨_, _, _, _, _, rfl, (Sampler.linked_empty.push _).push _, by decide, rfl, rfl, decoded,
    rfl, ?_⟩
  intro each
  have none := each.once ⟨2⟩
  revert none
  decide

end Profiler

end LeakRecorder
