/-
# LeakRecorder.Proofs.Pending — the block of pending traces

A write puts the traces that its window left pending into one block. The block
is written while the source is visited, with its count still open, and the count
is patched in at the end. `pendingBlock_ok` and `pendingBlock_of_matches` say
when that succeeds and that the outcome is the plain encoding of the owed traces
among the visited ones, in the order of the visit.

A log visits its traces in rising order of identifiers (`TraceLog.toList_rising`)
and files each under its own (`TraceLog.Keyed`), so the owed traces of a log are
as many as the pending ones exactly when every pending trace is owed
(`TraceLog.length_owed_iff`).
-/
import LeakRecorder.Proofs.Offering
import Mathlib.Data.List.Perm.Subperm

set_option autoImplicit false

namespace LeakRecorder

/-! ## Records one after the other -/

namespace Trace

/-- The record of a trace is written whole, or refused for its number of frames. -/
theorem write_eq (trace : Trace) (buffer : Buffer) :
    (trace.frames.length < countLimit ∧
        ∃ after, trace.write buffer = .ok after ∧
          after.toBytes = buffer.toBytes ++ trace.toRecord.encode) ∨
      (¬ trace.frames.length < countLimit ∧
        trace.write buffer = .error (.format (.tooManyFrames trace.id))) := by
  by_cases few : trace.frames.length < countLimit
  · refine .inl ⟨few, ?_⟩
    obtain ⟨done, bytes⟩ := @writeFrames_ok Unit (fun state _ => state) trace.frames
      (buffer.append trace.toRecord.encodeHead) ()
    rw [write, writeWith, if_pos few, TraceRecord.writeHead_eq]
    generalize writeFrames _ _ _ _ = written at done bytes
    obtain ⟨after, state, result⟩ := written
    simp only [Prod.mk.injEq] at done
    obtain ⟨-, rfl⟩ := done
    refine ⟨after, rfl, ?_⟩
    rw [bytes, Buffer.toBytes_append, TraceRecord.encode, List.append_assoc]
    rfl
  · refine .inr ⟨few, ?_⟩
    rw [write, writeWith, if_neg few]

end Trace

/-- The traces of a visit that are pending and that the capture side still owes. -/
def owedAmong (pending : IdSet .constant) (traces : List Trace) : List Trace :=
  traces.filter fun trace => trace.shouldWrite && pending.contains trace.id

theorem appendOwed_ok {pending : IdSet .constant} {traces : List Trace} {buffer after : Buffer}
    {count total : Nat} (done : appendOwed pending traces buffer count = .ok (after, total)) :
    after.toBytes =
        buffer.toBytes ++ (owedAmong pending traces).flatMap (·.toRecord.encode) ∧
      total = count + (owedAmong pending traces).length ∧
      ∀ trace ∈ owedAmong pending traces, trace.frames.length < countLimit := by
  induction traces generalizing buffer count with
  | nil =>
      cases done
      simp [owedAmong]
  | cons trace rest ih =>
      rw [appendOwed] at done
      cases owed : trace.shouldWrite && pending.contains trace.id with
      | false =>
          rw [owed] at done
          have here : owedAmong pending (trace :: rest) = owedAmong pending rest :=
            List.filter_cons_of_neg (by simp [owed])
          rw [here]
          exact ih done
      | true =>
          rw [owed, if_pos rfl] at done
          have here : owedAmong pending (trace :: rest) = trace :: owedAmong pending rest :=
            List.filter_cons_of_pos owed
          rw [here]
          rcases trace.write_eq buffer with ⟨few, next, written, bytes⟩ | ⟨-, refused⟩
          · rw [written] at done
            obtain ⟨tail, sum, fewLater⟩ := ih done
            refine ⟨?_, ?_, List.forall_mem_cons.mpr ⟨few, fewLater⟩⟩
            · rw [tail, bytes, List.flatMap_cons, List.append_assoc]
            · rw [sum, List.length_cons]
              omega
          · rw [refused] at done
            cases done

theorem appendOwed_of_few {pending : IdSet .constant} {traces : List Trace}
    (few : ∀ trace ∈ traces, trace.frames.length < countLimit) (buffer : Buffer) (count : Nat) :
    ∃ after total, appendOwed pending traces buffer count = .ok (after, total) := by
  induction traces generalizing buffer count with
  | nil => exact ⟨buffer, count, rfl⟩
  | cons trace rest ih =>
      have tail := fun buffer count =>
        ih (fun later member => few later (List.mem_cons_of_mem _ member)) buffer count
      rw [appendOwed]
      cases trace.shouldWrite && pending.contains trace.id with
      | false => exact tail buffer count
      | true =>
          rcases trace.write_eq buffer with ⟨-, next, written, -⟩ | ⟨many, -⟩
          · rw [if_pos rfl, written]
            exact tail next (count + 1)
          · exact absurd (few trace List.mem_cons_self) many

/-! ## The block -/

/-- The block of some traces. -/
def traceBlock (traces : List Trace) : Block :=
  { typeId := Block.traceType, records := traces.map fun trace => .trace trace.toRecord }

theorem encode_traceBlock (traces : List Trace) :
    (traceBlock traces).encode =
      Word.ofNat 8 Block.traceType.toNat ++ Word.ofNat 4 traces.length ++
        traces.flatMap (·.toRecord.encode) := by
  simp only [traceBlock, Block.encode, Block.encodeHead, List.length_map, List.flatMap_map]
  rfl

theorem traceBlock_ne_nil (traces : List Trace) : (traceBlock traces).encode ≠ [] := by
  intro none
  have length := congrArg List.length none
  rw [encode_traceBlock] at length
  simp at length

/-- Patching the count in closes a block that was opened with the count reserved. -/
theorem patch_openBlock {buffer : Buffer} {traces : List Trace} (few : traces.length < countLimit)
    (written : buffer.toBytes =
      Word.ofNat 8 Block.traceType.toNat ++ Word.ofNat 4 0 ++
        traces.flatMap (·.toRecord.encode)) :
    ∃ patched, buffer.patch ⟨8⟩ (UInt32.ofNat traces.length) = .ok patched ∧
      patched.toBytes = (traceBlock traces).encode := by
  have count : (UInt32.ofNat traces.length).toNat = traces.length :=
    UInt32.toNat_ofNat_of_lt' few
  have type : (Word.ofNat 8 Block.traceType.toNat).length = 8 := Word.length_ofNat 8 _
  obtain ⟨patched, done, bytes⟩ :=
    Buffer.patch_between written (Word.length_ofNat 4 0) (UInt32.ofNat traces.length)
  rw [type] at done
  refine ⟨patched, done, ?_⟩
  rw [bytes, count, encode_traceBlock]

/-- The open block that a visit appends its records to. -/
def openBlock : Buffer :=
  (Buffer.empty.append (Word.ofNat 8 Block.traceType.toNat)).append (Word.ofNat 4 0)

theorem toBytes_openBlock :
    openBlock.toBytes = Word.ofNat 8 Block.traceType.toNat ++ Word.ofNat 4 0 := by
  simp [openBlock]

section Block

variable {pending : IdSet .constant} {visit : List Trace × Except Failure Unit}

/-- The block of a visit, step by step: records, the visit's own end, the number of records. -/
theorem pendingBlock_eq :
    pendingBlock pending visit =
      match appendOwed pending visit.1 openBlock 0 with
      | .error cause => .error cause
      | .ok (buffer, count) =>
          match visit.2 with
          | .error cause => .error cause
          | .ok () =>
              if count ≠ pending.size then
                .error (.violation (.countMismatch count pending.size))
              else if countLimit ≤ count then .error (.format .tooManyTraces)
              else
                .ok (match buffer.patch ⟨8⟩ (UInt32.ofNat count) with
                  | .ok patched => patched
                  | .error _ => buffer, count) := by
  show (appendOwed pending visit.1 openBlock 0 >>= _) = _
  cases appendOwed pending visit.1 openBlock 0 with
  | error cause => rfl
  | ok result =>
      obtain ⟨buffer, count⟩ := result
      cases visit.2 with
      | error cause => rfl
      | ok _ =>
          dsimp only [bind, Except.bind]
          by_cases differ : count ≠ pending.size
          · rw [if_pos differ, if_pos differ]
            rfl
          · rw [if_neg differ, if_neg differ]
            by_cases many : countLimit ≤ count
            · rw [if_pos many, if_pos many]
              rfl
            · rw [if_neg many, if_neg many]
              rfl

/-- A block that was built holds the owed traces of the visit, as many as are pending. -/
theorem pendingBlock_ok {block : Buffer} {count : Nat}
    (done : pendingBlock pending visit = .ok (block, count)) :
    count = pending.size ∧ (owedAmong pending visit.1).length = pending.size ∧
      block.toBytes = (traceBlock (owedAmong pending visit.1)).encode ∧
      pending.size < countLimit ∧
      ∀ trace ∈ owedAmong pending visit.1, trace.frames.length < countLimit := by
  rw [pendingBlock_eq] at done
  cases appended : appendOwed pending visit.1 openBlock 0 with
  | error cause =>
      rw [appended] at done
      cases done
  | ok result =>
      obtain ⟨buffer, total⟩ := result
      obtain ⟨bytes, sum, frames⟩ := appendOwed_ok appended
      rw [Nat.zero_add] at sum
      rw [toBytes_openBlock] at bytes
      rw [appended] at done
      cases ended : visit.2 with
      | error cause =>
          rw [ended] at done
          cases done
      | ok _ =>
          rw [ended] at done
          dsimp only at done
          by_cases differ : total ≠ pending.size
          · rw [if_pos differ] at done
            cases done
          by_cases many : countLimit ≤ total
          · rw [if_neg differ, if_pos many] at done
            cases done
          rw [if_neg differ, if_neg many] at done
          subst sum
          obtain ⟨patched, patch, encoded⟩ := patch_openBlock (Nat.not_le.mp many) bytes
          rw [patch] at done
          cases done
          have same := not_not.mp differ
          rw [same] at many
          exact ⟨same, same, encoded, Nat.not_le.mp many, frames⟩

/-- A visit that ends well, and whose owed traces are few and as many as the pending ones, makes a
block. -/
theorem pendingBlock_of_matches (ended : visit.2 = .ok ())
    (frames : ∀ trace ∈ visit.1, trace.frames.length < countLimit)
    (few : pending.size < countLimit) (same : (owedAmong pending visit.1).length = pending.size) :
    ∃ block, pendingBlock pending visit = .ok (block, pending.size) := by
  obtain ⟨buffer, total, appended⟩ :
      ∃ buffer total, appendOwed pending visit.1 openBlock 0 = .ok (buffer, total) :=
    appendOwed_of_few frames openBlock 0
  have sum := (appendOwed_ok appended).2.1
  rw [Nat.zero_add, same] at sum
  subst sum
  rw [pendingBlock_eq, appended, ended]
  simp only [ne_eq, not_true_eq_false, if_false]
  rw [if_neg (Nat.not_le.mpr few)]
  exact ⟨_, rfl⟩

end Block

/-! ## What a log visits -/

namespace TraceLog

/-- Every trace is filed under its own identifier. -/
def Keyed (log : TraceLog) : Prop := ∀ id trace, log.get? id = some trace → trace.id = id

theorem keyed_empty : empty.Keyed := by
  intro id trace found
  simp [empty, get?] at found

theorem get?_record (log : TraceLog) (trace : Trace) (id : TraceId) :
    (log.record trace).get? id =
      if trace.id = id ∧ log.get? id = none then some trace else log.get? id := by
  simp only [record, get?, Std.TreeMap.getElem?_insertIfNew]
  by_cases same : trace.id = id
  · subst same
    by_cases filed : trace.id ∈ log.traces <;> simp [filed]
  · simp [same, Std.LawfulEqCmp.compare_eq_iff_eq]

theorem Keyed.record {log : TraceLog} (keyed : log.Keyed) (trace : Trace) :
    (log.record trace).Keyed := by
  intro id other found
  rw [get?_record] at found
  split at found
  next new =>
    cases found
    exact new.1
  next => exact keyed id other found

theorem Keyed.markWritten {log : TraceLog} (keyed : log.Keyed) (marked : TraceId) :
    (log.markWritten marked).Keyed := by
  intro id trace found
  simp only [TraceLog.markWritten, get?, Std.TreeMap.getElem?_modify] at found
  split at found
  next same =>
    obtain ⟨old, filed, rfl⟩ := Option.map_eq_some_iff.mp found
    have same : marked = id := Std.LawfulEqCmp.compare_eq_iff_eq.mp same
    subst same
    exact keyed marked old filed
  next => exact keyed id trace found

theorem toList_eq (log : TraceLog) : log.toList = log.traces.toList.map (·.2) := by
  show log.traces.foldr (fun _ trace traces => trace :: traces) [] = _
  rw [Std.TreeMap.foldr_eq_foldr_toList]
  induction log.traces.toList with
  | nil => rfl
  | cons entry rest ih => rw [List.foldr_cons, ih, List.map_cons]

theorem mem_toList {log : TraceLog} (keyed : log.Keyed) {trace : Trace} :
    trace ∈ log.toList ↔ log.get? trace.id = some trace := by
  rw [toList_eq, List.mem_map]
  constructor
  · rintro ⟨⟨id, other⟩, member, rfl⟩
    have found := Std.TreeMap.mem_toList_iff_getElem?_eq_some.mp member
    have same : other.id = id := keyed id other found
    rw [same]
    exact found
  · intro found
    exact ⟨(trace.id, trace), Std.TreeMap.mem_toList_iff_getElem?_eq_some.mpr found, rfl⟩

/-- A log visits its traces in rising order of identifiers. -/
theorem toList_rising {log : TraceLog} (keyed : log.Keyed) :
    log.toList.Pairwise fun earlier later => earlier.id.val < later.id.val := by
  have ordered := Std.TreeMap.ordered_keys_toList (t := log.traces)
  rw [toList_eq, List.pairwise_map]
  refine List.Pairwise.imp_of_mem ?_ ordered
  rintro ⟨a, earlier⟩ ⟨b, later⟩ first second less
  have filed : earlier.id = a ∧ later.id = b :=
    ⟨keyed a earlier (Std.TreeMap.mem_toList_iff_getElem?_eq_some.mp first),
      keyed b later (Std.TreeMap.mem_toList_iff_getElem?_eq_some.mp second)⟩
  rw [filed.1, filed.2]
  exact Std.compare_eq_lt.mp less

section Owed

variable {log : TraceLog} {pending : IdSet .constant} {ids : List TraceId}

theorem mem_owed (keyed : log.Keyed) {trace : Trace} :
    trace ∈ owedAmong pending log.toList ↔
      log.get? trace.id = some trace ∧ trace.shouldWrite = true ∧
        pending.contains trace.id = true := by
  rw [owedAmong, List.mem_filter, mem_toList keyed, Bool.and_eq_true]

/-- The owed traces of a log are different pending traces. -/
theorem owed_subperm (keyed : log.Keyed) (same : ∀ id, pending.contains id = true ↔ id ∈ ids) :
    List.Subperm ((owedAmong pending log.toList).map (·.id)) ids := by
  have rising : (owedAmong pending log.toList).Pairwise fun earlier later =>
      earlier.id.val < later.id.val := (toList_rising keyed).filter _
  have nodup : ((owedAmong pending log.toList).map (·.id)).Nodup := by
    refine List.pairwise_map.mpr (rising.imp ?_)
    intro earlier later less equal
    rw [equal] at less
    exact absurd less (UInt64.lt_irrefl _)
  refine List.subperm_of_subset nodup ?_
  intro id member
  obtain ⟨trace, owed, rfl⟩ := List.mem_map.mp member
  exact (same trace.id).mp ((mem_owed keyed).mp owed).2.2

/-- As many traces of a log are owed as are pending exactly when every pending trace is owed. -/
theorem length_owed_iff (keyed : log.Keyed) (nodup : ids.Nodup)
    (same : ∀ id, pending.contains id = true ↔ id ∈ ids) :
    (owedAmong pending log.toList).length = pending.size ↔
      ∀ id ∈ ids, ∃ trace, log.get? id = some trace ∧ trace.shouldWrite = true := by
  have size := IdSet.size_eq_length nodup same
  have within := owed_subperm keyed same
  rw [← List.length_map (f := fun trace : Trace => trace.id), size]
  constructor
  · intro length id member
    have all := within.perm_of_length_le (Nat.le_of_eq length.symm)
    obtain ⟨trace, owed, rfl⟩ := List.mem_map.mp (all.mem_iff.mpr member)
    obtain ⟨found, unwritten, -⟩ := (mem_owed keyed).mp owed
    exact ⟨trace, found, unwritten⟩
  · intro owed
    refine Nat.le_antisymm within.length_le (List.subperm_of_subset nodup ?_).length_le
    intro id member
    obtain ⟨trace, found, unwritten⟩ := owed id member
    have filed := keyed id trace found
    subst filed
    exact List.mem_map_of_mem ((mem_owed keyed).mpr ⟨found, unwritten, (same _).mpr member⟩)

theorem owed_perm (keyed : log.Keyed) (nodup : ids.Nodup)
    (same : ∀ id, pending.contains id = true ↔ id ∈ ids)
    (length : (owedAmong pending log.toList).length = pending.size) :
    ((owedAmong pending log.toList).map (·.id)).Perm ids := by
  refine (owed_subperm keyed same).perm_of_length_le (Nat.le_of_eq ?_)
  rw [List.length_map, length, IdSet.size_eq_length nodup same]

end Owed

end TraceLog

end LeakRecorder
