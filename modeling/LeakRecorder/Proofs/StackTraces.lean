/-
# LeakRecorder.Proofs.StackTraces — which samples have stack-trace blobs, and which

Two questions about the stack traces of samples, over runs in which operations may
fail and traces come from any source.

Which blob does a sample carry? One that decodes to a single record, of the trace
that the source answered for the sample's key while the run built the blob. The
sample never gives it up, and it never changes (`attached_blob_records`).

Which samples carry one after a rotation that succeeded? Of the live ones that know
their traces all but those over which a type-set pass has moved the boundary while
they had none (`rotate_settles_iff`). A rotation resolves what is newer than the
boundary, and a type-set pass moves the boundary over samples that no rotation has
resolved, so these stay without a blob (`rotate_omits_passed`). What is carried
along a run is that the samples passed over are exactly those at the boundary or
older that carry nothing (`Tracked`).
-/
import LeakRecorder.Proofs.Operations
import LeakRecorder.Proofs.Reading

set_option autoImplicit false

namespace LeakRecorder

variable {σ ρ : Type}

/-! ## The blob of a sample -/

/-- The block of one trace is decoded as the one record of it. -/
theorem Payload.decode_traceBlock_single {trace : Trace}
    (few : trace.frames.length < countLimit) :
    decode (traceBlock [trace]).encode =
      .ok [{ typeId := Block.traceType, records := [.trace trace.toRecord] }] := by
  have countable : (Record.trace trace.toRecord).Countable := few
  exact decode_encode (Block.wellFormed_single countable)

theorem linked_create (options : Options) (sink : σ) (traces : ρ) :
    (Profiler.create options sink traces).sampler.Linked := Sampler.linked_empty

/-- **Attached blobs are right and stay.** A blob that a sample carries was built by the run from a
trace with the sample's key that the source answered then. It decodes to the one record of that
trace, and whatever is done next the sample keeps it, with its kind and its bytes. -/
theorem attached_blob_records (host : Host σ ρ) (options : Options) (sink : σ) (traces : ρ)
    (operations : List (Operation ρ)) {now : Profiler σ ρ}
    (done : drive host operations (.create options sink traces) = now) {sample : Sample}
    {id : BlobId} (member : sample ∈ now.sampler.samples) (carries : sample.stackTrace = some id) :
    ∃ trace blob, BuiltIn host operations (.create options sink traces) sample.key id trace ∧
      trace.key = sample.key ∧ now.blobs.get? id = some blob ∧ blob.kind = .stackTrace ∧
      Payload.decode blob.bytes = .ok [
        { typeId := Block.traceType
          records := [.trace {
            id := sample.key.id, reachedRoot := trace.reachedRoot, frames := trace.frames }] }] ∧
      ∀ more, ∃ same written, (drive host more now).sampler.find? sample.id = some same ∧
        same.key = sample.key ∧ same.stackTrace = some id ∧
        (drive host more now).blobs.get? id = some { blob with written } := by
  subst done
  have start := linked_create options sink traces
  have linked := drive_linked host operations start
  rcases drive_built host operations start member carries with ⟨old, inside, -⟩ | ⟨trace, built⟩
  · cases inside
  · obtain ⟨few, written, present⟩ := built.present start
    refine ⟨trace, _, built, built.key, present, rfl, ?_, fun more => ?_⟩
    · have decoded := Payload.decode_traceBlock_single few
      rw [Trace.toRecord, show trace.id = sample.key.id from congrArg TraceKey.id built.key]
        at decoded
      exact decoded
    · obtain ⟨same, inside, sameId, key, still⟩ := drive_carries host more linked member carries
      obtain ⟨flag, kept⟩ := drive_blobs host more linked id _ present
      have found := (drive_linked host more linked).find?_eq inside
      rw [sameId] at found
      exact ⟨same, flag, found, key, still, kept⟩

/-- A live sample of a trace. -/
def tracedDraft (key : TraceKey) : Sample.Draft :=
  { key, thread := ⟨0⟩, isVirtual := false, allocatedAt := 1
    object := some { address := 16, classId := ⟨1⟩ }, threadBlob := none }

def rootTrace : Trace :=
  { id := ⟨5⟩, hash := 5, reachedRoot := true, frames := [], written := false }

/-- The second sample of a run, with the first blob of the store. -/
def secondSample : Sample :=
  { Sample.ofDraft ⟨1⟩ (tracedDraft rootTrace.key) with stackTrace := some ⟨0⟩ }

/-- Two samples of traces with one identifier, of which only the second one's is recorded, and a
rotation. -/
def clashingRun : List (Operation TraceLog) :=
  [.start, .capture (·.record rootTrace), .push (tracedDraft ⟨6, rootTrace.id⟩),
    .push (tracedDraft rootTrace.key), .rotate]

/-- The source ignores hashes, so the rotation fails at the first sample; by then the second one
has its blob. -/
theorem attached_blob_records_clash :
    ∃ (now : Profiler MemorySink TraceLog) (trace : Trace) (blob : Blob),
      drive ⟨.memory, .ignoringHash, Retention.unwritten⟩ clashingRun
        (.create { Options.standard with queueSize := 1 } (.ofLimit none) .empty) = now ∧
      secondSample ∈ now.sampler.samples ∧ secondSample.stackTrace = some ⟨0⟩ ∧
      (now.rotate ⟨.memory, .ignoringHash, Retention.unwritten⟩).2 =
        .error (.violation (.traceMismatch ⟨5, ⟨5⟩⟩ ⟨6, ⟨5⟩⟩)) ∧
      trace.key = ⟨5, ⟨5⟩⟩ ∧ now.blobs.get? ⟨0⟩ = some blob ∧
      Payload.decode blob.bytes = .ok [
        { typeId := Block.traceType
          records := [.trace {
            id := ⟨5⟩, reachedRoot := trace.reachedRoot, frames := trace.frames }] }] := by
  obtain ⟨trace, blob, -, key, present, -, decoded, -⟩ := @attached_blob_records MemorySink TraceLog
    ⟨.memory, .ignoringHash, Retention.unwritten⟩ { Options.standard with queueSize := 1 }
    (.ofLimit none) .empty clashingRun _ rfl secondSample ⟨0⟩ (by decide) rfl
  exact ⟨_, trace, blob, rfl, by decide, rfl, rfl, key, present, decoded⟩

/-! ## The samples that a type-set pass passes over -/

/-- The samples over which the operation moves the boundary while they carry no stack trace. -/
def Operation.passesOver (operation : Operation ρ) (profiler : Profiler σ ρ) : List SampleId :=
  if operation.advances profiler then
    (profiler.sampler.unresolved.filter (·.stackTrace.isNone)).map (·.id)
  else []

/-- What a run carries along: the samples passed over so far are the ones at the boundary or older
that carry no stack trace. -/
structure Tracked (profiler : Profiler σ ρ) (passed : List SampleId) : Prop where
  linked : profiler.sampler.Linked
  marked : profiler.sampler.Marked
  born : ∀ id ∈ passed, id.birth < profiler.sampler.births
  exactly : ∀ sample ∈ profiler.sampler.samples, sample.id ∈ passed ↔
    ¬ profiler.sampler.IsFresh sample.id ∧ sample.stackTrace = none

theorem tracked_create (options : Options) (sink : σ) (traces : ρ) :
    Tracked (Profiler.create options sink traces) [] where
  linked := linked_create options sink traces
  marked := by
    intro last marked
    cases marked
  born := by simp
  exactly := by
    intro sample member
    cases member

section Tracked

variable {host : Host σ ρ} {operation : Operation ρ} {before after : Profiler σ ρ}
  {passed : List SampleId}

theorem Operation.mem_passesOver (tracked : Tracked before passed) {id : SampleId} :
    id ∈ operation.passesOver before ↔
      operation.advances before = true ∧ ∃ sample ∈ before.sampler.samples,
        before.sampler.IsFresh sample.id ∧ sample.stackTrace = none ∧ sample.id = id := by
  rw [passesOver]
  cases operation.advances before with
  | false => simp
  | true =>
      simp only [if_true, true_and, List.mem_map, List.mem_filter, Option.isNone_iff_eq_none,
        tracked.linked.mem_unresolved_iff tracked.marked, and_assoc]

/-- A sample that is taken is newer than the boundary. -/
theorem Tracked.exactly_taken (tracked : Tracked before passed)
    (evolved : Evolved host operation before after) {new : Sample}
    (taken : new ∈ operation.taken before) :
    (new.id ∈ passed ∨ new.id ∈ operation.passesOver before) ↔
      ¬ after.sampler.IsFresh new.id ∧ new.stackTrace = none := by
  have birth := (Operation.taken_new taken).1
  have fresh := evolved.fresh_taken tracked.linked tracked.marked taken
  constructor
  · rintro (inside | inside)
    · have older := tracked.born new.id inside
      omega
    · obtain ⟨-, sample, inside, -, -, same⟩ := (Operation.mem_passesOver tracked).mp inside
      have older := tracked.linked.born sample inside
      rw [same] at older
      omega
  · rintro ⟨stale, -⟩
    exact absurd fresh stale

/-- An operation that moves the boundary leaves no sample newer than it. -/
theorem Tracked.exactly_advanced (tracked : Tracked before passed)
    (evolved : Evolved host operation before after) (advances : operation.advances before = true)
    {old new : Sample} (inside : old ∈ before.sampler.samples)
    (ages : Ages host before after old new) :
    (old.id ∈ passed ∨ old.id ∈ operation.passesOver before) ↔
      ¬ after.sampler.IsFresh old.id ∧ new.stackTrace = none := by
  have stale := evolved.stale_of_advances tracked.linked advances inside
  have same : new.stackTrace = old.stackTrace := by
    rcases ages.stackTrace with same | ⟨unresolved, boundary, -⟩
    · exact same
    · have fresh := ((tracked.linked.mem_unresolved_iff tracked.marked).mp unresolved).2
      refine absurd (fun last marked => fresh last ?_) stale
      rw [← boundary, marked]
  rw [same, tracked.exactly old inside, Operation.mem_passesOver tracked]
  constructor
  · rintro (⟨-, empty⟩ | ⟨-, sample, member, -, empty, id⟩)
    · exact ⟨stale, empty⟩
    · rw [tracked.linked.eq_of_id member inside id] at empty
      exact ⟨stale, empty⟩
  · rintro ⟨-, empty⟩
    by_cases fresh : before.sampler.IsFresh old.id
    · exact .inr ⟨advances, old, inside, fresh, empty, rfl⟩
    · exact .inl ⟨fresh, empty⟩

/-- While the boundary stays, a sample that is not newer keeps its stack trace as it is. -/
theorem Tracked.exactly_stayed (tracked : Tracked before passed)
    (evolved : Evolved host operation before after) (stays : operation.advances before = false)
    {old new : Sample} (inside : old ∈ before.sampler.samples)
    (ages : Ages host before after old new) :
    (old.id ∈ passed ∨ old.id ∈ operation.passesOver before) ↔
      ¬ after.sampler.IsFresh old.id ∧ new.stackTrace = none := by
  have none : old.id ∉ operation.passesOver before := by
    rw [Operation.mem_passesOver tracked, stays]
    simp
  rw [or_iff_left none, evolved.isFresh_of_stays stays, tracked.exactly old inside]
  refine and_congr_right fun stale => ?_
  rcases ages.stackTrace with same | ⟨unresolved, -⟩
  · rw [same]
  · exact absurd ((tracked.linked.mem_unresolved_iff tracked.marked).mp unresolved).2 stale

theorem Tracked.next (tracked : Tracked before passed)
    (evolved : Evolved host operation before after) :
    Tracked after (passed ++ operation.passesOver before) where
  linked := evolved.linked
  marked := evolved.marked tracked.linked tracked.marked
  born := by
    intro id member
    rw [evolved.births]
    rcases List.mem_append.mp member with earlier | here
    · exact Nat.lt_add_right _ (tracked.born id earlier)
    · obtain ⟨-, sample, inside, -, -, rfl⟩ := (Operation.mem_passesOver tracked).mp here
      exact Nat.lt_add_right _ (tracked.linked.born sample inside)
  exactly := by
    intro new member
    rw [List.mem_append]
    rcases evolved.back member with taken | ⟨old, inside, ages⟩
    · exact tracked.exactly_taken evolved taken
    · rw [ages.id]
      cases advances : operation.advances before with
      | true => exact tracked.exactly_advanced evolved advances inside ages
      | false => exact tracked.exactly_stayed evolved advances inside ages

/-! ## A rotation that succeeds -/

theorem evolved_rotate {result : Except Failure RotationStats} (linked : before.sampler.Linked)
    (done : before.rotate host = (after, result)) : Evolved host .rotate before after := by
  have evolved := Operation.evolved host .rotate linked
  have state : (Operation.step host .rotate before).1 = after := congrArg Prod.fst done
  rw [state] at evolved
  exact evolved

theorem Tracked.rotated {result : Except Failure RotationStats} (tracked : Tracked before passed)
    (done : before.rotate host = (after, result)) : Tracked after passed := by
  have next := tracked.next (evolved_rotate tracked.linked done)
  have none : Operation.passesOver .rotate before = [] := rfl
  rw [none, List.append_nil] at next
  exact next

/-- What is newer than the boundary is settled by a rotation that succeeds. -/
theorem Tracked.settled (tracked : Tracked before passed) {stats : RotationStats}
    (done : before.rotate host = (after, .ok stats)) {sample : Sample}
    (member : sample ∈ after.sampler.samples) (fresh : after.sampler.IsFresh sample.id) :
    Resolution.Settled sample := by
  have evolved := evolved_rotate tracked.linked done
  obtain ⟨front, turned, settled⟩ := Profiler.turned_rotate tracked.linked done
  rcases evolved.back member with taken | ⟨old, inside, ages⟩
  · cases taken
  · have unresolved : old ∈ before.sampler.unresolved := by
      refine (tracked.linked.mem_unresolved_iff tracked.marked).mpr ⟨inside, ?_⟩
      intro last marked
      rw [← ages.id]
      exact fresh last (evolved.boundary.trans marked)
    obtain ⟨new, inFront, attaches⟩ := exists_partner turned.front unresolved
    have still : new ∈ after.sampler.samples := by
      rw [turned.sampler]
      exact List.mem_append_left _ inFront
    have sameId : new.id = sample.id := by
      rw [ages.id]
      cases attaches <;> rfl
    rw [← evolved.linked.eq_of_id still member sameId]
    exact settled stats rfl new inFront

end Tracked

theorem drive_tracked (host : Host σ ρ) (operations : List (Operation ρ)) {before : Profiler σ ρ}
    {passed : List SampleId} (tracked : Tracked before passed) :
    Tracked (drive host operations before)
      (passed ++ collect host Operation.passesOver operations before) := by
  induction operations generalizing before passed with
  | nil =>
      rw [collect, List.append_nil]
      exact tracked
  | cons operation rest ih =>
      rw [collect, ← List.append_assoc]
      exact ih (tracked.next (operation.evolved host tracked.linked))

/-- **Who is left behind.** After a rotation that succeeded, a live sample that knows its trace has
a blob of it, with bytes, exactly when no type-set pass of the run has moved the boundary over it
while it had none. -/
theorem rotate_settles_iff (host : Host σ ρ) (options : Options) (sink : σ) (traces : ρ)
    (operations : List (Operation ρ)) {after : Profiler σ ρ} {stats : RotationStats}
    (done : (drive host operations (.create options sink traces)).rotate host =
      (after, .ok stats)) :
    ∀ sample ∈ after.sampler.samples, sample.object.isSome = true → sample.hasTrace = true →
      ((∃ id blob, sample.stackTrace = some id ∧ after.blobs.get? id = some blob ∧
          blob.kind = .stackTrace ∧ blob.bytes ≠ []) ↔
        sample.id ∉ collect host Operation.passesOver operations
          (.create options sink traces)) := by
  intro sample member live traced
  have start := tracked_create options sink traces
  have tracked := drive_tracked host operations start
  rw [List.nil_append] at tracked
  rw [(tracked.rotated done).exactly sample member]
  constructor
  · rintro ⟨id, blob, carries, -⟩ ⟨-, empty⟩
    rw [carries] at empty
    cases empty
  · intro kept
    have carries : sample.stackTrace.isSome = true := by
      by_cases fresh : after.sampler.IsFresh sample.id
      · exact tracked.settled done member fresh live traced
      · refine Option.isSome_iff_ne_none.mpr fun empty => kept ⟨fresh, empty⟩
    obtain ⟨id, carries⟩ := Option.isSome_iff_exists.mp carries
    have turning : drive host (operations ++ [.rotate]) (.create options sink traces) = after := by
      rw [drive_append]
      exact congrArg Prod.fst done
    rw [← turning] at member
    rcases drive_built host _ start.linked member carries with ⟨old, inside, -⟩ | ⟨trace, built⟩
    · cases inside
    · obtain ⟨-, written, present⟩ := built.present start.linked
      rw [turning] at present
      exact ⟨id, _, carries, present, rfl, traceBlock_ne_nil [trace]⟩

/-- A live sample of a recorded trace, over which a type-set pass moves the boundary. -/
def passedRun : List (Operation TraceLog) :=
  [.start, .capture (·.record rootTrace), .push (tracedDraft rootTrace.key), .installTypeSet none]

theorem rotate_settles_later :
    ∃ (after : Profiler MemorySink TraceLog) (stats : RotationStats),
      (drive ⟨.memory, .log, Retention.unwritten⟩ (passedRun ++ [.push (tracedDraft rootTrace.key)])
        (.create { Options.standard with queueSize := 1 } (.ofLimit none) .empty)).rotate
          ⟨.memory, .log, Retention.unwritten⟩ = (after, .ok stats) ∧
      secondSample ∈ after.sampler.samples ∧ secondSample.object.isSome = true ∧
      secondSample.hasTrace = true ∧
      ∃ id blob, secondSample.stackTrace = some id ∧ after.blobs.get? id = some blob ∧
        blob.kind = .stackTrace ∧ blob.bytes ≠ [] := by
  have exactly := @rotate_settles_iff MemorySink TraceLog ⟨.memory, .log, Retention.unwritten⟩
    { Options.standard with queueSize := 1 } (.ofLimit none) .empty
    (passedRun ++ [.push (tracedDraft rootTrace.key)]) _ _ rfl secondSample (by decide) rfl rfl
  exact ⟨_, _, rfl, by decide, rfl, rfl, exactly.mpr (by decide)⟩

/-- The sample that the type-set pass has passed over is live and knows its trace, which is
recorded; the rotation succeeds and leaves it without a blob. -/
theorem rotate_omits_passed :
    ∃ (after : Profiler MemorySink TraceLog) (stats : RotationStats),
      (drive ⟨.memory, .log, Retention.unwritten⟩ passedRun
        (.create { Options.standard with queueSize := 1 } (.ofLimit none) .empty)).rotate
          ⟨.memory, .log, Retention.unwritten⟩ = (after, .ok stats) ∧
      ∃ sample ∈ after.sampler.samples, sample.object.isSome = true ∧ sample.hasTrace = true ∧
        sample.stackTrace = none :=
  ⟨_, _, rfl, .ofDraft ⟨0⟩ (tracedDraft rootTrace.key), by decide, rfl, rfl, rfl⟩

end LeakRecorder
