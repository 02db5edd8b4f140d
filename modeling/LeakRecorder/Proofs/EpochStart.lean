/-
# LeakRecorder.Proofs.EpochStart — a new chunk and a new epoch

A chunk is read alone, so when the sink starts one, an epoch has to start with it:
every blob of a resolved sample is to be due again. A rotation makes these blobs
due first and resolves samples after that, so it has started the epoch even when
it fails on a trace that is missing or on a collection that is too large
(`Profiler.grown_rotate`).

It refuses to do anything, however, while the profiler is stopped or at a
safepoint (`Profiler.Admits`), and the two operations that start chunks have the
sink start its chunk before the rotation refuses. `chunk_starts_epoch_iff` is the
exact condition, for every state and every outcome: the epoch starts with the
chunk if the rotation is admitted, or if no blob of a resolved sample was in the
epoch anyway.
-/
import LeakRecorder.Proofs.Operations

set_option autoImplicit false

namespace LeakRecorder

namespace BlobStore

variable {old new : BlobStore}

/-- New blobs are due, so the epoch has the same blobs as before. -/
theorem Grown.has (grown : old.Grown new) (id : BlobId) : new.has id = old.has id := by
  cases before : old.get? id with
  | some blob => rw [BlobStore.has, grown.kept id blob before, BlobStore.has, before]
  | none =>
      cases after : new.get? id with
      | none => rw [BlobStore.has, after, BlobStore.has, before]
      | some blob =>
          have unwritten := (grown.fresh id blob before after).1
          simp [BlobStore.has, after, before, unwritten]

theorem has_resetBlobs (store : BlobStore) (samples : List Sample) (id : BlobId) :
    (Profiler.resetBlobs store samples).has id =
      (store.has id && !decide (id ∈ samples.flatMap Sample.blobs)) := by
  rw [has, get?_resetBlobs, has]
  cases store.get? id with
  | none => rfl
  | some blob =>
      by_cases member : id ∈ samples.flatMap Sample.blobs
      · simp only [Option.map_some, Option.any_some, member, if_true, decide_true,
          Bool.not_true, Bool.and_false]
      · simp only [Option.map_some, Option.any_some, member, if_false, decide_false,
          Bool.not_false, Bool.and_true]

end BlobStore

namespace Profiler

variable {σ ρ : Type} (host : Host σ ρ) (profiler : Profiler σ ρ)

/-- A rotation is not refused. -/
def Admits (profiler : Profiler σ ρ) : Prop :=
  profiler.running = true ∧ profiler.runtime.atSafepoint = false

/-- Why a rotation that is not admitted is refused. -/
def refusal (profiler : Profiler σ ρ) : Failure :=
  if profiler.running then .violation .rotationAtSafepoint else stoppedDuring .rotation

/-- A rotation that is refused leaves everything as it is. -/
theorem rotate_of_refused {profiler : Profiler σ ρ} (refused : ¬ profiler.Admits) :
    rotate host profiler = (profiler, .error profiler.refusal) := by
  cases running : profiler.running with
  | false => simp [rotate, refusal, running]
  | true =>
      have atSafepoint : profiler.runtime.atSafepoint = true := by
        simpa [Admits, running] using refused
      simp [rotate, refusal, running, atSafepoint]

/-- The resolved samples' blobs are due again. -/
def renewed (profiler : Profiler σ ρ) : Profiler σ ρ :=
  { profiler with blobs := resetBlobs profiler.blobs profiler.sampler.resolved }

/-- A rotation that is admitted renews the profiler, and resolves the unresolved samples if there
are any; the traces are released if that has succeeded. -/
theorem rotate_of_admits {profiler : Profiler σ ρ} (admits : profiler.Admits) :
    rotate host profiler =
      if profiler.sampler.hasUnresolved then
        match resolveFresh host profiler.renewed with
        | (next, .error cause) => (next, .error cause)
        | (next, .ok stats) =>
            ({ next with traces := host.source.clear next.traces },
              .ok { samplesReset := profiler.sampler.resolved.length, resolved := some stats })
      else
        (profiler.renewed,
          .ok { samplesReset := profiler.sampler.resolved.length, resolved := none }) := by
  obtain ⟨running, free⟩ := admits
  rw [rotate, if_neg (by simp [running]), if_neg (by simp [free])]
  rfl

/-- A rotation that is admitted makes the resolved samples' blobs due, and whatever comes of it
adds only blobs that are due. -/
theorem grown_rotate {profiler : Profiler σ ρ} (admits : profiler.Admits) :
    (resetBlobs profiler.blobs profiler.sampler.resolved).Grown
      (rotate host profiler).1.blobs := by
  rw [rotate_of_admits host admits]
  split
  · have grown := grown_resolveFresh host profiler.renewed
    generalize resolveFresh host profiler.renewed = outcome at grown
    obtain ⟨next, result⟩ := outcome
    cases result with
    | error cause => exact grown
    | ok stats => exact grown
  · exact .refl _

theorem sink_rotate : (rotate host profiler).1.sink = profiler.sink := by
  by_cases admits : profiler.Admits
  · rw [rotate_of_admits host admits]
    split
    · have same := (keeps_resolveFresh host profiler.renewed).1
      generalize resolveFresh host profiler.renewed = outcome at same
      obtain ⟨next, result⟩ := outcome
      cases result with
      | error cause => exact same
      | ok stats => exact same
    · rfl
  · rw [rotate_of_refused host admits]

/-- Starting a chunk is the sink's rotation, and a rotation behind it if there is a chunk. -/
theorem rotateChunk_eq :
    rotateChunk host profiler =
      match (host.sink.rotate profiler.sink).2 with
      | .error cause =>
          ({ profiler with sink := (host.sink.rotate profiler.sink).1 }, .error (.io cause))
      | .ok () => rotate host { profiler with sink := (host.sink.rotate profiler.sink).1 } := by
  rw [rotateChunk]
  cases host.sink.rotate profiler.sink with
  | mk sink result => cases result <;> rfl

theorem sink_rotateChunk :
    (rotateChunk host profiler).1.sink = (host.sink.rotate profiler.sink).1 := by
  rw [rotateChunk_eq]
  split
  · rfl
  · rw [sink_rotate]

end Profiler

variable {σ ρ : Type}

/-- No blob of a sample that is resolved before is in the epoch after. -/
def EpochStarted (before after : Profiler σ ρ) : Prop :=
  ∀ sample ∈ before.sampler.resolved, ∀ id ∈ sample.blobs, after.blobs.has id = false

/-- The operation has the sink start a chunk. -/
def Operation.Opens (host : Host σ ρ) : Operation ρ → Profiler σ ρ → Prop
  | .rotateChunk, profiler => (host.sink.rotate profiler.sink).2 = .ok ()
  | .rotateIfNeeded, profiler =>
      host.sink.needsRotation profiler.sink = true ∧
        (host.sink.rotate profiler.sink).2 = .ok ()
  | _, _ => False

section Opens

variable {host : Host σ ρ} {operation : Operation ρ} {before : Profiler σ ρ}

/-- An operation that has the sink start a chunk goes on as a rotation. -/
theorem Operation.step_of_opens (opens : operation.Opens host before) :
    operation.step host before =
      let outcome := Profiler.rotate host
        { before with sink := (host.sink.rotate before.sink).1 }
      (outcome.1, outcome.2.map fun _ => ()) := by
  cases operation with
  | rotateChunk =>
      have opened : (host.sink.rotate before.sink).2 = .ok () := opens
      dsimp only [step]
      rw [Profiler.rotateChunk_eq, opened]
  | rotateIfNeeded =>
      obtain ⟨full, opened⟩ := opens
      dsimp only [step]
      rw [Profiler.rotateIfNeeded, if_pos full, Profiler.rotateChunk_eq, opened]
      generalize Profiler.rotate host
        { before with sink := (host.sink.rotate before.sink).1 } = outcome
      obtain ⟨after, result⟩ := outcome
      cases result <;> rfl
  | _ => exact opens.elim

/-- An admitted rotation starts the epoch, also when it fails. -/
theorem epochStarted_rotate (admits : before.Admits) (sink : σ) :
    EpochStarted before (Profiler.rotate host { before with sink }).1 := by
  intro sample member id carried
  have moved : ({ before with sink } : Profiler σ ρ).Admits := admits
  have reset : id ∈ before.sampler.resolved.flatMap Sample.blobs :=
    List.mem_flatMap.mpr ⟨sample, member, carried⟩
  have same := (Profiler.grown_rotate host moved).has id
  rw [same, BlobStore.has_resetBlobs, decide_eq_true reset, Bool.not_true, Bool.and_false]

/-- **When an epoch starts with a chunk.** The sink has its chunk, and the blobs of the resolved
samples are due after the call exactly if the rotation was admitted or they were due before,
whatever the call answers. If it was not admitted, the call fails and nothing but the sink has
changed. -/
theorem chunk_starts_epoch_iff (host : Host σ ρ) (operation : Operation ρ) (before : Profiler σ ρ)
    (opens : operation.Opens host before) :
    (operation.step host before).1.sink = (host.sink.rotate before.sink).1 ∧
      (EpochStarted before (operation.step host before).1 ↔
        before.Admits ∨ EpochStarted before before) ∧
      (¬ before.Admits → ∃ cause, operation.step host before =
        ({ before with sink := (host.sink.rotate before.sink).1 }, .error cause)) := by
  rw [Operation.step_of_opens opens]
  generalize (host.sink.rotate before.sink).1 = sink
  dsimp only
  have refused (not : ¬ before.Admits) :
      ∃ cause, Profiler.rotate host { before with sink } = ({ before with sink }, .error cause) :=
    ⟨_, Profiler.rotate_of_refused host not⟩
  refine ⟨Profiler.sink_rotate host _, ⟨?_, ?_⟩, ?_⟩
  · intro started
    by_cases admits : before.Admits
    · exact .inl admits
    · obtain ⟨cause, same⟩ := refused admits
      rw [same] at started
      exact .inr started
  · intro _
    by_cases admits : before.Admits
    · exact epochStarted_rotate admits sink
    · obtain ⟨cause, same⟩ := refused admits
      rw [same]
      tauto
  · intro not
    obtain ⟨cause, same⟩ := refused not
    rw [same]
    exact ⟨cause, rfl⟩

end Opens

/-- A resolved sample of a virtual thread, whose blob the epoch has, and a newer one whose trace is
not recorded. -/
def writtenOnce (last : Operation TraceLog) : Profiler MemorySink TraceLog :=
  let draft : Sample.Draft :=
    { key := ⟨0, ⟨0⟩⟩, thread := ⟨7⟩, isVirtual := true, allocatedAt := 1
      object := some { address := 16, classId := ⟨1⟩ }, threadBlob := some ⟨0⟩ }
  drive ⟨.memory, .log, Retention.unwritten⟩
    [.start, .addBlob .thread [1], .push draft, .installTypeSet none,
      .write (.ofEdges .empty) true, .push { draft with key := ⟨9, ⟨5⟩⟩ }, last]
    (.create { Options.standard with queueSize := 1 } (.ofLimit none) .empty)

/-- The rotation fails over the trace that is missing, and the epoch has started all the same. -/
theorem chunk_starts_epoch_missingTrace :
    let host : Host MemorySink TraceLog := ⟨.memory, .log, Retention.unwritten⟩
    let before := writtenOnce .start
    (Operation.step host .rotateChunk before).2 =
        .error (.violation (.traceMissing ⟨9, ⟨5⟩⟩)) ∧
      EpochStarted before (Operation.step host .rotateChunk before).1 := by
  have opens : @Operation.Opens _ TraceLog ⟨.memory, .log, Retention.unwritten⟩ .rotateChunk
      (writtenOnce .start) := by
    show (Sink.memory.rotate (writtenOnce .start).sink).2 = .ok ()
    decide
  have admits : (writtenOnce .start).Admits := ⟨by decide, by decide⟩
  have epoch := (chunk_starts_epoch_iff _ _ _ opens).2.1
  refine ⟨?_, ?_⟩
  · rfl
  · rw [epoch]
    exact .inl admits

/-- A stopped profiler has the sink start a chunk and then refuses to rotate: the blob of the
resolved sample stays in the epoch. -/
theorem chunk_starts_no_epoch_stopped :
    let host : Host MemorySink TraceLog := ⟨.memory, .log, Retention.unwritten⟩
    let before := writtenOnce .stop
    let after := Operation.step host .rotateChunk before
    before.sink.rotations = 0 ∧ after.1.sink.rotations = 1 ∧
      after.2 = .error (.violation (.stopped .rotation)) ∧
      ¬ EpochStarted before after.1 := by
  refine ⟨by decide, by decide, by decide, ?_⟩
  intro started
  have resolved : (writtenOnce .stop).sampler.resolved ≠ [] := by decide
  obtain ⟨sample, member⟩ := List.exists_mem_of_ne_nil _ resolved
  have due := started sample member ⟨0⟩ (by revert sample; decide)
  exact absurd due (by decide)

end LeakRecorder
