/-
# LeakRecorder.Proofs.Chunk — what a chunk contains

A reader may start at any chunk, so a chunk should contain every blob of the
samples that it describes. Whether it does is a matter of flags: a write leaves
out the blobs that the epoch has, and a rotation makes due again only the blobs of
samples that are resolved by then. A blob of a sample that is not may keep the
flag that the previous chunk has set.

`drive_has_back` and `drive_has_on` follow one flag through a run. From them
`chunk_sends_iff` is the exact condition for a blob to be in the chunk: if the
epoch had the blob when the chunk was started, then a rotation of the chunk has to
find the blob on a resolved sample.
-/
import LeakRecorder.Proofs.Run

set_option autoImplicit false

namespace LeakRecorder

/-- **What a chunk contains.** A chunk is started in any state that a profiler can come to, and
after any further operations, none of which fails, a write visits every live sample. A blob that
the write offers for one of them is sent in the chunk exactly when the epoch did not have it before
the chunk, or a rotation in the chunk has found it on a resolved sample. What is sent is in a
payload of the chunk. -/
theorem chunk_sends_iff {σ ρ : Type} {host : Host σ ρ} {kept : σ → List Bytes}
    (keeps : host.sink.Keeps kept) {options : Options} {sink : σ} {traces : ρ}
    {earlier operations : List (Operation ρ)} {chains : ReferenceChains}
    {before visiting last : Profiler σ ρ}
    (recorded : drive host earlier (.create options sink traces) = before)
    (chunk : run host (.rotateChunk :: operations) before = .ok visiting)
    (final : run host [.write chains true] visiting = .ok last)
    {sample : Sample} (visited : sample ∈ visiting.sampler.visited true)
    {id : BlobId} (offered : id ∈ sample.offered visiting.exited)
    {blob : Blob} (present : visiting.blobs.get? id = some blob) :
    let sent := collect host Operation.sends
      (.rotateChunk :: operations ++ [.write chains true]) before
    (id ∈ sent ↔
      (before.blobs.has id = true →
        id ∈ collect host (Operation.resets host) (.rotateChunk :: operations) before)) ∧
    ∃ since, kept last.sink = kept before.sink ++ since ∧
      (id ∈ sent → Reached since blob.bytes) := by
  have linked : before.sampler.Linked := by
    rw [← recorded]
    exact drive_linked host earlier Sampler.linked_empty
  have linkedThen : visiting.sampler.Linked := run_linked chunk linked
  have whole : run host (.rotateChunk :: operations ++ [.write chains true]) before = .ok last :=
    run_append_ok.mpr ⟨visiting, chunk, final⟩
  have offeredAll : id ∈ visiting.offers true := List.mem_flatMap.mpr ⟨sample, visited, offered⟩
  have came : drive host (.rotateChunk :: operations) before = visiting := (run_ok_iff.mp chunk).2
  have finalSends : collect host Operation.sends [.write chains true] visiting =
      visiting.sends true := by
    obtain ⟨next, one, -⟩ := run_cons_ok.mp final
    exact (List.append_nil _).trans (Operation.write_succeeds one).1
  refine ⟨?_, _, run_kept keeps whole, ?_⟩
  · rw [collect_append, came, List.mem_append, finalSends]
    constructor
    · intro sent had
      by_contra notReset
      obtain ⟨still, notSent⟩ := drive_has_on host _ linked had notReset
      rcases sent with sent | sent
      · exact notSent sent
      · rw [came, BlobStore.not_has_of_owes (BlobStore.mem_due.mp sent).2] at still
        cases still
    · intro again
      by_cases has : visiting.blobs.has id = true
      · rw [← came] at has
        rcases drive_has_back host _ linked has with ⟨had, notReset⟩ | sent
        · exact absurd (again had) notReset
        · exact .inl sent
      · refine .inr (BlobStore.mem_due.mpr ⟨offeredAll, ?_⟩)
        rw [BlobStore.has_eq_not_owes present] at has
        simpa using has
  · intro sent
    obtain ⟨written, still⟩ := run_blobs final linkedThen id blob present
    have reached := run_reaches whole linked sent
    rw [BlobStore.bytesOf_eq still] at reached
    exact reached

/-- A sample of a virtual thread, with the thread's blob. -/
def virtualDraft : Sample.Draft :=
  { key := ⟨0, ⟨0⟩⟩, thread := ⟨7⟩, isVirtual := true, allocatedAt := 1
    object := some { address := 16, classId := ⟨1⟩ }, threadBlob := some ⟨0⟩ }

/-- Up to a first write of one such sample. -/
def firstWrite : List (Operation TraceLog) :=
  [.start, .addBlob .thread [1], .push virtualDraft, .write (.ofEdges .empty) true]

theorem chunk_sends_resolved :
    ∃ before visiting last : Profiler MemorySink TraceLog, ∃ since,
      run ⟨.memory, .log, Retention.unwritten⟩ (firstWrite ++ [.installTypeSet none])
        (.create .standard (.ofLimit none) .empty) = .ok before ∧
      run ⟨.memory, .log, Retention.unwritten⟩ [.rotateChunk] before = .ok visiting ∧
      run ⟨.memory, .log, Retention.unwritten⟩ [.write (.ofEdges .empty) true] visiting =
        .ok last ∧
      last.sink.payloads.toList = before.sink.payloads.toList ++ since ∧ Reached since [1] := by
  have exact := @chunk_sends_iff MemorySink _ ⟨.memory, .log, Retention.unwritten⟩ _
    Sink.keeps_memory .standard (.ofLimit none) .empty (firstWrite ++ [.installTypeSet none]) []
    (.ofEdges .empty) _ _ _ rfl rfl rfl (.ofDraft ⟨0⟩ virtualDraft) (by decide) ⟨0⟩ (by decide)
    { kind := .thread, bytes := [1], written := false } rfl
  obtain ⟨sends, since, same, reached⟩ := exact
  exact ⟨_, _, _, since, rfl, rfl, rfl, same, reached (sends.mpr (by decide))⟩

/-- Without the type-set pass the sample is not resolved, so the rotation leaves its thread's blob
alone: the next chunk describes the sample and does not have the blob. -/
theorem chunk_omits_unresolved :
    ∃ before visiting last : Profiler MemorySink TraceLog,
      run ⟨.memory, .log, Retention.unwritten⟩ firstWrite
        (.create .standard (.ofLimit none) .empty) = .ok before ∧
      run ⟨.memory, .log, Retention.unwritten⟩ [.rotateChunk] before = .ok visiting ∧
      run ⟨.memory, .log, Retention.unwritten⟩ [.write (.ofEdges .empty) true] visiting =
        .ok last ∧
      Sample.ofDraft ⟨0⟩ virtualDraft ∈ visiting.sampler.visited true ∧
      ⟨0⟩ ∈ (Sample.ofDraft ⟨0⟩ virtualDraft).offered visiting.exited ∧
      visiting.blobs.bytesOf ⟨0⟩ = [1] ∧
      ∃ since, last.sink.payloads.toList = before.sink.payloads.toList ++ since ∧
        ¬ Reached since [1] := by
  refine ⟨_, _, _, rfl, rfl, rfl, by decide, by decide, by decide, [], by decide, ?_⟩
  rintro (empty | ⟨payload, member, -⟩)
  · cases empty
  · cases member

end LeakRecorder
