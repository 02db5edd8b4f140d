/-
# LeakRecorder.Proofs.Run — the flags of blobs along a run

Whether the epoch has a blob is a matter of its flag. A rotation makes blobs due
again (`Operation.resets`) and a write takes blobs into its first payload
(`Operation.sends`), both also when they fail later on. `Operation.has_step` says so
of every operation and every outcome: the epoch has a blob afterwards if it had it
and it was not reset, or if it was sent. `drive_has_back` and `drive_has_on` follow
one flag through a run.

A run in which no operation fails (`run`) is a run that goes on through failures and
meets none (`run_ok_iff`). What is sent in such a run is in a payload that the sink
has accepted (`run_reaches`), and a sink that keeps what it accepts has kept the
payloads of the run (`run_kept`).
-/
import LeakRecorder.Proofs.Commits
import LeakRecorder.Proofs.WriteOutcome

set_option autoImplicit false

namespace LeakRecorder

variable {σ ρ : Type}

/-! ## The flags after a pass -/

namespace Profiler

section Resets

variable (host : Host σ ρ) (profiler : Profiler σ ρ)

instance decidableAdmits : Decidable profiler.Admits :=
  inferInstanceAs (Decidable (profiler.running = true ∧ profiler.runtime.atSafepoint = false))

/-- The blobs that a rotation makes due again: none if it is refused. -/
def resets : List BlobId :=
  if profiler.Admits then profiler.sampler.resolved.flatMap Sample.blobs else []

/-- The blobs that starting a chunk makes due again: none if the sink starts none. -/
def chunkResets : List BlobId :=
  match (host.sink.rotate profiler.sink).2 with
  | .ok () => profiler.resets
  | .error _ => []

theorem has_rotate (id : BlobId) :
    (rotate host profiler).1.blobs.has id =
      (profiler.blobs.has id && !decide (id ∈ profiler.resets)) := by
  rw [resets]
  by_cases admits : profiler.Admits
  · rw [(grown_rotate host admits).has, BlobStore.has_resetBlobs, if_pos admits]
  · rw [rotate_of_refused host admits, if_neg admits]
    simp

theorem has_rotateChunk (id : BlobId) :
    (rotateChunk host profiler).1.blobs.has id =
      (profiler.blobs.has id && !decide (id ∈ profiler.chunkResets host)) := by
  rw [rotateChunk_eq, chunkResets]
  cases (host.sink.rotate profiler.sink).2 with
  | error cause => simp
  | ok _ => exact has_rotate host _ id

end Resets

section Sends

variable {profiler : Profiler σ ρ}

theorem has_afterWindow (linked : profiler.sampler.Linked) (emitAll : Bool) (id : BlobId) :
    (profiler.afterWindow emitAll).blobs.has id =
      (profiler.blobs.has id || decide (id ∈ profiler.sends emitAll)) := by
  rw [BlobStore.has, get?_afterWindow emitAll linked, sends]
  cases present : profiler.blobs.get? id with
  | none => simp [BlobStore.has, BlobStore.owes, present]
  | some blob =>
      by_cases offered : id ∈ profiler.offers emitAll <;>
        simp [BlobStore.has, BlobStore.owes, present, offered]

end Sends

end Profiler

namespace Operation

section Reads

variable (host : Host σ ρ) (operation : Operation ρ) (profiler : Profiler σ ρ)

/-- The blobs that the operation makes due again, whatever comes of it. -/
def resets : List BlobId :=
  match operation with
  | .rotate => profiler.resets
  | .rotateChunk => profiler.chunkResets host
  | .rotateIfNeeded =>
      if host.sink.needsRotation profiler.sink then profiler.chunkResets host else []
  | _ => []

/-- The blobs that the operation sends: the ones that a write with a set of pending traces takes
into its first payload, whatever comes of it. -/
def sends : List BlobId :=
  match operation with
  | .write _ emitAll =>
      match reserve profiler.options.passSetSize with
      | .ok () => profiler.sends emitAll
      | .error _ => []
  | _ => []

end Reads

/-- What is sent is owed. -/
theorem owes_of_sends {operation : Operation ρ} {profiler : Profiler σ ρ} {id : BlobId}
    (sent : id ∈ operation.sends profiler) : profiler.blobs.owes id = true := by
  cases operation with
  | write chains emitAll =>
      dsimp only [sends] at sent
      split at sent
      · exact (BlobStore.mem_due.mp sent).2
      · cases sent
  | _ => cases sent

theorem nodup_sends (operation : Operation ρ) (profiler : Profiler σ ρ) :
    (operation.sends profiler).Nodup := by
  cases operation with
  | write chains emitAll =>
      dsimp only [sends]
      split
      · exact BlobStore.nodup_due _ _
      · exact List.nodup_nil
  | _ => exact List.nodup_nil

section Step

variable {host : Host σ ρ} {operation : Operation ρ} {before after : Profiler σ ρ}

/-- The epoch has a blob after an operation if it had it before and the operation has not made it
due again, or if the operation has sent it. -/
theorem has_step (host : Host σ ρ) (operation : Operation ρ) (linked : before.sampler.Linked)
    (id : BlobId) :
    (operation.step host before).1.blobs.has id = true ↔
      before.blobs.has id = true ∧ id ∉ operation.resets host before ∨
        id ∈ operation.sends before := by
  cases operation with
  | rotate =>
      dsimp only [step]
      rw [Profiler.has_rotate]
      simp [resets, sends]
  | rotateChunk =>
      dsimp only [step]
      rw [Profiler.has_rotateChunk]
      simp [resets, sends]
  | rotateIfNeeded =>
      dsimp only [step]
      rw [Profiler.rotateIfNeeded, resets]
      split
      · rw [Profiler.has_rotateChunk]
        simp [sends]
      · simp [sends]
  | write chains emitAll =>
      dsimp only [step]
      cases room : reserve before.options.passSetSize with
      | error cause =>
          rw [Profiler.write_eq, room]
          simp [resets, sends, room]
      | ok _ =>
          rw [Profiler.blobs_write room, Profiler.has_afterWindow linked]
          simp [resets, sends, room]
  | addBlob kind bytes =>
      dsimp only [step, Profiler.addBlob]
      rw [BlobStore.has_add]
      simp [resets, sends]
  | threadExit tid =>
      obtain ⟨exited, same⟩ := before.threadExit_eq tid
      dsimp only [step]
      rw [same]
      simp [resets, sends]
  | installTypeSet typeSet =>
      obtain ⟨sampler, same⟩ := before.installTypeSet_eq typeSet
      dsimp only [step]
      rw [same]
      simp [resets, sends]
  | _ => exact (or_iff_left List.not_mem_nil).trans (and_iff_left List.not_mem_nil) |>.symm

/-- A pass that succeeded as an operation succeeded as a pass. -/
theorem of_done {α : Type} {outcome : Profiler σ ρ × Except Failure α}
    (done : (outcome.1, outcome.2.map fun _ => ()) = (after, Except.ok ())) :
    ∃ answer, outcome = (after, .ok answer) := by
  obtain ⟨state, result⟩ := outcome
  cases result with
  | error cause => cases done
  | ok answer =>
      cases done
      exact ⟨answer, rfl⟩

/-- A write that succeeds sends what it finds due, and its payloads are accepted. -/
theorem write_succeeds {chains : ReferenceChains} {emitAll : Bool}
    (done : (@Operation.write ρ chains emitAll).step host before = (after, .ok ())) :
    (@Operation.write ρ chains emitAll).sends before = before.sends emitAll ∧
      ∃ block dedupRecords edges chainRecords,
        Profiler.pendingPart host.source emitAll before = .ok (block, dedupRecords) ∧
        chains.part = (edges, .ok chainRecords) ∧
        ((@Operation.write ρ chains emitAll).commits host before).map (·.payload) =
          handedOver [(before.emitWindow .empty emitAll).payload, block, edges] ∧
        host.sink.Took (handedOver [(before.emitWindow .empty emitAll).payload, block, edges])
          before.sink after.sink := by
  obtain ⟨stats, done⟩ := of_done done
  obtain ⟨block, dedupRecords, edges, chainRecords, built, written, committed, -, -⟩ :=
    Profiler.write_ok done
  have composed := Profiler.compose_ok_iff.mpr ⟨_, _, _, _, built, written, rfl, rfl⟩
  refine ⟨?_, block, dedupRecords, edges, chainRecords, built, written, ?_,
    commitAll_ok host.sink committed⟩
  · rw [Profiler.write_eq] at done
    dsimp only [sends]
    cases room : reserve before.options.passSetSize with
    | error cause =>
        rw [room] at done
        cases done
    | ok _ => rfl
  · have accepted := Profiler.accepted_of_ok host chains emitAll before composed done
    rw [commits, List.map_map, accepted]
    exact List.map_id _

/-- A sink that keeps what it accepts has kept the payloads of an operation that succeeds. -/
theorem kept_step {kept : σ → List Bytes} (keeps : host.sink.Keeps kept)
    (done : operation.step host before = (after, .ok ())) :
    kept after.sink = kept before.sink ++ (operation.commits host before).map (·.payload) := by
  rcases operation.idles_step host before with ⟨chains, emitAll, rfl⟩ | ⟨none, idles⟩
  · obtain ⟨-, block, -, edges, -, -, -, payloads, took⟩ := write_succeeds done
    rw [payloads, took.kept_eq keeps]
  · rw [none, List.map_nil, List.append_nil]
    rw [done] at idles
    dsimp only at idles
    generalize after.sink = sink at idles ⊢
    cases idles with
    | same => rfl
    | flush => exact keeps.flush before.sink
    | rotate => exact keeps.rotate before.sink

/-- The bytes of a blob that an operation sends are in one of its payloads if it succeeds. -/
theorem reaches_step (linked : before.sampler.Linked)
    (done : operation.step host before = (after, .ok ())) {id : BlobId}
    (sent : id ∈ operation.sends before) :
    Reached ((operation.commits host before).map (·.payload)) (before.blobs.bytesOf id) := by
  cases operation with
  | write chains emitAll =>
      obtain ⟨sends, block, -, edges, -, -, -, payloads, -⟩ := write_succeeds done
      rw [sends] at sent
      rw [payloads]
      have bytes := Profiler.toBytes_emitWindow emitAll linked
      by_cases empty : (before.emitWindow .empty emitAll).payload.toBytes = []
      · rw [bytes] at empty
        exact .inl (List.flatMap_eq_nil_iff.mp empty id sent)
      · refine .inr ⟨_, ?_, before.blobs.bytesOf_infix sent⟩
        rw [handedOver_cons_of_filled empty, bytes]
        exact List.mem_cons_self
  | _ => cases sent

end Step

end Operation

/-! ## One flag through a run -/

section Flags

variable (host : Host σ ρ) (operations : List (Operation ρ)) {before : Profiler σ ρ}

/-- What the epoch has after a run it had before and kept, or the run has sent it. -/
theorem drive_has_back (linked : before.sampler.Linked) {id : BlobId}
    (has : (drive host operations before).blobs.has id = true) :
    before.blobs.has id = true ∧ id ∉ collect host (Operation.resets host) operations before ∨
      id ∈ collect host Operation.sends operations before := by
  induction operations generalizing before with
  | nil => exact .inl ⟨has, List.not_mem_nil⟩
  | cons operation rest ih =>
      rw [collect, collect, List.mem_append, List.mem_append]
      rcases ih (operation.evolved host linked).linked has with ⟨had, notReset⟩ | sent
      · rcases (operation.has_step host linked id).mp had with ⟨hadFirst, notResetFirst⟩ | sent
        · exact .inl ⟨hadFirst, fun reset => reset.elim notResetFirst notReset⟩
        · exact .inr (.inl sent)
      · exact .inr (.inr sent)

/-- What the epoch has and no rotation of a run makes due again, the run does not send. -/
theorem drive_has_on (linked : before.sampler.Linked) {id : BlobId}
    (has : before.blobs.has id = true)
    (notReset : id ∉ collect host (Operation.resets host) operations before) :
    (drive host operations before).blobs.has id = true ∧
      id ∉ collect host Operation.sends operations before := by
  induction operations generalizing before with
  | nil => exact ⟨has, List.not_mem_nil⟩
  | cons operation rest ih =>
      rw [collect, List.mem_append, not_or] at notReset
      obtain ⟨still, notSent⟩ := ih (operation.evolved host linked).linked
        ((operation.has_step host linked id).mpr (.inl ⟨has, notReset.1⟩)) notReset.2
      refine ⟨still, ?_⟩
      rw [collect, List.mem_append, not_or]
      refine ⟨fun sent => ?_, notSent⟩
      rw [BlobStore.not_has_of_owes (Operation.owes_of_sends sent)] at has
      cases has

end Flags

/-! ## Runs without a failure -/

section Run

variable (host : Host σ ρ)

/-- The failures of a run, in order. -/
def failures : List (Operation ρ) → Profiler σ ρ → List Failure :=
  collect host fun operation before =>
    match (operation.step host before).2 with
    | .ok () => []
    | .error cause => [cause]

/-- What a run leaves if no operation of it fails, or else the first failure. -/
def run (operations : List (Operation ρ)) (before : Profiler σ ρ) :
    Except Failure (Profiler σ ρ) :=
  match failures host operations before with
  | [] => .ok (drive host operations before)
  | cause :: _ => .error cause

variable {host} {operations : List (Operation ρ)} {before after : Profiler σ ρ}

theorem run_ok_iff :
    run host operations before = .ok after ↔
      failures host operations before = [] ∧ drive host operations before = after := by
  rw [run]
  cases failures host operations before with
  | nil => simp
  | cons cause rest => simp

theorem run_cons_ok {operation : Operation ρ} :
    run host (operation :: operations) before = .ok after ↔
      ∃ next, operation.step host before = (next, .ok ()) ∧
        run host operations next = .ok after := by
  rw [run_ok_iff, failures, collect, List.append_eq_nil_iff, drive]
  cases operation.step host before with
  | mk next result =>
      cases result with
      | error cause => simp
      | ok _ =>
          constructor
          · rintro ⟨⟨-, none⟩, same⟩
            exact ⟨next, rfl, run_ok_iff.mpr ⟨none, same⟩⟩
          · rintro ⟨_, same, rest⟩
            cases same
            obtain ⟨none, same⟩ := run_ok_iff.mp rest
            exact ⟨⟨rfl, none⟩, same⟩

theorem run_append_ok {more : List (Operation ρ)} :
    run host (operations ++ more) before = .ok after ↔
      ∃ between, run host operations before = .ok between ∧
        run host more between = .ok after := by
  simp only [run_ok_iff, failures, collect_append, drive_append, List.append_eq_nil_iff]
  constructor
  · rintro ⟨⟨first, second⟩, same⟩
    exact ⟨_, ⟨first, rfl⟩, second, same⟩
  · rintro ⟨_, ⟨first, rfl⟩, second, same⟩
    exact ⟨⟨first, second⟩, same⟩

theorem run_linked (done : run host operations before = .ok after)
    (linked : before.sampler.Linked) : after.sampler.Linked := by
  rw [← (run_ok_iff.mp done).2]
  exact drive_linked host operations linked

theorem run_blobs (done : run host operations before = .ok after)
    (linked : before.sampler.Linked) : before.blobs.Keeps after.blobs := by
  rw [← (run_ok_iff.mp done).2]
  exact drive_blobs host operations linked

/-- A sink that keeps what it accepts has kept the payloads of the run. -/
theorem run_kept {kept : σ → List Bytes} (keeps : host.sink.Keeps kept)
    (done : run host operations before = .ok after) :
    kept after.sink = kept before.sink ++ (commits host operations before).map (·.payload) := by
  induction operations generalizing before with
  | nil =>
      rw [← (run_ok_iff.mp done).2]
      exact (List.append_nil _).symm
  | cons operation rest ih =>
      obtain ⟨next, one, done⟩ := run_cons_ok.mp done
      rw [ih done, operation.kept_step keeps one, commits, collect, List.map_append, one,
        List.append_assoc]

/-- The bytes of a blob that the run sends are in one of its payloads. -/
theorem run_reaches (done : run host operations before = .ok after)
    (linked : before.sampler.Linked) {id : BlobId}
    (sent : id ∈ collect host Operation.sends operations before) :
    Reached ((commits host operations before).map (·.payload)) (after.blobs.bytesOf id) := by
  induction operations generalizing before with
  | nil => cases sent
  | cons operation rest ih =>
      obtain ⟨next, one, later⟩ := run_cons_ok.mp done
      rw [collect, one, List.mem_append] at sent
      rw [commits, collect, one, List.map_append]
      rcases sent with sent | sent
      · obtain ⟨blob, present, -⟩ := BlobStore.owes_iff.mp (Operation.owes_of_sends sent)
        obtain ⟨written, kept⟩ := run_blobs done linked id blob present
        have reached := Operation.reaches_step linked one sent
        rw [BlobStore.bytesOf_eq present] at reached
        rw [BlobStore.bytesOf_eq kept]
        exact reached.mono (List.subset_append_left _ _)
      · have moved := (operation.evolved host linked).linked
        rw [one] at moved
        exact (ih later moved sent).mono (List.subset_append_right _ _)

end Run

end LeakRecorder
