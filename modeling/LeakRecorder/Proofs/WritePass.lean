/-
# LeakRecorder.Proofs.WritePass — what a write hands over

A write composes up to three payloads before it commits any: the blobs that are
due, the block of pending traces, the reference chains. `Profiler.compose` is that
part, which looks at no sink, and `write_eq` splits a write into composing and
committing.

What going through the window leaves is said in terms of the samples that the
write visits: which blobs it sends, in which order (`toBytes_emitWindow`), which
flags it sets (`get?_afterWindow`), which traces it finds pending
(`contains_emitWindow`).

A run of commits that succeeded has handed over every payload that is not empty
(`commitAll_ok`); what follows for the sink depends on the sink alone
(`Sink.Took.takeAll_eq`, `Sink.Took.kept_eq`).
-/
import LeakRecorder.Proofs.Pending
import Mathlib.Data.List.Dedup

set_option autoImplicit false

namespace LeakRecorder

/-! ## Committing -/

namespace Sink

variable {σ : Type}

/-- The state of a sink that was handed payloads one after the other. -/
def takeAll (sink : Sink σ) (state : σ) (payloads : List Bytes) : σ :=
  payloads.foldl (fun state payload => (sink.write state payload).1) state

/-- From this state on the sink accepts whatever it is handed. -/
def Accepts (sink : Sink σ) (state : σ) : Prop :=
  ∀ payloads payload, (sink.write (sink.takeAll state payloads) payload).2 = .ok ()

theorem Accepts.next {sink : Sink σ} {state : σ} (accepts : sink.Accepts state) (first : Bytes) :
    sink.Accepts (sink.write state first).1 :=
  fun payloads => accepts (first :: payloads)

/-- The sink accepted the payloads one after the other and came to the second state. -/
def Took (sink : Sink σ) : List Bytes → σ → σ → Prop
  | [], state, after => after = state
  | payload :: rest, state, after =>
      ∃ next, sink.write state payload = (next, .ok ()) ∧ sink.Took rest next after

theorem Took.takeAll_eq {sink : Sink σ} {payloads : List Bytes} {state after : σ}
    (took : sink.Took payloads state after) : after = sink.takeAll state payloads := by
  induction payloads generalizing state with
  | nil => exact took
  | cons payload rest ih =>
      obtain ⟨next, taken, later⟩ := took
      rw [ih later, takeAll, takeAll, List.foldl_cons, taken]

/-- A memory that no failure is scheduled for keeps every payload. -/
theorem takeAll_memory {memory : MemorySink} (sound : memory.failingWrite = 0)
    (payloads : List Bytes) :
    (Sink.memory.takeAll memory payloads).payloads = memory.payloads ++ payloads ∧
      (Sink.memory.takeAll memory payloads).failingWrite = 0 := by
  induction payloads generalizing memory with
  | nil => simp [takeAll, sound]
  | cons payload rest ih =>
      have kept : (Sink.memory.write memory payload).1.failingWrite = 0 := by
        simp [Sink.memory, MemorySink.write, sound]
      obtain ⟨payloads, still⟩ := ih kept
      refine ⟨?_, still⟩
      show (Sink.memory.takeAll (Sink.memory.write memory payload).1 rest).payloads = _
      rw [payloads]
      simp [Sink.memory, MemorySink.write, sound]

theorem accepts_memory {memory : MemorySink} (sound : memory.failingWrite = 0) :
    Sink.memory.Accepts memory := by
  intro payloads payload
  have still := (takeAll_memory sound payloads).2
  show (MemorySink.write (Sink.memory.takeAll memory payloads) payload).2 = .ok ()
  rw [MemorySink.write, if_neg (by rw [still]; decide)]

/-- The sink keeps every payload that it accepts, and `kept` is what it has kept. -/
structure Keeps (sink : Sink σ) (kept : σ → List Bytes) : Prop where
  write : ∀ state payload after, sink.write state payload = (after, .ok ()) →
    kept after = kept state ++ [payload]
  flush : ∀ state, kept (sink.flush state).1 = kept state
  rotate : ∀ state, kept (sink.rotate state).1 = kept state

theorem Took.kept_eq {sink : Sink σ} {kept : σ → List Bytes} (keeps : sink.Keeps kept)
    {payloads : List Bytes} {state after : σ} (took : sink.Took payloads state after) :
    kept after = kept state ++ payloads := by
  induction payloads generalizing state with
  | nil =>
      cases took
      exact (List.append_nil _).symm
  | cons payload rest ih =>
      obtain ⟨next, taken, later⟩ := took
      rw [ih later, keeps.write state payload next taken, List.append_assoc]
      rfl

theorem keeps_memory : Sink.memory.Keeps fun memory => memory.payloads.toList where
  write := by
    intro memory payload after taken
    change MemorySink.write memory payload = (after, .ok ()) at taken
    rw [MemorySink.write] at taken
    split at taken
    · cases taken
    · cases taken
      exact Array.toList_push
  flush := fun _ => rfl
  rotate := by
    intro memory
    show (MemorySink.rotate memory).1.payloads.toList = memory.payloads.toList
    rw [MemorySink.rotate]
    split <;> rfl

end Sink

/-- The payloads that are handed over: an empty one is not. -/
def handedOver (payloads : List Buffer) : List Bytes :=
  (payloads.map Buffer.toBytes).filter (· ≠ [])

/-- The bytes are in one of the payloads; no bytes always are. -/
def Reached (payloads : List Bytes) (bytes : Bytes) : Prop :=
  bytes = [] ∨ ∃ payload ∈ payloads, bytes <:+: payload

theorem Reached.mono {payloads more : List Bytes} {bytes : Bytes} (reached : Reached payloads bytes)
    (all : payloads ⊆ more) : Reached more bytes := by
  rcases reached with empty | ⟨payload, member, within⟩
  · exact .inl empty
  · exact .inr ⟨payload, all member, within⟩

section Commit

variable {σ : Type} (sink : Sink σ)

theorem handedOver_cons_of_empty {payload : Buffer} (empty : payload.toBytes = [])
    (rest : List Buffer) : handedOver (payload :: rest) = handedOver rest := by
  simp [handedOver, empty]

theorem handedOver_cons_of_filled {payload : Buffer} (filled : payload.toBytes ≠ [])
    (rest : List Buffer) : handedOver (payload :: rest) = payload.toBytes :: handedOver rest := by
  simp [handedOver, filled]

theorem commit_of_empty {payload : Buffer} (empty : payload.toBytes = []) (state : σ) :
    payload.commit sink state = (state, .ok ()) := by
  rw [Buffer.commit, if_pos ((Buffer.isEmpty_iff payload).mpr empty)]

theorem commit_of_filled {payload : Buffer} (filled : payload.toBytes ≠ []) (state : σ) :
    payload.commit sink state = sink.write state payload.toBytes := by
  rw [Buffer.commit, if_neg (fun empty => filled ((Buffer.isEmpty_iff payload).mp empty))]

/-- A run of commits that succeeded has handed every payload over. -/
theorem commitAll_ok {payloads : List Buffer} {state after : σ}
    (done : commitAll sink payloads state = (after, .ok ())) :
    sink.Took (handedOver payloads) state after := by
  induction payloads generalizing state with
  | nil =>
      cases done
      rfl
  | cons payload rest ih =>
      rw [commitAll] at done
      by_cases empty : payload.toBytes = []
      · rw [commit_of_empty sink empty] at done
        rw [handedOver_cons_of_empty empty]
        exact ih done
      · rw [commit_of_filled sink empty] at done
        rw [handedOver_cons_of_filled empty]
        cases taken : sink.write state payload.toBytes with
        | mk next result =>
            rw [taken] at done
            cases result with
            | error cause => cases done
            | ok _ => exact ⟨next, taken, ih done⟩

theorem commitAll_of_accepts {state : σ} (accepts : sink.Accepts state) (payloads : List Buffer) :
    ∃ after, commitAll sink payloads state = (after, .ok ()) := by
  induction payloads generalizing state with
  | nil => exact ⟨state, rfl⟩
  | cons payload rest ih =>
      rw [commitAll]
      by_cases empty : payload.toBytes = []
      · rw [commit_of_empty sink empty]
        exact ih accepts
      · rw [commit_of_filled sink empty]
        have taken : (sink.write state payload.toBytes).2 = .ok () := accepts [] payload.toBytes
        have after := accepts.next payload.toBytes
        generalize sink.write state payload.toBytes = outcome at taken after
        obtain ⟨next, result⟩ := outcome
        subst taken
        exact ih after

end Commit

/-! ## Going through the window -/

namespace Profiler

variable {σ ρ : Type}

section Window

variable (profiler : Profiler σ ρ) (emitAll : Bool)

/-- The blobs that a write offers, sample by sample. -/
def offers : List BlobId :=
  (profiler.sampler.visited emitAll).flatMap (Sample.offered profiler.exited)

/-- The blobs that a write sends: of those it offers, the ones the epoch does not have, each at
its first occurrence. -/
def sends : List BlobId := profiler.blobs.due (profiler.offers emitAll)

/-- The traces that a write finds pending, each once. -/
def pendingIds : List TraceId :=
  ((profiler.sampler.visited emitAll).filterMap Sample.pendingTrace?).dedup

/-- The profiler once a write has gone through its window. -/
def afterWindow : Profiler σ ρ :=
  { profiler with blobs := (profiler.emitWindow .empty emitAll).blobs }

variable {profiler} (linked : profiler.sampler.Linked)
include linked

theorem emitWindow_eq (pending : IdSet .constant) :
    profiler.emitWindow pending emitAll =
      (profiler.sampler.visited emitAll).foldl (Emission.offer profiler.exited)
        { blobs := profiler.blobs, payload := .empty, pending, stats := .zero } := by
  rw [emitWindow, linked.window_eq]

theorem front_emitWindow :
    (profiler.emitWindow .empty emitAll).front =
      profiler.blobs.offerAll (profiler.offers emitAll) .empty := by
  rw [emitWindow_eq emitAll linked, Emission.front_foldl]
  rfl

/-- The first payload is the bytes of the blobs that the write sends. -/
theorem toBytes_emitWindow :
    (profiler.emitWindow .empty emitAll).payload.toBytes =
      (profiler.sends emitAll).flatMap profiler.blobs.bytesOf := by
  have front := front_emitWindow emitAll linked
  calc (profiler.emitWindow .empty emitAll).payload.toBytes
      = (profiler.blobs.offerAll (profiler.offers emitAll) .empty).2.toBytes := by
        rw [← front]
        rfl
    _ = (profiler.sends emitAll).flatMap profiler.blobs.bytesOf := by
        rw [BlobStore.toBytes_offerAll]
        rfl

/-- The window sets the flag of every blob that is offered, and changes no other blob. -/
theorem get?_afterWindow (id : BlobId) :
    (profiler.afterWindow emitAll).blobs.get? id =
      (profiler.blobs.get? id).map fun blob =>
        if id ∈ profiler.offers emitAll then { blob with written := true } else blob := by
  have front := front_emitWindow emitAll linked
  rw [← BlobStore.get?_offerAll profiler.blobs (profiler.offers emitAll) .empty, ← front]
  rfl

theorem contains_emitWindow (id : TraceId) :
    (profiler.emitWindow .empty emitAll).pending.contains id = true ↔
      id ∈ profiler.pendingIds emitAll := by
  rw [emitWindow_eq emitAll linked, Emission.pending_foldl, pendingIds, List.mem_dedup]
  simp

theorem size_emitWindow :
    (profiler.emitWindow .empty emitAll).pending.size = (profiler.pendingIds emitAll).length :=
  IdSet.size_eq_length (List.nodup_dedup _) (contains_emitWindow emitAll linked)

theorem isEmpty_emitWindow :
    (profiler.emitWindow .empty emitAll).pending.isEmpty = true ↔
      profiler.pendingIds emitAll = [] := by
  rw [← List.length_eq_zero_iff, ← size_emitWindow emitAll linked, IdSet.isEmpty,
    Std.TreeSet.isEmpty_eq_size_eq_zero, beq_iff_eq]
  rfl

theorem samples_emitWindow :
    (profiler.emitWindow .empty emitAll).stats.samples =
      (profiler.sampler.visited emitAll).length := by
  rw [emitWindow_eq emitAll linked, Emission.samples_foldl]
  exact Nat.zero_add _

theorem blobsWritten_emitWindow :
    (profiler.emitWindow .empty emitAll).stats.blobsWritten = (profiler.sends emitAll).length := by
  rw [emitWindow_eq emitAll linked, Emission.blobsWritten_foldl]
  exact Nat.zero_add _

end Window

/-! ## Composing -/

/-- The block of the traces that a write finds pending; no block when there are none. -/
def pendingPart (source : TraceSource ρ) (emitAll : Bool) (profiler : Profiler σ ρ) :
    Except Failure (Buffer × Nat) :=
  let pending := (profiler.emitWindow .empty emitAll).pending
  if pending.isEmpty then .ok (.empty, 0) else pendingBlock pending (source.visit profiler.traces)

end Profiler

/-- The payload of the chains; an empty one when there are none. -/
def ReferenceChains.part (chains : ReferenceChains) : Buffer × Except Failure Nat :=
  if chains.isEmpty then (.empty, .ok 0) else chains.write .empty

namespace Profiler

variable {σ ρ : Type}

/-- The payloads of a write and what it counts, or why they cannot be composed. -/
def compose (host : Host σ ρ) (chains : ReferenceChains) (emitAll : Bool)
    (profiler : Profiler σ ρ) : Except Failure (List Buffer × WriteStats) :=
  let state := profiler.emitWindow .empty emitAll
  match pendingPart host.source emitAll profiler with
  | .error cause => .error cause
  | .ok (stackTraces, dedupRecords) =>
      match chains.part with
      | (_, .error cause) => .error cause
      | (edges, .ok chainRecords) =>
          .ok ([state.payload, stackTraces, edges],
            { state.stats with pending := state.pending.size, dedupRecords, chainRecords })

section Compose

variable {host : Host σ ρ} {chains : ReferenceChains} {emitAll : Bool} {profiler : Profiler σ ρ}

/-- A write composes, and then commits. -/
theorem write_eq :
    write host chains emitAll profiler =
      match reserve profiler.options.passSetSize with
      | .error cause => (profiler, .error cause)
      | .ok () =>
          match compose host chains emitAll profiler with
          | .error cause => (profiler.afterWindow emitAll, .error cause)
          | .ok (payloads, stats) =>
              let (sink, result) := commitAll host.sink payloads profiler.sink
              ({ profiler.afterWindow emitAll with sink },
                (result.mapError .io).map fun _ => stats) := by
  rw [write, IdSet.withCapacity]
  cases reserve profiler.options.passSetSize with
  | error cause => rfl
  | ok _ =>
      rw [compose, pendingPart, ReferenceChains.part]
      dsimp only [bind, Except.bind, pure, Except.pure]
      generalize (if (profiler.emitWindow .empty emitAll).pending.isEmpty = true then _ else _ :
        Except Failure (Buffer × Nat)) = block
      cases block with
      | error cause => rfl
      | ok built =>
          dsimp only
          generalize (if chains.isEmpty = true then _ else _ : Buffer × Except Failure Nat) = part
          obtain ⟨edges, written⟩ := part
          cases written with
          | error cause => rfl
          | ok records => rfl

theorem compose_ok_iff {payloads : List Buffer} {stats : WriteStats} :
    compose host chains emitAll profiler = .ok (payloads, stats) ↔
      ∃ block dedupRecords edges chainRecords,
        pendingPart host.source emitAll profiler = .ok (block, dedupRecords) ∧
        chains.part = (edges, .ok chainRecords) ∧
        payloads = [(profiler.emitWindow .empty emitAll).payload, block, edges] ∧
        stats = { (profiler.emitWindow .empty emitAll).stats with
          pending := (profiler.emitWindow .empty emitAll).pending.size
          dedupRecords, chainRecords } := by
  rw [compose]
  cases pendingPart host.source emitAll profiler with
  | error cause => simp
  | ok built =>
      obtain ⟨block, dedupRecords⟩ := built
      generalize chains.part = part
      obtain ⟨edges, written⟩ := part
      cases written with
      | error cause => simp
      | ok chainRecords =>
          constructor
          · intro done
            cases done
            exact ⟨block, dedupRecords, edges, chainRecords, rfl, rfl, rfl, rfl⟩
          · rintro ⟨_, _, _, _, built, written, rfl, rfl⟩
            cases built
            cases written
            rfl

/-- A write that succeeded has handed over what it composed. -/
theorem write_ok {after : Profiler σ ρ} {stats : WriteStats}
    (done : write host chains emitAll profiler = (after, .ok stats)) :
    ∃ block dedupRecords edges chainRecords,
      pendingPart host.source emitAll profiler = .ok (block, dedupRecords) ∧
      chains.part = (edges, .ok chainRecords) ∧
      commitAll host.sink [(profiler.emitWindow .empty emitAll).payload, block, edges]
        profiler.sink = (after.sink, .ok ()) ∧
      after = { profiler.afterWindow emitAll with sink := after.sink } ∧
      stats = { (profiler.emitWindow .empty emitAll).stats with
        pending := (profiler.emitWindow .empty emitAll).pending.size
        dedupRecords, chainRecords } := by
  rw [write_eq] at done
  cases room : reserve profiler.options.passSetSize with
  | error cause =>
      rw [room] at done
      cases done
  | ok _ =>
      cases composed : compose host chains emitAll profiler with
      | error cause =>
          rw [room, composed] at done
          cases done
      | ok result =>
          obtain ⟨payloads, counted⟩ := result
          obtain ⟨block, dedupRecords, edges, chainRecords, built, written, rfl, rfl⟩ :=
            compose_ok_iff.mp composed
          cases committed : commitAll host.sink
              [(profiler.emitWindow .empty emitAll).payload, block, edges] profiler.sink with
          | mk sink result =>
              rw [room, composed] at done
              dsimp only at done
              rw [committed] at done
              cases result with
              | error cause => cases done
              | ok _ =>
                  cases done
                  exact ⟨block, dedupRecords, edges, chainRecords, built, written, committed, rfl,
                    rfl⟩

end Compose

end Profiler

end LeakRecorder
