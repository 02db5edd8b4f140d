/-
# LeakRecorder.Proofs.Commits — the payloads that a run gets accepted

What a sink's state says of the payloads that it has accepted may be anything: that
it keeps them, that a file holds their frames. If every operation of the sink
respects it (`Sink.Tracks`), a run does, whatever fails on the way
(`drive_reflects`): what was accepted before a refusal counts, and a rotation that
starts a chunk writes nothing.

`commits` lists the accepted payloads of a run in order, each with the write that it
is from and the state in which that write began. Every other operation hands nothing
over (`Operation.idles_step`).
-/
import LeakRecorder.Proofs.EpochStart
import LeakRecorder.Proofs.Refusal

set_option autoImplicit false

namespace LeakRecorder

/-! ## What a sink's state says of the payloads that it has accepted -/

namespace Sink

variable {σ : Type}

/-- A statement about the accepted payloads and the state stays true whatever is asked of the
sink. -/
structure Tracks (sink : Sink σ) (Reflects : List Bytes → σ → Prop) : Prop where
  accepts : ∀ {payloads state payload after}, Reflects payloads state →
    sink.write state payload = (after, .ok ()) → Reflects (payloads ++ [payload]) after
  refuses : ∀ {payloads state payload after cause}, Reflects payloads state →
    sink.write state payload = (after, .error cause) → Reflects payloads after
  flush : ∀ {payloads state}, Reflects payloads state → Reflects payloads (sink.flush state).1
  rotate : ∀ {payloads state}, Reflects payloads state → Reflects payloads (sink.rotate state).1

/-- What can come of a sink that is handed nothing. -/
inductive Idles (sink : Sink σ) (state : σ) : σ → Prop
  | same : Idles sink state state
  | flush : Idles sink state (sink.flush state).1
  | rotate : Idles sink state (sink.rotate state).1

variable {sink : Sink σ} {Reflects : List Bytes → σ → Prop}

/-- Over a noting sink the statement is one about the state and what is noted. -/
theorem Tracks.noting (tracks : sink.Tracks Reflects) {before : List Bytes}
    {state : σ × List Bytes} (reflects : Reflects (before ++ state.2) state.1) (payload : Bytes) :
    Reflects (before ++ (sink.noting.write state payload).1.2)
      (sink.noting.write state payload).1.1 := by
  cases written : sink.write state.1 payload with
  | mk after result =>
      cases result with
      | ok _ =>
          simp only [Sink.noting, written]
          rw [← List.append_assoc]
          exact tracks.accepts reflects written
      | error cause =>
          simp only [Sink.noting, written]
          exact tracks.refuses reflects written

end Sink

theorem commitAll_keeps {σ : Type} {sink : Sink σ} (Holds : σ → Prop)
    (each : ∀ state payload, Holds state → Holds (sink.write state payload).1)
    (payloads : List Buffer) {state : σ} (holds : Holds state) :
    Holds (commitAll sink payloads state).1 := by
  induction payloads generalizing state with
  | nil => exact holds
  | cons payload rest ih =>
      have next : Holds (payload.commit sink state).1 := by
        by_cases empty : payload.toBytes = []
        · rw [commit_of_empty sink empty]
          exact holds
        · rw [commit_of_filled sink empty]
          exact each state _ holds
      rw [commitAll]
      generalize payload.commit sink state = outcome at next
      obtain ⟨after, result⟩ := outcome
      cases result with
      | ok _ => exact ih next
      | error cause => exact next

variable {σ ρ : Type}

theorem Profiler.reflects_write {host : Host σ ρ} {Reflects : List Bytes → σ → Prop}
    (tracks : host.sink.Tracks Reflects) {payloads : List Bytes} {profiler : Profiler σ ρ}
    (reflects : Reflects payloads profiler.sink) (chains : ReferenceChains) (emitAll : Bool) :
    Reflects (payloads ++ accepted host chains emitAll profiler)
      (write host chains emitAll profiler).1.sink := by
  have start : Reflects (payloads ++ profiler.noting.sink.2) profiler.noting.sink.1 := by
    show Reflects (payloads ++ []) profiler.sink
    rw [List.append_nil]
    exact reflects
  rw [write_noting]
  show Reflects (payloads ++ (writeNoting host chains emitAll profiler).1.sink.2)
    (writeNoting host chains emitAll profiler).1.sink.1
  rw [writeNoting_eq]
  cases reserve profiler.options.passSetSize with
  | error cause => exact start
  | ok _ =>
      cases compose host chains emitAll profiler with
      | error cause => exact start
      | ok composed =>
          have each (state : σ × List Bytes) (payload : Bytes)
              (reflects : Reflects (payloads ++ state.2) state.1) :
              Reflects (payloads ++ (host.sink.noting.write state payload).1.2)
                (host.sink.noting.write state payload).1.1 := tracks.noting reflects payload
          exact commitAll_keeps
            (fun state : σ × List Bytes => Reflects (payloads ++ state.2) state.1) each composed.1
            start

/-! ## The payloads of a run -/

/-- A payload that the sink has accepted, and the write that it is from. -/
structure Commit (σ ρ : Type) where
  /-- The state in which the write began. -/
  before : Profiler σ ρ
  chains : ReferenceChains
  emitAll : Bool
  payload : Bytes

/-- What the sink accepts from an operation, in order. -/
def Operation.commits (host : Host σ ρ) (operation : Operation ρ) (before : Profiler σ ρ) :
    List (Commit σ ρ) :=
  match operation with
  | .write chains emitAll =>
      (before.accepted host chains emitAll).map fun payload =>
        { before, chains, emitAll, payload }
  | _ => []

/-- An operation that is no write hands nothing to the sink. -/
theorem Operation.idles_step (host : Host σ ρ) (operation : Operation ρ) (before : Profiler σ ρ) :
    (∃ chains emitAll, operation = .write chains emitAll) ∨
      operation.commits host before = [] ∧
        host.sink.Idles before.sink (operation.step host before).1.sink := by
  cases operation with
  | write chains emitAll => exact .inl ⟨chains, emitAll, rfl⟩
  | rotate =>
      dsimp only [step]
      rw [Profiler.sink_rotate]
      exact .inr ⟨rfl, .same⟩
  | rotateChunk =>
      dsimp only [step]
      rw [Profiler.sink_rotateChunk]
      exact .inr ⟨rfl, .rotate⟩
  | rotateIfNeeded =>
      dsimp only [step]
      rw [Profiler.rotateIfNeeded]
      split
      · rw [Profiler.sink_rotateChunk]
        exact .inr ⟨rfl, .rotate⟩
      · exact .inr ⟨rfl, .same⟩
  | flush => exact .inr ⟨rfl, .flush⟩
  | threadExit tid =>
      obtain ⟨exited, same⟩ := before.threadExit_eq tid
      dsimp only [step]
      rw [same]
      exact .inr ⟨rfl, .same⟩
  | installTypeSet typeSet =>
      obtain ⟨sampler, same⟩ := before.installTypeSet_eq typeSet
      dsimp only [step]
      rw [same]
      exact .inr ⟨rfl, .same⟩
  | _ => exact .inr ⟨rfl, .same⟩

theorem Operation.reflects_step {host : Host σ ρ} {Reflects : List Bytes → σ → Prop}
    (tracks : host.sink.Tracks Reflects) {payloads : List Bytes} {before : Profiler σ ρ}
    (reflects : Reflects payloads before.sink) (operation : Operation ρ) :
    Reflects (payloads ++ (operation.commits host before).map (·.payload))
      (operation.step host before).1.sink := by
  rcases operation.idles_step host before with ⟨chains, emitAll, rfl⟩ | ⟨none, idles⟩
  · dsimp only [commits, step]
    rw [List.map_map]
    show Reflects (payloads ++ (before.accepted host chains emitAll).map id) _
    rw [List.map_id]
    exact Profiler.reflects_write tracks reflects chains emitAll
  · rw [none, List.map_nil, List.append_nil]
    generalize (operation.step host before).1.sink = sink at idles ⊢
    cases idles with
    | same => exact reflects
    | flush => exact tracks.flush reflects
    | rotate => exact tracks.rotate reflects

/-- What the sink accepts in a run, in order. -/
def commits (host : Host σ ρ) : List (Operation ρ) → Profiler σ ρ → List (Commit σ ρ) :=
  collect host (Operation.commits host)

theorem drive_reflects {host : Host σ ρ} {Reflects : List Bytes → σ → Prop}
    (tracks : host.sink.Tracks Reflects) (operations : List (Operation ρ)) {payloads : List Bytes}
    {before : Profiler σ ρ} (reflects : Reflects payloads before.sink) :
    Reflects (payloads ++ (commits host operations before).map (·.payload))
      (drive host operations before).sink := by
  induction operations generalizing payloads before with
  | nil =>
      show Reflects (payloads ++ []) before.sink
      rw [List.append_nil]
      exact reflects
  | cons operation rest ih =>
      have later := ih (operation.reflects_step tracks reflects)
      rw [List.append_assoc, ← List.map_append] at later
      exact later

end LeakRecorder
