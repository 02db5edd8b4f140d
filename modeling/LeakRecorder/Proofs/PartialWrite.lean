/-
# LeakRecorder.Proofs.PartialWrite — what a failed write has committed

A write composes its payloads before it hands over the first, so a failure while
composing leaves the sink as it was. The payloads are then handed over one after
the other, and nothing takes an accepted one back: when the sink refuses a payload,
the ones before it stay in the stream, and the write fails all the same
(`write_failed`).

So a failed write has committed nothing exactly if there was nothing to hand over
yet, or the payload that was refused was the first (`write_commits_nothing_iff`).
The sinks of a recording are among those that the statement is about: they take a
payload whole or stay as they are (`Sink.atomic_file`, `Sink.atomic_rotating`).
-/
import LeakRecorder.Proofs.ChunkFiles
import LeakRecorder.Proofs.Refusal
import LeakRecorder.Sink.File

set_option autoImplicit false

namespace LeakRecorder

variable {σ ρ : Type}

/-! ## Sinks that take a payload whole or not at all -/

namespace Sink

/-- A refusal leaves the sink as it was. -/
def Atomic (sink : Sink σ) : Prop :=
  ∀ state payload after cause, sink.write state payload = (after, .error cause) → after = state

theorem atomic_file : file.Atomic := by
  intro state payload after cause written
  cases encoded : Stream.encodeParts payload with
  | error reason =>
      simp only [file, FileSink.write, encoded, Prod.mk.injEq] at written
      exact written.1.symm
  | ok parts => simp [file, FileSink.write, encoded] at written

theorem atomic_rotating : rotating.Atomic := by
  intro state payload after cause written
  by_cases accepts : state.1.Accepts payload
  · have ok := RotatingSink.write_ok_of_accepts accepts state.2
    have error : (state.1.write state.2 payload).2.2 = .error cause := congrArg Prod.snd written
    rw [ok] at error
    cases error
  · have same := RotatingSink.write_of_not_accepts accepts state.2
    simp only [rotating, same, Prod.mk.injEq] at written
    exact written.1.symm

end Sink

/-! ## The payloads before a refusal -/

/-- A run of commits that failed has handed over the payloads before the one that was refused. -/
theorem commitAll_refused {sink : Sink σ} {payloads : List Buffer} {state : σ}
    {noted : List Bytes} {after : σ × List Bytes} {cause : IoError}
    (failed : commitAll sink.noting payloads (state, noted) = (after, .error cause)) :
    ∃ taken refused rest last, handedOver payloads = taken ++ refused :: rest ∧
      after.2 = noted ++ taken ∧ sink.Took taken state last ∧
      sink.write last refused = (after.1, .error cause) := by
  induction payloads generalizing state noted with
  | nil => cases failed
  | cons payload rest ih =>
      rw [commitAll] at failed
      by_cases empty : payload.toBytes = []
      · rw [commit_of_empty sink.noting empty] at failed
        rw [handedOver_cons_of_empty empty]
        exact ih failed
      · rw [commit_of_filled sink.noting empty] at failed
        rw [handedOver_cons_of_filled empty]
        cases written : sink.write state payload.toBytes with
        | mk next result =>
            simp only [Sink.noting, written] at failed
            cases result with
            | error refusal =>
                cases failed
                exact ⟨[], payload.toBytes, handedOver rest, state, rfl, (List.append_nil _).symm,
                  rfl, written⟩
            | ok _ =>
                obtain ⟨taken, refused, others, last, split, noting, took, refusal⟩ := ih failed
                refine ⟨payload.toBytes :: taken, refused, others, last, ?_, ?_, ?_, refusal⟩
                · rw [split]
                  rfl
                · rw [noting, List.append_assoc]
                  rfl
                · exact ⟨next, written, took⟩

namespace Profiler

section Write

variable (host : Host σ ρ) (chains : ReferenceChains) (emitAll : Bool) (profiler : Profiler σ ρ)

/-- The payloads that a write hands over as long as none is refused; none when it fails before it
hands over the first. -/
def composed : List Bytes :=
  match reserve profiler.options.passSetSize, compose host chains emitAll profiler with
  | .ok (), .ok (payloads, _) => handedOver payloads
  | _, _ => []

variable {host chains emitAll} {before after : Profiler σ ρ} {cause : Failure}

/-- A failed write had nothing to hand over, or its sink has refused a payload after accepting the
ones before it. -/
theorem write_failed (failed : write host chains emitAll before = (after, .error cause)) :
    (composed host chains emitAll before = [] ∧ accepted host chains emitAll before = [] ∧
        after.sink = before.sink) ∨
      ∃ refused rest last refusal,
        composed host chains emitAll before =
          accepted host chains emitAll before ++ refused :: rest ∧
        host.sink.Took (accepted host chains emitAll before) before.sink last ∧
        host.sink.write last refused = (after.sink, .error refusal) := by
  rw [write_noting, Prod.mk.injEq] at failed
  obtain ⟨left, result⟩ := failed
  subst left
  rw [accepted, composed]
  rw [writeNoting_eq] at result ⊢
  cases room : reserve before.options.passSetSize with
  | error refusal => exact .inl ⟨rfl, rfl, rfl⟩
  | ok _ =>
      cases made : compose host chains emitAll before with
      | error refusal => exact .inl ⟨rfl, rfl, rfl⟩
      | ok pair =>
          obtain ⟨payloads, stats⟩ := pair
          cases committed : commitAll host.sink.noting payloads (before.sink, []) with
          | mk sink outcome =>
              simp only [room, made, committed] at result
              cases outcome with
              | ok _ => cases result
              | error refusal =>
                  obtain ⟨taken, refused, rest, last, split, noting, took, written⟩ :=
                    commitAll_refused committed
                  have same : sink.2 = taken := noting
                  subst same
                  simp only [committed]
                  exact .inr ⟨refused, rest, last, refusal, split, took, written⟩

/-- **What a failed write has committed.** The sink has the payloads before the one that it has
refused, and nothing of that one or of those behind it. So nothing has been committed exactly if
the write had nothing to hand over when it failed, or the refused payload was the first. -/
theorem write_commits_nothing_iff (atomic : host.sink.Atomic)
    (failed : write host chains emitAll before = (after, .error cause)) :
    after.sink = host.sink.takeAll before.sink (accepted host chains emitAll before) ∧
      (∃ unsent, composed host chains emitAll before =
        accepted host chains emitAll before ++ unsent ∧
        (unsent = [] → composed host chains emitAll before = [])) ∧
      (accepted host chains emitAll before = [] ↔
        ∀ first ∈ (composed host chains emitAll before).head?,
          ∃ refusal, host.sink.write before.sink first = (before.sink, .error refusal)) := by
  rcases write_failed failed with
    ⟨nothing, none, same⟩ | ⟨refused, rest, last, refusal, split, took, written⟩
  · rw [nothing, none]
    exact ⟨same, ⟨[], rfl, fun _ => rfl⟩, by simp⟩
  · have stays : after.sink = last := atomic _ _ _ _ written
    rw [stays] at written ⊢
    refine ⟨took.takeAll_eq, ⟨refused :: rest, split, by simp⟩, ?_⟩
    rw [split]
    cases sent : accepted host chains emitAll before with
    | nil =>
        rw [sent] at took
        have start : last = before.sink := took
        rw [start] at written
        simpa using ⟨refusal, written⟩
    | cons first more =>
        -- The first payload was accepted, so it was not refused.
        rw [sent] at took
        obtain ⟨next, accepts, -⟩ := took
        simp [accepts]

end Write

end Profiler

/-- Keeps the payloads that are shorter than a limit and refuses the others. -/
def Sink.shorterThan (limit : Nat) : Sink (List Bytes) where
  write kept payload :=
    if payload.length < limit then (kept ++ [payload], .ok ())
    else (kept, .error .payloadTooLarge)
  flush kept := (kept, .ok ())
  needsRotation _ := false
  rotate kept := (kept, .ok ())

theorem Sink.atomic_shorterThan (limit : Nat) : (Sink.shorterThan limit).Atomic := by
  intro state payload after cause written
  simp only [shorterThan] at written
  split at written
  · cases written
  · cases written
    rfl

namespace Profiler

/-- One live sample whose thread's blob is one byte and whose pending trace is recorded. -/
def twoPayloads : Profiler (List Bytes) TraceLog :=
  let owed : Trace := { id := ⟨5⟩, hash := 9, reachedRoot := true, frames := [], written := false }
  { oneDue 0 (TraceLog.empty.record owed) with sink := [] }

/-- The sink refuses the blob, and so has nothing of the write. -/
theorem write_commits_nothing_firstRefused :
    let host : Host (List Bytes) TraceLog := ⟨.shorterThan 1, .log, Retention.unwritten⟩
    ∃ after, write host (.ofEdges .empty) true twoPayloads =
        (after, .error (.io .payloadTooLarge)) ∧
      after.sink = [] ∧ accepted host (.ofEdges .empty) true twoPayloads = [] := by
  have nothing := @write_commits_nothing_iff _ _ ⟨.shorterThan 1, .log, Retention.unwritten⟩
    (.ofEdges .empty) true twoPayloads _ (.io .payloadTooLarge) (Sink.atomic_shorterThan 1) rfl
  have first : (composed ⟨.shorterThan 1, .log, Retention.unwritten⟩ (.ofEdges .empty) true
      twoPayloads).head? = some [1] := by decide
  have none := nothing.2.2.mpr (by
    rw [first]
    rintro _ ⟨⟩
    exact ⟨.payloadTooLarge, rfl⟩)
  refine ⟨_, rfl, ?_, none⟩
  rw [none] at nothing
  exact nothing.1

/-- The sink takes the blob and refuses the block of the pending trace: the write fails, and the
blob stays in the stream. -/
theorem failed_write_commits_blob :
    let host : Host (List Bytes) TraceLog := ⟨.shorterThan 10, .log, Retention.unwritten⟩
    let outcome := write host (.ofEdges .empty) true twoPayloads
    host.sink.Atomic ∧ outcome.2 = .error (.io .payloadTooLarge) ∧ outcome.1.sink = [[1]] ∧
      accepted host (.ofEdges .empty) true twoPayloads = [[1]] :=
  ⟨Sink.atomic_shorterThan 10, by decide, by decide, by decide⟩

end Profiler

end LeakRecorder
