/-
# LeakRecorder.Proofs.Refusal — what a failed write still owes

A write sets the `written` flag of a blob when it appends the blob to a payload,
and nothing resets the flag when the payload never reaches the sink. Whether a
failed write still owes the blobs that it did not emit therefore depends on how
far it came.

To say what reached the sink, `Sink.noting` puts a list of the accepted payloads
beside the state of any sink; the write behaves over it as it does over the sink
alone (`write_noting`). `owesUnsent_iff` is the exact condition: the flags
are right after a failure if no set for the pending traces could be made, if the
blobs that were due have no bytes, or if some payload was accepted, which is then
the one with the blobs; in every other failure they are wrong.
-/
import LeakRecorder.Proofs.WritePass

set_option autoImplicit false

namespace LeakRecorder

/-! ## A sink that notes what it accepts -/

/-- The sink, with the payloads that it has accepted beside its state. -/
def Sink.noting {σ : Type} (sink : Sink σ) : Sink (σ × List Bytes) where
  write state payload :=
    match sink.write state.1 payload with
    | (after, .ok ()) => ((after, state.2 ++ [payload]), .ok ())
    | (after, .error cause) => ((after, state.2), .error cause)
  flush state := ((sink.flush state.1).map (·, state.2) id)
  needsRotation state := sink.needsRotation state.1
  rotate state := ((sink.rotate state.1).map (·, state.2) id)

theorem commit_noting {σ : Type} (sink : Sink σ) (payload : Buffer) (state : σ)
    (noted : List Bytes) :
    ∃ accepted, payload.commit sink.noting (state, noted) =
        (((payload.commit sink state).1, noted ++ accepted), (payload.commit sink state).2) ∧
      ((payload.commit sink state).2 = .ok () → accepted = handedOver [payload]) ∧
      ((payload.commit sink state).2 ≠ .ok () → accepted = []) := by
  by_cases empty : payload.toBytes = []
  · refine ⟨[], ?_, ?_, ?_⟩
    · rw [commit_of_empty sink empty, commit_of_empty sink.noting empty, List.append_nil]
    · intro _
      exact (handedOver_cons_of_empty empty []).symm
    · intro _
      rfl
  · rw [commit_of_filled sink empty, commit_of_filled sink.noting empty]
    cases taken : sink.write state payload.toBytes with
    | mk after result =>
        cases result with
        | ok _ =>
            refine ⟨[payload.toBytes], ?_, ?_, ?_⟩
            · simp only [Sink.noting, taken]
            · intro _
              exact (handedOver_cons_of_filled empty []).symm
            · intro refused
              exact absurd rfl refused
        | error cause =>
            refine ⟨[], ?_, ?_, ?_⟩
            · simp only [Sink.noting, taken, List.append_nil]
            · intro done
              cases done
            · intro _
              rfl

/-- Committing over a noting sink is committing, and what is noted is a front of what was to be
handed over, and all of it where nothing is refused. -/
theorem commitAll_noting {σ : Type} (sink : Sink σ) (payloads : List Buffer) (state : σ)
    (noted : List Bytes) :
    ∃ accepted, commitAll sink.noting payloads (state, noted) =
        (((commitAll sink payloads state).1, noted ++ accepted),
          (commitAll sink payloads state).2) ∧
      accepted <+: handedOver payloads ∧
      ((commitAll sink payloads state).2 = .ok () → accepted = handedOver payloads) := by
  induction payloads generalizing state noted with
  | nil => exact ⟨[], by rw [List.append_nil]; rfl, List.prefix_refl _, fun _ => rfl⟩
  | cons payload rest ih =>
      obtain ⟨accepted, first, whole, none⟩ := commit_noting sink payload state noted
      have parts : handedOver (payload :: rest) = handedOver [payload] ++ handedOver rest := by
        simp [handedOver, List.filter_cons]
        split <;> rfl
      rw [commitAll, commitAll, first, parts]
      generalize payload.commit sink state = outcome at whole none
      obtain ⟨after, result⟩ := outcome
      cases result with
      | ok _ =>
          obtain ⟨more, later, front, all⟩ := ih after (noted ++ accepted)
          refine ⟨accepted ++ more, ?_, ?_, ?_⟩
          · rw [← List.append_assoc]
            exact later
          · rw [whole rfl]
            exact (List.prefix_append_right_inj _).mpr front
          · intro done
            rw [whole rfl, all done]
      | error cause =>
          refine ⟨accepted, rfl, ?_, ?_⟩
          · rw [none (by simp)]
            exact List.nil_prefix
          · intro done
            cases done

namespace Profiler

variable {σ ρ : Type}

/-- The profiler over a noting sink that has noted nothing. -/
def noting (profiler : Profiler σ ρ) : Profiler (σ × List Bytes) ρ :=
  { profiler with sink := (profiler.sink, []) }

/-- The profiler without what its sink has noted. -/
def unnoted (profiler : Profiler (σ × List Bytes) ρ) : Profiler σ ρ :=
  { profiler with sink := profiler.sink.1 }

section Noting

variable (host : Host σ ρ) (chains : ReferenceChains) (emitAll : Bool) (profiler : Profiler σ ρ)

/-- A write over a noting sink. -/
def writeNoting : Profiler (σ × List Bytes) ρ × Except Failure WriteStats :=
  write { host with sink := host.sink.noting } chains emitAll profiler.noting

/-- The payloads that the sink accepts from a write. -/
def accepted : List Bytes := (writeNoting host chains emitAll profiler).1.sink.2

/-- Composing looks at no sink, so only the commits note anything. -/
theorem writeNoting_eq :
    writeNoting host chains emitAll profiler =
      match reserve profiler.options.passSetSize with
      | .error cause => (profiler.noting, .error cause)
      | .ok () =>
          match compose host chains emitAll profiler with
          | .error cause => (profiler.noting.afterWindow emitAll, .error cause)
          | .ok (payloads, stats) =>
              let (sink, result) := commitAll host.sink.noting payloads (profiler.sink, [])
              ({ profiler.noting.afterWindow emitAll with sink },
                (result.mapError .io).map fun _ => stats) :=
  write_eq

/-- Noting what the sink accepts changes nothing else. -/
theorem write_noting :
    write host chains emitAll profiler =
      ((writeNoting host chains emitAll profiler).1.unnoted,
        (writeNoting host chains emitAll profiler).2) := by
  rw [writeNoting_eq, write_eq]
  cases reserve profiler.options.passSetSize with
  | error cause => rfl
  | ok _ =>
      cases compose host chains emitAll profiler with
      | error cause => rfl
      | ok result =>
          obtain ⟨noted, committed, -, -⟩ := commitAll_noting host.sink result.1 profiler.sink []
          dsimp only
          rw [committed]
          rfl

/-- What the sink accepts is a front of the composed payloads. -/
theorem accepted_isPrefix {payloads : List Buffer} {stats : WriteStats}
    (composed : compose host chains emitAll profiler = .ok (payloads, stats)) :
    accepted host chains emitAll profiler <+: handedOver payloads := by
  rw [accepted, writeNoting_eq, composed]
  cases reserve profiler.options.passSetSize with
  | error cause => exact List.nil_prefix
  | ok _ =>
      obtain ⟨noted, committed, front, -⟩ := commitAll_noting host.sink payloads profiler.sink []
      dsimp only
      rw [committed]
      exact front

/-- A write that succeeds gets everything accepted that it has composed. -/
theorem accepted_of_ok {payloads : List Buffer} {stats counted : WriteStats} {after : Profiler σ ρ}
    (composed : compose host chains emitAll profiler = .ok (payloads, counted))
    (done : write host chains emitAll profiler = (after, .ok stats)) :
    accepted host chains emitAll profiler = handedOver payloads := by
  rw [write_eq, composed] at done
  rw [accepted, writeNoting_eq, composed]
  cases room : reserve profiler.options.passSetSize with
  | error cause =>
      rw [room] at done
      cases done
  | ok _ =>
      obtain ⟨noted, committed, -, all⟩ := commitAll_noting host.sink payloads profiler.sink []
      rw [room] at done
      dsimp only at done ⊢
      rw [committed]
      refine all ?_
      cases result : (commitAll host.sink payloads profiler.sink).2 with
      | error cause =>
          rw [result] at done
          cases done
      | ok _ => rfl

theorem accepted_of_not_composed {cause : Failure}
    (stuck : compose host chains emitAll profiler = .error cause) :
    accepted host chains emitAll profiler = [] := by
  rw [accepted, writeNoting_eq, stuck]
  cases reserve profiler.options.passSetSize <;> rfl

end Noting

/-! ## The flags after a failure -/

/-- After a write every blob whose bytes did not reach the sink is as it was. -/
def OwesUnsent (host : Host σ ρ) (chains : ReferenceChains) (emitAll : Bool)
    (profiler : Profiler σ ρ) : Prop :=
  ∀ id blob, profiler.blobs.get? id = some blob →
    ¬ Reached (accepted host chains emitAll profiler) blob.bytes →
    (write host chains emitAll profiler).1.blobs.get? id = some blob

section Flags

variable {host : Host σ ρ} {chains : ReferenceChains} {emitAll : Bool} {profiler : Profiler σ ρ}

/-- A write that came as far as its window leaves the flags as the window does. -/
theorem blobs_write (room : reserve profiler.options.passSetSize = .ok ()) :
    (write host chains emitAll profiler).1.blobs = (profiler.afterWindow emitAll).blobs := by
  rw [write_eq, room]
  cases compose host chains emitAll profiler with
  | error cause => rfl
  | ok result => rfl

variable (linked : profiler.sampler.Linked)
include linked

/-- The first payload that is accepted is the one with the blobs. -/
theorem first_accepted (some : accepted host chains emitAll profiler ≠ [])
    (filled : (profiler.sends emitAll).flatMap profiler.blobs.bytesOf ≠ []) :
    (profiler.sends emitAll).flatMap profiler.blobs.bytesOf ∈
      accepted host chains emitAll profiler := by
  cases composed : compose host chains emitAll profiler with
  | error cause =>
      have none := accepted_of_not_composed host chains emitAll profiler composed
      exact absurd none some
  | ok result =>
      obtain ⟨payloads, stats⟩ := result
      have front := accepted_isPrefix host chains emitAll profiler composed
      obtain ⟨block, -, edges, -, -, -, rfl, -⟩ := compose_ok_iff.mp composed
      have bytes := toBytes_emitWindow emitAll linked
      rw [← bytes] at filled
      rw [handedOver_cons_of_filled filled, bytes] at front
      cases taken : accepted host chains emitAll profiler with
      | nil => exact absurd taken some
      | cons first rest =>
          rw [taken] at front
          rw [(List.cons_prefix_cons.mp front).1]
          exact List.mem_cons_self

/-- When every blob that a write with a set of pending traces has sent has reached the sink, the
flags are right. -/
theorem owesUnsent_of_reached
    (reached : reserve profiler.options.passSetSize = .ok () →
      ∀ id ∈ profiler.sends emitAll,
        Reached (accepted host chains emitAll profiler) (profiler.blobs.bytesOf id)) :
    OwesUnsent host chains emitAll profiler := by
  intro id blob present unsent
  cases room : reserve profiler.options.passSetSize with
  | error cause =>
      rw [write_eq, room]
      exact present
  | ok _ =>
      rw [blobs_write room, get?_afterWindow emitAll linked, present, Option.map_some]
      by_cases offered : id ∈ profiler.offers emitAll
      · cases written : blob.written with
        | true =>
            rw [if_pos offered, ← written]
        | false =>
            have sent : id ∈ profiler.sends emitAll :=
              BlobStore.mem_due.mpr ⟨offered, BlobStore.owes_iff.mpr ⟨blob, present, written⟩⟩
            have there := reached room id sent
            rw [BlobStore.bytesOf_eq present] at there
            exact absurd there unsent
      · rw [if_neg offered]

/-- **When a write owes what it did not emit.** The set of pending traces could not be made, or no
byte was due, or the sink has accepted a payload. In every other case, and so whenever composing
fails or the first payload is refused, a blob that was due counts as written although none of its
bytes reached the sink. -/
theorem owesUnsent_iff :
    OwesUnsent host chains emitAll profiler ↔
      reserve profiler.options.passSetSize ≠ .ok () ∨
        (profiler.sends emitAll).flatMap profiler.blobs.bytesOf = [] ∨
        accepted host chains emitAll profiler ≠ [] := by
  constructor
  · intro owes
    by_contra wrong
    rw [not_or, not_or, not_not, not_not] at wrong
    obtain ⟨room, filled, nothing⟩ := wrong
    obtain ⟨id, sent, bytes⟩ : ∃ id ∈ profiler.sends emitAll, profiler.blobs.bytesOf id ≠ [] := by
      simpa using filled
    obtain ⟨offered, owed⟩ := BlobStore.mem_due.mp sent
    obtain ⟨blob, present, unwritten⟩ := BlobStore.owes_iff.mp owed
    rw [BlobStore.bytesOf_eq present] at bytes
    have unsent : ¬ Reached (accepted host chains emitAll profiler) blob.bytes := by
      rw [nothing]
      rintro (empty | ⟨payload, none, -⟩)
      · exact bytes empty
      · cases none
    have same := owes id blob present unsent
    rw [blobs_write room, get?_afterWindow emitAll linked, present, Option.map_some,
      if_pos offered] at same
    have flag : true = blob.written := congrArg Blob.written (Option.some.inj same)
    rw [unwritten] at flag
    cases flag
  · rintro (full | empty | some)
    · refine owesUnsent_of_reached linked ?_
      intro room
      exact absurd room full
    · refine owesUnsent_of_reached linked ?_
      intro _ id sent
      exact .inl (List.flatMap_eq_nil_iff.mp empty id sent)
    · refine owesUnsent_of_reached linked ?_
      intro _ id sent
      by_cases filled : (profiler.sends emitAll).flatMap profiler.blobs.bytesOf = []
      · exact .inl (List.flatMap_eq_nil_iff.mp filled id sent)
      · exact .inr ⟨_, first_accepted linked some filled,
          profiler.blobs.bytesOf_infix sent⟩

end Flags

/-- One live sample of a virtual thread whose blob is due and whose trace is pending, over a memory
that refuses one write. -/
def oneDue (refused : Nat) (traces : TraceLog) : Profiler MemorySink TraceLog :=
  let draft : Sample.Draft :=
    { key := ⟨9, ⟨5⟩⟩, thread := ⟨7⟩, isVirtual := true, allocatedAt := 1
      object := some { address := 16, classId := ⟨1⟩ }, threadBlob := some ⟨0⟩ }
  let profiler := create .standard { MemorySink.ofLimit none with failingWrite := refused } traces
  { profiler with
    blobs := (profiler.blobs.add .thread [1]).2
    sampler := (profiler.sampler.push draft).2 }

/-- The memory takes the payload with the blob and refuses the one with the trace: the flag is
right. -/
theorem owesUnsent_secondRefused :
    let owed : Trace :=
      { id := ⟨5⟩, hash := 9, reachedRoot := true, frames := [], written := false }
    let profiler := oneDue 2 (TraceLog.empty.record owed)
    (write ⟨.memory, .log, Retention.unwritten⟩ (.ofEdges .empty) true profiler).2 =
        .error (.io (.refused "write")) ∧
      OwesUnsent ⟨.memory, .log, Retention.unwritten⟩ (.ofEdges .empty) true profiler := by
  refine ⟨by decide, (owesUnsent_iff ?_).mpr (.inr (.inr (by decide)))⟩
  exact Sampler.linked_empty.push _

/-- No trace is recorded, so the write fails before it hands anything over. The blob counts as
written all the same, and the epoch's next write leaves it out. -/
theorem not_owesUnsent_unrecorded :
    let host : Host MemorySink TraceLog := ⟨.memory, .log, Retention.unwritten⟩
    let failed := write host (.ofEdges .empty) true (oneDue 0 .empty)
    failed.2 = .error (.violation (.countMismatch 0 1)) ∧
      ¬ OwesUnsent host (.ofEdges .empty) true (oneDue 0 .empty) ∧
      failed.1.sink.payloads = #[] ∧ failed.1.sends true = [] := by
  refine ⟨by decide, ?_, by decide, by decide⟩
  intro owes
  have unsent : ¬ Reached (accepted ⟨.memory, .log, Retention.unwritten⟩ (.ofEdges .empty) true
      (oneDue 0 .empty)) [1] := by
    rintro (empty | ⟨payload, member, -⟩)
    · cases empty
    · cases member
  have same := owes ⟨0⟩ { kind := .thread, bytes := [1], written := false } rfl unsent
  exact absurd same (by decide)

end Profiler

end LeakRecorder
