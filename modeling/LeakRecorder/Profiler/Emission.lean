/-
# LeakRecorder.Profiler.Emission — writing the samples' descriptions

The write pass goes through the emission window. Every blob that a sample
carries goes into one payload unless the epoch has it already; a thread's blob
only for a virtual thread or one that has exited, since the others are described
elsewhere. The traces of samples without a stack-trace blob are pending: those
the capture side still owes are written together in one block, and the block has
to hold as many records as there are pending traces. The reference chains come
last.

Nothing is committed before all three payloads are built. The `written` flags,
however, are set while the first is.
-/
import LeakRecorder.Payload.Write
import LeakRecorder.Profiler

set_option autoImplicit false

namespace LeakRecorder

/-- What one write pass has done. -/
structure WriteStats where
  /-- Samples in the emission window. -/
  samples : Nat
  stackTraceBlobs : Nat
  threadBlobs : Nat
  typeSetBlobs : Nat
  /-- Traces of samples that carry no stack-trace blob, each once. -/
  pending : Nat
  /-- Records of the block of pending traces. -/
  dedupRecords : Nat
  chainRecords : Nat
  deriving DecidableEq

namespace WriteStats

def zero : WriteStats :=
  { samples := 0, stackTraceBlobs := 0, threadBlobs := 0, typeSetBlobs := 0, pending := 0,
    dedupRecords := 0, chainRecords := 0 }

def blobsWritten (stats : WriteStats) : Nat :=
  stats.stackTraceBlobs + stats.threadBlobs + stats.typeSetBlobs

end WriteStats

/-- The state of a write pass while it goes through the window. -/
structure Emission where
  blobs : BlobStore
  payload : Buffer
  pending : IdSet .constant
  stats : WriteStats

namespace Emission

/-- Appends a blob unless the epoch has it already; says whether it did. -/
def emit (state : Emission) (blob : BlobId) : Bool × Emission :=
  let (wrote, blobs, payload) := state.blobs.exclusiveWrite blob state.payload
  (wrote, { state with blobs, payload })

/-- The sample's stack trace: its blob, or else its trace is pending. -/
def offerStackTrace (state : Emission) (sample : Sample) : Emission :=
  match sample.stackTrace with
  | some blob =>
      let (wrote, state) := state.emit blob
      let count := if wrote then 1 else 0
      { state with
        stats := { state.stats with stackTraceBlobs := state.stats.stackTraceBlobs + count } }
  | none =>
      if sample.hasTrace then { state with pending := (state.pending.add sample.key.id).2 }
      else state

/-- A thread that only its blob describes: a virtual one, or one that has exited. -/
def describesThread (exited : ExitedThreads) (sample : Sample) : Bool :=
  sample.isVirtual || (!sample.thread.isNone && exited.hasExited sample.thread)

def offerThread (exited : ExitedThreads) (state : Emission) (sample : Sample) : Emission :=
  match sample.threadBlob with
  | some blob =>
      if describesThread exited sample then
        let (wrote, state) := state.emit blob
        let count := if wrote then 1 else 0
        { state with stats := { state.stats with threadBlobs := state.stats.threadBlobs + count } }
      else state
  | none => state

def offerTypeSet (state : Emission) (sample : Sample) : Emission :=
  match sample.typeSet with
  | some blob =>
      let (wrote, state) := state.emit blob
      let count := if wrote then 1 else 0
      { state with stats := { state.stats with typeSetBlobs := state.stats.typeSetBlobs + count } }
  | none => state

/-- Offers what a sample of the window carries: stack trace, thread, type set. -/
def offer (exited : ExitedThreads) (state : Emission) (sample : Sample) : Emission :=
  let counted :=
    { state with stats := { state.stats with samples := state.stats.samples + 1 } }
  offerTypeSet (offerThread exited (offerStackTrace counted sample) sample) sample

end Emission

/-- Appends the records of the pending traces that are still owed, counting them. -/
def appendOwed (pending : IdSet .constant) :
    List Trace → Buffer → Nat → Except Failure (Buffer × Nat)
  | [], buffer, count => .ok (buffer, count)
  | trace :: rest, buffer, count =>
      if trace.shouldWrite && pending.contains trace.id then
        match trace.write buffer with
        | .ok buffer => appendOwed pending rest buffer (count + 1)
        | .error cause => .error cause
      else appendOwed pending rest buffer count

/-- One block with the pending traces out of a visit to the source, and their number. -/
def pendingBlock (pending : IdSet .constant) (visit : List Trace × Except Failure Unit) :
    Except Failure (Buffer × Nat) := do
  let (slot, buffer) := (Buffer.empty.writeType Block.traceType).reserveCount
  let (buffer, count) ← appendOwed pending visit.1 buffer 0
  visit.2
  if count ≠ pending.size then
    throw (.violation (.countMismatch count pending.size))
  if countLimit ≤ count then
    throw (.format .tooManyTraces)
  let block := match buffer.patch slot (UInt32.ofNat count) with
    | .ok patched => patched
    | .error _ => buffer
  return (block, count)

/-- Commits payloads in order; the first refusal ends it. -/
def commitAll {σ : Type} (sink : Sink σ) : List Buffer → σ → σ × Except IoError Unit
  | [], state => (state, .ok ())
  | payload :: rest, state =>
      match payload.commit sink state with
      | (state, .ok ()) => commitAll sink rest state
      | (state, .error cause) => (state, .error cause)

namespace Profiler

variable {σ ρ : Type}

/-- What goes through the window of a write pass leaves. -/
def emitWindow (profiler : Profiler σ ρ) (pending : IdSet .constant) (emitAll : Bool) :
    Emission :=
  (profiler.sampler.window emitAll).foldl (Emission.offer profiler.exited)
    { blobs := profiler.blobs, payload := .empty, pending, stats := .zero }

/-- Writes the descriptions of the samples in the window. -/
def write (host : Host σ ρ) (chains : ReferenceChains) (emitAll : Bool)
    (profiler : Profiler σ ρ) : Profiler σ ρ × Except Failure WriteStats :=
  match IdSet.withCapacity profiler.options.passSetSize with
  | .error cause => (profiler, .error cause)
  | .ok nothing =>
      let state := profiler.emitWindow nothing emitAll
      let profiler := { profiler with blobs := state.blobs }
      let block :=
        if state.pending.isEmpty then .ok (Buffer.empty, 0)
        else pendingBlock state.pending (host.source.visit profiler.traces)
      match block with
      | .error cause => (profiler, .error cause)
      | .ok (stackTraces, dedupRecords) =>
          let (edges, written) :=
            if chains.isEmpty then (Buffer.empty, .ok 0) else chains.write Buffer.empty
          match written with
          | .error cause => (profiler, .error cause)
          | .ok chainRecords =>
              let stats := { state.stats with
                pending := state.pending.size, dedupRecords, chainRecords }
              let (sink, result) :=
                commitAll host.sink [state.payload, stackTraces, edges] profiler.sink
              ({ profiler with sink }, (result.mapError .io).map fun _ => stats)

end Profiler

end LeakRecorder
