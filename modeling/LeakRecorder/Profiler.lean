/-
# LeakRecorder.Profiler — the state that the passes share

A profiler owns the state of its sink and what thread exits leave behind; it
works on a sampler, on the blobs attached to samples, on recorded traces and on
a runtime. All of that is one state here, and a pass is a function that hands
back the state it leaves, also when it fails: what a failed pass has done is as
much a fact as its failure.

`Host` is what a pass calls but cannot look into: the operations of the sink and
of the trace source, and the decision whether a new blob is made from a copy.
-/
import LeakRecorder.ExitedThreads
import LeakRecorder.Options
import LeakRecorder.ReferenceChains
import LeakRecorder.Runtime
import LeakRecorder.Sampler
import LeakRecorder.Sink
import LeakRecorder.Trace.Source

set_option autoImplicit false

namespace LeakRecorder

/-- Decides whether the blob of a new trace is made from a copy of its payload. -/
abbrev Retention := Trace → Bool

namespace Retention

/-- Copies the traces that the capture side has not written yet. -/
def unwritten : Retention := Trace.shouldWrite

def always : Retention := fun _ => true

def never : Retention := fun _ => false

end Retention

/-- What the passes call: a sink with states in `σ`, traces with states in `ρ`. -/
structure Host (σ ρ : Type) where
  sink : Sink σ
  source : TraceSource ρ
  keepsCopy : Retention

/-- The state that the passes share. -/
structure Profiler (σ ρ : Type) where
  running : Bool
  options : Options
  exited : ExitedThreads
  sink : σ
  sampler : Sampler
  blobs : BlobStore
  traces : ρ
  runtime : Runtime
  edges : EdgeStore

namespace Profiler

variable {σ ρ : Type}

/-- A profiler that has not been started, over a sink and an empty sampler. -/
def create (options : Options) (sink : σ) (traces : ρ) : Profiler σ ρ :=
  { running := false
    options
    exited := .ofSize options.idSetSize
    sink
    sampler := .empty
    blobs := .empty
    traces
    runtime := .idle
    edges := .empty }

def start (profiler : Profiler σ ρ) : Profiler σ ρ := { profiler with running := true }

/-- Stops tracking exits; the exits recorded so far are kept. -/
def stop (profiler : Profiler σ ρ) : Profiler σ ρ := { profiler with running := false }

/-- New options are in force from the next pass on. -/
def setOptions (profiler : Profiler σ ρ) (options : Options) : Profiler σ ρ :=
  { profiler with options }

/-- A thread exits. Exits are tracked only while the profiler runs. -/
def threadExit (profiler : Profiler σ ρ) (tid : TraceId) :
    Profiler σ ρ × Except Failure Unit :=
  if profiler.running then
    let (exited, result) := profiler.exited.record tid
    ({ profiler with exited }, result)
  else (profiler, .ok ())

def hasExited (profiler : Profiler σ ρ) (tid : TraceId) : Bool := profiler.exited.hasExited tid

/-- Forgets every exit; legal only at a safepoint. -/
def clearExits (profiler : Profiler σ ρ) : Profiler σ ρ × Except Failure Unit :=
  let (exited, result) := profiler.exited.clear profiler.runtime.atSafepoint
  ({ profiler with exited }, result)

def flush (host : Host σ ρ) (profiler : Profiler σ ρ) : Profiler σ ρ × Except Failure Unit :=
  let (sink, result) := host.sink.flush profiler.sink
  ({ profiler with sink }, result.mapError .io)

/-- Adds a blob that samples can carry. -/
def addBlob (profiler : Profiler σ ρ) (kind : BlobKind) (bytes : Bytes) :
    BlobId × Profiler σ ρ :=
  let (id, blobs) := profiler.blobs.add kind bytes
  (id, { profiler with blobs })

/-- Only the exits may change when a thread exits. -/
theorem threadExit_eq (profiler : Profiler σ ρ) (tid : TraceId) :
    ∃ exited, (profiler.threadExit tid).1 = { profiler with exited } := by
  rw [threadExit]
  split
  · exact ⟨_, rfl⟩
  · exact ⟨_, rfl⟩

/-- The refusal of a pass that needs the profiler running. -/
def stoppedDuring (pass : Pass) : Failure := .violation (.stopped pass)

end Profiler

end LeakRecorder
