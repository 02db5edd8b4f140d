/-
# LeakRecorder.Profiler.Rotation — starting an epoch

A rotation makes the blobs of every resolved sample due again, so that the new
epoch's stream says everything once more, and then resolves the samples that
have come since the last type-set pass. Resolution runs with the thread in the
VM state and the class lock held; both are given up also when it fails. Only
after it has succeeded are the recorded traces released.

`rotateChunk` has the sink start a new chunk first.
-/
import LeakRecorder.Profiler.Resolution

set_option autoImplicit false

namespace LeakRecorder

/-- What one rotation has done. -/
structure RotationStats where
  /-- Resolved samples whose blobs were made due again. -/
  samplesReset : Nat
  /-- Nothing when there was nothing to resolve. -/
  resolved : Option ResolveStats
  deriving DecidableEq

namespace Profiler

variable {σ ρ : Type}

/-- Makes every blob of the samples due again. -/
def resetBlobs (blobs : BlobStore) (samples : List Sample) : BlobStore :=
  samples.foldl (fun blobs sample => sample.blobs.foldl BlobStore.reset blobs) blobs

/-- Resolves the unresolved samples in the VM state, with the class lock held. -/
def resolveFresh (host : Host σ ρ) (profiler : Profiler σ ρ) :
    Profiler σ ρ × Except Failure ResolveStats :=
  let leave (runtime : Runtime) : Runtime := runtime.unlock.leaveVm
  let entered := profiler.runtime.enterVm.lock
  match Resolution.ofOptions profiler.options profiler.blobs entered with
  | .error cause => ({ profiler with runtime := leave entered }, .error cause)
  | .ok state =>
      let (state, front, result) :=
        Resolution.resolveAll host profiler.traces [] profiler.sampler.unresolved state
      ({ profiler with
          blobs := state.blobs
          sampler := profiler.sampler.replaceFront front
          runtime := leave state.runtime },
        result.map fun _ => state.stats)

/-- Starts an epoch. The thread must not be at a safepoint. -/
def rotate (host : Host σ ρ) (profiler : Profiler σ ρ) :
    Profiler σ ρ × Except Failure RotationStats :=
  if !profiler.running then (profiler, .error (stoppedDuring .rotation))
  else if profiler.runtime.atSafepoint then
    (profiler, .error (.violation .rotationAtSafepoint))
  else
    let samples := profiler.sampler.resolved
    let samplesReset := samples.length
    let profiler := { profiler with blobs := resetBlobs profiler.blobs samples }
    if profiler.sampler.hasUnresolved then
      match resolveFresh host profiler with
      | (profiler, .error cause) => (profiler, .error cause)
      | (profiler, .ok stats) =>
          ({ profiler with traces := host.source.clear profiler.traces },
            .ok { samplesReset, resolved := some stats })
    else (profiler, .ok { samplesReset, resolved := none })

/-- Has the sink start a new chunk and starts an epoch in it. -/
def rotateChunk (host : Host σ ρ) (profiler : Profiler σ ρ) :
    Profiler σ ρ × Except Failure RotationStats :=
  match host.sink.rotate profiler.sink with
  | (sink, .error cause) => ({ profiler with sink }, .error (.io cause))
  | (sink, .ok ()) => rotate host { profiler with sink }

/-- Starts a new chunk if the current one is full. -/
def rotateIfNeeded (host : Host σ ρ) (profiler : Profiler σ ρ) :
    Profiler σ ρ × Except Failure (Option RotationStats) :=
  if host.sink.needsRotation profiler.sink then
    let (profiler, result) := rotateChunk host profiler
    (profiler, result.map some)
  else (profiler, .ok none)

end Profiler

end LeakRecorder
