/-
# LeakRecorder.Profiler.Resolution — attaching stack traces to samples

A resolution lives for one rotation. It goes through samples and gives each live
one that knows its trace a blob of that trace: the one it carries already, the
one of another sample of the same trace, or a new one serialized from the trace
source. The source is not trusted: a trace with another hash or identifier than
the sample's is refused.

On the way the resolution tags what the report refers to: the class of each
sampled object, and each method of a newly serialized trace once, unless the
class that holds it is unloaded.
-/
import LeakRecorder.BlobCache
import LeakRecorder.Payload.Write
import LeakRecorder.Profiler

set_option autoImplicit false

namespace LeakRecorder

/-- What one resolution has done. -/
structure ResolveStats where
  /-- Live samples that know their trace. -/
  eligible : Nat
  /-- Samples that carried a blob from an earlier rotation. -/
  alreadyResolved : Nat
  cacheHits : Nat
  /-- Traces serialized into new blobs. -/
  serialized : Nat
  /-- New blobs that were made from a copy. -/
  copied : Nat
  methodsTagged : Nat
  deriving DecidableEq

def ResolveStats.zero : ResolveStats :=
  { eligible := 0, alreadyResolved := 0, cacheHits := 0, serialized := 0, copied := 0,
    methodsTagged := 0 }

/-- The state of a resolution. -/
structure Resolution where
  blobs : BlobStore
  cache : BlobCache
  /-- The methods met so far. -/
  methods : IdSet .method
  runtime : Runtime
  stats : ResolveStats

namespace Resolution

variable {σ ρ : Type}

/-- A resolution that has met nothing; its collections are sized by the options. -/
def ofOptions (options : Options) (blobs : BlobStore) (runtime : Runtime) :
    Except Failure Resolution := do
  let cache ← BlobCache.withBuckets options.queueSize
  let methods ← IdSet.withCapacity options.idSetSize
  return { blobs, cache, methods, runtime, stats := .zero }

/-- Tags a frame's method unless it has been met or its holder is unloaded. -/
def tagFrame (state : Resolution) (frame : Frame) : Resolution :=
  let (isNew, methods) := state.methods.add frame.method
  if isNew then
    let (unloaded, runtime) := state.runtime.checkUnloaded frame.method.holder
    if unloaded then { state with methods, runtime }
    else
      { state with
        methods
        runtime := runtime.tagMethod frame.method
        stats := { state.stats with methodsTagged := state.stats.methodsTagged + 1 } }
  else { state with methods }

/-- Counts a live sample that knows its trace, and tags its object's class. -/
def countEligible (state : Resolution) (object : ObjectRef) : Resolution :=
  { state with
    runtime := state.runtime.tagClass object.classId
    stats := { state.stats with eligible := state.stats.eligible + 1 } }

/-- The blob of a new trace, from a copy of its payload or from the payload itself. -/
def keep (keepsCopy : Retention) (trace : Trace) (payload : Buffer) (blobs : BlobStore) :
    BlobId × BlobStore :=
  if keepsCopy trace then payload.copy .stackTrace blobs
  else (payload.intoBlob .stackTrace blobs).2

/-- Either way it is the same blob. -/
theorem keep_eq (keepsCopy : Retention) (trace : Trace) (payload : Buffer) (blobs : BlobStore) :
    keep keepsCopy trace payload blobs = payload.copy .stackTrace blobs := by
  rw [keep, Buffer.intoBlob_eq_copy, ite_self]

/-- Serializes a trace into a new blob and caches it under its key. -/
def serialize (keepsCopy : Retention) (state : Resolution) (trace : Trace) :
    Resolution × Except Failure BlobId :=
  let head := Block.writeHead Block.traceType 1 .empty
  match trace.writeWith (fun state frame => (tagFrame state frame, .ok ())) head state with
  | (_, state, .error cause) => (state, .error cause)
  | (payload, state, .ok ()) =>
      let copies := if keepsCopy trace then 1 else 0
      let stats := { state.stats with copied := state.stats.copied + copies }
      let (blob, blobs) := keep keepsCopy trace payload state.blobs
      let (cache, result) := state.cache.put trace.key blob
      match result with
      | .error cause => ({ state with blobs, cache, stats }, .error cause)
      | .ok () =>
          let stats := { stats with serialized := stats.serialized + 1 }
          ({ state with blobs, cache, stats }, .ok blob)

/-- The blob for a sample's trace: cached, or serialized from the source. -/
def blobFor (host : Host σ ρ) (traces : ρ) (state : Resolution) (key : TraceKey) :
    Resolution × Except Failure BlobId :=
  match state.cache.get key with
  | .error cause => (state, .error cause)
  | .ok (some blob) =>
      let stats := { state.stats with cacheHits := state.stats.cacheHits + 1 }
      ({ state with stats }, .ok blob)
  | .ok none =>
      match host.source.lookup traces key with
      | none => (state, .error (.violation (.traceMissing key)))
      | some trace =>
          if trace.key = key then serialize host.keepsCopy state trace
          else (state, .error (.violation (.traceMismatch trace.key key)))

/-- Resolves one sample. A dead sample, and one that knows no trace, is passed over. -/
def resolve (host : Host σ ρ) (traces : ρ) (state : Resolution) (sample : Sample) :
    Resolution × Except Failure Sample :=
  match sample.object with
  | none => (state, .ok sample)
  | some object =>
      if sample.hasTrace then
        let state := state.countEligible object
        if sample.stackTrace.isSome then
          let resolved := state.stats.alreadyResolved + 1
          ({ state with stats := { state.stats with alreadyResolved := resolved } }, .ok sample)
        else
          match blobFor host traces state sample.key with
          | (state, .ok blob) => (state, .ok (sample.attach .stackTrace blob))
          | (state, .error cause) => (state, .error cause)
      else (state, .ok sample)

/-- Resolves samples in order, after the ones that `done` holds newest first. The samples come
back in their order; the first failure leaves it and those behind it as they were. -/
def resolveAll (host : Host σ ρ) (traces : ρ) :
    List Sample → List Sample → Resolution → Resolution × List Sample × Except Failure Unit
  | done, [], state => (state, done.reverse, .ok ())
  | done, sample :: rest, state =>
      match resolve host traces state sample with
      | (state, .ok sample) => resolveAll host traces (sample :: done) rest state
      | (state, .error cause) => (state, done.reverseAux (sample :: rest), .error cause)

end Resolution

end LeakRecorder
