/-
# LeakRecorder.BlobCache — the blob of each trace met in one rotation

While a rotation resolves samples, samples of one trace share one blob. The
cache finds it by the trace's hash and identifier. It never evicts, and it goes
away with the rotation. A put that is refused leaves it as it was (`put_refused`).
-/
import LeakRecorder.Blob
import LeakRecorder.Table

set_option autoImplicit false

namespace LeakRecorder

/-- A trace's hash picks the bucket; its identifier tells traces of one hash apart. -/
def TraceKey.keying : Keying TraceKey where
  hash := TraceKey.hash
  same wanted stored := wanted.id == stored.id

/-- The blobs of a rotation by trace. -/
structure BlobCache where
  table : Table TraceKey BlobId

namespace BlobCache

def withBuckets (count : UInt64) : Except Failure BlobCache := do
  return ⟨← Table.withBuckets TraceKey.keying count⟩

/-- A key that names a trace. -/
def named (key : TraceKey) : Except Failure TraceKey :=
  if key.id.isNone then .error (.violation .cacheWithoutTrace) else .ok key

/-- The blob cached under a key, if there is one. -/
def get (cache : BlobCache) (key : TraceKey) : Except Failure (Option BlobId) := do
  return cache.table.lookup (← named key)

/-- Caches a blob. A second blob for one trace is refused. -/
def put (cache : BlobCache) (key : TraceKey) (blob : BlobId) : BlobCache × Except Failure Unit :=
  match named key with
  | .error cause => (cache, .error cause)
  | .ok key =>
      if (cache.table.lookup key).isSome then (cache, .error (.violation (.alreadyCached key)))
      else (⟨cache.table.insert key blob⟩, .ok ())

def size (cache : BlobCache) : Nat := cache.table.size

def isEmpty (cache : BlobCache) : Bool := cache.table.isEmpty

/-- In how many entries the cache holds a blob. -/
def holds (cache : BlobCache) (blob : BlobId) : Nat := cache.table.values.count blob

/-- The handles of a blob: the ones that others have, and the cache's until it is discarded. -/
def handles (others : Nat) (blob : BlobId) : Option BlobCache → Nat
  | some cache => others + cache.holds blob
  | none => others

/-- A put that is refused leaves the cache as it is. -/
theorem put_refused {cache after : BlobCache} {key : TraceKey} {blob : BlobId} {cause : Failure}
    (refused : cache.put key blob = (after, .error cause)) : after = cache := by
  rw [put] at refused
  split at refused
  next => cases refused; rfl
  next =>
    split at refused
    next => cases refused; rfl
    next => cases refused

end BlobCache

end LeakRecorder
