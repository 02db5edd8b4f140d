/-
# LeakRecorder.Sample — one sampled object

A sample remembers where an object was allocated, by which thread and when. It
reaches the object through a slot that the collector may clear at any time; a
sample with a cleared slot is dead. Blobs are attached as they become known, at
most one of each kind, and an attached blob is never replaced.
-/
import LeakRecorder.Blob
import LeakRecorder.Ident

set_option autoImplicit false

namespace LeakRecorder

/-- A sampled heap object. -/
structure ObjectRef where
  address : UInt64
  classId : ClassId
  deriving DecidableEq

/-- Where a sample was pushed: samples of a sampler are numbered in order of birth. -/
structure SampleId where
  birth : Nat
  deriving DecidableEq

structure Sample where
  id : SampleId
  key : TraceKey
  thread : TraceId
  isVirtual : Bool
  allocatedAt : Int64
  /-- The slot of the object; `none` once the collector has cleared it. -/
  object : Option ObjectRef
  stackTrace : Option BlobId
  threadBlob : Option BlobId
  typeSet : Option BlobId
  deriving DecidableEq

/-- What is known of a sample when it is taken. -/
structure Sample.Draft where
  key : TraceKey
  thread : TraceId
  isVirtual : Bool
  allocatedAt : Int64
  object : Option ObjectRef
  threadBlob : Option BlobId

/-- An object at an address; there is no object at address zero. -/
def ObjectRef.at? (address : UInt64) (classId : ClassId) : Option ObjectRef :=
  if address = 0 then none else some { address, classId }

namespace Sample

/-- A slot of a sample for a blob. -/
inductive Slot where
  | stackTrace
  | thread
  | typeSet
  deriving DecidableEq

def ofDraft (id : SampleId) (draft : Draft) : Sample :=
  { id
    key := draft.key
    thread := draft.thread
    isVirtual := draft.isVirtual
    allocatedAt := draft.allocatedAt
    object := draft.object
    stackTrace := none
    threadBlob := draft.threadBlob
    typeSet := none }

def isDead (sample : Sample) : Bool := sample.object.isNone

/-- The object is alive and was allocated before `time`. -/
def isAliveAndOlderThan (sample : Sample) (time : Int64) : Bool :=
  !sample.isDead && decide (sample.allocatedAt < time)

/-- The collector has found the object unreachable. -/
def clearObject (sample : Sample) : Sample := { sample with object := none }

/-- The sample knows the trace of its allocation. -/
def hasTrace (sample : Sample) : Bool := !sample.key.id.isNone

def blobAt (sample : Sample) : Slot → Option BlobId
  | .stackTrace => sample.stackTrace
  | .thread => sample.threadBlob
  | .typeSet => sample.typeSet

/-- Attaches a blob in a slot that is still empty. -/
def attach (sample : Sample) (slot : Slot) (blob : BlobId) : Sample :=
  match slot with
  | .stackTrace => { sample with stackTrace := sample.stackTrace <|> some blob }
  | .thread => { sample with threadBlob := sample.threadBlob <|> some blob }
  | .typeSet => { sample with typeSet := sample.typeSet <|> some blob }

/-- Every blob of the sample: stack trace, thread, type set. -/
def blobs (sample : Sample) : List BlobId :=
  sample.stackTrace.toList ++ sample.threadBlob.toList ++ sample.typeSet.toList

@[simp] theorem id_attach (sample : Sample) (slot : Slot) (blob : BlobId) :
    (sample.attach slot blob).id = sample.id := by
  cases slot <;> rfl

theorem attach_stackTrace {sample : Sample} (empty : sample.stackTrace = none) (blob : BlobId) :
    sample.attach .stackTrace blob = { sample with stackTrace := some blob } := by
  rw [attach, empty]
  rfl

/-- An attached blob is never replaced. -/
theorem blobAt_attach {sample : Sample} {slot : Slot} {held : BlobId}
    (attached : sample.blobAt slot = some held) (other : Slot) (blob : BlobId) :
    (sample.attach other blob).blobAt slot = some held := by
  cases slot <;> cases other <;> simp_all [blobAt, attach]

end Sample

end LeakRecorder
