/-
# LeakRecorder.Options — the tunables of the profiler

Two sizes of collections that the passes make, and two limits on the files of a
chunked recording.
-/
set_option autoImplicit false

namespace LeakRecorder

structure Options where
  /-- Capacity of the sampler's queue: the buckets of the blob cache, and the least size of the
  sets that a pass makes. -/
  queueSize : UInt64
  /-- Initial size of the set of exited threads and of the set of tagged methods. -/
  idSetSize : UInt64
  /-- A chunk of at least this size asks for a rotation. -/
  maxChunkSize : UInt64
  /-- Chunks are deleted while all of them together are larger than this. -/
  maxTotalSize : UInt64
  deriving DecidableEq

namespace Options

/-- The least number of members that a pass's set is made for. -/
def minSetSize : UInt64 := 431

/-- The options in force when none are given. -/
def standard : Options where
  queueSize := 256
  idSetSize := minSetSize
  maxChunkSize := 12 * 1024 * 1024
  maxTotalSize := 256 * 1024 * 1024

instance : Inhabited Options := ⟨standard⟩

/-- The size of the sets that each pass makes. -/
def passSetSize (options : Options) : UInt64 := max options.queueSize minSetSize

/-- One tunable. -/
inductive Field where
  | queueSize
  | idSetSize
  | maxChunkSize
  | maxTotalSize
  deriving DecidableEq

namespace Field

/-- The fields in the order in which a list of values gives them. -/
def all : List Field := [.queueSize, .idSetSize, .maxChunkSize, .maxTotalSize]

def name : Field → String
  | .queueSize => "old_object_queue_size"
  | .idSetSize => "initial_id_set_size"
  | .maxChunkSize => "max_chunk_size"
  | .maxTotalSize => "max_total_size"

def ofName? (name : String) : Option Field := all.find? (·.name == name)

/-- The kind of number that a field holds: a size in memory or a size on disk. -/
def typeName : Field → String
  | .queueSize | .idSetSize => "usize"
  | .maxChunkSize | .maxTotalSize => "u64"

end Field

def set (options : Options) (field : Field) (value : UInt64) : Options :=
  match field with
  | .queueSize => { options with queueSize := value }
  | .idSetSize => { options with idSetSize := value }
  | .maxChunkSize => { options with maxChunkSize := value }
  | .maxTotalSize => { options with maxTotalSize := value }

end Options

end LeakRecorder
