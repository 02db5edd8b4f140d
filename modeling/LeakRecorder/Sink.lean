/-
# LeakRecorder.Sink — where committed payloads go

A sink takes payloads whole, flushes what it holds back, says when its current
chunk is full and starts a new chunk on request. `Sink` is any implementation of
the four over any state; every operation hands back the state that it leaves,
also when it fails.

`Buffer.commit` is the only way from a payload under construction to a sink: an
empty payload is not handed over.
-/
import LeakRecorder.Buffer
import LeakRecorder.Failure

set_option autoImplicit false

namespace LeakRecorder

/-- The operations of a sink with states in `σ`. -/
structure Sink (σ : Type) where
  write : σ → Bytes → σ × Except IoError Unit
  flush : σ → σ × Except IoError Unit
  /-- The current chunk is full and a rotation is due. -/
  needsRotation : σ → Bool
  /-- Starts a new chunk; an epoch has to start with it. -/
  rotate : σ → σ × Except IoError Unit

/-- Hands a payload to a sink; an empty one is not handed over. -/
def Buffer.commit {σ : Type} (buffer : Buffer) (sink : Sink σ) (state : σ) :
    σ × Except IoError Unit :=
  if buffer.isEmpty then (state, .ok ()) else sink.write state buffer.toBytes

namespace Sink

/-- A sink that drops everything. -/
def discard : Sink Unit where
  write state _ := (state, .ok ())
  flush state := (state, .ok ())
  needsRotation _ := false
  rotate state := (state, .ok ())

end Sink

/-! ## Payloads in memory -/

/-- A sink that keeps its payloads, and that can be told to fail. -/
structure MemorySink where
  /-- The payloads in the order in which they came. -/
  payloads : Array Bytes
  /-- A rotation is due once the payloads since the last one have this many bytes. -/
  chunkLimit : Option Nat
  sinceRotation : Nat
  rotations : Nat
  /-- The write that fails, counted from the next one as 1; zero for none. -/
  failingWrite : Nat
  failFlush : Bool
  failRotate : Bool

namespace MemorySink

def ofLimit (chunkLimit : Option Nat) : MemorySink :=
  { payloads := #[], chunkLimit, sinceRotation := 0, rotations := 0, failingWrite := 0,
    failFlush := false, failRotate := false }

def write (memory : MemorySink) (payload : Bytes) : MemorySink × Except IoError Unit :=
  let left := memory.failingWrite - 1
  if memory.failingWrite = 1 then
    ({ memory with failingWrite := left }, .error (.refused "write"))
  else
    ({ memory with
        payloads := memory.payloads.push payload
        sinceRotation := memory.sinceRotation + payload.length
        failingWrite := left }, .ok ())

def flush (memory : MemorySink) : MemorySink × Except IoError Unit :=
  (memory, if memory.failFlush then .error (.refused "flush") else .ok ())

def needsRotation (memory : MemorySink) : Bool :=
  match memory.chunkLimit with
  | some limit => limit ≤ memory.sinceRotation
  | none => false

def rotate (memory : MemorySink) : MemorySink × Except IoError Unit :=
  if memory.failRotate then (memory, .error (.refused "rotate"))
  else ({ memory with sinceRotation := 0, rotations := memory.rotations + 1 }, .ok ())

end MemorySink

/-- Keeps payloads in memory. -/
def Sink.memory : Sink MemorySink where
  write := MemorySink.write
  flush := MemorySink.flush
  needsRotation := MemorySink.needsRotation
  rotate := MemorySink.rotate

end LeakRecorder
