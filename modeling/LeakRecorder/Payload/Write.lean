/-
# LeakRecorder.Payload.Write — blocks that are built ahead of time

Thread descriptors and type sets become blobs of one block each. A stack trace
is appended to a payload frame by frame, and a visitor sees each frame right
after its bytes; a visitor that fails ends the writing there. A count that does
not fit into its four bytes is refused before anything is written.
-/
import LeakRecorder.Failure
import LeakRecorder.Payload.Record

set_option autoImplicit false

namespace LeakRecorder

/-- How many records or frames a count can announce. -/
def countLimit : Nat := 0x100000000

namespace ThreadRecord

/-- The block of one thread. -/
def toBlock (thread : ThreadRecord) : Block :=
  { typeId := Block.threadType, records := [.thread thread] }

/-- The bytes of the thread's blob. -/
def toBlob (thread : ThreadRecord) : Bytes :=
  (thread.write (Block.writeHead Block.threadType 1 .empty)).toBytes

theorem toBlob_eq (thread : ThreadRecord) : thread.toBlob = thread.toBlock.encode := by
  have head : Block.writeHead Block.threadType 1 .empty = _ := Block.writeHead_eq .empty _ 1
  rw [toBlob, head, write_eq]
  simp [toBlock, Block.encode, Record.encode]

end ThreadRecord

/-- The block of the classes that a period has used. -/
def ClassRecord.toBlock (classes : List ClassRecord) : Block :=
  { typeId := Block.classType, records := classes.map .loadedClass }

/-- The bytes of a type set's blob. -/
def ClassRecord.toBlob (classes : List ClassRecord) : Except Failure Bytes :=
  if classes.length < countLimit then
    let head := Block.writeHead Block.classType (UInt32.ofNat classes.length) .empty
    .ok (classes.foldl (fun buffer loaded => loaded.write buffer) head).toBytes
  else .error (.format .tooManyClasses)

theorem ClassRecord.toBlob_of_few {classes : List ClassRecord}
    (few : classes.length < countLimit) : toBlob classes = .ok (toBlock classes).encode := by
  rw [toBlob, if_pos few]
  dsimp only
  simp only [write_eq, Block.writeHead_eq, Buffer.foldl_append]
  simp [toBlock, Block.encode, List.flatMap_map, Record.encode]

namespace Trace

variable {σ : Type}

/-- Appends frames, showing each to the visitor after its bytes. -/
def writeFrames (visit : σ → Frame → σ × Except Failure Unit) :
    List Frame → Buffer → σ → Buffer × σ × Except Failure Unit
  | [], buffer, state => (buffer, state, .ok ())
  | frame :: rest, buffer, state =>
      let buffer := frame.write buffer
      match visit state frame with
      | (state, .ok ()) => writeFrames visit rest buffer state
      | (state, .error cause) => (buffer, state, .error cause)

/-- Appends the record of a trace, showing each frame to the visitor after its bytes. -/
def writeWith (visit : σ → Frame → σ × Except Failure Unit) (trace : Trace) (buffer : Buffer)
    (state : σ) : Buffer × σ × Except Failure Unit :=
  if trace.frames.length < countLimit then
    writeFrames visit trace.frames (trace.toRecord.writeHead buffer) state
  else (buffer, state, .error (.format (.tooManyFrames trace.id)))

/-- Appends the record of a trace. -/
def write (trace : Trace) (buffer : Buffer) : Except Failure Buffer :=
  match trace.writeWith (fun state _ => (state, .ok ())) buffer () with
  | (buffer, _, .ok ()) => .ok buffer
  | (_, _, .error cause) => .error cause

/-- A visitor that never fails sees every frame, and the record is the trace's encoding. -/
theorem writeFrames_ok {visit : σ → Frame → σ} (frames : List Frame) (buffer : Buffer)
    (state : σ) :
    (writeFrames (fun s f => (visit s f, .ok ())) frames buffer state).2 =
        (frames.foldl visit state, .ok ()) ∧
      (writeFrames (fun s f => (visit s f, .ok ())) frames buffer state).1.toBytes =
        buffer.toBytes ++ frames.flatMap Frame.encode := by
  induction frames generalizing buffer state with
  | nil => simp [writeFrames]
  | cons frame rest ih =>
    have := ih (frame.write buffer) (visit state frame)
    simpa [writeFrames, Frame.write_eq] using this

end Trace

end LeakRecorder
