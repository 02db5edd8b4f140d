/-
# LeakRecorder.Sink.Outlet — a recording to any of the destinations

An outlet is a directory and one destination: memory, nothing, one file or chunk
files. After it has been closed, everything held back is in the files and it
takes no more.
-/
import LeakRecorder.Sink.File
import LeakRecorder.Sink.Rotating

set_option autoImplicit false

namespace LeakRecorder

inductive Destination where
  | memory (sink : MemorySink)
  | discard
  | file (sink : FileSink)
  | rotating (sink : RotatingSink)
  | closed

structure Outlet where
  dir : Directory
  destination : Destination

namespace Outlet

/-- Keeps the payloads in memory; the chunk limit says when a rotation is due. -/
def ofMemory (chunkLimit : Option Nat) : Outlet :=
  { dir := .empty, destination := .memory (.ofLimit chunkLimit) }

/-- Starts a recording in one file of a directory. -/
def openFile (dir : Directory) (path : Path) : Except IoError Outlet := do
  let (sink, dir) ← FileSink.create dir path
  return { dir, destination := .file sink }

/-- Starts a recording in chunk files of a directory. -/
def openChunks (dir : Directory) (base : Path) (maxChunkSize maxTotalSize : UInt64) :
    Except IoError Outlet := do
  let (sink, dir) ← RotatingSink.create dir base maxChunkSize maxTotalSize
  return { dir, destination := .rotating sink }

def memory? (outlet : Outlet) : Option MemorySink :=
  match outlet.destination with
  | .memory sink => some sink
  | _ => none

def write (outlet : Outlet) (payload : Bytes) : Outlet × Except IoError Unit :=
  match outlet.destination with
  | .memory sink =>
      let (sink, result) := Sink.memory.write sink payload
      ({ outlet with destination := .memory sink }, result)
  | .file sink =>
      let ((sink, dir), result) := Sink.file.write (sink, outlet.dir) payload
      ({ dir, destination := .file sink }, result)
  | .rotating sink =>
      let ((sink, dir), result) := Sink.rotating.write (sink, outlet.dir) payload
      ({ dir, destination := .rotating sink }, result)
  | .discard | .closed => (outlet, .ok ())

def flush (outlet : Outlet) : Outlet × Except IoError Unit :=
  match outlet.destination with
  | .memory sink =>
      let (sink, result) := Sink.memory.flush sink
      ({ outlet with destination := .memory sink }, result)
  | .file sink =>
      let ((sink, dir), result) := Sink.file.flush (sink, outlet.dir)
      ({ dir, destination := .file sink }, result)
  | .rotating sink =>
      let ((sink, dir), result) := Sink.rotating.flush (sink, outlet.dir)
      ({ dir, destination := .rotating sink }, result)
  | .discard | .closed => (outlet, .ok ())

def needsRotation (outlet : Outlet) : Bool :=
  match outlet.destination with
  | .memory sink => sink.needsRotation
  | .rotating sink => sink.needsRotation
  | .discard | .file _ | .closed => false

def rotate (outlet : Outlet) : Outlet × Except IoError Unit :=
  match outlet.destination with
  | .memory sink =>
      let (sink, result) := Sink.memory.rotate sink
      ({ outlet with destination := .memory sink }, result)
  | .rotating sink =>
      let ((sink, dir), result) := Sink.rotating.rotate (sink, outlet.dir)
      ({ dir, destination := .rotating sink }, result)
  | .discard | .file _ | .closed => (outlet, .ok ())

/-- Starts a new chunk if the current one is full. -/
def rotateIfNeeded (outlet : Outlet) : Outlet × Except IoError Unit :=
  if outlet.needsRotation then outlet.rotate else (outlet, .ok ())

/-- Closes the destination: what a file holds back reaches it. -/
def close (outlet : Outlet) : Outlet :=
  match outlet.destination with
  | .file sink => { dir := (sink.file.flush outlet.dir).2, destination := .closed }
  | .rotating sink => { dir := (sink.file.flush outlet.dir).2, destination := .closed }
  | .memory _ | .discard | .closed => { outlet with destination := .closed }

end Outlet

/-- Writes a recording to an outlet's destination. -/
def Sink.outlet : Sink Outlet where
  write := Outlet.write
  flush := Outlet.flush
  needsRotation := Outlet.needsRotation
  rotate := Outlet.rotate

end LeakRecorder
