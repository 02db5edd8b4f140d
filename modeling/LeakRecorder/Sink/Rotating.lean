/-
# LeakRecorder.Sink.Rotating — a recording in chunk files

A recording is split into chunks, each a file of its own with its own header, so
that old ones can be deleted. The files are numbered from zero and named after
the base path: its parent, its stem, the number and `bin`. A rotation is due once
the current chunk has reached one limit. Chunks are deleted, the oldest first and
never the current one, while all together are over another; a payload that takes
the total over it is the last one accepted until a rotation has made room.

`chunks` tracks the size of each chunk that exists, oldest first, so the current
one is its last; `currentSize` and `total` are kept beside it. A rotation whose
file cannot be created leaves the current chunk in place, but uses up the number.
-/
import LeakRecorder.OpenFile
import LeakRecorder.Sink
import LeakRecorder.Stream

set_option autoImplicit false

namespace LeakRecorder

/-- A chunk file and the bytes that belong into it. -/
structure Chunk where
  path : Path
  size : Nat
  deriving DecidableEq

structure RotatingSink where
  base : Path
  maxChunkSize : UInt64
  maxTotalSize : UInt64
  /-- Every chunk that exists, oldest first; the last one is the current one. -/
  chunks : List Chunk
  /-- The size of all chunks together. -/
  total : Nat
  file : OpenFile
  /-- The size of the current chunk. -/
  currentSize : Nat
  nextIndex : Nat
  /-- The total is over its limit; payloads are dropped. -/
  stopped : Bool

namespace RotatingSink

/-- The file of a chunk. -/
def chunkPath (base : Path) (index : Nat) : Path :=
  base.parent.append (base.stem ++ "." ++ toString index ++ ".bin")

/-- Makes the directories above the base path and opens the first chunk. -/
def create (dir : Directory) (base : Path) (maxChunkSize maxTotalSize : UInt64) :
    Except IoError (RotatingSink × Directory) := do
  let (dir, made) := dir.makeDirectories base.parent
  made
  let path := chunkPath base 0
  let (file, dir) ← OpenFile.create dir path
  let (file, dir) := file.write dir Stream.header
  let sink : RotatingSink := {
    base
    maxChunkSize
    maxTotalSize
    chunks := [{ path, size := Stream.headerSize }]
    total := Stream.headerSize
    file
    currentSize := Stream.headerSize
    nextIndex := 1
    stopped := false }
  return (sink, dir)

/-- The file of the current chunk. -/
def currentPath? (sink : RotatingSink) : Option Path := sink.chunks.getLast?.map (·.path)

def overTotal (sink : RotatingSink) : Bool := sink.maxTotalSize.toNat < sink.total

/-- Lets everything held back reach the current chunk's file. -/
def flushFile (sink : RotatingSink) (dir : Directory) : RotatingSink × Directory :=
  let (file, dir) := sink.file.flush dir
  ({ sink with file }, dir)

/-- A sink that has stopped is left as it is. -/
def flush (sink : RotatingSink) (dir : Directory) : RotatingSink × Directory :=
  if sink.stopped then (sink, dir) else sink.flushFile dir

/-- Gives the last of some chunks another size. -/
def resizeLast (size : Nat) : List Chunk → List Chunk
  | [] => []
  | [last] => [{ last with size }]
  | first :: next :: rest => first :: resizeLast size (next :: rest)

/-- Takes a payload into the current chunk; a stopped sink drops it. -/
def write (sink : RotatingSink) (dir : Directory) (payload : Bytes) :
    RotatingSink × Directory × Except IoError Unit :=
  if sink.stopped then (sink, dir, .ok ())
  else
    match Stream.encodeParts payload with
    | .error cause => (sink, dir, .error cause)
    | .ok parts =>
        let size := Stream.frameSize payload.length
        let (file, dir) := sink.file.writeAll dir parts
        let currentSize := sink.currentSize + size
        let sink := { sink with
          file
          currentSize
          total := sink.total + size
          chunks := resizeLast currentSize sink.chunks }
        if sink.overTotal then
          let (sink, dir) := sink.flushFile dir
          ({ sink with stopped := true }, dir, .ok ())
        else (sink, dir, .ok ())

/-- The current chunk is full. -/
def needsRotation (sink : RotatingSink) : Bool :=
  !sink.stopped && decide (sink.maxChunkSize.toNat ≤ sink.currentSize)

/-- Deletes the oldest chunks, but never the last one, while the total is over `limit`; one whose
file is gone counts as deleted. -/
def evict (limit : Nat) : List Chunk → Nat → Directory → List Chunk × Nat × Directory
  | oldest :: next :: newer, total, dir =>
      if limit < total then
        let dir := (dir.removeFile oldest.path).toOption.getD dir
        evict limit (next :: newer) (total - oldest.size) dir
      else (oldest :: next :: newer, total, dir)
  | chunks, total, dir => (chunks, total, dir)

/-- Makes room for the current chunk; the sink goes on if there is room then. -/
def evictOldest (sink : RotatingSink) (dir : Directory) : RotatingSink × Directory :=
  let (chunks, total, dir) := evict sink.maxTotalSize.toNat sink.chunks sink.total dir
  let sink := { sink with chunks, total }
  ({ sink with stopped := sink.overTotal }, dir)

/-- The chunk in this file, which has its header, is the current one from now on. -/
def goOnIn (sink : RotatingSink) (path : Path) (file : OpenFile) : RotatingSink :=
  { sink with
    file
    currentSize := Stream.headerSize
    total := sink.total + Stream.headerSize
    chunks := sink.chunks ++ [{ path, size := Stream.headerSize }] }

/-- Closes the current chunk, opens the next one and makes room for it. -/
def rotate (sink : RotatingSink) (dir : Directory) :
    RotatingSink × Directory × Except IoError Unit :=
  let (sink, dir) := sink.flushFile dir
  let path := chunkPath sink.base sink.nextIndex
  let sink := { sink with nextIndex := sink.nextIndex + 1 }
  match OpenFile.create dir path with
  | .error cause => (sink, dir, .error cause)
  | .ok (file, dir) =>
      let (file, dir) := file.write dir Stream.header
      let (sink, dir) := (sink.goOnIn path file).evictOldest dir
      (sink, dir, .ok ())

end RotatingSink

/-- Writes a recording to chunk files of a directory. -/
def Sink.rotating : Sink (RotatingSink × Directory) where
  write state payload :=
    let (sink, dir, result) := state.1.write state.2 payload
    ((sink, dir), result)
  flush state := (state.1.flush state.2, .ok ())
  needsRotation state := state.1.needsRotation
  rotate state :=
    let (sink, dir, result) := state.1.rotate state.2
    ((sink, dir), result)

end LeakRecorder
