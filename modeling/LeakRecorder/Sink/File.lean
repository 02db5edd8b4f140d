/-
# LeakRecorder.Sink.File — a recording in one file

The file gets the header when it is opened and a frame for every payload. It has
no chunks, so a rotation is never due and changes nothing.
-/
import LeakRecorder.OpenFile
import LeakRecorder.Sink
import LeakRecorder.Stream

set_option autoImplicit false

namespace LeakRecorder

/-- A recording that is written to one file. -/
structure FileSink where
  file : OpenFile

namespace FileSink

/-- Opens the file and starts it with the header. -/
def create (dir : Directory) (path : Path) : Except IoError (FileSink × Directory) := do
  let (file, dir) ← OpenFile.create dir path
  let (file, dir) := file.write dir Stream.header
  return (⟨file⟩, dir)

def write (sink : FileSink) (dir : Directory) (payload : Bytes) :
    FileSink × Directory × Except IoError Unit :=
  match Stream.encodeParts payload with
  | .ok parts =>
      let (file, dir) := sink.file.writeAll dir parts
      (⟨file⟩, dir, .ok ())
  | .error cause => (sink, dir, .error cause)

def flush (sink : FileSink) (dir : Directory) : FileSink × Directory :=
  let (file, dir) := sink.file.flush dir
  (⟨file⟩, dir)

end FileSink

/-- Writes a recording to one file of a directory. -/
def Sink.file : Sink (FileSink × Directory) where
  write state payload :=
    let (sink, dir, result) := state.1.write state.2 payload
    ((sink, dir), result)
  flush state := (state.1.flush state.2, .ok ())
  needsRotation _ := false
  rotate state := (state, .ok ())

end LeakRecorder
