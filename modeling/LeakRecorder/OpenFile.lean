/-
# LeakRecorder.OpenFile — files that are open for writing

An open file collects what is written and lets it reach the file in larger
portions. Up to `capacity` bytes are held back. A portion that does not fit behind
them lets them reach the file first, and one as large as the capacity is not held
back itself. What has reached the file and what is held back are, in this order,
what was written.
-/
import LeakRecorder.Buffer
import LeakRecorder.Directory

set_option autoImplicit false

namespace LeakRecorder

/-- A file that is open for writing. -/
structure OpenFile where
  number : Nat
  /-- How many bytes have reached the file. -/
  offset : Nat
  /-- What is held back. -/
  pending : Buffer

namespace OpenFile

/-- How many bytes an open file can hold back. -/
def capacity : Nat := 8192

def create (dir : Directory) (path : Path) : Except IoError (OpenFile × Directory) := do
  let (number, dir) ← dir.createFile path
  return ({ number, offset := 0, pending := .empty }, dir)

/-- Lets bytes reach the file behind the ones that have reached it. -/
def pass (file : OpenFile) (dir : Directory) (bytes : Bytes) : OpenFile × Directory :=
  ({ file with offset := file.offset + bytes.length },
    dir.writeAt file.number file.offset bytes)

/-- Lets everything held back reach the file. -/
def flush (file : OpenFile) (dir : Directory) : OpenFile × Directory :=
  { file with pending := .empty }.pass dir file.pending.toBytes

/-- Takes one portion. -/
def write (file : OpenFile) (dir : Directory) (portion : Bytes) : OpenFile × Directory :=
  let size := portion.length
  let (file, dir) :=
    if capacity < file.pending.size + size then file.flush dir else (file, dir)
  if capacity ≤ size then file.pass dir portion
  else ({ file with pending := file.pending.append portion }, dir)

/-- Takes portions one after the other. -/
def writeAll (file : OpenFile) (dir : Directory) (portions : List Bytes) : OpenFile × Directory :=
  portions.foldl (fun (file, dir) portion => file.write dir portion) (file, dir)

end OpenFile

end LeakRecorder
