/-
# LeakRecorder.Directory — the files that a recording is written to

A path is a text from the directory that holds the recording, and its parts are
what stands between the slashes: a part goes down to a name or up, and blank ones,
nothing or a single dot, go nowhere. Blank parts inside a path stay in its text.
At the end of a path they say that it names a directory, so no file can be opened
or removed there, and after a single dot no directory can be made.

A directory says what is at each location below it: another directory, or a
file. Files are numbered, so a file that is open stays what it is when its name
is removed; a new file under that name is another one. Operations fail as the
operating system has them fail: a missing name on the way, a file on the way, a
directory where a file is wanted.
-/
import LeakRecorder.Bytes.Word
import LeakRecorder.Failure

set_option autoImplicit false

namespace LeakRecorder

/-- What stands between two slashes of a path. -/
inductive Path.Part where
  | down (name : String)
  | up
  | dot
  | nothing
  deriving DecidableEq

/-- How a path ends. -/
inductive Path.Ending where
  | step
  /-- With a slash: whatever is there has to be a directory. -/
  | slash
  /-- With a single dot: a directory has to be there. -/
  | dot
  deriving DecidableEq

structure Path where
  parts : List Path.Part
  deriving DecidableEq

namespace Path

namespace Part

def ofText (text : String) : Part :=
  if text = "" then .nothing
  else if text = "." then .dot
  else if text = ".." then .up
  else .down text

def text : Part → String
  | .down name => name
  | .up => ".."
  | .dot => "."
  | .nothing => ""

/-- The part goes nowhere. -/
def isBlank : Part → Bool
  | .dot | .nothing => true
  | .down _ | .up => false

/-- Parts without the blank ones at their end. -/
def trimEnd : List Part → List Part
  | [] => []
  | part :: rest =>
      match trimEnd rest with
      | [] => if part.isBlank then [] else [part]
      | trimmed => part :: trimmed

theorem length_trimEnd_le (parts : List Part) : (trimEnd parts).length ≤ parts.length := by
  induction parts with
  | nil => exact Nat.le_refl 0
  | cons part rest ih =>
      rw [trimEnd]
      split
      · split <;> simp
      · exact Nat.succ_le_succ ih

end Part

/-- The directory that holds the recording. -/
def here : Path := ⟨[.dot]⟩

/-- The path that a text spells. -/
def ofText (text : String) : Path := ⟨(text.splitOn "/").map .ofText⟩

/-- The parts of a path between slashes, from the first to the last that goes somewhere. -/
def text (path : Path) : String :=
  String.intercalate "/" (((Part.trimEnd path.parts).dropWhile Part.isBlank).map Part.text)

/-- A single dot counts wherever it stands among the blank parts at the end. -/
def ending (path : Path) : Ending :=
  let blanks := path.parts.reverse.takeWhile Part.isBlank
  if blanks.contains .dot then .dot else if blanks.isEmpty then .step else .slash

/-- The last part that goes somewhere. -/
def last? (path : Path) : Option Part := (Part.trimEnd path.parts).getLast?

/-- The path before its last part; blank parts on either side of that one go with it. -/
def parent (path : Path) : Path := ⟨Part.trimEnd (Part.trimEnd path.parts).dropLast⟩

/-- A path that goes somewhere has a parent with fewer parts. -/
theorem length_parent_lt {path : Path} {last : Part} (goes : path.last? = some last) :
    path.parent.parts.length < path.parts.length := by
  have nonempty : Part.trimEnd path.parts ≠ [] := by
    intro none
    simp [last?, none] at goes
  have shorter := List.length_pos_iff.mpr nonempty
  have := Part.length_trimEnd_le path.parts
  have := Part.length_trimEnd_le (Part.trimEnd path.parts).dropLast
  simp only [parent, List.length_dropLast] at *
  omega

def append (path : Path) (name : String) : Path := ⟨path.parts ++ [.down name]⟩

/-- A name without its last extension; a name that only starts with a dot has none. -/
def stemOf (name : String) : String :=
  let beforeDot := (name.toList.reverse.dropWhile (· != '.')).drop 1
  if beforeDot.isEmpty then name else String.ofList beforeDot.reverse

/-- The stem of the last name; a path that ends by going up has an empty one. -/
def stem (path : Path) : String :=
  match path.last? with
  | some (.down name) => stemOf name
  | _ => ""

end Path

/-- Names from the directory down. -/
abbrev Location := List String

/-- What is at a location. -/
inductive Node where
  | dir
  | file (number : Nat)
  deriving DecidableEq

structure Directory where
  nodes : List (Location × Node)
  /-- The contents of each file by number. -/
  contents : Array (Array UInt8)

namespace Directory

def empty : Directory := { nodes := [], contents := #[] }

instance : Inhabited Directory := ⟨empty⟩

/-- What is at a location; the directory itself is at the empty one. -/
def node? (dir : Directory) (location : Location) : Option Node :=
  if location = [] then some .dir
  else (dir.nodes.find? (·.1 == location)).map (·.2)

/-- Follows the parts of a path through directories. -/
def enter (dir : Directory) (start : Location) : List Path.Part → Except IoError Location
  | [] => .ok start
  | .dot :: rest | .nothing :: rest => dir.enter start rest
  | .up :: rest => dir.enter start.dropLast rest
  | .down name :: rest =>
      match dir.node? (start ++ [name]) with
      | some .dir => dir.enter (start ++ [name]) rest
      | some (.file _) => .error .notADirectory
      | none => .error .notFound

def isDirectory (dir : Directory) (path : Path) : Bool :=
  match dir.enter [] path.parts with
  | .ok _ => true
  | .error _ => false

/-- Makes one directory; everything above it has to exist. -/
def makeDirectory (dir : Directory) (path : Path) : Except IoError Directory := do
  if path.ending = .dot then
    let _ ← dir.enter [] path.parts
    throw .alreadyExists
  match path.last? with
  | none => throw .alreadyExists
  | some last =>
      let above ← dir.enter [] path.parent.parts
      match last with
      | .down name =>
          match dir.node? (above ++ [name]) with
          | some _ => throw .alreadyExists
          | none => return { dir with nodes := dir.nodes ++ [(above ++ [name], .dir)] }
      | _ => throw .alreadyExists

/-- Makes one directory unless it is there. -/
def ensureDirectory (dir : Directory) (path : Path) : Directory × Except IoError Unit :=
  match dir.makeDirectory path with
  | .ok made => (made, .ok ())
  | .error cause => (dir, if dir.isDirectory path then .ok () else .error cause)

/-- Makes a directory and whatever is missing above it. What has been made stays when a later one
fails. -/
def makeDirectories (dir : Directory) (path : Path) : Directory × Except IoError Unit :=
  match _goes : path.last? with
  | none => (dir, .ok ())
  | some _ =>
      match dir.makeDirectory path with
      | .error .notFound =>
          match dir.makeDirectories path.parent with
          | (dir, .ok ()) => dir.ensureDirectory path
          | failed => failed
      | _ => dir.ensureDirectory path
termination_by path.parts.length
decreasing_by exact Path.length_parent_lt _goes

/-- Opens a file for writing: an existing one loses its contents, a missing one is made. -/
def createFile (dir : Directory) (path : Path) : Except IoError (Nat × Directory) := do
  if path.ending = .dot then
    let _ ← dir.enter [] path.parts
    throw .isADirectory
  match path.last? with
  | none => throw .isADirectory
  | some last =>
      let above ← dir.enter [] path.parent.parts
      if path.ending = .slash then
        throw .isADirectory
      match last with
      | .down name =>
          match dir.node? (above ++ [name]) with
          | some .dir => throw .isADirectory
          | some (.file number) =>
              return (number, { dir with contents := dir.contents.set! number #[] })
          | none =>
              let number := dir.contents.size
              return (number, {
                nodes := dir.nodes ++ [(above ++ [name], .file number)]
                contents := dir.contents.push #[] })
      | _ => throw .isADirectory

/-- Removes a file's name; a directory stays. -/
def removeFile (dir : Directory) (path : Path) : Except IoError Directory := do
  if path.ending = .dot then
    let _ ← dir.enter [] path.parts
    throw .isADirectory
  match path.last? with
  | none => throw .isADirectory
  | some last =>
      let above ← dir.enter [] path.parent.parts
      match last with
      | .down name =>
          let location := above ++ [name]
          match dir.node? location with
          | none => throw .notFound
          | some .dir => throw .isADirectory
          | some (.file _) =>
              if path.ending = .slash then
                throw .notADirectory
              return { dir with nodes := dir.nodes.filter (·.1 != location) }
      | _ => throw .isADirectory

/-- Writes into a file at an offset; a gap before it is filled with zeros. Writing nothing leaves
the file as it is, also when the offset lies beyond its end. -/
def writeAt (dir : Directory) (number offset : Nat) (bytes : Bytes) : Directory :=
  if bytes.isEmpty then dir
  else
    { dir with
      contents := dir.contents.modify number fun old =>
        if old.size ≤ offset then old ++ Array.replicate (offset - old.size) 0 ++ bytes
        else old.take offset ++ bytes ++ old.drop (offset + bytes.length) }

/-- The bytes of the file at a location. -/
def read? (dir : Directory) (location : Location) : Option Bytes :=
  match dir.node? location with
  | some (.file number) => dir.contents[number]?.map Array.toList
  | _ => none

/-- Everything below the directory by name, in the order of the names; a directory's name ends in
a slash and has no bytes. -/
def listing (dir : Directory) : List (String × Option Bytes) :=
  let entries := dir.nodes.map fun (location, node) =>
    let name := String.intercalate "/" location
    match node with
    | .dir => (name ++ "/", none)
    | .file number => (name, some (dir.contents[number]?.getD #[]).toList)
  entries.mergeSort fun a b => decide (a.1 ≤ b.1)

end Directory

end LeakRecorder
