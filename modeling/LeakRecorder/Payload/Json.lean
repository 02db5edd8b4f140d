/-
# LeakRecorder.Payload.Json — blocks as lines of JSON

A block is one line: an object with its type and its records, without blanks, the
fields in the order of the layout. A record starts with its kind.
-/
import LeakRecorder.Payload.Record
import LeakRecorder.Text.Quoted

set_option autoImplicit false

namespace LeakRecorder

namespace Json

/-- An object of named texts. -/
def object (fields : List (String × String)) : String :=
  "\x7b" ++ String.intercalate "," (fields.map fun (name, text) => Quoted.json name ++ ":" ++ text)
    ++ "\x7d"

def array (items : List String) : String := "[" ++ String.intercalate "," items ++ "]"

def natural (n : UInt64) : String := toString n.toNat

def signed (n : Int32) : String := toString n.toInt

end Json

open Json

def Frame.json (frame : Frame) : String :=
  object [
    ("class_id", natural frame.classId.val),
    ("method_id", natural frame.method.val),
    ("line", signed frame.line),
    ("bci", signed frame.bci),
    ("frame_type", Quoted.json frame.kind.name)]

def Record.json : Record → String
  | .thread record =>
      object [
        ("record", Quoted.json "Thread"),
        ("tid", natural record.tid.val),
        ("os_thread_id", natural record.osThread),
        ("name", Quoted.json record.name),
        ("is_virtual", toString record.isVirtual)]
  | .loadedClass record =>
      object [
        ("record", Quoted.json "Class"),
        ("class_id", natural record.classId.val),
        ("name", Quoted.json record.name)]
  | .trace record =>
      object [
        ("record", Quoted.json "StackTrace"),
        ("id", natural record.id.val),
        ("reached_root", toString record.reachedRoot),
        ("frames", array (record.frames.map Frame.json))]
  | .edge record =>
      object [
        ("record", Quoted.json "Edge"),
        ("edge_id", natural record.edge),
        ("referrer_id", natural record.referrer),
        ("field", Quoted.json record.field)]

/-- A block as one line. -/
def Block.json (block : Block) : String :=
  object [
    ("type_id", natural block.typeId),
    ("records", array (block.records.map Record.json))]

end LeakRecorder
