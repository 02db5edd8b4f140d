/-
# LeakRecorder.Payload.Record — records and the blocks that hold them

A payload is a run of blocks, each a type, a count and that many records of the
type. There are four kinds of record: thread descriptors, class names, stack
traces and edges of reference chains. `encode` gives the layout of each:

* thread: thread id, operating-system id, name, virtual or not;
* class: class id, name;
* stack trace: trace id, truncated or not, number of frames, frames of 25 bytes;
* edge: edge id, referrer's id, field.

A trace that reached the root of its stack is not truncated, so that flag is
written inverted.

What is written to a payload is written field by field (`write`); it comes to the
encoding (`write_eq`).
-/
import LeakRecorder.Buffer
import LeakRecorder.Trace

set_option autoImplicit false

namespace LeakRecorder

/-- The thread that allocated a sampled object. -/
structure ThreadRecord where
  tid : TraceId
  osThread : UInt64
  name : String
  isVirtual : Bool
  deriving DecidableEq

/-- A class and its name. -/
structure ClassRecord where
  classId : ClassId
  name : String
  deriving DecidableEq

/-- A stack trace as the stream holds it. -/
structure TraceRecord where
  id : TraceId
  reachedRoot : Bool
  frames : List Frame
  deriving DecidableEq

/-- One edge of a reference chain towards a root; the root's referrer is zero. -/
structure EdgeRecord where
  edge : UInt64
  referrer : UInt64
  field : String
  deriving DecidableEq

/-- One entry of a block. -/
inductive Record where
  | thread (record : ThreadRecord)
  | loadedClass (record : ClassRecord)
  | trace (record : TraceRecord)
  | edge (record : EdgeRecord)
  deriving DecidableEq

/-- A type and the records under it, in stream order. -/
structure Block where
  typeId : UInt64
  records : List Record
  deriving DecidableEq

/-- What the stream keeps of a captured trace. -/
def Trace.toRecord (trace : Trace) : TraceRecord :=
  { id := trace.id, reachedRoot := trace.reachedRoot, frames := trace.frames }

/-! ## Types of blocks -/

def Block.threadType : UInt64 := 1

def Block.classType : UInt64 := 2

def Block.traceType : UInt64 := 3

def Block.edgeType : UInt64 := 4

/-! ## Layout -/

/-- Identifiers and flags of the stream. -/
def Ident.encode {kind : IdentKind} (id : Ident kind) : Bytes := Word.ofNat 8 id.val.toNat

def encodeFlag (flag : Bool) : Bytes := [if flag then 1 else 0]

def Frame.encode (frame : Frame) : Bytes :=
  frame.classId.encode ++ frame.method.encode ++ Word.ofNat 4 frame.line.toUInt32.toNat ++
    Word.ofNat 4 frame.bci.toUInt32.toNat ++ [frame.kind.toByte]

def ThreadRecord.encode (thread : ThreadRecord) : Bytes :=
  thread.tid.encode ++ Word.ofNat 8 thread.osThread.toNat ++ Text.encode thread.name ++
    encodeFlag thread.isVirtual

def ClassRecord.encode (loaded : ClassRecord) : Bytes :=
  loaded.classId.encode ++ Text.encode loaded.name

/-- A trace's fields before its frames. -/
def TraceRecord.encodeHead (trace : TraceRecord) : Bytes :=
  trace.id.encode ++ encodeFlag (!trace.reachedRoot) ++ Word.ofNat 4 trace.frames.length

def TraceRecord.encode (trace : TraceRecord) : Bytes :=
  trace.encodeHead ++ trace.frames.flatMap Frame.encode

def EdgeRecord.encode (edge : EdgeRecord) : Bytes :=
  Word.ofNat 8 edge.edge.toNat ++ Word.ofNat 8 edge.referrer.toNat ++ Text.encode edge.field

def Record.encode : Record → Bytes
  | .thread record => record.encode
  | .loadedClass record => record.encode
  | .trace record => record.encode
  | .edge record => record.encode

/-- A block's type and count, before its records. -/
def Block.encodeHead (typeId : UInt64) (count : Nat) : Bytes :=
  Word.ofNat 8 typeId.toNat ++ Word.ofNat 4 count

def Block.encode (block : Block) : Bytes :=
  Block.encodeHead block.typeId block.records.length ++ block.records.flatMap Record.encode

/-! ## Writing -/

def Frame.write (frame : Frame) (buffer : Buffer) : Buffer :=
  buffer.writeU64 frame.classId.val
    |>.writeU64 frame.method.val
    |>.writeI32 frame.line
    |>.writeI32 frame.bci
    |>.writeU8 frame.kind.toByte

def ThreadRecord.write (thread : ThreadRecord) (buffer : Buffer) : Buffer :=
  buffer.writeU64 thread.tid.val
    |>.writeU64 thread.osThread
    |>.writeText thread.name
    |>.writeFlag thread.isVirtual

def ClassRecord.write (loaded : ClassRecord) (buffer : Buffer) : Buffer :=
  buffer.writeU64 loaded.classId.val |>.writeText loaded.name

def TraceRecord.writeHead (trace : TraceRecord) (buffer : Buffer) : Buffer :=
  buffer.writeU64 trace.id.val
    |>.writeFlag (!trace.reachedRoot)
    |>.writeCount (UInt32.ofNat trace.frames.length)

def EdgeRecord.write (edge : EdgeRecord) (buffer : Buffer) : Buffer :=
  buffer.writeU64 edge.edge |>.writeU64 edge.referrer |>.writeText edge.field

def Block.writeHead (typeId : UInt64) (count : UInt32) (buffer : Buffer) : Buffer :=
  buffer.writeType typeId |>.writeCount count

section Writing

variable (buffer : Buffer)

theorem Frame.write_eq (frame : Frame) : frame.write buffer = buffer.append frame.encode := by
  simp only [write, encode, Ident.encode, Buffer.writeU64, Buffer.writeI32, Buffer.writeU32,
    Buffer.writeU8, Buffer.append_append]

theorem ThreadRecord.write_eq (thread : ThreadRecord) :
    thread.write buffer = buffer.append thread.encode := by
  simp only [write, encode, Ident.encode, encodeFlag, Buffer.writeU64, Buffer.writeText_eq,
    Buffer.writeFlag, Buffer.writeU8, Buffer.append_append]

theorem ClassRecord.write_eq (loaded : ClassRecord) :
    loaded.write buffer = buffer.append loaded.encode := by
  simp only [write, encode, Ident.encode, Buffer.writeU64, Buffer.writeText_eq,
    Buffer.append_append]

theorem TraceRecord.writeHead_eq (trace : TraceRecord) :
    trace.writeHead buffer = buffer.append trace.encodeHead := by
  simp only [writeHead, encodeHead, Ident.encode, encodeFlag, Buffer.writeU64, Buffer.writeFlag,
    Buffer.writeU8, Buffer.writeCount_ofNat, Buffer.append_append]

theorem EdgeRecord.write_eq (edge : EdgeRecord) :
    edge.write buffer = buffer.append edge.encode := by
  simp only [write, encode, Buffer.writeU64, Buffer.writeText_eq, Buffer.append_append]

theorem Block.writeHead_eq (typeId : UInt64) (count : Nat) :
    Block.writeHead typeId (UInt32.ofNat count) buffer =
      buffer.append (Block.encodeHead typeId count) := by
  simp only [writeHead, encodeHead, Buffer.writeType, Buffer.writeU64, Buffer.writeCount_ofNat,
    Buffer.append_append]

end Writing

end LeakRecorder
