/-
# LeakRecorder.Payload.Decode — reading a payload back

`Payload.decode` reads blocks until no byte is left. A type that no record has
is refused only when its block holds records. A flag byte other than zero is
true and a frame's kind byte above the last kind is interpreted, so some
payloads read as others do; every other byte counts.
-/
import LeakRecorder.Bytes.Reader
import LeakRecorder.Payload.Record

set_option autoImplicit false

namespace LeakRecorder

def Frame.read : Reader Frame := do
  let classId ← Reader.ident
  let method ← Reader.ident
  let line ← Reader.i32
  let bci ← Reader.i32
  let kind ← Reader.u8
  return { classId, method, line, bci, kind := FrameKind.ofByte kind }

def ThreadRecord.read : Reader ThreadRecord := do
  let tid ← Reader.ident
  let osThread ← Reader.u64
  let name ← Reader.text
  let isVirtual ← Reader.u8
  return { tid, osThread, name, isVirtual := isVirtual != 0 }

def ClassRecord.read : Reader ClassRecord := do
  let classId ← Reader.ident
  let name ← Reader.text
  return { classId, name }

def TraceRecord.read : Reader TraceRecord := do
  let id ← Reader.ident
  let truncated ← Reader.u8
  let count ← Reader.word 4
  let frames ← Reader.many Frame.read count
  return { id, reachedRoot := truncated == 0, frames }

def EdgeRecord.read : Reader EdgeRecord := do
  let edge ← Reader.u64
  let referrer ← Reader.u64
  let field ← Reader.text
  return { edge, referrer, field }

/-- A record of a block's type. -/
def Record.read (typeId : UInt64) : Reader Record :=
  if typeId = Block.threadType then Record.thread <$> ThreadRecord.read
  else if typeId = Block.classType then Record.loadedClass <$> ClassRecord.read
  else if typeId = Block.traceType then Record.trace <$> TraceRecord.read
  else if typeId = Block.edgeType then Record.edge <$> EdgeRecord.read
  else throw (.unknownType typeId)

def Block.read : Reader Block := do
  let typeId ← Reader.u64
  let count ← Reader.word 4
  let records ← Reader.many (Record.read typeId) count
  return { typeId, records }

/-! ## Blocks end -/

namespace Reader

variable {α β : Type}

theorem splits_map (f : α → β) {reader : Reader α} (whole : Splits reader) :
    Splits (f <$> reader) := by
  rw [← bind_pure_comp]
  exact splits_bind whole fun _ => splits_pure _

end Reader

open Reader in
theorem Frame.splits_read : Splits Frame.read :=
  splits_bind splits_ident fun _ => splits_bind splits_ident fun _ =>
    splits_bind splits_i32 fun _ => splits_bind splits_i32 fun _ =>
      splits_bind splits_u8 fun _ => splits_pure _

open Reader in
theorem Record.splits_read (typeId : UInt64) : Splits (Record.read typeId) := by
  unfold Record.read
  split
  · exact splits_map _ (splits_bind splits_ident fun _ => splits_bind splits_u64 fun _ =>
      splits_bind splits_text fun _ => splits_bind splits_u8 fun _ => splits_pure _)
  split
  · exact splits_map _ (splits_bind splits_ident fun _ =>
      splits_bind splits_text fun _ => splits_pure _)
  split
  · exact splits_map _ (splits_bind splits_ident fun _ => splits_bind splits_u8 fun _ =>
      splits_bind (splits_word 4) fun count =>
        splits_bind (splits_many Frame.splits_read count) fun _ => splits_pure _)
  split
  · exact splits_map _ (splits_bind splits_u64 fun _ => splits_bind splits_u64 fun _ =>
      splits_bind splits_text fun _ => splits_pure _)
  · exact splits_throw _

/-- A block takes at least a type off the front. -/
theorem Block.length_read_lt {bytes rest : Bytes} {block : Block}
    (read : Block.read bytes = .ok (block, rest)) : rest.length < bytes.length := by
  obtain ⟨typeId, mid, head, read⟩ := Reader.bind_eq_ok.mp read
  obtain ⟨n, mid', word, done⟩ := Reader.bind_eq_ok.mp head
  cases done
  have taken := Reader.length_word word
  have tail := Reader.splits_bind (Reader.splits_word 4) (fun count =>
    Reader.splits_bind (Reader.splits_many (Record.splits_read _) count) fun _ =>
      Reader.splits_pure _) mid block rest read
  have := tail.length_le
  omega

namespace Payload

/-- The blocks of a payload, after the ones that `done` holds newest first. -/
def decodeAfter (done : List Block) (bytes : Bytes) : Except FormatError (List Block) :=
  if bytes = [] then .ok done.reverse
  else
    match taken : Block.read bytes with
    | .ok (block, rest) =>
        have := Block.length_read_lt taken
        decodeAfter (block :: done) rest
    | .error cause => .error cause
termination_by bytes.length

/-- Every block of a payload. -/
def decode (payload : Bytes) : Except FormatError (List Block) := decodeAfter [] payload

end Payload

end LeakRecorder
