/-
# LeakRecorder.Buffer — a payload under construction

Fields are only ever appended, each by the function of its type. A count that is
not known yet is reserved as four zero bytes and patched later through its slot; a
patch replaces those four bytes and nothing else (`toBytes_patch`). `toBytes` is the
view: every operation is a fact about it.
-/
import LeakRecorder.Bytes.Text
import LeakRecorder.Fault

set_option autoImplicit false

namespace LeakRecorder

/-- The bytes of a payload so far. -/
structure Buffer where
  data : Array UInt8

/-- Where a reserved count lies. -/
structure CountSlot where
  offset : Nat
  deriving DecidableEq

namespace Buffer

def empty : Buffer := ⟨#[]⟩

instance : Inhabited Buffer := ⟨empty⟩

/-- The bytes in the order in which they were appended. -/
def toBytes (buffer : Buffer) : Bytes := buffer.data.toList

def size (buffer : Buffer) : Nat := buffer.data.size

def isEmpty (buffer : Buffer) : Bool := buffer.size == 0

/-- Appends bytes as they are. -/
def append (buffer : Buffer) (bytes : Bytes) : Buffer := ⟨buffer.data ++ bytes⟩

def writeU8 (buffer : Buffer) (value : UInt8) : Buffer := buffer.append [value]

def writeFlag (buffer : Buffer) (flag : Bool) : Buffer := buffer.writeU8 (if flag then 1 else 0)

def writeU32 (buffer : Buffer) (value : UInt32) : Buffer :=
  buffer.append (Word.ofNat 4 value.toNat)

/-- A negative number is written as its two's complement. -/
def writeI32 (buffer : Buffer) (value : Int32) : Buffer := buffer.writeU32 value.toUInt32

def writeU64 (buffer : Buffer) (value : UInt64) : Buffer :=
  buffer.append (Word.ofNat 8 value.toNat)

/-- The type of the block that follows. -/
def writeType (buffer : Buffer) (typeId : UInt64) : Buffer := buffer.writeU64 typeId

def writeCount (buffer : Buffer) (count : UInt32) : Buffer := buffer.writeU32 count

/-- The length of what is kept of the text, and then its bytes. -/
def writeText (buffer : Buffer) (text : String) : Buffer :=
  let bytes := Text.utf8 (Text.kept text)
  (buffer.append (Word.ofNat 2 bytes.length)).append bytes

/-- Appends four zero bytes for a count that is patched in later. -/
def reserveCount (buffer : Buffer) : CountSlot × Buffer := (⟨buffer.size⟩, buffer.writeU32 0)

/-- Puts a count into a slot. -/
def patch (buffer : Buffer) (slot : CountSlot) (count : UInt32) : Except Fault Buffer :=
  let stop := slot.offset + 4
  if stop ≤ buffer.size then
    let bytes := buffer.toBytes
    .ok ⟨(bytes.take slot.offset ++ Word.ofNat 4 count.toNat ++ bytes.drop stop).toArray⟩
  else
    .error (.slotOutOfRange slot.offset buffer.size)

@[simp] theorem toBytes_empty : empty.toBytes = [] := rfl

@[simp] theorem toBytes_append (buffer : Buffer) (bytes : Bytes) :
    (buffer.append bytes).toBytes = buffer.toBytes ++ bytes := by
  simp [append, toBytes]

theorem append_nil (buffer : Buffer) : buffer.append [] = buffer := by
  simp [append]

theorem append_append (buffer : Buffer) (bytes more : Bytes) :
    (buffer.append bytes).append more = buffer.append (bytes ++ more) := by
  refine congrArg Buffer.mk (Array.toList_inj.mp ?_)
  simp [append]

/-- A text is its encoding. -/
theorem writeText_eq (buffer : Buffer) (text : String) :
    buffer.writeText text = buffer.append (Text.encode text) :=
  append_append ..

/-- A length is written as it is: what four bytes cannot hold is left out either way. -/
theorem writeCount_ofNat (buffer : Buffer) (n : Nat) :
    buffer.writeCount (UInt32.ofNat n) = buffer.append (Word.ofNat 4 n) := by
  have low : (UInt32.ofNat n).toNat = n % Word.count 4 := UInt32.toNat_ofNat'
  rw [writeCount, writeU32, low, Word.ofNat_mod]

/-- Items that are appended one after the other. -/
theorem foldl_append {α : Type} (encode : α → Bytes) (items : List α) (buffer : Buffer) :
    items.foldl (fun buffer item => buffer.append (encode item)) buffer =
      buffer.append (items.flatMap encode) := by
  induction items generalizing buffer with
  | nil => exact buffer.append_nil.symm
  | cons item rest ih => rw [List.foldl_cons, ih, append_append, List.flatMap_cons]

@[simp] theorem length_toBytes (buffer : Buffer) : buffer.toBytes.length = buffer.size := by
  simp [toBytes, size]

theorem isEmpty_iff (buffer : Buffer) : buffer.isEmpty = true ↔ buffer.toBytes = [] := by
  rw [← List.length_eq_zero_iff, length_toBytes]
  simp [isEmpty]

/-- A patch inside the buffer replaces the slot's four bytes and nothing else. -/
theorem toBytes_patch {buffer patched : Buffer} {slot : CountSlot} {count : UInt32}
    (done : buffer.patch slot count = .ok patched) :
    patched.toBytes = buffer.toBytes.take slot.offset ++ Word.ofNat 4 count.toNat ++
      buffer.toBytes.drop (slot.offset + 4) := by
  simp only [patch] at done
  split at done
  · cases done
    simp [toBytes]
  · cases done

/-- Any four bytes of the buffer can be patched, and then the others stay. -/
theorem patch_between {buffer : Buffer} {before held after : Bytes}
    (whole : buffer.toBytes = before ++ held ++ after) (width : held.length = 4)
    (count : UInt32) :
    ∃ patched, buffer.patch ⟨before.length⟩ count = .ok patched ∧
      patched.toBytes = before ++ Word.ofNat 4 count.toNat ++ after := by
  have head : (before ++ held).length = before.length + 4 := by rw [List.length_append, width]
  have inside : before.length + 4 ≤ buffer.size := by
    rw [← length_toBytes, whole, List.length_append, head]
    exact Nat.le_add_right _ _
  obtain ⟨patched, done⟩ : ∃ patched, buffer.patch ⟨before.length⟩ count = .ok patched := by
    rw [patch, if_pos inside]
    exact ⟨_, rfl⟩
  refine ⟨patched, done, ?_⟩
  rw [toBytes_patch done, whole, List.drop_left' head, List.append_assoc before held,
    List.take_left' rfl]

end Buffer

end LeakRecorder
