/-
# LeakRecorder.Blob — serialized blocks and who has written them

A blob is one block, serialized ahead of time and attached to any number of
samples. Its bytes never change. Its `written` flag says that it is in the
stream of the current epoch already; the flag is set when the blob is appended
to a payload and reset when an epoch starts.

The bytes of a payload become a blob in two ways: they are copied, and the payload
goes on, or they are moved, and nothing is left of it. Both make the same blob
(`intoBlob_eq_copy`).

Blobs are kept in a store and named by `BlobId`, so two holders share a blob
exactly when they hold the same identifier, and a flag set through one is seen
through all. A store only grows: `get?_add` says that an addition leaves every
blob of the store as it was.
-/
import LeakRecorder.Buffer

set_option autoImplicit false

namespace LeakRecorder

/-- What a blob describes. -/
inductive BlobKind where
  | stackTrace
  | thread
  | typeSet
  deriving DecidableEq

def BlobKind.name : BlobKind → String
  | .stackTrace => "StackTrace"
  | .thread => "Thread"
  | .typeSet => "TypeSet"

/-- One serialized block. -/
structure Blob where
  kind : BlobKind
  bytes : Bytes
  /-- The blob is in the stream of the current epoch. -/
  written : Bool
  deriving DecidableEq

/-- A blob in one line: its kind, its size and its flag. -/
def Blob.summary (blob : Blob) : String :=
  "BlobHandle(Blob \x7b kind: " ++ blob.kind.name ++ ", len: " ++ toString blob.bytes.length ++
    ", written: " ++ toString blob.written ++ " \x7d)"

/-- Names a blob of a store. -/
structure BlobId where
  index : Nat
  deriving DecidableEq

/-- Every blob that was built, in the order of building. -/
structure BlobStore where
  blobs : Array Blob

namespace BlobStore

def empty : BlobStore := ⟨#[]⟩

instance : Inhabited BlobStore := ⟨empty⟩

def get? (store : BlobStore) (id : BlobId) : Option Blob := store.blobs[id.index]?

/-- A new blob, not written yet. -/
def add (store : BlobStore) (kind : BlobKind) (bytes : Bytes) : BlobId × BlobStore :=
  (⟨store.blobs.size⟩, ⟨store.blobs.push { kind, bytes, written := false }⟩)

def setWritten (store : BlobStore) (id : BlobId) (written : Bool) : BlobStore :=
  ⟨store.blobs.modify id.index fun blob => { blob with written }⟩

/-- Makes the blob due again: a new epoch has started. -/
def reset (store : BlobStore) (id : BlobId) : BlobStore := store.setWritten id false

/-- Appends the blob to a payload unless the epoch has it already; says whether it did. -/
def exclusiveWrite (store : BlobStore) (id : BlobId) (buffer : Buffer) :
    Bool × BlobStore × Buffer :=
  match store.get? id with
  | some blob =>
      if blob.written then (false, store, buffer)
      else (true, store.setWritten id true, buffer.append blob.bytes)
  | none => (false, store, buffer)

theorem get?_setWritten (store : BlobStore) (id other : BlobId) (written : Bool) :
    (store.setWritten id written).get? other =
      if id = other then (store.get? other).map (fun blob => { blob with written })
      else store.get? other := by
  cases id with | mk i
  cases other with | mk j
  simp only [setWritten, get?, Array.getElem?_modify, BlobId.mk.injEq]

/-- A new blob leaves every blob of the store as it was. -/
theorem get?_add {store : BlobStore} {id : BlobId} {blob : Blob} (kind : BlobKind)
    (bytes : Bytes) (present : store.get? id = some blob) :
    (store.add kind bytes).2.get? id = some blob := by
  have inside := (Array.getElem?_eq_some_iff.mp present).1
  simp only [add, get?, Array.getElem?_push]
  rw [if_neg (by omega)]
  exact present

@[simp] theorem get?_add_self (store : BlobStore) (kind : BlobKind) (bytes : Bytes) :
    (store.add kind bytes).2.get? (store.add kind bytes).1 =
      some { kind, bytes, written := false } := by
  simp [add, get?]

end BlobStore

namespace Buffer

/-- Copies the bytes so far into a new blob; the payload keeps them. -/
def copy (buffer : Buffer) (kind : BlobKind) (store : BlobStore) : BlobId × BlobStore :=
  store.add kind buffer.toBytes

/-- Moves the bytes into a new blob; nothing is left in the payload. -/
def intoBlob (buffer : Buffer) (kind : BlobKind) (store : BlobStore) :
    Buffer × BlobId × BlobStore :=
  (empty, store.add kind buffer.toBytes)

theorem intoBlob_eq_copy (buffer : Buffer) (kind : BlobKind) (store : BlobStore) :
    buffer.intoBlob kind store = (empty, buffer.copy kind store) := rfl

end Buffer

end LeakRecorder
