/-
# LeakRecorder.ReferenceChains — paths from samples to roots

Chains are built outside the passes; the write pass only asks whether there are
any and has them appended to a payload. `ReferenceChains` is any answer to the
two questions, an honest one or not. `EdgeStore` is a plain list of edges, which
is written as one block.
-/
import LeakRecorder.Payload.Write

set_option autoImplicit false

namespace LeakRecorder

/-- Reference chains as the write pass sees them. -/
structure ReferenceChains where
  isEmpty : Bool
  /-- Appends the chains to a payload and says how many records they are. -/
  write : Buffer → Buffer × Except Failure Nat

/-- Edges in the order in which they were added. -/
structure EdgeStore where
  edges : List EdgeRecord

namespace EdgeStore

def empty : EdgeStore := ⟨[]⟩

instance : Inhabited EdgeStore := ⟨empty⟩

def add (store : EdgeStore) (edge : EdgeRecord) : EdgeStore := ⟨store.edges ++ [edge]⟩

def size (store : EdgeStore) : Nat := store.edges.length

def isEmpty (store : EdgeStore) : Bool := store.edges.isEmpty

/-- The block that holds every edge. -/
def toBlock (store : EdgeStore) : Block :=
  { typeId := Block.edgeType, records := store.edges.map .edge }

/-- Appends the edges as one block. -/
def writeChains (store : EdgeStore) (buffer : Buffer) : Buffer × Except Failure Nat :=
  if store.size < countLimit then
    let head := Block.writeHead Block.edgeType (UInt32.ofNat store.size) buffer
    (store.edges.foldl (fun buffer edge => edge.write buffer) head, .ok store.size)
  else (buffer, .error (.format .tooManyEdges))

theorem writeChains_of_few {store : EdgeStore} (few : store.size < countLimit) (buffer : Buffer) :
    store.writeChains buffer = (buffer.append store.toBlock.encode, .ok store.size) := by
  rw [writeChains, if_pos few]
  dsimp only
  simp only [EdgeRecord.write_eq, Block.writeHead_eq, Buffer.foldl_append, Buffer.append_append]
  simp [toBlock, Block.encode, size, List.flatMap_map, Record.encode]

end EdgeStore

namespace ReferenceChains

def ofEdges (store : EdgeStore) : ReferenceChains where
  isEmpty := store.isEmpty
  write := store.writeChains

end ReferenceChains

end LeakRecorder
