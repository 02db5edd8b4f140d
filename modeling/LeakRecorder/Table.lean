/-
# LeakRecorder.Table — a hash table with a fixed number of buckets

A key's hash picks the bucket. Within the bucket an entry matches when it was
inserted under the same hash and the table's keying says that the keys are the
same. Inserting does not look for an earlier match; of several, the first
inserted answers.
-/
import LeakRecorder.Failure

set_option autoImplicit false

namespace LeakRecorder

/-- How a table tells its keys apart. -/
structure Keying (κ : Type) where
  hash : κ → UInt64
  same : κ → κ → Bool

/-- An inserted value with the key and the hash it came under. -/
structure Entry (κ α : Type) where
  hash : UInt64
  key : κ
  value : α

/-- Buckets of entries, each in the order of insertion. There is at least one bucket. -/
structure Table (κ α : Type) where
  keying : Keying κ
  buckets : Array (List (Entry κ α))
  size : Nat
  buckets_pos : 0 < buckets.size

namespace Table

variable {κ α : Type}

/-- An empty table; a request for no bucket gets one. -/
def withBuckets (keying : Keying κ) (count : UInt64) : Except Failure (Table κ α) := do
  reserve count
  return {
    keying
    buckets := Array.replicate (max count.toNat 1) []
    size := 0
    buckets_pos := by simp only [Array.size_replicate]; omega }

/-- The bucket that a hash picks. -/
def bucketIndex (table : Table κ α) (hash : UInt64) : Fin table.buckets.size :=
  ⟨hash.toNat % table.buckets.size, Nat.mod_lt _ table.buckets_pos⟩

/-- An entry answers a key when both hash and keying agree. -/
def matchesKey (table : Table κ α) (key : κ) (entry : Entry κ α) : Bool :=
  entry.hash == table.keying.hash key && table.keying.same key entry.key

def lookup (table : Table κ α) (key : κ) : Option α :=
  let bucket := table.buckets[table.bucketIndex (table.keying.hash key)]
  (bucket.find? (table.matchesKey key)).map (·.value)

/-- Inserts without looking for a match. -/
def insert (table : Table κ α) (key : κ) (value : α) : Table κ α :=
  let hash := table.keying.hash key
  { table with
    buckets := table.buckets.modify (table.bucketIndex hash) (· ++ [{ hash, key, value }])
    size := table.size + 1
    buckets_pos := by simpa using table.buckets_pos }

def isEmpty (table : Table κ α) : Bool := table.size == 0

def bucketCount (table : Table κ α) : Nat := table.buckets.size

/-- Every value of the table. -/
def values (table : Table κ α) : List α := table.buckets.toList.flatten.map (·.value)

end Table

end LeakRecorder
