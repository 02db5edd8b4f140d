/-
# LeakRecorder.Proofs.ReservedCounts — a patched count stays in its place

A payload under construction grows at its end and is patched in the middle, where counts
were reserved, while it goes on growing. `Writing` is what can be done with it: values are
written, counts are reserved and patched, the bytes so far are copied into a blob, and
whole blobs are appended, those copies among them.

What comes of it is said from the history alone. A history makes up parts, which are
bytes that stay as they are and slots for counts (`parts`). The payload spells them out,
each slot with the count that was patched into it last (`spell`, `lastCount`). A slot
lies where the bytes of the parts in front of it end (`slotsAt`), however they are
patched, so a patch changes its own count and nothing else (`patch_slot`). A patch of a
reserved slot always goes through, and a copy keeps the bytes of its moment:
`patches_spell_last_counts` is the result.
-/
import LeakRecorder.Payload.Record
import LeakRecorder.Proofs.History
import LeakRecorder.Proofs.Resolving

set_option autoImplicit false

namespace LeakRecorder

/-! ## Parts of a payload -/

namespace Buffer

/-- A part of a payload: bytes that stay as they are, or a slot for a count. -/
inductive Part where
  | bytes (bytes : Bytes)
  | slot

/-- The parts in a row, each slot with its count; the first slot has the number `next`. -/
def spell (counts : Nat → UInt32) : Nat → List Part → Bytes
  | _, [] => []
  | next, .bytes bytes :: rest => bytes ++ spell counts next rest
  | next, .slot :: rest => Word.ofNat 4 (counts next).toNat ++ spell counts (next + 1) rest

/-- Where the slots lie, if the parts begin at `offset`. -/
def slotsAt : Nat → List Part → List CountSlot
  | _, [] => []
  | offset, .bytes bytes :: rest => slotsAt (offset + bytes.length) rest
  | offset, .slot :: rest => ⟨offset⟩ :: slotsAt (offset + 4) rest

variable {counts other : Nat → UInt32}

theorem spell_append (counts : Nat → UInt32) (next offset : Nat) (parts more : List Part) :
    spell counts next (parts ++ more) =
      spell counts next parts ++ spell counts (next + (slotsAt offset parts).length) more := by
  induction parts generalizing next offset with
  | nil => rfl
  | cons part rest ih =>
      cases part with
      | bytes bytes =>
          rw [List.cons_append, spell, spell, slotsAt, ih next (offset + bytes.length),
            List.append_assoc]
      | slot =>
          rw [List.cons_append, spell, spell, slotsAt, ih (next + 1) (offset + 4),
            List.append_assoc, List.length_cons, Nat.add_assoc next 1, Nat.add_comm 1]

theorem slotsAt_append (counts : Nat → UInt32) (next offset : Nat) (parts more : List Part) :
    slotsAt offset (parts ++ more) =
      slotsAt offset parts ++ slotsAt (offset + (spell counts next parts).length) more := by
  induction parts generalizing next offset with
  | nil => rfl
  | cons part rest ih =>
      cases part with
      | bytes bytes =>
          rw [List.cons_append, spell, slotsAt, slotsAt, ih next, List.length_append,
            Nat.add_assoc]
      | slot =>
          rw [List.cons_append, spell, slotsAt, slotsAt, ih (next + 1), List.length_append,
            Word.length_ofNat, Nat.add_assoc, List.cons_append]

/-- Parts whose slots have the same counts are spelled the same. -/
theorem spell_congr {next : Nat} (same : ∀ slot, next ≤ slot → other slot = counts slot)
    (parts : List Part) : spell other next parts = spell counts next parts := by
  induction parts generalizing next with
  | nil => rfl
  | cons part rest ih =>
      cases part with
      | bytes bytes => rw [spell, spell, ih same]
      | slot =>
          rw [spell, spell, same next (Nat.le_refl next),
            ih fun slot later => same slot (Nat.le_of_succ_le later)]

/-- The count of a slot stands where the slot lies, and the bytes around it do not depend on it. -/
theorem spell_around (next : Nat) {index offset : Nat} {parts : List Part} {slot : CountSlot}
    (found : (slotsAt offset parts)[index]? = some slot) (counts : Nat → UInt32) :
    ∃ before after : Bytes, slot.offset = offset + before.length ∧
      ∀ other : Nat → UInt32, (∀ number, number ≠ next + index → other number = counts number) →
        spell other next parts =
          before ++ Word.ofNat 4 (other (next + index)).toNat ++ after := by
  induction parts generalizing index next offset with
  | nil => cases found
  | cons part rest ih =>
      cases part with
      | bytes bytes =>
          obtain ⟨before, after, place, around⟩ := ih next found
          refine ⟨bytes ++ before, after, ?_, fun other same => ?_⟩
          · rw [place, List.length_append, Nat.add_assoc]
          · rw [spell, around other same]
            simp only [List.append_assoc]
      | slot =>
          cases index with
          | zero =>
              cases found
              refine ⟨[], spell counts (next + 1) rest, rfl, fun other same => ?_⟩
              rw [spell, spell_congr fun number later => same number (by omega)]
              rfl
          | succ index =>
              obtain ⟨before, after, place, around⟩ := ih (next + 1) found
              have number : next + 1 + index = next + (index + 1) := by omega
              rw [number] at around
              refine ⟨Word.ofNat 4 (counts next).toNat ++ before, after, ?_, fun other same => ?_⟩
              · rw [place, List.length_append, Word.length_ofNat, Nat.add_assoc]
              · rw [spell, around other same, same next (by omega)]
                simp only [List.append_assoc]

/-- A patch of a slot goes through, and the payload has another count there. -/
theorem patch_slot {buffer : Buffer} {parts : List Part} {index : Nat} {slot : CountSlot}
    (spelled : buffer.toBytes = spell counts 0 parts)
    (found : (slotsAt 0 parts)[index]? = some slot) (count : UInt32) :
    ∃ patched, buffer.patch slot count = .ok patched ∧
      patched.toBytes = spell (Function.update counts index count) 0 parts := by
  obtain ⟨before, after, place, around⟩ := spell_around 0 found counts
  rw [Nat.zero_add] at place around
  have held := around counts fun _ _ => rfl
  have updated := around (Function.update counts index count) fun number differs =>
    Function.update_of_ne differs count counts
  rw [Function.update_self] at updated
  obtain ⟨patched, done, bytes⟩ :=
    patch_between (spelled.trans held) (Word.length_ofNat 4 _) count
  refine ⟨patched, ?_, bytes.trans updated.symm⟩
  rw [← done, ← place]

end Buffer

/-! ## What is done with a payload -/

/-- A value that is written in one go. -/
inductive Value where
  | u8 (value : UInt8)
  | flag (value : Bool)
  | u32 (value : UInt32)
  | i32 (value : Int32)
  | u64 (value : UInt64)
  | typeId (value : UInt64)
  | count (value : UInt32)
  | text (value : String)
  | bytes (value : Bytes)

namespace Value

/-- Appends the value with the writer of its type. -/
def write (buffer : Buffer) : Value → Buffer
  | .u8 value => buffer.writeU8 value
  | .flag value => buffer.writeFlag value
  | .u32 value => buffer.writeU32 value
  | .i32 value => buffer.writeI32 value
  | .u64 value => buffer.writeU64 value
  | .typeId value => buffer.writeType value
  | .count value => buffer.writeCount value
  | .text value => buffer.writeText value
  | .bytes value => buffer.append value

/-- The bytes that the value is written as. -/
def encode : Value → Bytes
  | .u8 value => [value]
  | .flag value => encodeFlag value
  | .u32 value | .count value => Word.ofNat 4 value.toNat
  | .i32 value => Word.ofNat 4 value.toUInt32.toNat
  | .u64 value | .typeId value => Word.ofNat 8 value.toNat
  | .text value => Text.encode value
  | .bytes value => value

theorem write_eq (buffer : Buffer) (value : Value) :
    value.write buffer = buffer.append value.encode := by
  cases value with
  | text value => exact buffer.writeText_eq value
  | _ => rfl

end Value

/-- One thing that is done with a payload. -/
inductive Writing where
  | write (value : Value)
  | reserve
  /-- A count is put into a slot; the slots are numbered in the order of their reservation. -/
  | patch (slot : Nat) (count : UInt32)
  /-- The bytes so far are copied into a new blob. -/
  | copy (kind : BlobKind)
  /-- A blob is appended unless the epoch has it. -/
  | emit (blob : BlobId)
  /-- Another payload has taken the blob, or an epoch has started. -/
  | flag (blob : BlobId) (written : Bool)

/-- A payload, the slots that were reserved in it, and the blobs. -/
structure Composition where
  buffer : Buffer
  slots : List CountSlot
  blobs : BlobStore

namespace Composition

/-- An empty payload beside blobs. -/
def start (blobs : BlobStore) : Composition := { buffer := .empty, slots := [], blobs }

/-- The payload after one step; a slot that was not reserved cannot be named. -/
def step (state : Composition) : Writing → Except Fault Composition
  | .write value => .ok { state with buffer := value.write state.buffer }
  | .reserve =>
      let (slot, buffer) := state.buffer.reserveCount
      .ok { state with buffer, slots := state.slots ++ [slot] }
  | .patch slot count =>
      match state.slots[slot]? with
      | some slot => (state.buffer.patch slot count).map fun buffer => { state with buffer }
      | none => .ok state
  | .copy kind => .ok { state with blobs := (state.buffer.copy kind state.blobs).2 }
  | .emit blob =>
      let (_, blobs, buffer) := state.blobs.exclusiveWrite blob state.buffer
      .ok { state with buffer, blobs }
  | .flag blob written => .ok { state with blobs := state.blobs.setWritten blob written }

/-- What a history leaves; the first patch that is out of range ends it. -/
def run (blobs : BlobStore) (history : List Writing) : Except Fault Composition :=
  history.foldlM step (start blobs)

end Composition

/-! ## What a history says -/

namespace Writing

def isReserve : Writing → Bool
  | .reserve => true
  | _ => false

def isCopy : Writing → Bool
  | .copy _ => true
  | _ => false

/-- What is put into a slot. -/
def countFor? (slot : Nat) : Writing → Option UInt32
  | .patch other count => if other = slot then some count else none
  | _ => none

/-- What becomes of a blob's flag. -/
def flagOf? (blob : BlobId) : Writing → Option Bool
  | .emit other => if other = blob then some true else none
  | .flag other written => if other = blob then some written else none
  | _ => none

end Writing

namespace Composition

/-- How many counts have been reserved. -/
def reserved (history : List Writing) : Nat := history.countP Writing.isReserve

/-- How many copies have been made. -/
def copied (history : List Writing) : Nat := history.countP Writing.isCopy

/-- The count that was last put into a slot, or zero. -/
def lastCount (history : List Writing) (slot : Nat) : UInt32 :=
  lastOf (Writing.countFor? slot) 0 history

/-- The epoch has the blob after the history. -/
def taken (blobs : BlobStore) (history : List Writing) (blob : BlobId) : Bool :=
  lastOf (Writing.flagOf? blob) (blobs.has blob) history

/-- Only slots that were reserved are patched, and only blobs that are there are named: the given
ones and behind them the copies. -/
def Fits (blobs : BlobStore) (history : List Writing) : Writing → Prop
  | .patch slot _ => slot < reserved history
  | .emit blob | .flag blob _ => blob.index < blobs.blobs.size + copied history
  | _ => True

instance (blobs : BlobStore) (history : List Writing) (writing : Writing) :
    Decidable (Fits blobs history writing) :=
  match writing with
  | .write _ | .reserve | .copy _ => .isTrue trivial
  | .patch slot _ => inferInstanceAs (Decidable (slot < reserved history))
  | .emit blob | .flag blob _ =>
      inferInstanceAs (Decidable (blob.index < blobs.blobs.size + copied history))

section Parts

variable (blobs : BlobStore) (bytesOf : BlobId → Bytes)

/-- The part that is added to the payload after a history. -/
def part? (history : List Writing) : Writing → Option Buffer.Part
  | .write value => some (.bytes value.encode)
  | .reserve => some .slot
  | .emit blob => if taken blobs history blob then none else some (.bytes (bytesOf blob))
  | _ => none

/-- The parts that are added after a history, in order. -/
def partsAfter (history : List Writing) : List Writing → List Buffer.Part
  | [] => []
  | writing :: rest =>
      (part? blobs bytesOf history writing).toList ++ partsAfter (history ++ [writing]) rest

/-- The parts that a history makes up. -/
def parts (history : List Writing) : List Buffer.Part := partsAfter blobs bytesOf [] history

theorem partsAfter_concat (history more : List Writing) (writing : Writing) :
    partsAfter blobs bytesOf history (more ++ [writing]) =
      partsAfter blobs bytesOf history more ++
        (part? blobs bytesOf (history ++ more) writing).toList := by
  induction more generalizing history with
  | nil => simp [partsAfter]
  | cons first rest ih =>
      rw [List.cons_append, partsAfter, ih, partsAfter, List.append_assoc, List.append_assoc,
        List.singleton_append]

theorem parts_concat (history : List Writing) (writing : Writing) :
    parts blobs bytesOf (history ++ [writing]) =
      parts blobs bytesOf history ++ (part? blobs bytesOf history writing).toList :=
  partsAfter_concat blobs bytesOf [] history writing

variable {blobs bytesOf}

theorem parts_concat_of_none {history : List Writing} {writing : Writing}
    (part : part? blobs bytesOf history writing = none) :
    parts blobs bytesOf (history ++ [writing]) = parts blobs bytesOf history := by
  rw [parts_concat, part, Option.toList_none, List.append_nil]

end Parts

end Composition

/-! ## The blobs -/

namespace BlobStore

variable {store : BlobStore} {id : BlobId}

theorem exists_get?_of_lt (inside : id.index < store.blobs.size) :
    ∃ blob, store.get? id = some blob := ⟨_, Array.getElem?_eq_getElem inside⟩

theorem size_setWritten (store : BlobStore) (id : BlobId) (written : Bool) :
    (store.setWritten id written).blobs.size = store.blobs.size := by
  simp [setWritten]

theorem size_exclusiveWrite (store : BlobStore) (id : BlobId) (buffer : Buffer) :
    (store.exclusiveWrite id buffer).2.1.blobs.size = store.blobs.size := by
  cases owed : store.owes id with
  | true =>
      rw [exclusiveWrite_of_owes owed]
      exact store.size_setWritten id true
  | false => rw [exclusiveWrite_of_not_owes owed]

theorem has_setWritten {blob : Blob} (present : store.get? id = some blob) (written : Bool)
    (other : BlobId) :
    (store.setWritten id written).has other = if id = other then written else store.has other := by
  rw [has, get?_setWritten]
  by_cases same : id = other
  · subst same
    simp [present]
  · simp [same, has]

theorem has_exclusiveWrite {blob : Blob} (present : store.get? id = some blob) (buffer : Buffer)
    (other : BlobId) :
    (store.exclusiveWrite id buffer).2.1.has other =
      if id = other then true else store.has other := by
  rw [has, get?_exclusiveWrite]
  by_cases same : id = other
  · subst same
    simp [present]
  · simp [same, has]

theorem keeps_setWritten (store : BlobStore) (id : BlobId) (written : Bool) :
    store.Keeps (store.setWritten id written) := by
  intro other blob present
  rw [get?_setWritten, present]
  split
  · exact ⟨written, rfl⟩
  · exact ⟨blob.written, rfl⟩

theorem keeps_exclusiveWrite (store : BlobStore) (id : BlobId) (buffer : Buffer) :
    store.Keeps (store.exclusiveWrite id buffer).2.1 := by
  cases owed : store.owes id with
  | true =>
      rw [exclusiveWrite_of_owes owed]
      exact store.keeps_setWritten id true
  | false =>
      rw [exclusiveWrite_of_not_owes owed]
      exact .refl store

/-- Every blob of the store has these bytes. -/
def HasBytes (store : BlobStore) (bytesOf : BlobId → Bytes) : Prop :=
  ∀ id blob, store.get? id = some blob → bytesOf id = blob.bytes

theorem hasBytes_bytesOf (store : BlobStore) : store.HasBytes store.bytesOf :=
  fun _ _ present => bytesOf_eq present

theorem HasBytes.of_keeps {later : BlobStore} {bytesOf : BlobId → Bytes}
    (has : later.HasBytes bytesOf) (keeps : store.Keeps later) : store.HasBytes bytesOf := by
  intro id blob present
  obtain ⟨written, kept⟩ := keeps id blob present
  have same := has id _ kept
  exact same

end BlobStore

/-! ## One step -/

namespace Composition

section Concat

variable (history : List Writing) {writing : Writing}

theorem reserved_concat (writing : Writing) :
    reserved (history ++ [writing]) = reserved history + if writing.isReserve then 1 else 0 := by
  rw [reserved, List.countP_append, List.countP_singleton, reserved]

theorem copied_concat (writing : Writing) :
    copied (history ++ [writing]) = copied history + if writing.isCopy then 1 else 0 := by
  rw [copied, List.countP_append, List.countP_singleton, copied]

theorem lastCount_patch (slot : Nat) (count : UInt32) :
    lastCount (history ++ [.patch slot count]) =
      Function.update (lastCount history) slot count := by
  funext other
  rw [lastCount, lastOf_concat, Writing.countFor?, Function.update_apply]
  by_cases same : slot = other
  · subst same
    simp
  · simp [same, Ne.symm same, lastCount]

/-- Only a patch changes a count. -/
theorem lastCount_concat (still : ∀ slot, writing.countFor? slot = none) :
    lastCount (history ++ [writing]) = lastCount history := by
  funext slot
  rw [lastCount, lastOf_concat, still]
  rfl

theorem taken_concat (blobs : BlobStore) (writing : Writing) (blob : BlobId) :
    taken blobs (history ++ [writing]) blob =
      (writing.flagOf? blob).getD (taken blobs history blob) :=
  lastOf_concat _ _ history writing

end Concat

/-- A slot that has not been reserved has no count. -/
theorem lastCount_of_unreserved {blobs : BlobStore} {history : List Writing}
    (fits : Throughout (Fits blobs) history) {slot : Nat} (late : reserved history ≤ slot) :
    lastCount history slot = 0 := by
  induction history using List.reverseRecOn with
  | nil => rfl
  | append_singleton history writing ih =>
      have fit := fits.last
      rw [reserved_concat] at late
      have before := ih fits.front (by omega)
      cases writing with
      | patch other count =>
          have earlier : other < reserved history := fit
          rw [lastCount_patch, Function.update_of_ne (by omega), before]
      | _ => rw [lastCount_concat history fun _ => rfl, before]

/-- What a history has made of the blobs: their number, and their flags. -/
structure Stocked (blobs : BlobStore) (history : List Writing) (store : BlobStore) : Prop where
  size : store.blobs.size = blobs.blobs.size + copied history
  flags : ∀ id, store.has id = taken blobs history id

namespace Stocked

variable {blobs store : BlobStore} {history : List Writing} {blob : BlobId}

/-- A blob whose number is below the number of blobs is there. -/
theorem present (stocked : Stocked blobs history store)
    (inside : blob.index < blobs.blobs.size + copied history) :
    ∃ held, store.get? blob = some held := by
  rw [← stocked.size] at inside
  exact BlobStore.exists_get?_of_lt inside

/-- A step that neither copies nor changes a flag. -/
theorem same (stocked : Stocked blobs history store) {writing : Writing}
    (noCopy : writing.isCopy = false) (noFlag : ∀ id, writing.flagOf? id = none) :
    Stocked blobs (history ++ [writing]) store where
  size := by
    rw [copied_concat, noCopy]
    exact stocked.size
  flags := by
    intro id
    rw [taken_concat, noFlag]
    exact stocked.flags id

theorem copy (stocked : Stocked blobs history store) (kind : BlobKind) (bytes : Bytes) :
    Stocked blobs (history ++ [.copy kind]) (store.add kind bytes).2 where
  size := by
    rw [copied_concat, BlobStore.add, Array.size_push, stocked.size]
    rfl
  flags := by
    intro id
    rw [BlobStore.has_add, taken_concat]
    exact stocked.flags id

theorem emit (stocked : Stocked blobs history store)
    (fit : Fits blobs history (.emit blob)) (buffer : Buffer) :
    Stocked blobs (history ++ [.emit blob]) (store.exclusiveWrite blob buffer).2.1 where
  size := by
    rw [copied_concat, BlobStore.size_exclusiveWrite]
    exact stocked.size
  flags := by
    intro id
    obtain ⟨_, present⟩ := stocked.present fit
    rw [BlobStore.has_exclusiveWrite present, taken_concat, stocked.flags, Writing.flagOf?]
    split <;> rfl

theorem flag (stocked : Stocked blobs history store) {written : Bool}
    (fit : Fits blobs history (.flag blob written)) :
    Stocked blobs (history ++ [.flag blob written]) (store.setWritten blob written) where
  size := by
    rw [copied_concat, BlobStore.size_setWritten]
    exact stocked.size
  flags := by
    intro id
    obtain ⟨_, present⟩ := stocked.present fit
    rw [BlobStore.has_setWritten present, taken_concat, stocked.flags, Writing.flagOf?]
    split <;> rfl

end Stocked

/-- The payload spells out what the history says, and the slots lie where it puts them. -/
structure Spells (blobs : BlobStore) (bytesOf : BlobId → Bytes) (history : List Writing)
    (buffer : Buffer) (slots : List CountSlot) : Prop where
  payload : buffer.toBytes = Buffer.spell (lastCount history) 0 (parts blobs bytesOf history)
  slots : slots = Buffer.slotsAt 0 (parts blobs bytesOf history)

namespace Spells

variable {blobs : BlobStore} {bytesOf : BlobId → Bytes} {history : List Writing} {buffer : Buffer}
  {slots : List CountSlot} {writing : Writing}

/-- Bytes that are appended are one part more. -/
theorem append (spells : Spells blobs bytesOf history buffer slots) {bytes : Bytes}
    (part : part? blobs bytesOf history writing = some (.bytes bytes))
    (still : ∀ slot, writing.countFor? slot = none) :
    Spells blobs bytesOf (history ++ [writing]) (buffer.append bytes) slots where
  payload := by
    rw [lastCount_concat history still, parts_concat, part, Buffer.spell_append _ 0 0,
      Buffer.toBytes_append, spells.payload]
    simp [Buffer.spell]
  slots := by
    rw [parts_concat, part, Buffer.slotsAt_append (lastCount history) 0, ← spells.slots]
    simp [Buffer.slotsAt]

/-- A step that adds no part and no count. -/
theorem same (spells : Spells blobs bytesOf history buffer slots)
    (part : part? blobs bytesOf history writing = none)
    (still : ∀ slot, writing.countFor? slot = none) :
    Spells blobs bytesOf (history ++ [writing]) buffer slots where
  payload := by
    rw [lastCount_concat history still, parts_concat_of_none part]
    exact spells.payload
  slots := by
    rw [parts_concat_of_none part]
    exact spells.slots

/-- A slot begins where the payload ends, and holds zero. -/
theorem reserve (spells : Spells blobs bytesOf history buffer slots)
    (unpatched : lastCount history slots.length = 0) :
    Spells blobs bytesOf (history ++ [.reserve]) (buffer.append (Word.ofNat 4 0))
      (slots ++ [⟨buffer.size⟩]) := by
  have slot : part? blobs bytesOf history .reserve = some .slot := rfl
  constructor
  · rw [lastCount_concat history fun _ => rfl, parts_concat, slot, Buffer.spell_append _ 0 0,
      ← spells.slots, ← spells.payload, Buffer.toBytes_append]
    simp [Buffer.spell, unpatched]
  · rw [parts_concat, slot, Buffer.slotsAt_append (lastCount history) 0, ← spells.slots,
      ← spells.payload, Buffer.length_toBytes]
    simp [Buffer.slotsAt]

/-- A patch puts its count into the slot and leaves everything else. -/
theorem patch (spells : Spells blobs bytesOf history buffer slots) {slot : Nat}
    {place : CountSlot} (found : slots[slot]? = some place) (count : UInt32) :
    ∃ patched, buffer.patch place count = .ok patched ∧
      Spells blobs bytesOf (history ++ [.patch slot count]) patched slots := by
  have parts : parts blobs bytesOf (history ++ [.patch slot count]) =
      parts blobs bytesOf history := parts_concat_of_none rfl
  rw [spells.slots] at found
  obtain ⟨patched, done, bytes⟩ := Buffer.patch_slot spells.payload found count
  refine ⟨patched, done, ?_, ?_⟩
  · rw [lastCount_patch, parts]
    exact bytes
  · rw [parts]
    exact spells.slots

end Spells

/-- What a history leaves, said from the history. The bytes of blobs are left open, so that they
can be those of a later moment, when there are more copies. -/
structure Follows (blobs : BlobStore) (history : List Writing) (state : Composition) : Prop where
  stocked : Stocked blobs history state.blobs
  slots : state.slots.length = reserved history
  spells : ∀ bytesOf, state.blobs.HasBytes bytesOf →
    Spells blobs bytesOf history state.buffer state.slots

variable {blobs : BlobStore} {history : List Writing} {state next : Composition}

theorem follows_start (blobs : BlobStore) : Follows blobs [] (start blobs) where
  stocked := ⟨rfl, fun _ => rfl⟩
  slots := rfl
  spells := fun _ _ => ⟨rfl, rfl⟩

theorem step_patch {slot : Nat} {place : CountSlot} (found : state.slots[slot]? = some place)
    (count : UInt32) :
    state.step (.patch slot count) =
      (state.buffer.patch place count).map fun buffer => { state with buffer } := by
  rw [step, found]

/-- A step changes no blob but for its flag. -/
theorem keeps_step {writing : Writing} (done : state.step writing = .ok next) :
    state.blobs.Keeps next.blobs := by
  cases writing with
  | write value | reserve =>
      cases done
      exact .refl state.blobs
  | patch slot count =>
      cases found : state.slots[slot]? with
      | none =>
          rw [step, found] at done
          cases done
          exact .refl state.blobs
      | some place =>
          rw [step_patch found] at done
          cases patched : state.buffer.patch place count with
          | error fault =>
              rw [patched] at done
              cases done
          | ok buffer =>
              rw [patched] at done
              cases done
              exact .refl state.blobs
  | copy kind =>
      cases done
      exact state.blobs.keeps_add kind _
  | emit blob =>
      cases done
      exact state.blobs.keeps_exclusiveWrite blob _
  | flag blob written =>
      cases done
      exact state.blobs.keeps_setWritten blob written

namespace Follows

/-- A blob is appended unless the epoch has it. -/
theorem spells_emit (follows : Follows blobs history state) {blob : BlobId}
    (fit : Fits blobs history (.emit blob)) {bytesOf : BlobId → Bytes}
    (has : state.blobs.HasBytes bytesOf) :
    Spells blobs bytesOf (history ++ [.emit blob])
      (state.blobs.exclusiveWrite blob state.buffer).2.2 state.slots := by
  have spells := follows.spells bytesOf has
  have flag := follows.stocked.flags blob
  obtain ⟨held, present⟩ := follows.stocked.present fit
  rw [BlobStore.has_eq_not_owes present] at flag
  cases owed : state.blobs.owes blob with
  | false =>
      rw [owed, Bool.not_false] at flag
      rw [BlobStore.exclusiveWrite_of_not_owes owed]
      exact spells.same (by rw [part?, ← flag, if_pos rfl]) fun _ => rfl
  | true =>
      rw [owed, Bool.not_true] at flag
      have part : part? blobs bytesOf history (.emit blob) =
          some (.bytes (state.blobs.bytesOf blob)) := by
        rw [part?, ← flag, if_neg Bool.false_ne_true, has blob held present,
          BlobStore.bytesOf_eq present]
      rw [BlobStore.exclusiveWrite_of_owes owed]
      exact spells.append part fun _ => rfl

/-- A step that fits goes through, and leaves what the history with it says. -/
theorem step (follows : Follows blobs history state)
    (fits : Throughout (Fits blobs) history) {writing : Writing}
    (fit : Fits blobs history writing) :
    ∃ next, state.step writing = .ok next ∧ Follows blobs (history ++ [writing]) next := by
  have unreserved (plain : writing.isReserve = false) :
      state.slots.length = reserved (history ++ [writing]) := by
    rw [reserved_concat, plain]
    exact follows.slots
  cases writing with
  | write value =>
      refine ⟨_, rfl, follows.stocked.same rfl fun _ => rfl, unreserved rfl, fun bytesOf has => ?_⟩
      dsimp only
      rw [value.write_eq]
      exact (follows.spells bytesOf has).append rfl fun _ => rfl
  | reserve =>
      refine ⟨_, rfl, follows.stocked.same rfl fun _ => rfl, ?_, fun bytesOf has => ?_⟩
      · rw [reserved_concat, List.length_append, follows.slots]
        rfl
      · have late := Nat.le_of_eq follows.slots.symm
        exact (follows.spells bytesOf has).reserve (lastCount_of_unreserved fits late)
  | patch slot count =>
      have inside : slot < state.slots.length := follows.slots ▸ fit
      have found := List.getElem?_eq_getElem inside
      have own := follows.spells _ state.blobs.hasBytes_bytesOf
      obtain ⟨patched, done, -⟩ := own.patch found count
      refine ⟨{ state with buffer := patched }, ?_, follows.stocked.same rfl fun _ => rfl,
        unreserved rfl, fun bytesOf has => ?_⟩
      · rw [step_patch found, done]
        rfl
      · obtain ⟨again, doneAgain, spells⟩ := (follows.spells bytesOf has).patch found count
        rw [done] at doneAgain
        cases doneAgain
        exact spells
  | copy kind =>
      refine ⟨_, rfl, follows.stocked.copy kind _, unreserved rfl, fun bytesOf has => ?_⟩
      have before := has.of_keeps (state.blobs.keeps_add kind _)
      exact (follows.spells bytesOf before).same rfl fun _ => rfl
  | emit blob =>
      refine ⟨_, rfl, follows.stocked.emit fit _, unreserved rfl, fun bytesOf has => ?_⟩
      exact follows.spells_emit fit (has.of_keeps (state.blobs.keeps_exclusiveWrite blob _))
  | flag blob written =>
      refine ⟨_, rfl, follows.stocked.flag fit, unreserved rfl, fun bytesOf has => ?_⟩
      have before := has.of_keeps (state.blobs.keeps_setWritten blob written)
      exact (follows.spells bytesOf before).same rfl fun _ => rfl

end Follows

/-! ## Runs -/

theorem run_append (blobs : BlobStore) (history more : List Writing) :
    run blobs (history ++ more) =
      run blobs history >>= fun state => more.foldlM Composition.step state :=
  List.foldlM_append

theorem exists_run (fits : Throughout (Fits blobs) history) :
    ∃ state, run blobs history = .ok state ∧ Follows blobs history state := by
  induction history using List.reverseRecOn with
  | nil => exact ⟨start blobs, rfl, follows_start blobs⟩
  | append_singleton history writing ih =>
      have fit := fits.last
      obtain ⟨state, done, follows⟩ := ih fits.front
      obtain ⟨next, stepped, followsNext⟩ := follows.step fits.front fit
      refine ⟨next, ?_, followsNext⟩
      rw [run_append, done]
      show [writing].foldlM Composition.step state = _
      rw [List.foldlM_cons, stepped]
      rfl

theorem keeps_foldlM {history : List Writing} (state : Composition)
    (done : history.foldlM Composition.step state = .ok next) :
    state.blobs.Keeps next.blobs := by
  induction history generalizing state with
  | nil =>
      cases done
      exact .refl _
  | cons writing rest ih =>
      rw [List.foldlM_cons] at done
      cases stepped : state.step writing with
      | error fault =>
          rw [stepped] at done
          cases done
      | ok between =>
          rw [stepped] at done
          exact (keeps_step stepped).trans (ih between done)

/-- What a payload and the blobs hold after a history. The parts are spelled with the bytes that the
blobs have in the end; they have never had others. -/
structure SpellsLastCounts (blobs : BlobStore) (history : List Writing) (state : Composition) :
    Prop where
  payload : state.buffer.toBytes =
    Buffer.spell (lastCount history) 0 (parts blobs state.blobs.bytesOf history)
  given : blobs.Keeps state.blobs
  copies : ∀ front kind back, history = front ++ .copy kind :: back →
    ∃ before written, run blobs front = .ok before ∧
      state.blobs.get? ⟨blobs.blobs.size + copied front⟩ =
        some { kind, bytes := before.buffer.toBytes, written }

/-- **Counts are patched in their places.** Whatever is written, reserved, patched, copied and
appended, in any order, if only reserved slots are patched: no patch is out of range, and the
payload is what was written and appended, in order, with the count in each reserved slot that was
put there last, or zero. A copy has the bytes that the payload had at its moment, whatever is
written and patched later, and the given blobs have theirs. -/
theorem patches_spell_last_counts (blobs : BlobStore) {history : List Writing}
    (fits : Throughout (Fits blobs) history) :
    ∃ state, run blobs history = .ok state ∧
      SpellsLastCounts blobs history state := by
  obtain ⟨state, done, follows⟩ := exists_run fits
  have spells := follows.spells _ state.blobs.hasBytes_bytesOf
  refine ⟨state, done, spells.payload, keeps_foldlM (start blobs) done, ?_⟩
  intro front kind back split
  subst split
  obtain ⟨before, doneBefore, followsBefore⟩ := exists_run fits.front
  rw [run_append, doneBefore] at done
  have later := keeps_foldlM { before with
    blobs := (before.blobs.add kind before.buffer.toBytes).2 } done
  obtain ⟨written, kept⟩ := later _ _ (before.blobs.get?_add_self kind before.buffer.toBytes)
  refine ⟨before, written, doneBefore, ?_⟩
  rw [← followsBefore.stocked.size]
  exact kept

/-- A copy is made while a slot is open, and appended to the payload that it is a copy of; the
slots are patched in another order, one of them twice, and a given blob is appended twice, when its
flag is reset in between. -/
def nestedHistory : List Writing :=
  [.write (.u8 7), .reserve, .copy .thread, .emit ⟨1⟩, .reserve, .patch 1 2, .patch 0 5,
    .emit ⟨0⟩, .emit ⟨0⟩, .flag ⟨0⟩ false, .emit ⟨0⟩, .patch 1 0x01020304, .write (.i32 (-2))]

theorem patches_spell_last_counts_nested :
    let given : BlobStore := ⟨#[{ kind := .typeSet, bytes := [9, 9], written := false }]⟩
    Throughout (Fits given) nestedHistory ∧
      ∃ state written, run given nestedHistory = .ok state ∧
        state.buffer.toBytes =
          [7, 5, 0, 0, 0, 7, 0, 0, 0, 0, 4, 3, 2, 1, 9, 9, 9, 9, 254, 255, 255, 255] ∧
        state.blobs.get? ⟨1⟩ = some { kind := .thread, bytes := [7, 0, 0, 0, 0], written } := by
  intro given
  have fits : Throughout (Fits given) nestedHistory := by decide
  obtain ⟨state, done, spells⟩ := patches_spell_last_counts given fits
  obtain ⟨before, written, doneBefore, copy⟩ :=
    spells.copies [.write (.u8 7), .reserve] .thread (nestedHistory.drop 3) rfl
  cases doneBefore
  obtain ⟨flag, kept⟩ := spells.given ⟨0⟩ _ rfl
  refine ⟨fits, state, written, done, ?_, copy⟩
  have own : state.blobs.bytesOf ⟨0⟩ = [9, 9] := BlobStore.bytesOf_eq kept
  have copied : state.blobs.bytesOf ⟨1⟩ = [7, 0, 0, 0, 0] := BlobStore.bytesOf_eq copy
  calc state.buffer.toBytes
      = Buffer.spell (lastCount nestedHistory) 0
          (parts given state.blobs.bytesOf nestedHistory) := spells.payload
    _ = [7] ++ (Word.ofNat 4 5 ++ (state.blobs.bytesOf ⟨1⟩ ++ (Word.ofNat 4 0x01020304 ++
          (state.blobs.bytesOf ⟨0⟩ ++ (state.blobs.bytesOf ⟨0⟩ ++
            ([254, 255, 255, 255] ++ [])))))) := rfl
    _ = _ := by
        rw [own, copied]
        rfl

end Composition

end LeakRecorder
