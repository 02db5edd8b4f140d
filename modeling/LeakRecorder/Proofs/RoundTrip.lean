/-
# LeakRecorder.Proofs.RoundTrip — what is written comes back

Five writers put blocks into payloads: one for the descriptor of a thread, one for
a type set, one for the traces of a block whose count is patched in at the end,
with one for each of its records, and one for the edges of reference chains. A
`Portion` is what one of them is given, and `Portion.build` is what it leaves.

Whatever is built in whatever order is decoded as the blocks that were meant, one
for each portion (`Payload.decode_portions`). Every field comes back as it was but
for texts: of a text there comes back the longest front of whole characters whose
length can be announced, which is said here without the rule that cuts it
(`Text.IsCut`).
-/
import LeakRecorder.Proofs.Reading

set_option autoImplicit false

namespace LeakRecorder

/-! ## Cut texts -/

namespace Text

/-- The longest front of a text that consists of whole characters and fits into a length of two
bytes; the text itself when it fits. -/
structure IsCut (text cut : String) : Prop where
  front : cut.toList <+: text.toList
  fits : cut.utf8ByteSize ≤ 65535
  longest : ∀ other : String, other.toList <+: text.toList → other.utf8ByteSize ≤ 65535 →
    other.toList <+: cut.toList
  whole : text.utf8ByteSize ≤ 65535 → cut = text

theorem size_toList (text : String) : size text.toList = text.utf8ByteSize := by
  rw [← length_utf8_ofList, String.ofList_toList, length_utf8]

/-- No front that fits is longer than the fitting one. -/
theorem isPrefix_fitting {room : Nat} {chars front : List Char} (isFront : front <+: chars)
    (fits : size front ≤ room) : front <+: fitting room chars := by
  induction front generalizing room chars with
  | nil => exact List.nil_prefix
  | cons c front ih =>
      obtain ⟨back, rfl⟩ := isFront
      rw [size] at fits
      have head : c.utf8Size ≤ room := by omega
      have tail : front <+: fitting (room - c.utf8Size) (front ++ back) :=
        ih (List.prefix_append front back) (by omega)
      rw [List.cons_append, fitting, if_pos head]
      exact List.cons_prefix_cons.mpr ⟨rfl, tail⟩

/-- What is kept of a text is its longest front that fits. -/
theorem isCut_kept (text : String) : IsCut text (kept text) := by
  by_cases short : text.utf8ByteSize ≤ limit
  · have all : kept text = text := if_pos short
    rw [all]
    exact ⟨List.prefix_refl _, short, fun other isFront _ => isFront, fun _ => rfl⟩
  · have cut : (kept text).toList = fitting limit text.toList := by
      rw [kept, if_neg short, take_fitCount, String.toList_ofList]
    constructor
    · rw [cut]
      exact fitting_isPrefix limit text.toList
    · rw [← size_toList, cut]
      exact size_fitting_le limit text.toList
    · intro other isFront fits
      rw [← size_toList] at fits
      rw [cut]
      exact isPrefix_fitting isFront fits
    · intro fits
      exact absurd fits short

theorem size_replicate (n : Nat) (c : Char) : size (List.replicate n c) = n * c.utf8Size := by
  induction n with
  | zero => exact (Nat.zero_mul _).symm
  | succ n ih => rw [List.replicate_succ, size, ih, Nat.succ_mul, Nat.add_comm]

/-- Of one character over and over there are left as many as fit. -/
theorem IsCut.of_replicate {n : Nat} {c : Char} {cut : String}
    (isCut : IsCut (String.ofList (List.replicate n c)) cut) :
    cut = String.ofList (List.replicate (min n (65535 / c.utf8Size)) c) := by
  have bytes (m : Nat) : (String.ofList (List.replicate m c)).utf8ByteSize = m * c.utf8Size := by
    rw [← length_utf8, length_utf8_ofList, size_replicate]
  have front := isCut.front
  rw [String.toList_ofList, List.prefix_replicate_iff] at front
  obtain ⟨most, same⟩ := front
  have spelled : cut = String.ofList (List.replicate cut.toList.length c) := by
    rw [← same, String.ofList_toList]
  have fits := isCut.fits
  rw [spelled, bytes, ← Nat.le_div_iff_mul_le c.utf8Size_pos] at fits
  have longest := isCut.longest (String.ofList (List.replicate (min n (65535 / c.utf8Size)) c))
  simp only [String.toList_ofList, bytes] at longest
  have isFront : List.replicate (min n (65535 / c.utf8Size)) c <+: List.replicate n c := by
    rw [List.prefix_replicate_iff, List.length_replicate]
    exact ⟨Nat.min_le_left _ _, rfl⟩
  have room : min n (65535 / c.utf8Size) * c.utf8Size ≤ 65535 :=
    (Nat.le_div_iff_mul_le c.utf8Size_pos).mp (Nat.min_le_right _ _)
  have least := (longest isFront room).length_le
  rw [List.length_replicate] at least
  have length : cut.toList.length = min n (65535 / c.utf8Size) := by omega
  rw [spelled, length]

end Text

/-- A record with its text cut. -/
inductive Record.IsCut : Record → Record → Prop
  | thread {record : ThreadRecord} {name : String} (cut : Text.IsCut record.name name) :
      IsCut (.thread record) (.thread { record with name })
  | loadedClass {record : ClassRecord} {name : String} (cut : Text.IsCut record.name name) :
      IsCut (.loadedClass record) (.loadedClass { record with name })
  | trace (record : TraceRecord) : IsCut (.trace record) (.trace record)
  | edge {record : EdgeRecord} {field : String} (cut : Text.IsCut record.field field) :
      IsCut (.edge record) (.edge { record with field })

/-- A block with the texts of its records cut. -/
structure Block.IsCut (block cut : Block) : Prop where
  typeId : cut.typeId = block.typeId
  records : List.Forall₂ Record.IsCut block.records cut.records

/-- A block of one record with its texts cut is the block of the cut record. -/
theorem Block.IsCut.of_single {typeId : UInt64} {record : Record} {cut : Block}
    (isCut : Block.IsCut ⟨typeId, [record]⟩ cut) :
    ∃ left, record.IsCut left ∧ cut = ⟨typeId, [left]⟩ := by
  obtain ⟨cutType, records⟩ := cut
  obtain ⟨rfl, each⟩ := isCut
  obtain _ | ⟨one, ⟨⟩⟩ := each
  exact ⟨_, one, rfl⟩

theorem Record.isCut_kept (record : Record) : record.IsCut record.kept := by
  cases record with
  | thread record => exact .thread (Text.isCut_kept record.name)
  | loadedClass record => exact .loadedClass (Text.isCut_kept record.name)
  | trace record => exact .trace record
  | edge record => exact .edge (Text.isCut_kept record.field)

theorem Block.isCut_kept (block : Block) : block.IsCut block.kept where
  typeId := rfl
  records := by
    rw [Block.kept, List.forall₂_map_right_iff]
    exact List.forall₂_same.mpr fun record _ => record.isCut_kept

/-! ## Portions -/

/-- What one writer puts into a payload. -/
inductive Portion where
  | thread (record : ThreadRecord)
  | classes (records : List ClassRecord)
  | traces (captured : List Trace)
  | edges (store : EdgeStore)

/-- Appends the records of traces one behind the other; the first that is refused ends it. -/
def appendTraces : List Trace → Buffer → Except Failure Buffer
  | [], buffer => .ok buffer
  | trace :: rest, buffer =>
      match trace.write buffer with
      | .ok buffer => appendTraces rest buffer
      | .error cause => .error cause

/-- A block of traces: its type, a reserved count, the records, and the count patched in. -/
def buildTraces (traces : List Trace) : Option Bytes :=
  let (slot, head) := (Buffer.empty.writeType Block.traceType).reserveCount
  match appendTraces traces head with
  | .error _ => none
  | .ok buffer =>
      match buffer.patch slot (UInt32.ofNat traces.length) with
      | .error _ => none
      | .ok block => some block.toBytes

namespace Portion

/-- The bytes that the portion's writer leaves, unless it refuses or faults. -/
def build : Portion → Option Bytes
  | .thread record => some record.toBlob
  | .classes records => (ClassRecord.toBlob records).toOption
  | .traces captured => buildTraces captured
  | .edges store =>
      match store.writeChains .empty with
      | (_, .error _) => none
      | (buffer, .ok _) => some buffer.toBytes

/-- The block that the portion means. -/
def block : Portion → Block
  | .thread record => record.toBlock
  | .classes records => ClassRecord.toBlock records
  | .traces captured => traceBlock captured
  | .edges store => store.toBlock

/-- Four bytes are enough for the number of records, and of frames in each of them. -/
def Countable : Portion → Prop
  | .thread _ => True
  | .classes records => records.length < countLimit
  | .traces captured =>
      captured.length < countLimit ∧ ∀ trace ∈ captured, trace.frames.length < countLimit
  | .edges store => store.size < countLimit

theorem wellFormed_block {portion : Portion} (countable : portion.Countable) :
    portion.block.WellFormed := by
  cases portion with
  | thread record =>
      have countable : (Record.thread record).Countable := True.intro
      exact Block.wellFormed_single countable
  | classes records =>
      exact Block.wellFormed_map .loadedClass countable (fun _ => rfl) fun _ _ => True.intro
  | traces captured => exact wellFormed_traceBlock countable.1 countable.2
  | edges store => exact wellFormed_edgeBlock countable

end Portion

theorem appendTraces_of_few {traces : List Trace}
    (few : ∀ trace ∈ traces, trace.frames.length < countLimit) (buffer : Buffer) :
    ∃ after, appendTraces traces buffer = .ok after ∧
      after.toBytes = buffer.toBytes ++ traces.flatMap (·.toRecord.encode) := by
  induction traces generalizing buffer with
  | nil => exact ⟨buffer, rfl, (List.append_nil _).symm⟩
  | cons trace rest ih =>
      rw [List.forall_mem_cons] at few
      rcases trace.write_eq buffer with ⟨-, next, written, bytes⟩ | ⟨many, -⟩
      · obtain ⟨after, done, tail⟩ := ih few.2 next
        refine ⟨after, ?_, ?_⟩
        · rw [appendTraces, written]
          exact done
        · rw [tail, bytes, List.flatMap_cons, List.append_assoc]
      · exact absurd few.1 many

theorem buildTraces_of_few {traces : List Trace} (few : traces.length < countLimit)
    (frames : ∀ trace ∈ traces, trace.frames.length < countLimit) :
    buildTraces traces = some (traceBlock traces).encode := by
  obtain ⟨buffer, appended, bytes⟩ := appendTraces_of_few frames openBlock
  rw [toBytes_openBlock] at bytes
  obtain ⟨block, patched, encoded⟩ := patch_openBlock few bytes
  show (match appendTraces traces openBlock with
    | .error _ => none
    | .ok buffer =>
        match buffer.patch ⟨8⟩ (UInt32.ofNat traces.length) with
        | .error _ => none
        | .ok block => some block.toBytes) = _
  rw [appended]
  dsimp only
  rw [patched, ← encoded]

namespace Portion

/-- A portion that can be counted is written, as the encoding of its block. -/
theorem build_of_countable {portion : Portion} (countable : portion.Countable) :
    portion.build = some portion.block.encode := by
  cases portion with
  | thread record => exact congrArg some record.toBlob_eq
  | classes records =>
      have few : records.length < countLimit := countable
      rw [build, ClassRecord.toBlob_of_few few]
      rfl
  | traces captured => exact buildTraces_of_few countable.1 countable.2
  | edges store =>
      have few : store.size < countLimit := countable
      rw [build, EdgeStore.writeChains_of_few few]
      simp [block]

theorem mapM_build_of_countable {portions : List Portion}
    (countable : ∀ portion ∈ portions, portion.Countable) :
    portions.mapM build = some (portions.map fun portion => portion.block.encode) := by
  induction portions with
  | nil => rfl
  | cons portion portions ih =>
      rw [List.forall_mem_cons] at countable
      rw [List.mapM_cons, build_of_countable countable.1, ih countable.2]
      rfl

end Portion

/-! ## Payloads -/

namespace Payload

/-- Blocks in a row are decoded one by one. -/
theorem decode_flatMap_encode {blocks : List Block} (all : ∀ block ∈ blocks, block.WellFormed) :
    decode (blocks.flatMap Block.encode) = .ok (blocks.map Block.kept) := by
  induction blocks with
  | nil => exact decode_nil
  | cons block blocks ih =>
      rw [List.forall_mem_cons] at all
      rw [List.flatMap_cons, decode_append (decode_encode all.1), ih all.2]
      rfl

/-- **What is written comes back.** Portions that can be counted are built, and behind one another
they are decoded as the blocks that they mean, in order, with nothing but their texts cut. -/
theorem decode_portions (portions : List Portion)
    (countable : ∀ portion ∈ portions, portion.Countable) :
    ∃ built, portions.mapM Portion.build = some built ∧
      ∃ blocks, decode built.flatten = .ok blocks ∧
        List.Forall₂ Block.IsCut (portions.map Portion.block) blocks := by
  have wellFormed : ∀ block ∈ portions.map Portion.block, block.WellFormed := by
    intro block member
    obtain ⟨portion, inside, rfl⟩ := List.mem_map.mp member
    exact Portion.wellFormed_block (countable portion inside)
  have row : (portions.map fun portion => portion.block.encode).flatten =
      (portions.map Portion.block).flatMap Block.encode := by
    rw [List.flatMap_map, List.flatMap_def]
  refine ⟨_, Portion.mapM_build_of_countable countable,
    (portions.map Portion.block).map Block.kept, ?_, ?_⟩
  · rw [row]
    exact decode_flatMap_encode wellFormed
  · rw [List.forall₂_map_right_iff]
    exact List.forall₂_same.mpr fun block _ => block.isCut_kept

/-- Characters of two bytes each, one byte more than fits. -/
def longName : String := String.ofList (List.replicate 32768 'é')

/-- One portion of each kind. -/
def everyPortion : List Portion := [
  .thread { tid := ⟨1⟩, osThread := 70, name := longName, isVirtual := true },
  .classes [{ classId := ⟨2⟩, name := "A" }],
  .traces [{
    id := ⟨5⟩, hash := 9, reachedRoot := true, written := false
    frames := [.ofMethod ⟨0x20001⟩ (-1) 3 .jit] }],
  .edges ⟨[{ edge := 1, referrer := 0, field := "next" }]⟩]

theorem decode_everyPortion :
    (∀ portion ∈ everyPortion, portion.Countable) ∧
      ∃ built, everyPortion.mapM Portion.build = some built ∧
        decode built.flatten = .ok [
          { typeId := 1, records := [.thread {
              tid := ⟨1⟩, osThread := 70, name := String.ofList (List.replicate 32767 'é')
              isVirtual := true }] },
          { typeId := 2, records := [.loadedClass { classId := ⟨2⟩, name := "A" }] },
          { typeId := 3, records := [.trace {
              id := ⟨5⟩, reachedRoot := true, frames := [.ofMethod ⟨0x20001⟩ (-1) 3 .jit] }] },
          { typeId := 4, records := [.edge { edge := 1, referrer := 0, field := "next" }] }] := by
  have countable : ∀ portion ∈ everyPortion, portion.Countable := by
    simp [everyPortion, Portion.Countable, EdgeStore.size, countLimit]
  obtain ⟨built, written, blocks, read, cut⟩ := decode_portions everyPortion countable
  refine ⟨countable, built, written, ?_⟩
  obtain _ | ⟨thread, _ | ⟨classes, _ | ⟨traces, _ | ⟨edges, ⟨⟩⟩⟩⟩⟩ := cut
  obtain ⟨_, ⟨nameCut⟩, rfl⟩ := thread.of_single
  obtain ⟨_, _ | classCut, rfl⟩ := classes.of_single
  obtain ⟨_, ⟨⟩, rfl⟩ := traces.of_single
  obtain ⟨_, _ | _ | _ | fieldCut, rfl⟩ := edges.of_single
  have name := nameCut.of_replicate
  have loaded := classCut.whole (by decide)
  have field := fieldCut.whole (by decide)
  subst name loaded field
  rw [read]
  rfl

end Payload

end LeakRecorder
