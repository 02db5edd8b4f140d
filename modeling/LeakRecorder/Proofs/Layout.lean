/-
# LeakRecorder.Proofs.Layout — which bytes are a payload

The layout of a payload is said here field by field, without a reader: a block is
a type, a count and as many records, a record is a row of fixed-width words, texts
and counted frames. `Layout.payload` is that description, and a payload is decoded
exactly when it follows it (`Payload.decode_ok_iff_layout`).

Two kinds of byte have more than one spelling: a flag is true whatever its byte
is, unless it is zero, and a kind of frame that there is not reads as the first.
So a layout describes a row of *pieces*, of which only these two are loose
(`Piece`). Encoding what was decoded gives the same pieces in their normal form,
in as many bytes, and the normal form is decoded as the same blocks.

One relation carries both directions: a reader `Follows` a layout when it accepts
every row of pieces of the layout, whatever comes behind, and takes nothing else.
It is kept by putting readers in a row (`follows_bind`) and by counting them
(`follows_counted`), so each record's proof is its layout read off field by field.
-/
import LeakRecorder.Proofs.Reading

set_option autoImplicit false

namespace LeakRecorder

/-! ## Pieces -/

/-- A stretch of a payload: bytes that have no other spelling, or one byte that has. -/
inductive Piece where
  | plain (bytes : Bytes)
  /-- Zero is no, every other byte is yes. -/
  | flag (byte : UInt8)
  /-- The kind of a frame; bytes above three stand for none and read as zero. -/
  | kind (byte : UInt8)

namespace Piece

/-- The bytes as they are. -/
def raw : Piece → Bytes
  | .plain bytes => bytes
  | .flag byte => [byte]
  | .kind byte => [byte]

/-- The spelling that is written. -/
def normal : Piece → Bytes
  | .plain bytes => bytes
  | .flag byte => [if byte = 0 then 0 else 1]
  | .kind byte => [if byte ≤ 3 then byte else 0]

theorem length_normal (piece : Piece) : piece.normal.length = piece.raw.length := by
  cases piece <;> rfl

theorem length_flatMap_normal (pieces : List Piece) :
    (pieces.flatMap normal).length = (pieces.flatMap raw).length := by
  simp only [List.length_flatMap, length_normal]

end Piece

/-! ## Layouts -/

/-- Which pieces make up a field, a record, a block or a payload. -/
abbrev Layout := List Piece → Prop

namespace Layout

/-- A number of `width` bytes. -/
def word (width : Nat) : Layout := fun pieces =>
  ∃ bytes : Bytes, bytes.length = width ∧ pieces = [.plain bytes]

def flag : Layout := fun pieces => ∃ byte, pieces = [.flag byte]

def kind : Layout := fun pieces => ∃ byte, pieces = [.kind byte]

/-- A length in two bytes and the UTF-8 of a text of that length. -/
def text : Layout := fun pieces =>
  ∃ string : String, (Text.utf8 string).length < 0x10000 ∧
    pieces = [.plain (Word.ofNat 2 (Text.utf8 string).length ++ Text.utf8 string)]

/-- One layout right behind another. -/
def pair (first second : Layout) : Layout := fun pieces =>
  ∃ front back, first front ∧ second back ∧ pieces = front ++ back

/-- Layouts in a row. -/
def row : List Layout → Layout
  | [] => fun pieces => pieces = []
  | first :: rest => pair first (row rest)

/-- Any number of items. -/
def repeated (item : Layout) (count : Nat) : Layout := fun pieces =>
  ∃ items : List (List Piece), items.length = count ∧ (∀ one ∈ items, item one) ∧
    pieces = items.flatten

/-- A count in four bytes and as many items. -/
def counted (item : Layout) : Layout := fun pieces =>
  ∃ count rest, count < countLimit ∧ repeated item count rest ∧
    pieces = .plain (Word.ofNat 4 count) :: rest

/-- Class, method, line, index of the instruction, kind. -/
def frame : Layout := row [word 8, word 8, word 4, word 4, kind]

/-- Thread, thread of the operating system, name, virtual or not. -/
def thread : Layout := row [word 8, word 8, text, flag]

/-- Class, name. -/
def loadedClass : Layout := row [word 8, text]

/-- Trace, truncated or not, frames. -/
def trace : Layout := row [word 8, flag, counted frame]

/-- Edge, referrer, field. -/
def edge : Layout := row [word 8, word 8, text]

/-- A record of a type. No record has any other type, so a block of another type has none. -/
def record (typeId : UInt64) : Layout := fun pieces =>
  typeId = 1 ∧ thread pieces ∨ typeId = 2 ∧ loadedClass pieces ∨ typeId = 3 ∧ trace pieces ∨
    typeId = 4 ∧ edge pieces

/-- A type in eight bytes, then counted records of the type. -/
def block : Layout := fun pieces =>
  ∃ (typeId : UInt64) (rest : List Piece), counted (record typeId) rest ∧
    pieces = .plain (Word.ofNat 8 typeId.toNat) :: rest

/-- Blocks in a row. -/
def payload : Layout := fun pieces => ∃ count, repeated block count pieces

end Layout

/-! ## Readers that follow a layout -/

namespace Reader

variable {α β : Type}

/-- The reader accepts what the layout describes, whatever comes behind, and takes nothing else.
What it took is written behind `before` in its normal form, which reads the same. -/
structure Follows (layout : Layout) (before : Bytes) (encode : α → Bytes) (reader : Reader α) :
    Prop where
  accepts : ∀ pieces, layout pieces → ∃ a, Reads reader a (pieces.flatMap Piece.raw)
  takes : ∀ bytes a rest, reader bytes = .ok (a, rest) →
    ∃ pieces, layout pieces ∧ bytes = pieces.flatMap Piece.raw ++ rest ∧
      encode a = before ++ pieces.flatMap Piece.normal ∧
      Reads reader a (pieces.flatMap Piece.normal)

section Composed

variable {layout later : Layout} {before : Bytes} {front : α → Bytes} {encode : β → Bytes}

theorem follows_pure {b : β} (written : encode b = before) :
    Follows (Layout.row []) before encode (pure b) where
  accepts := by
    rintro pieces rfl
    exact ⟨b, reads_pure b⟩
  takes := by
    intro bytes a rest read
    cases read
    exact ⟨[], rfl, rfl, by simpa using written, reads_pure b⟩

theorem follows_bind {first : Reader α} {next : α → Reader β} (one : Follows layout [] front first)
    (two : ∀ a, Follows later (before ++ front a) encode (next a)) :
    Follows (Layout.pair layout later) before encode (first >>= next) where
  accepts := by
    rintro pieces ⟨head, tail, isHead, isTail, rfl⟩
    obtain ⟨a, readsHead⟩ := one.accepts head isHead
    obtain ⟨b, readsTail⟩ := (two a).accepts tail isTail
    rw [List.flatMap_append]
    exact ⟨b, reads_bind readsHead readsTail⟩
  takes := by
    intro bytes b rest read
    obtain ⟨a, mid, readHead, readTail⟩ := bind_eq_ok.mp read
    obtain ⟨head, isHead, rfl, written, readsHead⟩ := one.takes bytes a mid readHead
    obtain ⟨tail, isTail, rfl, all, readsTail⟩ := (two a).takes mid b rest readTail
    refine ⟨head ++ tail, ⟨head, tail, isHead, isTail, rfl⟩, ?_, ?_, ?_⟩
    · rw [List.flatMap_append, List.append_assoc]
    · rw [all, written, List.flatMap_append, List.nil_append, List.append_assoc]
    · rw [List.flatMap_append]
      exact reads_bind readsHead readsTail

/-- A value that is handed back at the end changes only how what was taken is written. -/
theorem follows_then {first : Reader α} (result : α → β)
    (one : Follows layout before (fun a => encode (result a)) first) :
    Follows layout before encode (first >>= fun a => pure (result a)) where
  accepts := by
    intro pieces is
    obtain ⟨a, reads⟩ := one.accepts pieces is
    exact ⟨result a, reads_then result reads⟩
  takes := by
    intro bytes b rest read
    obtain ⟨a, mid, readFirst, done⟩ := bind_eq_ok.mp read
    cases done
    obtain ⟨pieces, is, whole, written, reads⟩ := one.takes bytes a rest readFirst
    exact ⟨pieces, is, whole, written, reads_then result reads⟩

theorem follows_map {first : Reader α} (result : α → β)
    (one : Follows layout before (fun a => encode (result a)) first) :
    Follows layout before encode (result <$> first) := by
  rw [← bind_pure_comp]
  exact follows_then result one

end Composed

/-- What is written in front of a field is no matter to its reader. -/
theorem Follows.behind {layout : Layout} {encode written : α → Bytes} {reader : Reader α}
    (alone : Follows layout [] encode reader) (before : Bytes)
    (same : ∀ a, written a = before ++ encode a) : Follows layout before written reader where
  accepts := alone.accepts
  takes := by
    intro bytes a rest read
    obtain ⟨pieces, is, whole, encoded, reads⟩ := alone.takes bytes a rest read
    exact ⟨pieces, is, whole, by rw [same, encoded, List.nil_append], reads⟩

/-! ## Fields -/

/-- A number that is written back as the bytes that it was read from. -/
theorem follows_word {width : Nat} {value : Nat → α} {encode : α → Bytes}
    (back : ∀ bytes : Bytes, bytes.length = width → encode (value (Word.toNat bytes)) = bytes) :
    Follows (Layout.word width) [] encode (word width >>= fun n => pure (value n)) := by
  have reads (bytes : Bytes) (length : bytes.length = width) :
      Reads (word width >>= fun n => pure (value n)) (value (Word.toNat bytes)) bytes := by
    subst length
    exact reads_then value (reads_then Word.toNat (reads_take bytes))
  constructor
  · rintro pieces ⟨bytes, length, rfl⟩
    rw [List.flatMap_singleton]
    exact ⟨_, reads bytes length⟩
  · intro bytes a rest read
    obtain ⟨n, mid, readWord, done⟩ := bind_eq_ok.mp read
    cases done
    obtain ⟨taken, mid, readBytes, done⟩ := bind_eq_ok.mp readWord
    cases done
    obtain ⟨whole, length⟩ := take_ok readBytes
    refine ⟨[.plain taken], ⟨taken, length, rfl⟩, ?_, ?_, ?_⟩
    · simpa [Piece.raw] using whole
    · simpa [Piece.normal] using back taken length
    · rw [List.flatMap_singleton]
      exact reads taken length

theorem follows_u64 : Follows (Layout.word 8) [] (fun n => Word.ofNat 8 n.toNat) u64 := by
  refine follows_word fun bytes length => ?_
  have bound := Word.toNat_lt bytes
  rw [length] at bound
  rw [UInt64.toNat_ofNat_of_lt' bound, ← length, Word.ofNat_toNat]

theorem follows_i32 : Follows (Layout.word 4) [] (fun n => Word.ofNat 4 n.toUInt32.toNat) i32 := by
  refine follows_word fun bytes length => ?_
  have bound := Word.toNat_lt bytes
  rw [length] at bound
  show Word.ofNat 4 (UInt32.ofNat (Word.toNat bytes)).toNat = bytes
  rw [UInt32.toNat_ofNat_of_lt' bound, ← length, Word.ofNat_toNat]

theorem follows_u8 : Follows (Layout.word 1) [] (fun byte => [byte]) u8 := by
  refine follows_word fun bytes length => ?_
  obtain ⟨byte, rfl⟩ := List.length_eq_one_iff.mp length
  simp [Word.toNat]

theorem follows_ident {kind : IdentKind} :
    Follows (Layout.word 8) [] (@Ident.encode kind) ident :=
  follows_then Ident.mk follows_u64

/-- A text that was read fits, so it is written back whole. -/
theorem follows_text : Follows Layout.text [] Text.encode text := by
  have whole {string : String} (fits : (Text.utf8 string).length < 0x10000) :
      Text.encode string = Word.ofNat 2 (Text.utf8 string).length ++ Text.utf8 string := by
    have kept : Text.kept string = string := by
      rw [Text.length_utf8] at fits
      exact if_pos (Nat.le_of_lt_succ fits)
    rw [Text.encode, kept]
  have reads {string : String} (fits : (Text.utf8 string).length < 0x10000) :
      Reads text string
        (Word.ofNat 2 (Text.utf8 string).length ++ Text.utf8 string) := by
    refine reads_bind (reads_word 2 fits) fun rest => ?_
    refine bind_eq_ok.mpr ⟨_, rest, reads_take (Text.utf8 string) rest, ?_⟩
    rw [Text.ofUtf8?_utf8]
    rfl
  constructor
  · rintro pieces ⟨string, fits, rfl⟩
    rw [List.flatMap_singleton]
    exact ⟨string, reads fits⟩
  · intro bytes string rest read
    obtain ⟨length, mid, readLength, read⟩ := bind_eq_ok.mp read
    obtain ⟨taken, mid', readBytes, done⟩ := bind_eq_ok.mp read
    obtain ⟨head, mid'', readHead, done'⟩ := bind_eq_ok.mp readLength
    cases done'
    obtain ⟨rfl, two⟩ := take_ok readHead
    obtain ⟨rfl, length⟩ := take_ok readBytes
    cases spelled : Text.ofUtf8? taken with
    | none =>
        rw [spelled] at done
        cases done
    | some found =>
        rw [spelled] at done
        cases done
        have utf8 := Text.utf8_of_ofUtf8? spelled
        have bound := Word.toNat_lt head
        rw [two] at bound
        rw [← utf8] at length
        have fits : (Text.utf8 string).length < 0x10000 := by
          rw [length]
          exact bound
        have front : head = Word.ofNat 2 (Text.utf8 string).length := by
          rw [length, ← two, Word.ofNat_toNat]
        refine ⟨_, ⟨string, fits, rfl⟩, ?_, ?_, ?_⟩
        · rw [List.flatMap_singleton, Piece.raw, ← front, utf8, List.append_assoc]
        · rw [List.flatMap_singleton, Piece.normal, whole fits, List.nil_append]
        · rw [List.flatMap_singleton]
          exact reads fits

section Loose

variable (piece : UInt8 → Piece) (meaning : UInt8 → α) (spell : α → UInt8)
  (raw : ∀ byte, (piece byte).raw = [byte])
  (normal : ∀ byte, (piece byte).normal = [spell (meaning byte)])
  (spelled : ∀ a, meaning (spell a) = a)
include raw normal spelled

/-- A byte of which only the meaning is kept. The normal form has the same meaning. -/
theorem follows_meaning :
    Follows (fun pieces => ∃ byte, pieces = [piece byte]) [] (fun a => [spell a])
      (u8 >>= fun byte => pure (meaning byte)) := by
  have reads (byte : UInt8) :
      Reads (u8 >>= fun byte => pure (meaning byte)) (meaning byte) [byte] :=
    reads_then meaning (reads_u8 byte)
  constructor
  · rintro pieces ⟨byte, rfl⟩
    rw [List.flatMap_singleton, raw]
    exact ⟨_, reads byte⟩
  · intro bytes a rest read
    obtain ⟨byte, mid, readByte, done⟩ := bind_eq_ok.mp read
    cases done
    obtain ⟨_, ⟨front, -, rfl⟩, whole, written, -⟩ := follows_u8.takes bytes byte rest readByte
    have one : [byte] = front := by simpa [Piece.normal] using written
    refine ⟨[piece byte], ⟨byte, rfl⟩, ?_, ?_, ?_⟩
    · rw [whole, List.flatMap_singleton, List.flatMap_singleton, raw, one, Piece.raw]
    · rw [List.flatMap_singleton, normal, List.nil_append]
    · rw [List.flatMap_singleton, normal]
      have again := reads (spell (meaning byte))
      rwa [spelled] at again

theorem follows_loose {later : Layout} {before : Bytes} {encode : β → Bytes} {next : α → Reader β}
    (two : ∀ a, Follows later (before ++ [spell a]) encode (next a)) :
    Follows (Layout.pair (fun pieces => ∃ byte, pieces = [piece byte]) later) before encode
      (u8 >>= fun byte => next (meaning byte)) := by
  have both := follows_bind (follows_meaning piece meaning spell raw normal spelled) two
  simpa only [bind_assoc, pure_bind] using both

end Loose

/-! ## Items in a row -/

section Counted

variable {layout : Layout} {encode : α → Bytes} {item : Reader α}
  (each : Follows layout [] encode item)
include each

theorem follows_many (count : Nat) :
    Follows (Layout.repeated layout count) [] (fun items => items.flatMap encode)
      (many item count) := by
  induction count with
  | zero =>
      constructor
      · rintro pieces ⟨items, none, -, rfl⟩
        rw [List.length_eq_zero_iff.mp none]
        exact ⟨[], fun rest => rfl⟩
      · intro bytes items rest read
        cases read
        exact ⟨[], ⟨[], rfl, by simp, rfl⟩, rfl, rfl, fun rest => rfl⟩
  | succ count ih =>
      constructor
      · rintro pieces ⟨items, length, all, rfl⟩
        cases items with
        | nil => cases length
        | cons first others =>
            rw [List.forall_mem_cons] at all
            obtain ⟨a, readsFirst⟩ := each.accepts first all.1
            obtain ⟨as, readsOthers⟩ := ih.accepts others.flatten
              ⟨others, Nat.succ.inj length, all.2, rfl⟩
            rw [List.flatten_cons, List.flatMap_append]
            exact ⟨a :: as, reads_many_succ readsFirst readsOthers⟩
      · intro bytes items rest read
        obtain ⟨a, mid, others, readFirst, readOthers, rfl⟩ := many_succ_ok.mp read
        obtain ⟨first, isFirst, rfl, written, readsFirst⟩ := each.takes bytes a mid readFirst
        obtain ⟨pieces, ⟨parts, length, all, rfl⟩, rfl, later, readsOthers⟩ :=
          ih.takes mid others rest readOthers
        refine ⟨first ++ parts.flatten, ⟨first :: parts, ?_, ?_, rfl⟩, ?_, ?_, ?_⟩
        · rw [List.length_cons, length]
        · exact List.forall_mem_cons.mpr ⟨isFirst, all⟩
        · rw [List.flatMap_append, List.append_assoc]
        · rw [List.flatMap_cons, written, later, List.flatMap_append]
          rfl
        · rw [List.flatMap_append]
          exact reads_many_succ readsFirst readsOthers

theorem follows_counted :
    Follows (Layout.counted layout) []
      (fun items => Word.ofNat 4 items.length ++ items.flatMap encode)
      (word 4 >>= many item) := by
  constructor
  · rintro pieces ⟨count, rest, few, is, rfl⟩
    obtain ⟨items, reads⟩ := (follows_many each count).accepts rest is
    exact ⟨items, reads_bind (reads_word 4 few) reads⟩
  · intro bytes items rest read
    obtain ⟨count, mid, readCount, readItems⟩ := bind_eq_ok.mp read
    obtain ⟨head, mid', readHead, done⟩ := bind_eq_ok.mp readCount
    cases done
    obtain ⟨rfl, four⟩ := take_ok readHead
    obtain ⟨pieces, is, rfl, written, reads⟩ :=
      (follows_many each (Word.toNat head)).takes mid items rest readItems
    have few := Word.toNat_lt head
    rw [four] at few
    have front : Word.ofNat 4 (Word.toNat head) = head := by
      rw [← four, Word.ofNat_toNat]
    refine ⟨.plain head :: pieces, ⟨Word.toNat head, pieces, few, is, by rw [front]⟩, ?_, ?_, ?_⟩
    · rw [List.flatMap_cons, Piece.raw, List.append_assoc]
    · rw [length_many readItems, front, written]
      rfl
    · have whole := reads_bind (reads_word 4 few) reads
      rwa [front] at whole

theorem follows_countedThen {later : Layout} {before : Bytes} {encode' : β → Bytes}
    {next : List α → Reader β}
    (two : ∀ items, Follows later (before ++ (Word.ofNat 4 items.length ++ items.flatMap encode))
      encode' (next items)) :
    Follows (Layout.pair (Layout.counted layout) later) before encode'
      (word 4 >>= fun count => many item count >>= next) := by
  have both := follows_bind (follows_counted each) two
  rwa [bind_assoc] at both

end Counted

end Reader

/-! ## Records -/

theorem FrameKind.toByte_ofByte (byte : UInt8) :
    (FrameKind.ofByte byte).toByte = if byte ≤ 3 then byte else 0 := by
  have bound : byte ≤ 3 ↔ byte = 0 ∨ byte = 1 ∨ byte = 2 ∨ byte = 3 := by
    simp only [UInt8.le_iff_toNat_le, ← UInt8.toNat_inj, UInt8.reduceToNat]
    omega
  by_cases known : byte ≤ 3
  · rw [if_pos known]
    rcases bound.mp known with rfl | rfl | rfl | rfl <;> rfl
  · rw [if_neg known]
    simp only [bound, not_or] at known
    rw [FrameKind.ofByte, if_neg known.2.1, if_neg known.2.2.1, if_neg known.2.2.2]
    rfl

open Reader in
theorem Frame.follows_read : Follows Layout.frame [] Frame.encode Frame.read := by
  refine follows_bind follows_ident fun classId => follows_bind follows_ident fun method =>
    follows_bind follows_i32 fun line => follows_bind follows_i32 fun bci => ?_
  have last (kind : FrameKind) : Follows (Layout.row [])
      ([] ++ classId.encode ++ method.encode ++ Word.ofNat 4 line.toUInt32.toNat ++
        Word.ofNat 4 bci.toUInt32.toNat ++ [kind.toByte])
      Frame.encode (pure { classId, method, line, bci, kind }) := follows_pure rfl
  refine follows_loose .kind FrameKind.ofByte FrameKind.toByte (fun byte => rfl) (fun byte => ?_)
    FrameKind.ofByte_toByte last
  rw [FrameKind.toByte_ofByte]
  rfl

open Reader in
theorem ThreadRecord.follows_read :
    Follows Layout.thread [] ThreadRecord.encode ThreadRecord.read := by
  refine follows_bind follows_ident fun tid => follows_bind follows_u64 fun osThread =>
    follows_bind follows_text fun name => ?_
  have last (isVirtual : Bool) : Follows (Layout.row [])
      ([] ++ tid.encode ++ Word.ofNat 8 osThread.toNat ++ Text.encode name ++
        [if isVirtual then 1 else 0])
      ThreadRecord.encode (pure { tid, osThread, name, isVirtual }) := follows_pure rfl
  refine follows_loose .flag (· != 0) (fun yes => if yes then 1 else 0) (fun byte => rfl)
    (fun byte => ?_) (by decide) last
  by_cases zero : byte = 0 <;> simp [Piece.normal, zero]

open Reader in
theorem ClassRecord.follows_read :
    Follows Layout.loadedClass [] ClassRecord.encode ClassRecord.read :=
  follows_bind follows_ident fun _ => follows_bind follows_text fun _ => follows_pure rfl

open Reader in
theorem TraceRecord.follows_read :
    Follows Layout.trace [] TraceRecord.encode TraceRecord.read := by
  refine follows_bind follows_ident fun id => ?_
  refine follows_loose .flag (· == 0) (fun root => if !root then 1 else 0) (fun byte => rfl)
    (fun byte => ?_) (by decide) fun reachedRoot =>
      follows_countedThen Frame.follows_read fun frames => follows_pure ?_
  · by_cases zero : byte = 0 <;> simp [Piece.normal, zero]
  · simp [TraceRecord.encode, TraceRecord.encodeHead, encodeFlag]

open Reader in
theorem EdgeRecord.follows_read : Follows Layout.edge [] EdgeRecord.encode EdgeRecord.read :=
  follows_bind follows_u64 fun _ => follows_bind follows_u64 fun _ =>
    follows_bind follows_text fun _ => follows_pure rfl

/-- No layout describes a record of a type that no record has. -/
theorem Layout.record_known {typeId : UInt64} {pieces : List Piece}
    (is : Layout.record typeId pieces) :
    typeId = 1 ∨ typeId = 2 ∨ typeId = 3 ∨ typeId = 4 := by
  rcases is with ⟨same, -⟩ | ⟨same, -⟩ | ⟨same, -⟩ | ⟨same, -⟩ <;> simp [same]

open Reader in
theorem Record.follows_read (typeId : UInt64) :
    Follows (Layout.record typeId) [] Record.encode (Record.read typeId) := by
  have one : Layout.record 1 = Layout.thread := by funext pieces; simp [Layout.record]
  have two : Layout.record 2 = Layout.loadedClass := by funext pieces; simp [Layout.record]
  have three : Layout.record 3 = Layout.trace := by funext pieces; simp [Layout.record]
  have four : Layout.record 4 = Layout.edge := by funext pieces; simp [Layout.record]
  rw [Record.read]
  split
  next same =>
    rw [same, Block.threadType, one]
    exact follows_map Record.thread ThreadRecord.follows_read
  split
  next same =>
    rw [same, Block.classType, two]
    exact follows_map Record.loadedClass ClassRecord.follows_read
  split
  next same =>
    rw [same, Block.traceType, three]
    exact follows_map Record.trace TraceRecord.follows_read
  split
  next same =>
    rw [same, Block.edgeType, four]
    exact follows_map Record.edge EdgeRecord.follows_read
  next notThread notClass notTrace notEdge =>
    constructor
    · intro pieces is
      rcases Layout.record_known is with same | same | same | same <;> contradiction
    · intro bytes record rest read
      cases read

open Reader in
theorem Block.follows_read : Follows Layout.block [] Block.encode Block.read := by
  have body (typeId : UInt64) :
      Follows (Layout.counted (Layout.record typeId)) (Word.ofNat 8 typeId.toNat) Block.encode
        (word 4 >>= fun count => many (Record.read typeId) count >>= fun records =>
          pure { typeId, records }) := by
    have items : Follows (Layout.counted (Layout.record typeId)) (Word.ofNat 8 typeId.toNat)
        (fun records => Block.encode { typeId, records })
        (word 4 >>= many (Record.read typeId)) := by
      refine (follows_counted (Record.follows_read typeId)).behind _ fun records => ?_
      rw [Block.encode, Block.encodeHead, List.append_assoc]
    have whole := follows_then (fun records => ({ typeId, records } : Block)) items
    rwa [bind_assoc] at whole
  constructor
  · rintro pieces ⟨typeId, rest, is, rfl⟩
    obtain ⟨block, reads⟩ := (body typeId).accepts rest is
    exact ⟨block, reads_bind (reads_u64 typeId) reads⟩
  · intro bytes block rest read
    obtain ⟨typeId, mid, readType, readBody⟩ := bind_eq_ok.mp read
    obtain ⟨_, ⟨front, -, rfl⟩, rfl, written, -⟩ := follows_u64.takes bytes typeId mid readType
    obtain ⟨pieces, is, rfl, encoded, reads⟩ := (body typeId).takes mid block rest readBody
    have same : Word.ofNat 8 typeId.toNat = front := by simpa [Piece.normal] using written
    refine ⟨.plain front :: pieces, ⟨typeId, pieces, is, by rw [same]⟩, ?_, ?_, ?_⟩
    · simp [Piece.raw]
    · rw [encoded, same]
      rfl
    · have whole : Reads Block.read block
          (Word.ofNat 8 typeId.toNat ++ pieces.flatMap Piece.normal) :=
        reads_bind (reads_u64 typeId) reads
      rwa [same] at whole

/-! ## Payloads -/

namespace Payload

/-- Everything that the layout of a payload describes is decoded. -/
theorem decode_of_layout {parts : List (List Piece)} (all : ∀ part ∈ parts, Layout.block part) :
    ∃ blocks, decode (parts.flatten.flatMap Piece.raw) = .ok blocks := by
  induction parts with
  | nil => exact ⟨[], decode_nil⟩
  | cons part parts ih =>
      rw [List.forall_mem_cons] at all
      obtain ⟨block, reads⟩ := Block.follows_read.accepts part all.1
      obtain ⟨blocks, decoded⟩ := ih all.2
      rw [List.flatten_cons, List.flatMap_append, decode_cons (reads _), decoded]
      exact ⟨block :: blocks, rfl⟩

/-- Nothing else is decoded, and the normal form of what was decoded is decoded the same. -/
theorem layout_of_decode {bytes : Bytes} {blocks : List Block} (read : decode bytes = .ok blocks) :
    ∃ parts : List (List Piece), (∀ part ∈ parts, Layout.block part) ∧
      bytes = parts.flatten.flatMap Piece.raw ∧
      blocks.flatMap Block.encode = parts.flatten.flatMap Piece.normal ∧
      decode (parts.flatten.flatMap Piece.normal) = .ok blocks := by
  induction blocks generalizing bytes with
  | nil =>
      rw [decode_ok_nil read]
      exact ⟨[], by simp, rfl, rfl, decode_nil⟩
  | cons block others ih =>
      obtain ⟨rest, taken, later⟩ := decode_ok_cons read
      obtain ⟨part, isBlock, whole, written, reads⟩ :=
        Block.follows_read.takes bytes block rest taken
      obtain ⟨parts, all, rfl, encoded, again⟩ := ih later
      refine ⟨part :: parts, List.forall_mem_cons.mpr ⟨isBlock, all⟩, ?_, ?_, ?_⟩
      · rw [whole, List.flatten_cons, List.flatMap_append]
      · rw [List.flatMap_cons, written, encoded, List.flatten_cons, List.flatMap_append]
        rfl
      · rw [List.flatten_cons, List.flatMap_append, decode_cons (reads _), again]
        rfl

/-- **What is a payload.** Bytes are decoded exactly when they follow the layout of a payload. What
was decoded is encoded in as many bytes, which differ from the ones that were read only in flags
and in kinds of frames, and these are decoded as the same blocks. -/
theorem decode_ok_iff_layout (bytes : Bytes) :
    ((∃ blocks, decode bytes = .ok blocks) ↔
      ∃ pieces, Layout.payload pieces ∧ bytes = pieces.flatMap Piece.raw) ∧
    ∀ blocks, decode bytes = .ok blocks →
      (blocks.flatMap Block.encode).length = bytes.length ∧
      (∃ pieces, Layout.payload pieces ∧ bytes = pieces.flatMap Piece.raw ∧
        blocks.flatMap Block.encode = pieces.flatMap Piece.normal) ∧
      decode (blocks.flatMap Block.encode) = .ok blocks := by
  refine ⟨⟨?_, ?_⟩, ?_⟩
  · rintro ⟨blocks, read⟩
    obtain ⟨parts, all, whole, -⟩ := layout_of_decode read
    exact ⟨parts.flatten, ⟨_, parts, rfl, all, rfl⟩, whole⟩
  · rintro ⟨_, ⟨_, parts, -, all, rfl⟩, rfl⟩
    exact decode_of_layout all
  · intro blocks read
    obtain ⟨parts, all, rfl, encoded, again⟩ := layout_of_decode read
    refine ⟨?_, ⟨parts.flatten, ⟨_, parts, rfl, all, rfl⟩, rfl, encoded⟩, ?_⟩
    · rw [encoded, Piece.length_flatMap_normal]
    · rw [encoded]
      exact again

/-- The block of one trace with one frame: the trace says that it is truncated with a seven, and
the frame is of a kind that there is not. -/
def looseTrace : Bytes :=
  Block.encodeHead Block.traceType 1 ++ Word.ofNat 8 5 ++ [7] ++ Word.ofNat 4 1 ++
    Word.ofNat 8 2 ++ Word.ofNat 8 0x20001 ++ Word.ofNat 4 10 ++ Word.ofNat 4 3 ++ [9]

theorem decode_looseTrace :
    ∃ blocks, decode looseTrace = .ok blocks ∧ blocks.flatMap Block.encode ≠ looseTrace ∧
      (blocks.flatMap Block.encode).length = looseTrace.length ∧
      decode (blocks.flatMap Block.encode) = .ok blocks := by
  have taken : Block.read looseTrace = .ok (traceBlock [
      { id := ⟨5⟩, hash := 0, reachedRoot := false, written := false
        frames := [.ofMethod ⟨0x20001⟩ 10 3 .interpreted] }], []) := by
    rfl
  have read := decode_cons taken
  rw [decode_nil] at read
  obtain ⟨length, -, again⟩ := (decode_ok_iff_layout looseTrace).2 _ read
  exact ⟨_, read, by decide, length, again⟩

end Payload

end LeakRecorder
