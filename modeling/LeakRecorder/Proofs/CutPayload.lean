/-
# LeakRecorder.Proofs.CutPayload — payloads glued together and payloads cut off

A reader is `Firm` when more bytes behind its own can change its outcome in one
case only: it ran short of them. Taking a number of bytes is firm, a value and a
refusal are, and readers in a row are firm when each of them is, so every reader
of the format is. In particular a text that is cut is short and never no UTF-8,
and a block whose records are cut is short and never of an unknown type.

So what is left of a payload that is cut is a row of its blocks, if the cut falls
right behind one of them (`Payload.boundary`), and too short otherwise
(`Payload.decode_front`).
-/
import LeakRecorder.Proofs.Layout

set_option autoImplicit false

namespace LeakRecorder

namespace Reader

variable {α β : Type}

/-- What stands behind the bytes is no matter to the reader, unless they are too short for it. -/
def Firm (reader : Reader α) : Prop :=
  ∀ bytes more, reader bytes = .error .short ∨
    reader (bytes ++ more) = (reader bytes).map fun read => (read.1, read.2 ++ more)

/-- What the reader takes, it takes with fewer bytes behind as well, unless they cut it short. -/
theorem Firm.read_front {reader : Reader α} (firm : Firm reader) {front back rest : Bytes} {a : α}
    (taken : reader (front ++ back) = .ok (a, rest)) :
    reader front = .error .short ∨ ∃ mid, reader front = .ok (a, mid) ∧ rest = mid ++ back := by
  rcases firm front back with short | same
  · exact .inl short
  · rw [taken] at same
    cases takenFront : reader front with
    | error cause =>
        rw [takenFront] at same
        cases same
    | ok read =>
        rw [takenFront] at same
        cases same
        exact .inr ⟨read.2, rfl, rfl⟩

/-! ## Putting readers together -/

theorem bind_of_ok {first : Reader α} (next : α → Reader β) {bytes mid : Bytes} {a : α}
    (taken : first bytes = .ok (a, mid)) : (first >>= next) bytes = next a mid := by
  simp only [bind, StateT.bind, Except.bind, taken]

theorem bind_of_error {first : Reader α} (next : α → Reader β) {bytes : Bytes}
    {cause : FormatError} (failed : first bytes = .error cause) :
    (first >>= next) bytes = .error cause := by
  simp only [bind, StateT.bind, Except.bind, failed]

theorem firm_pure (a : α) : Firm (pure a : Reader α) := fun _ _ => .inr rfl

theorem firm_throw (cause : FormatError) : Firm (throw cause : Reader α) := fun _ _ => .inr rfl

theorem firm_bind {first : Reader α} {next : α → Reader β} (one : Firm first)
    (two : ∀ a, Firm (next a)) : Firm (first >>= next) := by
  intro bytes more
  rcases one bytes more with short | same
  · exact .inl (bind_of_error next short)
  · cases taken : first bytes with
    | error cause =>
        rw [taken] at same
        right
        rw [bind_of_error next taken, bind_of_error next same]
        rfl
    | ok front =>
        obtain ⟨a, mid⟩ := front
        rw [taken] at same
        rw [bind_of_ok next taken, bind_of_ok next same]
        exact two a mid more

theorem firm_map (f : α → β) {reader : Reader α} (one : Firm reader) : Firm (f <$> reader) := by
  rw [← bind_pure_comp]
  exact firm_bind one fun _ => firm_pure _

/-! ## Fields -/

theorem firm_take (count : Nat) : Firm (take count) := by
  intro bytes more
  by_cases enough : count ≤ bytes.length
  · right
    have full : (bytes.take count).length = count := List.length_take_of_le enough
    simp only [take, List.take_append_of_le_length enough, List.drop_append_of_le_length enough,
      if_pos full, Except.map]
  · left
    have cut : (bytes.take count).length ≠ count := by
      rw [List.length_take]
      omega
    exact if_neg cut

theorem firm_word (width : Nat) : Firm (word width) :=
  firm_bind (firm_take width) fun _ => firm_pure _

theorem firm_u8 : Firm u8 := firm_bind (firm_word 1) fun _ => firm_pure _

theorem firm_u64 : Firm u64 := firm_bind (firm_word 8) fun _ => firm_pure _

theorem firm_i32 : Firm i32 := firm_bind (firm_word 4) fun _ => firm_pure _

theorem firm_ident {kind : IdentKind} : Firm (@ident kind) :=
  firm_bind firm_u64 fun _ => firm_pure _

/-- The bytes of a text are looked at only once all of them are there. -/
theorem firm_text : Firm text :=
  firm_bind (firm_word 2) fun length => firm_bind (firm_take length) fun bytes => by
    cases Text.ofUtf8? bytes with
    | none => exact firm_throw _
    | some text => exact firm_pure _

/-- The items that were read before the cut do not change how the reader ends. -/
theorem firm_manyAfter {item : Reader α} (one : Firm item) (done : List α) (count : Nat) :
    Firm (manyAfter item done count) := by
  induction count generalizing done with
  | zero => exact fun _ _ => .inr rfl
  | succ count ih =>
      intro bytes more
      rw [manyAfter, manyAfter]
      rcases one bytes more with short | same
      · left
        rw [short]
      · rw [same]
        cases item bytes with
        | error cause => exact .inr rfl
        | ok front =>
            obtain ⟨a, mid⟩ := front
            exact ih (a :: done) mid more

theorem firm_many {item : Reader α} (one : Firm item) (count : Nat) : Firm (many item count) :=
  firm_manyAfter one [] count

end Reader

/-! ## Records and blocks -/

open Reader in
theorem Frame.firm_read : Firm Frame.read :=
  firm_bind firm_ident fun _ => firm_bind firm_ident fun _ =>
    firm_bind firm_i32 fun _ => firm_bind firm_i32 fun _ =>
      firm_bind firm_u8 fun _ => firm_pure _

open Reader in
theorem ThreadRecord.firm_read : Firm ThreadRecord.read :=
  firm_bind firm_ident fun _ => firm_bind firm_u64 fun _ =>
    firm_bind firm_text fun _ => firm_bind firm_u8 fun _ => firm_pure _

open Reader in
theorem ClassRecord.firm_read : Firm ClassRecord.read :=
  firm_bind firm_ident fun _ => firm_bind firm_text fun _ => firm_pure _

open Reader in
theorem TraceRecord.firm_read : Firm TraceRecord.read :=
  firm_bind firm_ident fun _ => firm_bind firm_u8 fun _ => firm_bind (firm_word 4) fun count =>
    firm_bind (firm_many Frame.firm_read count) fun _ => firm_pure _

open Reader in
theorem EdgeRecord.firm_read : Firm EdgeRecord.read :=
  firm_bind firm_u64 fun _ => firm_bind firm_u64 fun _ =>
    firm_bind firm_text fun _ => firm_pure _

open Reader in
/-- A type that no record has is refused on sight, so more bytes do not help it. -/
theorem Record.firm_read (typeId : UInt64) : Firm (Record.read typeId) := by
  unfold Record.read
  split
  · exact firm_map _ ThreadRecord.firm_read
  split
  · exact firm_map _ ClassRecord.firm_read
  split
  · exact firm_map _ TraceRecord.firm_read
  split
  · exact firm_map _ EdgeRecord.firm_read
  · exact firm_throw _

open Reader in
theorem Block.firm_read : Firm Block.read :=
  firm_bind firm_u64 fun typeId => firm_bind (firm_word 4) fun count =>
    firm_bind (firm_many (Record.firm_read typeId) count) fun _ => firm_pure _

/-- A block takes as many bytes as it is encoded in, and reads them alone the same. -/
theorem Block.read_ok {bytes rest : Bytes} {block : Block}
    (taken : Block.read bytes = .ok (block, rest)) :
    ∃ front, bytes = front ++ rest ∧ front.length = block.encode.length ∧
      Reader.Reads Block.read block front := by
  obtain ⟨front, whole, reads⟩ := Block.local_read bytes block rest taken
  obtain ⟨pieces, -, spelled, written, -⟩ := Block.follows_read.takes bytes block rest taken
  have same : front = pieces.flatMap Piece.raw :=
    List.append_cancel_right (whole.symm.trans spelled)
  refine ⟨front, whole, ?_, reads⟩
  rw [same, written, List.nil_append, Piece.length_flatMap_normal]

/-! ## Payloads -/

namespace Payload

/-- How many bytes the first blocks take. -/
def boundary (blocks : List Block) (index : Nat) : Nat :=
  ((blocks.take index).flatMap Block.encode).length

@[simp] theorem boundary_zero (blocks : List Block) : boundary blocks 0 = 0 := rfl

@[simp] theorem boundary_cons_succ (block : Block) (blocks : List Block) (index : Nat) :
    boundary (block :: blocks) (index + 1) = block.encode.length + boundary blocks index := by
  rw [boundary, boundary, List.take_succ_cons, List.flatMap_cons, List.length_append]

theorem length_encode_pos (block : Block) : 0 < block.encode.length := by
  rw [Block.encode, Block.encodeHead, List.length_append, List.length_append, Word.length_ofNat]
  omega

/-- Every block takes some bytes, so the boundaries are apart. -/
theorem boundary_inj {blocks : List Block} {one other : Nat} (few : one ≤ blocks.length)
    (fewOther : other ≤ blocks.length) (same : boundary blocks one = boundary blocks other) :
    one = other := by
  induction blocks generalizing one other with
  | nil => exact (Nat.le_zero.mp few).trans (Nat.le_zero.mp fewOther).symm
  | cons block blocks ih =>
      have filled := length_encode_pos block
      cases one with
      | zero =>
          cases other with
          | zero => rfl
          | succ other =>
              rw [boundary_zero, boundary_cons_succ] at same
              omega
      | succ one =>
          cases other with
          | zero =>
              rw [boundary_zero, boundary_cons_succ] at same
              omega
          | succ other =>
              rw [boundary_cons_succ, boundary_cons_succ] at same
              rw [ih (Nat.le_of_succ_le_succ few) (Nat.le_of_succ_le_succ fewOther)
                (Nat.add_left_cancel same)]

/-- The last boundary is the end of the payload. -/
theorem boundary_length {bytes : Bytes} {blocks : List Block} (read : decode bytes = .ok blocks) :
    boundary blocks blocks.length = bytes.length := by
  induction blocks generalizing bytes with
  | nil =>
      rw [decode_ok_nil read]
      rfl
  | cons block others ih =>
      obtain ⟨rest, taken, later⟩ := decode_ok_cons read
      obtain ⟨head, whole, size, -⟩ := Block.read_ok taken
      rw [List.length_cons, boundary_cons_succ, ih later, whole, List.length_append, size]

/-- Bytes that end on a boundary and are not empty reach behind the first block. -/
theorem behind_of_boundary {front : Bytes} {block : Block} {others : List Block} {index : Nat}
    (filled : front ≠ []) (ends : front.length = boundary (block :: others) index) :
    ∃ later, front.length = block.encode.length + boundary others later := by
  cases index with
  | zero =>
      rw [boundary_zero] at ends
      exact absurd (List.length_eq_zero_iff.mp ends) filled
  | succ index =>
      rw [boundary_cons_succ] at ends
      exact ⟨index, ends⟩

/-- Bytes that are too short for the first block of a payload end behind none of its blocks. -/
theorem ne_boundary_of_short {front back rest : Bytes} {block : Block} (others : List Block)
    (taken : Block.read (front ++ back) = .ok (block, rest)) (filled : front ≠ [])
    (short : Block.read front = .error .short) (index : Nat) :
    front.length ≠ boundary (block :: others) index := by
  intro ends
  obtain ⟨later, behind⟩ := behind_of_boundary filled ends
  obtain ⟨whole, split, size, reads⟩ := Block.read_ok taken
  have fits : whole.length ≤ front.length := by omega
  obtain ⟨more, rfl⟩ : whole <+: front :=
    List.prefix_of_prefix_length_le (split ▸ List.prefix_append whole rest)
      (List.prefix_append front back) fits
  rw [reads more] at short
  cases short

/-- What is left of a payload that is cut: the blocks before the cut, if the cut falls right behind
a block, and otherwise too few bytes. -/
theorem decode_front {front back : Bytes} {blocks : List Block}
    (read : decode (front ++ back) = .ok blocks) :
    (∃ index ≤ blocks.length, front.length = boundary blocks index ∧
        decode front = .ok (blocks.take index)) ∨
      (∀ index, front.length ≠ boundary blocks index) ∧ decode front = .error .short := by
  induction blocks generalizing front with
  | nil =>
      obtain ⟨rfl, rfl⟩ := List.append_eq_nil_iff.mp (decode_ok_nil read)
      exact .inl ⟨0, Nat.le_refl 0, rfl, decode_nil⟩
  | cons block others ih =>
      by_cases empty : front = []
      · subst empty
        exact .inl ⟨0, Nat.zero_le _, rfl, decode_nil⟩
      obtain ⟨rest, taken, later⟩ := decode_ok_cons read
      rcases Block.firm_read.read_front taken with short | ⟨mid, takenFront, rfl⟩
      · exact .inr ⟨ne_boundary_of_short others taken empty short, decode_error short empty⟩
      -- The first block lies before the cut, which therefore falls into the others.
      obtain ⟨head, whole, size, -⟩ := Block.read_ok takenFront
      have length : front.length = block.encode.length + mid.length := by
        rw [whole, List.length_append, size]
      rw [decode_cons takenFront]
      rcases ih later with ⟨index, few, ends, decoded⟩ | ⟨between, short⟩
      · refine .inl ⟨index + 1, Nat.succ_le_succ few, ?_, ?_⟩
        · rw [boundary_cons_succ, length, ends]
        · rw [decoded]
          rfl
      · refine .inr ⟨fun index ends => ?_, by rw [short]; rfl⟩
        obtain ⟨index, behind⟩ := behind_of_boundary empty ends
        rw [length] at behind
        exact between index (Nat.add_left_cancel behind)

/-- **Payloads are glued and cut block by block.** Behind a payload that is decoded, other bytes are
decoded as if they stood alone, or fail as they would alone. Of a payload that is decoded, the bytes
before a cut are decoded exactly when the cut falls right behind a block, as the blocks before it;
otherwise they end inside a field, and that is what the failure says. -/
theorem decode_glued_and_cut {bytes : Bytes} {blocks : List Block}
    (read : decode bytes = .ok blocks) :
    (∀ more others, decode more = .ok others → decode (bytes ++ more) = .ok (blocks ++ others)) ∧
    (∀ more cause, decode more = .error cause → decode (bytes ++ more) = .error cause) ∧
    boundary blocks blocks.length = bytes.length ∧
    ∀ front, front <+: bytes →
      ((∃ found, decode front = .ok found) ↔
        ∃ index ≤ blocks.length, front.length = boundary blocks index) ∧
      (∀ index ≤ blocks.length, front.length = boundary blocks index →
        decode front = .ok (blocks.take index)) ∧
      ((∀ index ≤ blocks.length, front.length ≠ boundary blocks index) →
        decode front = .error .short ∧
        FormatError.short.detail = "failed to fill whole buffer") := by
  refine ⟨fun more others later => ?_, fun more cause failed => ?_, boundary_length read, ?_⟩
  · rw [decode_append read, later]
    rfl
  · rw [decode_append read, failed]
    rfl
  rintro front ⟨back, rfl⟩
  rcases decode_front read with ⟨index, few, ends, decoded⟩ | ⟨between, short⟩
  · refine ⟨⟨fun _ => ⟨index, few, ends⟩, fun _ => ⟨_, decoded⟩⟩,
      fun other fewOther endsOther => ?_, fun none => absurd ends (none index few)⟩
    have same : index = other := boundary_inj few fewOther (ends.symm.trans endsOther)
    rw [← same]
    exact decoded
  · refine ⟨⟨?_, ?_⟩, fun index _ ends => absurd ends (between index), fun _ => ⟨short, rfl⟩⟩
    · rintro ⟨found, decoded⟩
      rw [short] at decoded
      cases decoded
    · rintro ⟨index, -, ends⟩
      exact absurd ends (between index)

/-- A trace and an empty block of a type that no record has. Behind them such a type is refused once
it has a record. Cut behind the trace they are the trace; cut one byte earlier they are short. -/
theorem decode_looseTrace_glued_and_cut :
    ∃ trace, decode (looseTrace ++ Block.encodeHead 9 0) = .ok [trace, ⟨9, []⟩] ∧
      decode (looseTrace ++ Block.encodeHead 9 0 ++ Block.encodeHead 9 1) =
        .error (.unknownType 9) ∧
      decode looseTrace = .ok [trace] ∧ decode looseTrace.dropLast = .error .short := by
  let trace := traceBlock [
    { id := ⟨5⟩, hash := 0, reachedRoot := false, written := false
      frames := [.ofMethod ⟨0x20001⟩ 10 3 .interpreted] }]
  have takenTrace : Block.read (looseTrace ++ Block.encodeHead 9 0) =
      .ok (trace, Block.encodeHead 9 0) := rfl
  have takenEmpty : Block.read (Block.encodeHead 9 0) = .ok (⟨9, []⟩, []) := rfl
  have read : decode (looseTrace ++ Block.encodeHead 9 0) = .ok [trace, ⟨9, []⟩] := by
    rw [decode_cons takenTrace, decode_cons takenEmpty, decode_nil]
    rfl
  have refused : decode (Block.encodeHead 9 1) = .error (.unknownType 9) :=
    decode_error rfl (by decide)
  obtain ⟨-, glued, -, cut⟩ := decode_glued_and_cut read
  have behind : looseTrace <+: looseTrace ++ Block.encodeHead 9 0 := List.prefix_append _ _
  have inside : looseTrace.dropLast <+: looseTrace ++ Block.encodeHead 9 0 :=
    (List.dropLast_prefix _).trans behind
  refine ⟨trace, read, glued _ _ refused, (cut looseTrace behind).2.1 1 (by decide) (by decide), ?_⟩
  exact ((cut _ inside).2.2 (by decide)).1

end Payload

end LeakRecorder
