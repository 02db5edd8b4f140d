/-
# LeakRecorder.Proofs.Reading — readers look at what they take and at nothing else

`Reads reader a front` says that a reader takes exactly `front` for `a`, whatever
follows. Every reader of the format is `Local`: when it succeeds at all, then it
has taken some front that way. So a payload behind another one is read as if it
stood alone (`Payload.decode_append`), and what one reader reads, readers put
together read in a row (`reads_bind`, `reads_many`).

Read this way, words, texts, frames and records come back from their encodings,
and a block decodes to itself but for the texts that were cut
(`Payload.decode_encode`).
-/
import LeakRecorder.Payload.Decode
import LeakRecorder.Proofs.Pending
import LeakRecorder.ReferenceChains

set_option autoImplicit false

namespace LeakRecorder

namespace Reader

variable {α β : Type}

/-- The reader takes exactly `front` for `a`, whatever follows. -/
def Reads (reader : Reader α) (a : α) (front : Bytes) : Prop :=
  ∀ rest, reader (front ++ rest) = .ok (a, rest)

/-- When the reader succeeds, it has looked at what it took and at nothing else. -/
def Local (reader : Reader α) : Prop :=
  ∀ bytes a rest, reader bytes = .ok (a, rest) →
    ∃ front, bytes = front ++ rest ∧ Reads reader a front

/-! ## Putting readers together -/

theorem reads_pure (a : α) : Reads (pure a : Reader α) a [] := fun _ => rfl

theorem reads_bind {first : Reader α} {next : α → Reader β} {a : α} {b : β} {front back : Bytes}
    (one : Reads first a front) (two : Reads (next a) b back) :
    Reads (first >>= next) b (front ++ back) := by
  intro rest
  rw [List.append_assoc]
  exact bind_eq_ok.mpr ⟨a, back ++ rest, one _, two rest⟩

/-- A value that is handed back at the end takes nothing. -/
theorem reads_then (result : α → β) {first : Reader α} {a : α} {front : Bytes}
    (one : Reads first a front) :
    Reads (first >>= fun a => pure (result a)) (result a) front := by
  have both : Reads (first >>= fun a => pure (result a)) (result a) (front ++ []) :=
    reads_bind one (reads_pure (result a))
  rw [List.append_nil] at both
  exact both

theorem reads_map (f : α → β) {reader : Reader α} {a : α} {front : Bytes}
    (one : Reads reader a front) : Reads (f <$> reader) (f a) front := by
  rw [← bind_pure_comp]
  exact reads_then f one

theorem local_pure (a : α) : Local (pure a : Reader α) := by
  intro bytes b rest read
  cases read
  exact ⟨[], rfl, reads_pure a⟩

theorem local_throw (cause : FormatError) : Local (throw cause : Reader α) := by
  intro bytes a rest read
  cases read

theorem local_bind {first : Reader α} {next : α → Reader β} (one : Local first)
    (two : ∀ a, Local (next a)) : Local (first >>= next) := by
  intro bytes b rest read
  obtain ⟨a, mid, taken, later⟩ := bind_eq_ok.mp read
  obtain ⟨front, rfl, readsFront⟩ := one bytes a mid taken
  obtain ⟨back, rfl, readsBack⟩ := two a mid b rest later
  exact ⟨front ++ back, (List.append_assoc ..).symm, reads_bind readsFront readsBack⟩

theorem local_map (f : α → β) {reader : Reader α} (one : Local reader) : Local (f <$> reader) := by
  rw [← bind_pure_comp]
  exact local_bind one fun _ => local_pure _

/-! ## Fields -/

theorem reads_take (front : Bytes) : Reads (take front.length) front front := by
  intro rest
  rw [take, List.take_left, if_pos rfl, List.drop_left]

theorem local_take (count : Nat) : Local (take count) := by
  intro bytes front rest read
  obtain ⟨rfl, full⟩ := take_ok read
  refine ⟨front, rfl, ?_⟩
  rw [← full]
  exact reads_take front

theorem local_word (width : Nat) : Local (word width) :=
  local_bind (local_take width) fun _ => local_pure _

theorem local_u8 : Local u8 := local_bind (local_word 1) fun _ => local_pure _

theorem local_u64 : Local u64 := local_bind (local_word 8) fun _ => local_pure _

theorem local_i32 : Local i32 := local_bind (local_word 4) fun _ => local_pure _

theorem local_ident {kind : IdentKind} : Local (@ident kind) :=
  local_bind local_u64 fun _ => local_pure _

theorem local_text : Local text :=
  local_bind (local_word 2) fun length => local_bind (local_take length) fun bytes => by
    cases Text.ofUtf8? bytes with
    | none => exact local_throw _
    | some text => exact local_pure _

theorem reads_word (width : Nat) {n : Nat} (fits : n < Word.count width) :
    Reads (word width) n (Word.ofNat width n) := by
  have taken := reads_take (Word.ofNat width n)
  rw [Word.length_ofNat] at taken
  have read := reads_then Word.toNat taken
  rw [Word.toNat_ofNat_of_lt fits] at read
  exact read

theorem reads_u8 (byte : UInt8) : Reads u8 byte [byte] := by
  have read := reads_then UInt8.ofNat (reads_word 1 byte.toNat_lt)
  have one : Word.ofNat 1 byte.toNat = [byte] := by simp [Word.ofNat]
  rw [one, UInt8.ofNat_toNat] at read
  exact read

theorem reads_u64 (n : UInt64) : Reads u64 n (Word.ofNat 8 n.toNat) := by
  have read := reads_then UInt64.ofNat (reads_word 8 n.toNat_lt)
  rw [UInt64.ofNat_toNat] at read
  exact read

theorem reads_i32 (n : Int32) : Reads i32 n (Word.ofNat 4 n.toUInt32.toNat) := by
  have read := reads_then (fun n => (UInt32.ofNat n).toInt32)
    (reads_word 4 n.toUInt32.toNat_lt)
  rw [UInt32.ofNat_toNat] at read
  exact read

theorem reads_ident {kind : IdentKind} (id : Ident kind) : Reads ident id id.encode :=
  reads_then Ident.mk (reads_u64 id.val)

/-- A text comes back as what was kept of it. -/
theorem reads_text (string : String) : Reads text (Text.kept string) (Text.encode string) := by
  have fits : (Text.utf8 (Text.kept string)).length < Word.count 2 := by
    have short := Text.length_utf8_kept string
    have limit : Text.limit < Word.count 2 := by decide
    omega
  refine reads_bind (reads_word 2 fits) ?_
  intro rest
  refine bind_eq_ok.mpr ⟨_, rest, reads_take (Text.utf8 (Text.kept string)) rest, ?_⟩
  rw [Text.ofUtf8?_utf8]
  rfl

/-! ## Items in a row -/

theorem manyAfter_eq (item : Reader α) (done : List α) (count : Nat) (bytes : Bytes) :
    manyAfter item done count bytes =
      (many item count bytes).map fun read => (done.reverse ++ read.1, read.2) := by
  induction count generalizing done bytes with
  | zero => simp [manyAfter, many, Except.map]
  | succ count ih =>
      rw [many, manyAfter, manyAfter]
      cases item bytes with
      | error cause => rfl
      | ok front =>
          obtain ⟨a, mid⟩ := front
          dsimp only
          rw [ih (a :: done), ih [a]]
          cases many item count mid <;> simp [Except.map]

theorem many_succ_ok {item : Reader α} {count : Nat} {bytes rest : Bytes} {items : List α} :
    many item (count + 1) bytes = .ok (items, rest) ↔
      ∃ a mid others, item bytes = .ok (a, mid) ∧ many item count mid = .ok (others, rest) ∧
        items = a :: others := by
  rw [many, manyAfter]
  cases item bytes with
  | error cause => simp
  | ok front =>
      obtain ⟨a, mid⟩ := front
      dsimp only
      rw [manyAfter_eq]
      cases tail : many item count mid with
      | error cause => simp [Except.map, tail]
      | ok read =>
          obtain ⟨others, last⟩ := read
          simp only [Except.map, List.reverse_singleton, List.singleton_append, Except.ok.injEq,
            Prod.mk.injEq]
          constructor
          · rintro ⟨rfl, rfl⟩
            exact ⟨a, mid, others, ⟨rfl, rfl⟩, tail, rfl⟩
          · rintro ⟨_, _, _, ⟨rfl, rfl⟩, same, rfl⟩
            rw [tail] at same
            cases same
            exact ⟨rfl, rfl⟩

theorem length_many {item : Reader α} {count : Nat} {bytes rest : Bytes} {items : List α}
    (read : many item count bytes = .ok (items, rest)) : items.length = count := by
  induction count generalizing bytes items with
  | zero =>
      cases read
      rfl
  | succ count ih =>
      obtain ⟨a, mid, others, -, later, rfl⟩ := many_succ_ok.mp read
      rw [List.length_cons, ih later]

theorem reads_many_succ {item : Reader α} {count : Nat} {a : α} {others : List α}
    {front back : Bytes} (one : Reads item a front) (later : Reads (many item count) others back) :
    Reads (many item (count + 1)) (a :: others) (front ++ back) := by
  intro rest
  rw [List.append_assoc]
  exact many_succ_ok.mpr ⟨a, back ++ rest, others, one _, later rest, rfl⟩

/-- Items come back from their encodings in a row. -/
theorem reads_many {γ : Type} {item : Reader β} (value : γ → β) {encode : γ → Bytes}
    {items : List γ} (each : ∀ c ∈ items, Reads item (value c) (encode c)) :
    Reads (many item items.length) (items.map value) (items.flatMap encode) := by
  induction items with
  | nil => exact fun _ => rfl
  | cons c items ih =>
      rw [List.forall_mem_cons] at each
      rw [List.flatMap_cons]
      exact reads_many_succ each.1 (ih each.2)

theorem local_many {item : Reader α} (one : Local item) (count : Nat) :
    Local (many item count) := by
  induction count with
  | zero =>
      intro bytes items rest read
      cases read
      exact ⟨[], rfl, fun _ => rfl⟩
  | succ count ih =>
      intro bytes items rest read
      obtain ⟨a, mid, others, taken, later, rfl⟩ := many_succ_ok.mp read
      obtain ⟨front, rfl, readsFront⟩ := one bytes a mid taken
      obtain ⟨back, rfl, readsBack⟩ := ih mid others rest later
      exact ⟨front ++ back, (List.append_assoc ..).symm, reads_many_succ readsFront readsBack⟩

end Reader

/-! ## Records -/

open Reader in
theorem Frame.local_read : Local Frame.read :=
  local_bind local_ident fun _ => local_bind local_ident fun _ =>
    local_bind local_i32 fun _ => local_bind local_i32 fun _ =>
      local_bind local_u8 fun _ => local_pure _

open Reader in
theorem Record.local_read (typeId : UInt64) : Local (Record.read typeId) := by
  unfold Record.read
  split
  · exact local_map _ (local_bind local_ident fun _ => local_bind local_u64 fun _ =>
      local_bind local_text fun _ => local_bind local_u8 fun _ => local_pure _)
  split
  · exact local_map _ (local_bind local_ident fun _ =>
      local_bind local_text fun _ => local_pure _)
  split
  · exact local_map _ (local_bind local_ident fun _ => local_bind local_u8 fun _ =>
      local_bind (local_word 4) fun count =>
        local_bind (local_many Frame.local_read count) fun _ => local_pure _)
  split
  · exact local_map _ (local_bind local_u64 fun _ => local_bind local_u64 fun _ =>
      local_bind local_text fun _ => local_pure _)
  · exact local_throw _

open Reader in
theorem Block.local_read : Local Block.read :=
  local_bind local_u64 fun typeId => local_bind (local_word 4) fun count =>
    local_bind (local_many (Record.local_read typeId) count) fun _ => local_pure _

open Reader in
/-- A frame comes back from its encoding. -/
theorem Frame.reads_read (frame : Frame) : Reads Frame.read frame frame.encode := by
  have layout : frame.encode = frame.classId.encode ++ (frame.method.encode ++
      (Word.ofNat 4 frame.line.toUInt32.toNat ++ (Word.ofNat 4 frame.bci.toUInt32.toNat ++
        ([frame.kind.toByte] ++ [])))) := by
    simp only [Frame.encode, List.append_assoc, List.append_nil]
  rw [layout]
  refine reads_bind (reads_ident _) <| reads_bind (reads_ident _) <| reads_bind (reads_i32 _) <|
    reads_bind (reads_i32 _) <| reads_bind (reads_u8 _) ?_
  rw [FrameKind.ofByte_toByte]
  exact reads_pure frame

open Reader in
/-- A trace whose frames can be counted comes back from its encoding. -/
theorem TraceRecord.reads_read {trace : TraceRecord} (few : trace.frames.length < countLimit) :
    Reads TraceRecord.read trace trace.encode := by
  have frames : Reads (many Frame.read trace.frames.length) trace.frames
      (trace.frames.flatMap Frame.encode) := by
    have each := reads_many (fun frame => frame)
      fun (frame : Frame) (_ : frame ∈ trace.frames) => frame.reads_read
    rw [List.map_id'] at each
    exact each
  have layout : trace.encode = trace.id.encode ++ ([if !trace.reachedRoot then 1 else 0] ++
      (Word.ofNat 4 trace.frames.length ++ (trace.frames.flatMap Frame.encode ++ []))) := by
    simp only [TraceRecord.encode, TraceRecord.encodeHead, encodeFlag, List.append_assoc,
      List.append_nil]
  rw [layout]
  refine reads_bind (reads_ident _) <| reads_bind (reads_u8 _) <| reads_bind (reads_word 4 few) <|
    reads_bind frames ?_
  cases trace with | mk id reachedRoot frames
  cases reachedRoot <;> exact reads_pure _

/-! Texts come back as what was kept of them. -/

open Reader in
theorem ThreadRecord.reads_read (thread : ThreadRecord) :
    Reads ThreadRecord.read { thread with name := Text.kept thread.name } thread.encode := by
  have layout : thread.encode = thread.tid.encode ++ (Word.ofNat 8 thread.osThread.toNat ++
      (Text.encode thread.name ++ ([if thread.isVirtual then 1 else 0] ++ []))) := by
    simp only [ThreadRecord.encode, encodeFlag, List.append_assoc, List.append_nil]
  rw [layout]
  refine reads_bind (reads_ident _) <| reads_bind (reads_u64 _) <| reads_bind (reads_text _) <|
    reads_bind (reads_u8 _) ?_
  cases thread with | mk tid osThread name isVirtual
  cases isVirtual <;> exact reads_pure _

open Reader in
theorem ClassRecord.reads_read (loaded : ClassRecord) :
    Reads ClassRecord.read { loaded with name := Text.kept loaded.name } loaded.encode := by
  have layout : loaded.encode = loaded.classId.encode ++ (Text.encode loaded.name ++ []) := by
    rw [ClassRecord.encode, List.append_nil]
  rw [layout]
  exact reads_bind (reads_ident _) <| reads_bind (reads_text _) <| reads_pure _

open Reader in
theorem EdgeRecord.reads_read (edge : EdgeRecord) :
    Reads EdgeRecord.read { edge with field := Text.kept edge.field } edge.encode := by
  have layout : edge.encode = Word.ofNat 8 edge.edge.toNat ++ (Word.ofNat 8 edge.referrer.toNat ++
      (Text.encode edge.field ++ [])) := by
    simp only [EdgeRecord.encode, List.append_assoc, List.append_nil]
  rw [layout]
  exact reads_bind (reads_u64 _) <| reads_bind (reads_u64 _) <| reads_bind (reads_text _) <|
    reads_pure _

/-- The type of the blocks that hold such records. -/
def Record.typeId : Record → UInt64
  | .thread _ => Block.threadType
  | .loadedClass _ => Block.classType
  | .trace _ => Block.traceType
  | .edge _ => Block.edgeType

/-- What the stream keeps of a record: a text that is too long is cut. -/
def Record.kept : Record → Record
  | .thread record => .thread { record with name := Text.kept record.name }
  | .loadedClass record => .loadedClass { record with name := Text.kept record.name }
  | .trace record => .trace record
  | .edge record => .edge { record with field := Text.kept record.field }

/-- The frames of the record, if it has any, can be counted. -/
def Record.Countable : Record → Prop
  | .trace record => record.frames.length < countLimit
  | _ => True

open Reader in
/-- A record comes back from its encoding as what the stream keeps of it. -/
theorem Record.reads_read {record : Record} (countable : record.Countable) :
    Reads (Record.read record.typeId) record.kept record.encode := by
  cases record with
  | thread thread => exact reads_map Record.thread thread.reads_read
  | loadedClass loaded => exact reads_map Record.loadedClass loaded.reads_read
  | trace trace => exact reads_map Record.trace (TraceRecord.reads_read countable)
  | edge edge => exact reads_map Record.edge edge.reads_read

/-- The records are of the block's type, and everything can be counted. -/
structure Block.WellFormed (block : Block) : Prop where
  few : block.records.length < countLimit
  typed : ∀ record ∈ block.records, record.typeId = block.typeId
  countable : ∀ record ∈ block.records, record.Countable

/-- What the stream keeps of a block. -/
def Block.kept (block : Block) : Block := { block with records := block.records.map Record.kept }

open Reader in
/-- A block comes back from its encoding as what the stream keeps of it. -/
theorem Block.reads_read {block : Block} (wellFormed : block.WellFormed) :
    Reads Block.read block.kept block.encode := by
  have layout : block.encode = Word.ofNat 8 block.typeId.toNat ++
      (Word.ofNat 4 block.records.length ++ (block.records.flatMap Record.encode ++ [])) := by
    simp only [Block.encode, Block.encodeHead, List.append_assoc, List.append_nil]
  rw [layout]
  have each : ∀ record ∈ block.records,
      Reads (Record.read block.typeId) record.kept record.encode := by
    intro record member
    rw [← wellFormed.typed record member]
    exact Record.reads_read (wellFormed.countable record member)
  exact reads_bind (reads_u64 _) <| reads_bind (reads_word 4 wellFormed.few) <|
    reads_bind (reads_many Record.kept each) <| reads_pure _

/-- Items that are all made into records of one type form a block. -/
theorem Block.wellFormed_map {α : Type} {typeId : UInt64} {items : List α} (record : α → Record)
    (few : items.length < countLimit) (typed : ∀ item, (record item).typeId = typeId)
    (countable : ∀ item ∈ items, (record item).Countable) :
    (Block.mk typeId (items.map record)).WellFormed where
  few := by
    rw [List.length_map]
    exact few
  typed := List.forall_mem_map.mpr fun item _ => typed item
  countable := List.forall_mem_map.mpr countable

theorem Block.wellFormed_single {record : Record} (countable : record.Countable) :
    (Block.mk record.typeId [record]).WellFormed where
  few := by
    rw [List.length_singleton]
    decide
  typed := List.forall_mem_singleton.mpr rfl
  countable := List.forall_mem_singleton.mpr countable

theorem wellFormed_traceBlock {traces : List Trace} (few : traces.length < countLimit)
    (frames : ∀ trace ∈ traces, trace.frames.length < countLimit) :
    (traceBlock traces).WellFormed :=
  Block.wellFormed_map (fun trace : Trace => .trace trace.toRecord) few (fun _ => rfl)
    fun trace member => frames trace member

/-- Traces carry no text, so nothing of their block is cut. -/
theorem kept_traceBlock (traces : List Trace) : (traceBlock traces).kept = traceBlock traces := by
  simp [Block.kept, traceBlock, Record.kept]

/-- The stack traces of a block, record by record. -/
def Block.traceIds (block : Block) : List TraceId :=
  block.records.filterMap fun record => match record with
    | .trace trace => some trace.id
    | _ => none

theorem Block.traceIds_kept (block : Block) : block.kept.traceIds = block.traceIds := by
  rw [traceIds, kept, List.filterMap_map, traceIds]
  apply List.filterMap_congr
  intro record _
  cases record <;> rfl

theorem traceIds_traceBlock (traces : List Trace) :
    (traceBlock traces).traceIds = traces.map (·.id) := by
  rw [Block.traceIds, traceBlock, List.filterMap_map, ← List.filterMap_eq_map]
  rfl

theorem wellFormed_edgeBlock {edges : EdgeStore} (few : edges.size < countLimit) :
    edges.toBlock.WellFormed :=
  Block.wellFormed_map .edge few (fun _ => rfl) fun _ _ => True.intro

/-! ## Payloads -/

namespace Payload

theorem decodeAfter_eq (done : List Block) (bytes : Bytes) :
    decodeAfter done bytes =
      if bytes = [] then .ok done.reverse
      else match Block.read bytes with
        | .ok (block, rest) => decodeAfter (block :: done) rest
        | .error cause => .error cause := by
  rw [decodeAfter]
  by_cases empty : bytes = []
  · rw [if_pos empty, if_pos empty]
  · rw [if_neg empty, if_neg empty]
    split <;> rename_i taken <;> simp only [taken]

/-- The blocks that were read before only stand in front. -/
theorem decodeAfter_map (done : List Block) (bytes : Bytes) :
    decodeAfter done bytes = (decode bytes).map (done.reverse ++ ·) := by
  induction length : bytes.length using Nat.strongRecOn generalizing done bytes with
  | ind n ih =>
      subst length
      rw [decode, decodeAfter_eq, decodeAfter_eq []]
      by_cases empty : bytes = []
      · rw [if_pos empty, if_pos empty]
        exact congrArg Except.ok (List.append_nil _).symm
      · rw [if_neg empty, if_neg empty]
        cases taken : Block.read bytes with
        | error cause => rfl
        | ok front =>
            obtain ⟨block, rest⟩ := front
            have shorter := Block.length_read_lt taken
            dsimp only
            rw [ih _ shorter (block :: done) rest rfl, ih _ shorter [block] rest rfl]
            cases decode rest with
            | error cause => rfl
            | ok blocks =>
                show Except.ok ((block :: done).reverse ++ blocks) =
                  .ok (done.reverse ++ (block :: blocks))
                rw [List.reverse_cons, List.append_assoc, List.singleton_append]

/-- A payload is a block and the blocks of what the block leaves. -/
theorem decode_cons {bytes rest : Bytes} {block : Block}
    (taken : Block.read bytes = .ok (block, rest)) :
    decode bytes = (decode rest).map (block :: ·) := by
  have filled : bytes ≠ [] := by
    rintro rfl
    have shorter := Block.length_read_lt taken
    simp at shorter
  rw [decode, decodeAfter_eq, if_neg filled, taken]
  exact decodeAfter_map [block] rest

@[simp] theorem decode_nil : decode [] = .ok [] := by
  rw [decode, decodeAfter_eq, if_pos rfl]
  rfl

theorem decode_error {bytes : Bytes} {cause : FormatError}
    (failed : Block.read bytes = .error cause) (filled : bytes ≠ []) :
    decode bytes = .error cause := by
  rw [decode, decodeAfter_eq, if_neg filled, failed]

/-- A payload that is decoded is empty or a block in front of a payload that is decoded. -/
theorem decode_ok_cases {bytes : Bytes} {blocks : List Block} (read : decode bytes = .ok blocks) :
    bytes = [] ∧ blocks = [] ∨
      ∃ block others rest, Block.read bytes = .ok (block, rest) ∧ decode rest = .ok others ∧
        blocks = block :: others := by
  by_cases empty : bytes = []
  · subst empty
    rw [decode_nil] at read
    cases read
    exact .inl ⟨rfl, rfl⟩
  · cases taken : Block.read bytes with
    | error cause =>
        rw [decode_error taken empty] at read
        cases read
    | ok front =>
        obtain ⟨block, rest⟩ := front
        rw [decode_cons taken] at read
        cases later : decode rest with
        | error cause =>
            rw [later] at read
            cases read
        | ok others =>
            rw [later] at read
            cases read
            exact .inr ⟨block, others, rest, rfl, later, rfl⟩

theorem decode_ok_nil {bytes : Bytes} (read : decode bytes = .ok []) : bytes = [] := by
  rcases decode_ok_cases read with ⟨empty, -⟩ | ⟨_, _, _, -, -, impossible⟩
  · exact empty
  · cases impossible

theorem decode_ok_cons {bytes : Bytes} {block : Block} {others : List Block}
    (read : decode bytes = .ok (block :: others)) :
    ∃ rest, Block.read bytes = .ok (block, rest) ∧ decode rest = .ok others := by
  rcases decode_ok_cases read with ⟨-, impossible⟩ | ⟨_, _, rest, taken, later, same⟩
  · cases impossible
  · cases same
    exact ⟨rest, taken, later⟩

/-- A payload behind one that can be decoded is decoded as if it stood alone. -/
theorem decode_append {bytes : Bytes} {blocks : List Block} (read : decode bytes = .ok blocks)
    (more : Bytes) : decode (bytes ++ more) = (decode more).map (blocks ++ ·) := by
  induction blocks generalizing bytes with
  | nil =>
      rw [decode_ok_nil read, List.nil_append]
      cases decode more <;> rfl
  | cons block others ih =>
      obtain ⟨rest, taken, later⟩ := decode_ok_cons read
      obtain ⟨front, whole, reads⟩ := Block.local_read bytes block rest taken
      have takenMore : Block.read (bytes ++ more) = .ok (block, rest ++ more) := by
        rw [whole, List.append_assoc]
        exact reads (rest ++ more)
      rw [decode_cons takenMore, ih later]
      cases decode more <;> rfl

/-- A block decodes to what the stream keeps of it. -/
theorem decode_encode {block : Block} (wellFormed : block.WellFormed) :
    decode block.encode = .ok [block.kept] := by
  have taken := Block.reads_read wellFormed []
  rw [List.append_nil] at taken
  rw [decode_cons taken, decode_nil]
  rfl

end Payload

end LeakRecorder
