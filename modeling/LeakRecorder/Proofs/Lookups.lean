/-
# LeakRecorder.Proofs.Lookups — what a playback knows after failures

A frame says how long its payload is, so a reader is behind the frame also when the
payload cannot be decoded, and the next read is not affected (`checkpoint_framed`).
The reads of a stream of frames therefore answer its payloads one by one, each as if
it stood alone (`answer`).

The tables take in the records of whole payloads only. What they hold is said from
these records without a table: the last record of each identifier, in stream order,
and the number of records of each stack trace (`Tables.Tells`). One record more keeps
this (`Tables.Tells.add`), so it holds after any number of reads, whichever of them
have failed (`reads_past_failures`).
-/
import LeakRecorder.Proofs.CutStream
import LeakRecorder.Proofs.Reading

set_option autoImplicit false

namespace LeakRecorder

/-! ## Records by kind -/

namespace Record

def trace? : Record → Option TraceRecord
  | .trace record => some record
  | _ => none

def thread? : Record → Option ThreadRecord
  | .thread record => some record
  | _ => none

def loadedClass? : Record → Option ClassRecord
  | .loadedClass record => some record
  | _ => none

end Record

namespace Playback

/-! ## Tables -/

namespace Tables

section Entries

variable {α β : Type} {kind : IdentKind} {idOf : α → Ident kind} {value : α → β}
  {entries : List α}

/-- Under each identifier the table holds what the last entry of this identifier says. -/
def HoldsLast (idOf : α → Ident kind) (value : α → β) (entries : List α)
    (table : Std.TreeMap (Ident kind) β) : Prop :=
  ∀ id, table[id]? = ((entries.filter fun entry => idOf entry = id).getLast?).map value

/-- Under each identifier that some entry has, the table holds how many entries have it. -/
def HoldsCount (idOf : α → Ident kind) (entries : List α) (table : Std.TreeMap (Ident kind) Nat) :
    Prop :=
  ∀ id, table[id]? =
    if ∃ entry ∈ entries, idOf entry = id then some (entries.countP fun entry => idOf entry = id)
    else none

theorem holdsLast_nil : HoldsLast idOf value [] ∅ := by
  intro id
  simp

theorem holdsCount_nil : HoldsCount idOf [] ∅ := by
  intro id
  simp

theorem HoldsLast.insert {table : Std.TreeMap (Ident kind) β}
    (holds : HoldsLast idOf value entries table) (entry : α) :
    HoldsLast idOf value (entries ++ [entry]) (table.insert (idOf entry) (value entry)) := by
  intro id
  rw [Std.TreeMap.getElem?_insert, List.filter_append, List.filter_singleton]
  by_cases same : idOf entry = id
  · simp [same]
  · simp [same, holds id, Std.LawfulEqCmp.compare_eq_iff_eq]

theorem HoldsCount.insert {table : Std.TreeMap (Ident kind) Nat}
    (holds : HoldsCount idOf entries table) (entry : α) :
    HoldsCount idOf (entries ++ [entry])
      (table.insert (idOf entry) (table.getD (idOf entry) 0 + 1)) := by
  intro id
  rw [Std.TreeMap.getElem?_insert, List.countP_append, List.countP_singleton]
  by_cases same : idOf entry = id
  · subst same
    -- Where no entry is counted yet, the table holds nothing and reads as zero.
    have counted : table.getD (idOf entry) 0 =
        entries.countP fun other => idOf other = idOf entry := by
      rw [Std.TreeMap.getD_eq_getD_getElem?, holds (idOf entry)]
      split
      next => rfl
      next none =>
        refine Eq.symm (List.countP_eq_zero.mpr fun other member => ?_)
        simpa using fun also => none ⟨other, member, also⟩
    simp [counted]
  · simp [same, holds id, Std.LawfulEqCmp.compare_eq_iff_eq, or_and_right, exists_or]

end Entries

/-- The tables say what these records say, taken in one after the other. -/
structure Tells (tables : Tables) (records : List Record) : Prop where
  traces : HoldsLast (·.id) id (records.filterMap Record.trace?) tables.traces
  threads : HoldsLast (·.tid) id (records.filterMap Record.thread?) tables.threads
  classes : HoldsLast (·.classId) (·.name) (records.filterMap Record.loadedClass?) tables.classes
  emissions : HoldsCount (·.id) (records.filterMap Record.trace?) tables.emissions

theorem tells_empty : Tells .empty [] where
  traces := holdsLast_nil
  threads := holdsLast_nil
  classes := holdsLast_nil
  emissions := holdsCount_nil

theorem Tells.add {tables : Tables} {records : List Record} (tells : tables.Tells records)
    (record : Record) : (tables.add record).Tells (records ++ [record]) := by
  obtain ⟨traces, threads, classes, emissions⟩ := tells
  constructor <;> rw [List.filterMap_append] <;> cases record
  all_goals simp only [Tables.add, List.filterMap_cons, List.filterMap_nil, Record.trace?,
    Record.thread?, Record.loadedClass?, List.append_nil]
  all_goals first
    | assumption
    | exact traces.insert _
    | exact threads.insert _
    | exact classes.insert _
    | exact emissions.insert _

theorem Tells.addAll {tables : Tables} {records : List Record} (tells : tables.Tells records)
    (more : List Record) : (more.foldl Tables.add tables).Tells (records ++ more) := by
  induction more generalizing tables records with
  | nil => rwa [List.append_nil]
  | cons record rest ih =>
      have later := ih (tells.add record)
      rwa [List.append_assoc] at later

end Tables

/-! ## Reads -/

/-- What a read of a checkpoint with this payload answers. -/
def answer (payload : Bytes) : Except Failure (Option (List Block)) :=
  match Payload.decode payload with
  | .ok blocks => .ok (some blocks)
  | .error cause => .error (.format cause)

/-- The records of a payload that can be decoded; another one has none. -/
def recordsOf (payload : Bytes) : List Record :=
  match Payload.decode payload with
  | .ok blocks => blocks.flatMap (·.records)
  | .error _ => []

/-- The outcomes of as many reads of a checkpoint, one after the other, whether they fail or not. -/
def checkpoints (playback : Playback) : Nat → List (Except Failure (Option (List Block)))
  | 0 => []
  | count + 1 => playback.checkpoint.1 :: playback.checkpoint.2.checkpoints count

/-- Where as many reads of a checkpoint lead. -/
def afterCheckpoints (playback : Playback) : Nat → Playback
  | 0 => playback
  | count + 1 => playback.checkpoint.2.afterCheckpoints count

/-- A read takes a whole frame, whatever is in it. -/
theorem checkpoint_framed {payload : Bytes} (fits : payload.length < Stream.lengthLimit)
    (rest : Bytes) (tables : Tables) :
    checkpoint { rest := Stream.frame payload ++ rest, tables } =
      (answer payload, { rest, tables := (recordsOf payload).foldl Tables.add tables }) := by
  rw [checkpoint, Playback.payload, Stream.readFrame_frame fits, answer, recordsOf]
  dsimp only [Except.mapError]
  cases Payload.decode payload <;> rfl

/-- At the end of the stream nothing is read and nothing changes. -/
theorem checkpoints_ended {playback : Playback} (ended : playback.rest = []) (count : Nat) :
    playback.checkpoints count = List.replicate count (.ok none) ∧
      playback.afterCheckpoints count = playback := by
  induction count with
  | zero => exact ⟨rfl, rfl⟩
  | succ count ih =>
      rw [checkpoints, afterCheckpoints, checkpoint_end ended, List.replicate_succ, ih.1]
      exact ⟨rfl, ih.2⟩

/-- The reads go through the frames one by one. -/
theorem checkpoints_frames {payloads : List Bytes}
    (fits : ∀ payload ∈ payloads, payload.length < Stream.lengthLimit) (tables : Tables)
    (further : Nat) :
    checkpoints { rest := payloads.flatMap Stream.frame, tables } (payloads.length + further) =
      payloads.map answer ++ List.replicate further (.ok none) := by
  induction payloads generalizing tables with
  | nil =>
      rw [List.length_nil, Nat.zero_add]
      exact (checkpoints_ended rfl further).1
  | cons payload payloads ih =>
      rw [List.forall_mem_cons] at fits
      rw [List.length_cons, Nat.add_right_comm, checkpoints, List.flatMap_cons,
        checkpoint_framed fits.1, ih fits.2]
      rfl

/-- On the way the tables say what the records behind the reader say. -/
theorem tells_afterCheckpoints {payloads : List Bytes}
    (fits : ∀ payload ∈ payloads, payload.length < Stream.lengthLimit) {tables : Tables}
    {records : List Record} (tells : tables.Tells records) (count : Nat) :
    (afterCheckpoints { rest := payloads.flatMap Stream.frame, tables } count).tables.Tells
      (records ++ (payloads.take count).flatMap recordsOf) := by
  induction payloads generalizing tables records count with
  | nil =>
      rw [List.flatMap_nil, (checkpoints_ended rfl count).2, List.take_nil, List.flatMap_nil,
        List.append_nil]
      exact tells
  | cons payload payloads ih =>
      rw [List.forall_mem_cons] at fits
      cases count with
      | zero =>
          rw [List.take_zero, List.flatMap_nil, List.append_nil]
          exact tells
      | succ count =>
          rw [afterCheckpoints, List.flatMap_cons, checkpoint_framed fits.1, List.take_succ_cons,
            List.flatMap_cons, ← List.append_assoc]
          exact ih fits.2 (tells.addAll _) count

/-- **A payload that cannot be decoded harms only itself.** Payloads of any bytes are framed behind
a header. The reads of checkpoints answer them in their order, each with its blocks or with its own
failure, and from then on nothing. After any number of reads the tables hold the last record of each
stack trace, thread and class among the payloads that were read and could be decoded, and how many
records each stack trace has there; of the other payloads they hold nothing. -/
theorem reads_past_failures {payloads : List Bytes}
    (fits : ∀ payload ∈ payloads, payload.length < Stream.lengthLimit) :
    ∃ frames start, payloads.mapM Stream.encodeFrame = .ok frames ∧
      (ofBytes (Stream.header ++ frames.flatten)).header =
        (.ok ("OLDOBJCK", Stream.version), start) ∧
      (∀ further, start.checkpoints (payloads.length + further) =
        payloads.map answer ++ List.replicate further (.ok none)) ∧
      ∀ count, (start.afterCheckpoints count).tables.Tells
        ((payloads.take count).flatMap recordsOf) := by
  refine ⟨_, _, Stream.mapM_encodeFrame fits, header_ofBytes _, fun further => ?_, fun count => ?_⟩
  · rw [← List.flatMap_def]
    exact checkpoints_frames fits .empty further
  · rw [← List.flatMap_def]
    exact tells_afterCheckpoints fits Tables.tells_empty count

/-- A block of one record of stack trace 5. -/
def lone (reachedRoot : Bool) : Block :=
  ⟨Block.traceType, [.trace { id := ⟨5⟩, reachedRoot, frames := [] }]⟩

/-- Between two payloads that are decoded stand one that fails behind a whole block and one that is
cut off. Neither is in the tables: stack trace 5 has two records, and the later one counts. -/
theorem reads_past_failures_betweenTraces :
    ∃ frames start,
      [(lone false).encode, (lone false).encode ++ Block.encodeHead 9 1, [7],
          (lone true).encode].mapM Stream.encodeFrame = .ok frames ∧
      (ofBytes (Stream.header ++ frames.flatten)).header =
        (.ok ("OLDOBJCK", Stream.version), start) ∧
      start.checkpoints 5 = [.ok (some [lone false]), .error (.format (.unknownType 9)),
        .error (.format .short), .ok (some [lone true]), .ok none] ∧
      (start.afterCheckpoints 5).tables.traces[(⟨5⟩ : TraceId)]? =
        some { id := ⟨5⟩, reachedRoot := true, frames := [] } ∧
      (start.afterCheckpoints 5).tables.emissions[(⟨5⟩ : TraceId)]? = some 2 := by
  have alone (reachedRoot : Bool) :
      Payload.decode (lone reachedRoot).encode = .ok [lone reachedRoot] := by
    have taken : Block.read (lone reachedRoot).encode = .ok (lone reachedRoot, []) := by
      cases reachedRoot <;> rfl
    rw [Payload.decode_cons taken, Payload.decode_nil]
    rfl
  have refused : Payload.decode ((lone false).encode ++ Block.encodeHead 9 1) =
      .error (.unknownType 9) := by
    rw [Payload.decode_append (alone false), Payload.decode_error rfl (by decide)]
    rfl
  have short : Payload.decode [7] = .error .short := Payload.decode_error rfl (by decide)
  obtain ⟨frames, start, framed, header, reads, tells⟩ :=
    @reads_past_failures [(lone false).encode, (lone false).encode ++ Block.encodeHead 9 1, [7],
      (lone true).encode] (by decide)
  have answers := reads 1
  have told := tells 5
  simp only [List.take, List.flatMap_cons, List.flatMap_nil, recordsOf, alone, refused, short]
    at told
  simp only [List.map, answer, alone, refused, short] at answers
  refine ⟨frames, start, framed, header, answers, ?_, ?_⟩
  · rw [told.traces]
    decide
  · rw [told.emissions]
    decide

end Playback

end LeakRecorder
