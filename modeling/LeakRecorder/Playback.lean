/-
# LeakRecorder.Playback — reading a recording

A playback goes through the bytes of one stream and collects what its
checkpoints say: the last record of each stack trace, thread and class, and how
often each stack trace was emitted, which is more than once when the recording
repeats itself. A payload adds to the tables only once all of it has been
decoded.
-/
import LeakRecorder.Payload.Decode
import LeakRecorder.Stream
import Std.Data.TreeMap

set_option autoImplicit false

namespace LeakRecorder

/-- What the checkpoints read so far say. -/
structure Playback.Tables where
  traces : Std.TreeMap TraceId TraceRecord
  threads : Std.TreeMap TraceId ThreadRecord
  classes : Std.TreeMap ClassId String
  /-- How many records each stack trace has in the stream. -/
  emissions : Std.TreeMap TraceId Nat

/-- A stream as far as it has not been read, and what was read of it. -/
structure Playback where
  rest : Bytes
  tables : Playback.Tables

namespace Playback

namespace Tables

def empty : Tables := { traces := ∅, threads := ∅, classes := ∅, emissions := ∅ }

/-- Takes a record in; edges are in no table. -/
def add (tables : Tables) : Record → Tables
  | .trace record =>
      { tables with
        traces := tables.traces.insert record.id record
        emissions := tables.emissions.insert record.id (tables.emissions.getD record.id 0 + 1) }
  | .thread record => { tables with threads := tables.threads.insert record.tid record }
  | .loadedClass record =>
      { tables with classes := tables.classes.insert record.classId record.name }
  | .edge _ => tables

/-- Takes every record of a checkpoint in. -/
def addBlocks (tables : Tables) (blocks : List Block) : Tables :=
  (blocks.flatMap (·.records)).foldl add tables

end Tables

/-- Starts at the front of a stream. -/
def ofBytes (stream : Bytes) : Playback := { rest := stream, tables := .empty }

def header (playback : Playback) : Except Failure (String × UInt32) × Playback :=
  let (result, rest) := Stream.readHeader playback.rest
  (result.mapError .io, { playback with rest })

/-- The next payload as it is, or nothing at the end. -/
def payload (playback : Playback) : Except Failure (Option Bytes) × Playback :=
  let (result, rest) := Stream.readFrame playback.rest
  (result.mapError .io, { playback with rest })

/-- The blocks of the next checkpoint, or nothing at the end. -/
def checkpoint (playback : Playback) : Except Failure (Option (List Block)) × Playback :=
  match playback.payload with
  | (.error cause, next) => (.error cause, next)
  | (.ok none, next) => (.ok none, next)
  | (.ok (some payload), next) =>
      match Payload.decode payload with
      | .ok blocks => (.ok (some blocks), { next with tables := next.tables.addBlocks blocks })
      | .error cause => (.error (.format cause), next)

theorem length_checkpoint_lt {playback next : Playback} {blocks : List Block}
    (read : playback.checkpoint = (.ok (some blocks), next)) :
    next.rest.length < playback.rest.length := by
  rw [checkpoint] at read
  cases framed : Stream.readFrame playback.rest with
  | mk result rest =>
    cases result with
    | error cause =>
      have failed : playback.payload = (.error (.io cause), { playback with rest }) := by
        rw [payload, framed]
        rfl
      rw [failed] at read
      cases read
    | ok found =>
      have taken : playback.payload = (.ok found, { playback with rest }) := by
        rw [payload, framed]
        rfl
      rw [taken] at read
      cases found with
      | none => cases read
      | some bytes =>
        dsimp only at read
        split at read
        · cases read
          exact Stream.length_readFrame_lt framed
        · cases read

/-- Every checkpoint that is left, after the ones that `done` holds newest first. -/
def remainingAfter (done : List (List Block)) (playback : Playback) :
    Except Failure (List (List Block)) × Playback :=
  match read : playback.checkpoint with
  | (.error cause, next) => (.error cause, next)
  | (.ok none, next) => (.ok done.reverse, next)
  | (.ok (some blocks), next) =>
      have := length_checkpoint_lt read
      remainingAfter (blocks :: done) next
termination_by playback.rest.length

/-- Every checkpoint that is left; the first failure ends the reading. -/
def remaining (playback : Playback) : Except Failure (List (List Block)) × Playback :=
  playback.remainingAfter []

end Playback

end LeakRecorder
