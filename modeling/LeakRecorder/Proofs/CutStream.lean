/-
# LeakRecorder.Proofs.CutStream — streams that are cut off

A stream may end anywhere, when the recording process did. `boundary` says where
each frame ends. A reader of such a stream takes the frames that are whole, one
payload a read, and then stands either at the end of the stream, if the cut falls
on a boundary, or in a frame that has lost its end: in the tag and the length, or
in the payload (`readFrame_cut`). What the payloads hold does not matter, also if
they look like frames, because a reader only ever looks for a tag at a boundary.

`Cut` is what a cut leaves. It is shown from the back to the front: a whole frame
in front of a stream moves each of its boundaries and the cut by the frame's size
(`Cut.behindFirst`), and the other cuts fall right after the header or into the first
frame.
-/
import LeakRecorder.Proofs.Frames
import Mathlib.Order.Monotone.Basic

set_option autoImplicit false

namespace LeakRecorder

/-- The failures of a stream that ends before what it has announced. -/
def IoError.endsEarly : IoError → Bool
  | .shortRead | .truncated _ _ => true
  | _ => false

namespace Stream

theorem frameSize_pos (payloadSize : Nat) : 0 < frameSize payloadSize :=
  Nat.lt_add_right payloadSize (Nat.succ_pos 4)

/-- Where the frames of the first payloads end in a stream. -/
def boundary (payloads : List Bytes) (index : Nat) : Nat :=
  (header ++ (payloads.take index).flatMap frame).length

@[simp] theorem boundary_zero (payloads : List Bytes) : boundary payloads 0 = headerSize := rfl

@[simp] theorem boundary_cons_succ (payload : Bytes) (payloads : List Bytes) (index : Nat) :
    boundary (payload :: payloads) (index + 1) =
      frameSize payload.length + boundary payloads index := by
  rw [boundary, boundary, List.take_succ_cons, List.flatMap_cons, List.length_append,
    List.length_append, List.length_append, length_frame]
  omega

theorem headerSize_le_boundary (payloads : List Bytes) (index : Nat) :
    headerSize ≤ boundary payloads index := by
  rw [boundary, List.length_append, length_header]
  exact Nat.le_add_right ..

theorem boundary_mono (payloads : List Bytes) : Monotone (boundary payloads) := by
  refine monotone_nat_of_le_succ fun index => ?_
  induction payloads generalizing index with
  | nil => simp [boundary]
  | cons payload payloads ih =>
      cases index with
      | zero => exact headerSize_le_boundary _ _
      | succ index =>
          rw [boundary_cons_succ, boundary_cons_succ]
          exact Nat.add_le_add_left (ih index) _

/-- The last boundary is the end of the stream. -/
theorem length_stream (payloads : List Bytes) :
    (header ++ payloads.flatMap frame).length = boundary payloads payloads.length := by
  rw [boundary, List.take_length]

/-- Payloads that a length field can announce are all framed. -/
theorem mapM_encodeFrame {payloads : List Bytes}
    (fits : ∀ payload ∈ payloads, payload.length < Stream.lengthLimit) :
    payloads.mapM encodeFrame = .ok (payloads.map frame) := by
  induction payloads with
  | nil => rfl
  | cons payload payloads ih =>
      rw [List.forall_mem_cons] at fits
      have framed : encodeFrame payload = .ok (frame payload) := by
        rw [encodeFrame, encodeParts, if_pos fits.1]
        rfl
      rw [List.mapM_cons, framed, ih fits.2]
      rfl

/-- How a read fails in a frame of which only `kept` bytes are left. -/
def cutFailure (kept promised : Nat) : IoError :=
  if kept < frameOverhead then .shortRead else .truncated (kept - frameOverhead) promised

theorem endsEarly_cutFailure (kept promised : Nat) : (cutFailure kept promised).endsEarly := by
  unfold cutFailure
  split <;> rfl

/-- The stream ends in the length of a frame. -/
theorem readFrame_of_short {rest : Bytes} (short : rest.length < 4) :
    readFrame (checkpointTag :: rest) = (.error .shortRead, []) := by
  have field : (rest.take 4).length ≠ 4 := by
    rw [List.length_take]
    omega
  rw [readFrame, if_neg (not_not_intro rfl)]
  exact if_neg field

/-- The stream ends in the payload of a frame. -/
theorem readFrame_of_truncated {size : Nat} {rest : Bytes} (fits : size < Stream.lengthLimit)
    (lost : rest.length < size) :
    readFrame (checkpointTag :: (Word.ofNat 4 size ++ rest)) =
      (.error (.truncated rest.length size), []) := by
  have width : (Word.ofNat 4 size).length = 4 := Word.length_ofNat ..
  have promised : Word.toNat (Word.ofNat 4 size) = size := Word.toNat_ofNat_of_lt fits
  have all : rest.take size = rest := List.take_of_length_le (Nat.le_of_lt lost)
  rw [readFrame, if_neg (not_not_intro rfl), List.take_left' width, List.drop_left' width,
    if_pos width, promised]
  simp only [all, if_neg (Nat.ne_of_lt lost)]

/-- A frame that has lost its end is an early end, and nothing is left behind it. -/
theorem readFrame_cut {payload : Bytes} (fits : payload.length < Stream.lengthLimit) {kept : Nat}
    (some : 0 < kept) (lost : kept < frameSize payload.length) :
    readFrame ((frame payload).take kept) = (.error (cutFailure kept payload.length), []) := by
  obtain ⟨kept, rfl⟩ : ∃ less, kept = less + 1 := ⟨kept - 1, by omega⟩
  have width : (Word.ofNat 4 payload.length).length = 4 := Word.length_ofNat ..
  have shape : (frame payload).take (kept + 1) =
      checkpointTag :: (Word.ofNat 4 payload.length ++ payload).take kept := by
    simp [frame, frameParts]
  rw [frameSize, frameOverhead] at lost
  rw [shape, cutFailure]
  by_cases early : kept < 4
  · have short : kept + 1 < frameOverhead := Nat.succ_lt_succ early
    rw [if_pos short]
    apply readFrame_of_short
    rw [List.length_take]
    omega
  · have late : ¬kept + 1 < frameOverhead := fun short => early (Nat.lt_of_succ_lt_succ short)
    have split : (Word.ofNat 4 payload.length ++ payload).take kept =
        Word.ofNat 4 payload.length ++ payload.take (kept - 4) := by
      rw [List.take_append, width, List.take_of_length_le (by omega)]
    have got : (payload.take (kept - 4)).length = kept + 1 - frameOverhead := by
      rw [frameOverhead, List.length_take]
      omega
    rw [split, if_neg late, ← got]
    apply readFrame_of_truncated fits
    rw [List.length_take]
    omega

/-- What a cut leaves of the frames of payloads: `whole` of them, and then `last` is read. -/
structure Cut (payloads : List Bytes) (cut whole : Nat) (last : Except Failure (Option Bytes)) :
    Prop where
  inside : whole ≤ payloads.length
  whole_iff : ∀ index < payloads.length, index < whole ↔ boundary payloads (index + 1) ≤ cut
  /-- On a boundary the stream just ends. -/
  ends : (∃ index ≤ payloads.length, cut = boundary payloads index) → last = .ok none
  /-- Anywhere else the end comes early. -/
  broken : (∀ index ≤ payloads.length, cut ≠ boundary payloads index) →
    ∃ cause : IoError, last = .error (.io cause) ∧ cause.endsEarly

namespace Cut

/-- Without frames the stream ends behind its header. -/
theorem nothing : Cut [] headerSize 0 (.ok none) where
  inside := Nat.le_refl 0
  whole_iff := fun _ inside => absurd inside (Nat.not_lt_zero _)
  ends := fun _ => rfl
  broken := fun off => absurd rfl (off 0 (Nat.le_refl 0))

section First

variable {payload : Bytes} {payloads : List Bytes} {cut : Nat}

theorem lt_boundary_succ (early : cut < headerSize + frameSize payload.length) (index : Nat) :
    cut < boundary (payload :: payloads) (index + 1) := by
  have later := headerSize_le_boundary payloads index
  rw [boundary_cons_succ]
  omega

theorem whole_iff_of_early (early : cut < headerSize + frameSize payload.length) (index : Nat) :
    index < 0 ↔ boundary (payload :: payloads) (index + 1) ≤ cut := by
  have later := @lt_boundary_succ payload payloads cut early index
  omega

/-- The cut leaves the header alone. -/
theorem behindHeader (payload : Bytes) (payloads : List Bytes) :
    Cut (payload :: payloads) headerSize 0 (.ok none) where
  inside := Nat.zero_le _
  whole_iff := fun index _ =>
    whole_iff_of_early (Nat.lt_add_of_pos_right (frameSize_pos payload.length)) index
  ends := fun _ => rfl
  broken := fun off => absurd rfl (off 0 (Nat.zero_le _))

/-- The cut falls into the first frame. -/
theorem inFirst {cause : IoError} (behind : headerSize < cut)
    (early : cut < headerSize + frameSize payload.length) (ended : cause.endsEarly) :
    Cut (payload :: payloads) cut 0 (.error (.io cause)) where
  inside := Nat.zero_le _
  whole_iff := fun index _ => whole_iff_of_early early index
  ends := by
    rintro ⟨index, -, same⟩
    cases index with
    | zero => exact absurd same (Nat.ne_of_gt behind)
    | succ index => exact absurd same (Nat.ne_of_lt (lt_boundary_succ early index))
  broken := fun _ => ⟨cause, rfl, ended⟩

/-- A whole frame in front moves the boundaries and the cut alike. -/
theorem behindFirst {whole : Nat} {last : Except Failure (Option Bytes)}
    (rest : Cut payloads cut whole last) (behind : headerSize ≤ cut) :
    Cut (payload :: payloads) (frameSize payload.length + cut) (whole + 1) last where
  inside := Nat.succ_le_succ rest.inside
  whole_iff := by
    intro index inside
    rw [boundary_cons_succ, Nat.add_le_add_iff_left]
    cases index with
    | zero => exact ⟨fun _ => behind, fun _ => Nat.succ_pos whole⟩
    | succ index =>
        rw [Nat.add_lt_add_iff_right]
        exact rest.whole_iff index (Nat.lt_of_succ_lt_succ inside)
  ends := by
    rintro ⟨index, inside, same⟩
    cases index with
    | zero =>
        have some := frameSize_pos payload.length
        rw [boundary_zero] at same
        omega
    | succ index =>
        rw [boundary_cons_succ, Nat.add_left_cancel_iff] at same
        exact rest.ends ⟨index, Nat.le_of_succ_le_succ inside, same⟩
  broken := by
    intro off
    apply rest.broken
    intro index inside same
    apply off (index + 1) (Nat.succ_le_succ inside)
    rw [boundary_cons_succ, same]

end First

/-- Without a cut every frame is whole, and then the stream ends. -/
theorem uncut {payloads : List Bytes} {whole : Nat} {last : Except Failure (Option Bytes)}
    (rest : Cut payloads (boundary payloads payloads.length) whole last) :
    whole = payloads.length ∧ last = .ok none := by
  refine ⟨Nat.le_antisymm rest.inside (Nat.le_of_not_lt fun lost => ?_),
    rest.ends ⟨_, Nat.le_refl _, rfl⟩⟩
  exact Nat.lt_irrefl whole ((rest.whole_iff whole lost).mpr (boundary_mono payloads lost))

end Cut

end Stream

namespace Playback

/-- The outcomes of as many reads of a payload, one after the other. -/
def payloads (playback : Playback) : Nat → List (Except Failure (Option Bytes))
  | 0 => []
  | count + 1 => playback.payload.1 :: playback.payload.2.payloads count

/-- A read that leaves nothing is the last one that says anything. -/
theorem payloads_last {playback : Playback} {last : Except Failure (Option Bytes)}
    (read : playback.payload = (last, { playback with rest := [] })) (further : Nat) :
    playback.payloads (further + 1) = last :: List.replicate further (.ok none) := by
  induction further generalizing playback last with
  | zero => rw [payloads, read]; rfl
  | succ further ih =>
      rw [payloads, read, List.replicate_succ]
      exact congrArg (last :: ·) (ih rfl)

theorem payloads_frame {payload : Bytes} (fits : payload.length < Stream.lengthLimit) (rest : Bytes)
    (tables : Tables) (count : Nat) :
    Playback.payloads { rest := Stream.frame payload ++ rest, tables } (count + 1) =
      .ok (some payload) :: Playback.payloads { rest, tables } count := by
  rw [payloads, Playback.payload, Stream.readFrame_frame fits]
  rfl

/-- What is left of frames is read as far as it goes, one payload a read. -/
theorem payloads_cut {payloads : List Bytes}
    (fits : ∀ payload ∈ payloads, payload.length < Stream.lengthLimit) {cut : Nat}
    (behind : Stream.headerSize ≤ cut) (inside : cut ≤ Stream.boundary payloads payloads.length)
    (tables : Tables) :
    ∃ whole last, Stream.Cut payloads cut whole last ∧ ∀ further,
      Playback.payloads
          { rest := (payloads.flatMap Stream.frame).take (cut - Stream.headerSize), tables }
          (whole + (further + 1)) =
        (payloads.take whole).map (fun payload => .ok (some payload)) ++
          last :: List.replicate further (.ok none) := by
  induction payloads generalizing cut with
  | nil =>
      obtain rfl : cut = Stream.headerSize := Nat.le_antisymm inside behind
      refine ⟨0, _, .nothing, fun further => ?_⟩
      rw [Nat.zero_add]
      exact payloads_last rfl further
  | cons payload payloads ih =>
      rw [List.forall_mem_cons] at fits
      rw [List.flatMap_cons]
      by_cases first : Stream.headerSize + Stream.frameSize payload.length ≤ cut
      · -- The first frame is whole, and the others are cut as they would be alone.
        obtain ⟨later, rfl⟩ : ∃ later, cut = Stream.frameSize payload.length + later :=
          ⟨cut - Stream.frameSize payload.length, by omega⟩
        have behindLater : Stream.headerSize ≤ later := by omega
        have insideLater : later ≤ Stream.boundary payloads payloads.length := by
          rw [List.length_cons, Stream.boundary_cons_succ] at inside
          exact Nat.add_le_add_iff_left.mp inside
        obtain ⟨whole, last, rest, reads⟩ := ih fits.2 behindLater insideLater
        have moved : (Stream.frame payload ++ payloads.flatMap Stream.frame).take
            (Stream.frameSize payload.length + later - Stream.headerSize) =
              Stream.frame payload ++
                (payloads.flatMap Stream.frame).take (later - Stream.headerSize) := by
          rw [Nat.add_sub_assoc behindLater, ← Stream.length_frame, List.take_length_add_append]
        refine ⟨whole + 1, last, rest.behindFirst behindLater, fun further => ?_⟩
        rw [moved, Nat.add_right_comm, payloads_frame fits.1, reads]
        rfl
      · -- Nothing is left behind the first frame, and some of it is lost.
        have early := Nat.lt_of_not_le first
        have alone : (Stream.frame payload ++ payloads.flatMap Stream.frame).take
            (cut - Stream.headerSize) = (Stream.frame payload).take (cut - Stream.headerSize) := by
          rw [List.take_append_of_le_length]
          rw [Stream.length_frame]
          omega
        rw [alone]
        rcases Nat.eq_or_lt_of_le behind with rfl | some
        · refine ⟨0, _, .behindHeader payload payloads, fun further => ?_⟩
          rw [Nat.sub_self, List.take_zero, Nat.zero_add]
          exact payloads_last rfl further
        · have cutFrame := @Stream.readFrame_cut payload fits.1 (cut - Stream.headerSize) (by omega)
            (by omega)
          have ended := Stream.endsEarly_cutFailure (cut - Stream.headerSize) payload.length
          refine ⟨0, _, .inFirst some early ended, fun further => ?_⟩
          rw [Nat.zero_add]
          apply payloads_last
          rw [Playback.payload, cutFrame]
          rfl

/-- **A cut stream gives back what is whole.** Payloads that a length field can announce are framed
to a stream with a boundary behind its header and behind each frame. Cut anywhere behind the header,
the stream still has its header, and the reads behind it give the payloads of the frames that lie
before the cut, in their order and unchanged. The read after them meets the end of the stream, if
the cut is a boundary, and otherwise fails because the stream ends early; every later read meets the
end. An uncut stream gives all payloads back and then nothing. -/
theorem reads_of_cut {payloads : List Bytes}
    (fits : ∀ payload ∈ payloads, payload.length < Stream.lengthLimit) :
    ∃ frames, payloads.mapM Stream.encodeFrame = .ok frames ∧
      (Stream.header ++ frames.flatten).length = Stream.boundary payloads payloads.length ∧
      (∀ cut, Stream.headerSize ≤ cut → cut ≤ Stream.boundary payloads payloads.length →
        ∃ start whole last,
          (ofBytes ((Stream.header ++ frames.flatten).take cut)).header =
            (.ok ("OLDOBJCK", Stream.version), start) ∧
          Stream.Cut payloads cut whole last ∧
          ∀ further, start.payloads (whole + (further + 1)) =
            (payloads.take whole).map (fun payload => .ok (some payload)) ++
              last :: List.replicate further (.ok none)) ∧
      ∃ start, (ofBytes (Stream.header ++ frames.flatten)).header =
          (.ok ("OLDOBJCK", Stream.version), start) ∧
        ∀ further, start.payloads (payloads.length + (further + 1)) =
          payloads.map (fun payload => .ok (some payload)) ++
            List.replicate (further + 1) (.ok none) := by
  have readBack : ∀ cut, Stream.headerSize ≤ cut →
      cut ≤ Stream.boundary payloads payloads.length →
      ∃ start whole last,
        (ofBytes ((Stream.header ++ payloads.flatMap Stream.frame).take cut)).header =
          (.ok ("OLDOBJCK", Stream.version), start) ∧
        Stream.Cut payloads cut whole last ∧
        ∀ further, start.payloads (whole + (further + 1)) =
          (payloads.take whole).map (fun payload => .ok (some payload)) ++
            last :: List.replicate further (.ok none) := by
    intro cut behind inside
    obtain ⟨whole, last, rest, reads⟩ := payloads_cut fits behind inside .empty
    have kept : (Stream.header ++ payloads.flatMap Stream.frame).take cut =
        Stream.header ++ (payloads.flatMap Stream.frame).take (cut - Stream.headerSize) := by
      rw [List.take_append, Stream.length_header, List.take_of_length_le behind]
    rw [kept, header_ofBytes]
    exact ⟨_, whole, last, rfl, rest, reads⟩
  refine ⟨_, Stream.mapM_encodeFrame fits, ?_⟩
  rw [← List.flatMap_def]
  refine ⟨Stream.length_stream payloads, readBack, ?_⟩
  obtain ⟨start, whole, last, header, rest, reads⟩ :=
    readBack _ (Stream.headerSize_le_boundary _ _) (Nat.le_refl _)
  obtain ⟨rfl, rfl⟩ := rest.uncut
  rw [← Stream.length_stream, List.take_length] at header
  rw [List.take_length] at reads
  exact ⟨start, header, reads⟩

/-- Two payloads, of which the first looks like an empty frame. Cut in the length of the second
frame, the stream gives the first payload back. -/
theorem reads_of_cut_length :
    ∃ frames, [[1, 0, 0, 0, 0], [7]].mapM Stream.encodeFrame = .ok frames ∧
      ∃ start cause,
        (ofBytes ((Stream.header ++ frames.flatten).take 25)).header =
          (.ok ("OLDOBJCK", Stream.version), start) ∧
        start.payloads 3 = [.ok (some [1, 0, 0, 0, 0]), .error (.io cause), .ok none] ∧
        cause.endsEarly := by
  obtain ⟨frames, framed, -, cuts, -⟩ := @reads_of_cut [[1, 0, 0, 0, 0], [7]] (by decide)
  obtain ⟨start, whole, last, header, rest, reads⟩ := cuts 25 (by decide) (by decide)
  have one : whole = 1 := by
    have first := (rest.whole_iff 0 (by decide)).mpr (by decide)
    have second := (rest.whole_iff 1 (by decide)).not.mpr (by decide)
    omega
  obtain ⟨cause, rfl, ended⟩ := rest.broken (by decide)
  subst one
  exact ⟨frames, framed, start, cause, header, reads 1, ended⟩

end Playback

end LeakRecorder
