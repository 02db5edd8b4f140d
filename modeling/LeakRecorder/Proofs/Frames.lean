/-
# LeakRecorder.Proofs.Frames — reading back what was framed

A reader that is put at the front of a stream takes the header and then frame
after frame, each exactly as it was written, whatever follows (`readHeader_header`,
`readFrame_frame`). So a stream of a header and frames is read to its end, one
checkpoint a frame, when every payload can be decoded (`Playback.reads_frames`).
-/
import LeakRecorder.Playback
import Mathlib.Data.List.Forall2

set_option autoImplicit false

namespace LeakRecorder

namespace Stream

theorem encodeParts_ok_iff {payload : Bytes} {parts : List Bytes} :
    encodeParts payload = .ok parts ↔
      payload.length < lengthLimit ∧ parts = frameParts payload := by
  rw [encodeParts]
  split
  next fits => simp [fits, eq_comm]
  next large => simp [large]

theorem readHeader_header (rest : Bytes) :
    readHeader (header ++ rest) = (.ok ("OLDOBJCK", version), rest) := by
  have name : Lossy.decode ((header ++ rest).take 8) = "OLDOBJCK" := by
    show Lossy.decode magic = _
    simp [magic, Lossy.decode, Lossy.readFrom, Lossy.readFrom.begin, Lossy.lead?]
  have number : ((header ++ rest).drop 8).take 4 = Word.ofNat 4 version.toNat := rfl
  rw [readHeader, number, name]
  rfl

theorem readFrame_frame {payload : Bytes} (fits : payload.length < lengthLimit) (rest : Bytes) :
    readFrame (frame payload ++ rest) = (.ok (some payload), rest) := by
  have shape : frame payload ++ rest =
      checkpointTag :: (Word.ofNat 4 payload.length ++ (payload ++ rest)) := by
    simp [frame, frameParts]
  have promised : Word.toNat (Word.ofNat 4 payload.length) = payload.length :=
    Word.toNat_ofNat_of_lt fits
  have field : (Word.ofNat 4 payload.length ++ (payload ++ rest)).take 4 =
      Word.ofNat 4 payload.length := List.take_left' (Word.length_ofNat ..)
  have body : (Word.ofNat 4 payload.length ++ (payload ++ rest)).drop 4 = payload ++ rest :=
    List.drop_left' (Word.length_ofNat ..)
  rw [shape, readFrame]
  simp [field, body, promised]

end Stream

namespace Playback

theorem header_ofBytes (rest : Bytes) :
    (ofBytes (Stream.header ++ rest)).header =
      (.ok ("OLDOBJCK", Stream.version), { rest, tables := .empty }) := by
  rw [header]
  show ((Stream.readHeader (Stream.header ++ rest)).1.mapError Failure.io, _) = _
  simp only [ofBytes, Stream.readHeader_header]
  rfl

theorem checkpoint_end {playback : Playback} (ended : playback.rest = []) :
    playback.checkpoint = (.ok none, playback) := by
  obtain ⟨rest, tables⟩ := playback
  cases ended
  rfl

theorem checkpoint_frame {playback : Playback} {payload rest : Bytes} {blocks : List Block}
    (fits : payload.length < Stream.lengthLimit) (decoded : Payload.decode payload = .ok blocks)
    (front : playback.rest = Stream.frame payload ++ rest) :
    playback.checkpoint =
      (.ok (some blocks), { rest, tables := playback.tables.addBlocks blocks }) := by
  have taken : playback.payload = (.ok (some payload), { playback with rest }) := by
    rw [Playback.payload, front, Stream.readFrame_frame fits]
    rfl
  rw [checkpoint, taken]
  simp only [decoded]

/-- What is decoded from payloads in their order. -/
def Decodes (payloads : List Bytes) (checkpoints : List (List Block)) : Prop :=
  List.Forall₂ (fun payload blocks => Payload.decode payload = .ok blocks) payloads checkpoints

theorem remainingAfter_frames {payloads : List Bytes} {checkpoints : List (List Block)}
    (fits : ∀ payload ∈ payloads, payload.length < Stream.lengthLimit)
    (decodes : Decodes payloads checkpoints) (done : List (List Block)) (playback : Playback)
    (left : playback.rest = payloads.flatMap Stream.frame) :
    ∃ last, playback.remainingAfter done = (.ok (done.reverse ++ checkpoints), last) := by
  induction decodes generalizing done playback with
  | nil =>
      refine ⟨playback, ?_⟩
      rw [remainingAfter]
      split
      next read => simp [checkpoint_end left] at read
      next next read =>
        rw [checkpoint_end left] at read
        cases read
        rw [List.append_nil]
      next read => simp [checkpoint_end left] at read
  | @cons payload blocks payloads checkpoints decoded _ ih =>
      rw [List.forall_mem_cons] at fits
      obtain ⟨next, after⟩ : ∃ next : Playback, next =
          { rest := payloads.flatMap Stream.frame, tables := playback.tables.addBlocks blocks } :=
        ⟨_, rfl⟩
      have read : playback.checkpoint = (.ok (some blocks), next) := by
        rw [after]
        exact checkpoint_frame fits.1 decoded left
      obtain ⟨last, ended⟩ := ih fits.2 (blocks :: done) next (congrArg Playback.rest after)
      refine ⟨last, ?_⟩
      rw [remainingAfter]
      split
      next failed => simp [read] at failed
      next stopped => simp [read] at stopped
      next found next same =>
        rw [read] at same
        cases same
        rw [ended]
        simp

/-- A stream of a header and frames is read to its end. -/
theorem reads_frames {payloads : List Bytes} {checkpoints : List (List Block)}
    (fits : ∀ payload ∈ payloads, payload.length < Stream.lengthLimit)
    (decodes : Decodes payloads checkpoints) :
    ∃ next last,
      (ofBytes (Stream.header ++ payloads.flatMap Stream.frame)).header =
        (.ok ("OLDOBJCK", 1), next) ∧
      next.remaining = (.ok checkpoints, last) := by
  obtain ⟨last, ended⟩ := remainingAfter_frames fits decodes []
    { rest := payloads.flatMap Stream.frame, tables := .empty } rfl
  exact ⟨_, last, header_ofBytes _, ended⟩

end Playback

end LeakRecorder
