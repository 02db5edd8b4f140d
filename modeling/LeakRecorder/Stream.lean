/-
# LeakRecorder.Stream — the file around the payloads

A stream is a header of twelve bytes and then frames: a tag, the length of a
payload in four bytes, and the payload. `encodeFrame` refuses a payload that a
length cannot announce.

Reading takes from the front and always hands back what is left, also when it
fails, so a reader can go on after a bad frame. An end of the stream between
frames is no failure. A wrong tag takes one byte; a length or a payload that is
cut short takes all there is.
-/
import LeakRecorder.Bytes.Lossy
import LeakRecorder.Failure

set_option autoImplicit false

namespace LeakRecorder

namespace Stream

/-- What every stream starts with: "OLDOBJCK". -/
def magic : Bytes := [0x4F, 0x4C, 0x44, 0x4F, 0x42, 0x4A, 0x43, 0x4B]

def version : UInt32 := 1

def header : Bytes := magic ++ Word.ofNat 4 version.toNat

def headerSize : Nat := 12

@[simp] theorem length_header : header.length = headerSize := rfl

/-- The tag of a checkpoint's frame. -/
def checkpointTag : UInt8 := 1

/-- The bytes of a frame around its payload. -/
def frameOverhead : Nat := 5

/-- The size of the frame of a payload of this size. -/
def frameSize (payloadSize : Nat) : Nat := frameOverhead + payloadSize

/-- The tag, the length and the payload of a frame. -/
def frameParts (payload : Bytes) : List Bytes :=
  [[checkpointTag], Word.ofNat 4 payload.length, payload]

/-- A payload in its frame. -/
def frame (payload : Bytes) : Bytes := (frameParts payload).flatten

/-- How many bytes a length field can announce. -/
def lengthLimit : Nat := 0x100000000

/-- The parts of the frame of a payload that its length field can announce. -/
def encodeParts (payload : Bytes) : Except IoError (List Bytes) :=
  if payload.length < lengthLimit then .ok (frameParts payload) else .error .payloadTooLarge

/-- The frame of a payload that its length field can announce. -/
def encodeFrame (payload : Bytes) : Except IoError Bytes :=
  (encodeParts payload).map List.flatten

@[simp] theorem length_frame (payload : Bytes) :
    (frame payload).length = frameSize payload.length := by
  simp [frame, frameParts, frameSize, frameOverhead]
  omega

/-- The magic as text and the version; what is left comes second. -/
def readHeader (stream : Bytes) : Except IoError (String × UInt32) × Bytes :=
  let name := stream.take 8
  let number := (stream.drop 8).take 4
  if number.length = 4 then
    (.ok (Lossy.decode name, UInt32.ofNat (Word.toNat number)), stream.drop 12)
  else (.error .shortRead, [])

/-- The next payload, or nothing at the end of the stream; what is left comes second. -/
def readFrame : Bytes → Except IoError (Option Bytes) × Bytes
  | [] => (.ok none, [])
  | tag :: rest =>
      if tag ≠ checkpointTag then (.error (.unknownTag tag), rest)
      else
        let lengthField := rest.take 4
        if lengthField.length = 4 then
          let promised := Word.toNat lengthField
          let body := rest.drop 4
          let payload := body.take promised
          let got := payload.length
          if got = promised then (.ok (some payload), body.drop promised)
          else (.error (.truncated got promised), [])
        else (.error .shortRead, [])

theorem length_readFrame_lt {stream rest payload : Bytes}
    (read : readFrame stream = (.ok (some payload), rest)) : rest.length < stream.length := by
  cases stream with
  | nil => simp [readFrame] at read
  | cons tag tail =>
    simp only [readFrame] at read
    split at read
    · simp at read
    split at read
    · split at read
      · cases read
        simp only [List.length_drop, List.length_cons]
        omega
      · simp at read
    · simp at read

/-- Every payload up to the end of the stream or the first failure, after the ones that `done`
holds newest first. -/
def payloadsAfter (done : List Bytes) (stream : Bytes) : List Bytes × Except IoError Unit :=
  match read : readFrame stream with
  | (.ok none, _) => (done.reverse, .ok ())
  | (.ok (some payload), rest) =>
      have := length_readFrame_lt read
      payloadsAfter (payload :: done) rest
  | (.error cause, _) => (done.reverse, .error cause)
termination_by stream.length

/-- Every payload of the frames in a stream, and how the reading ends. -/
def payloads (stream : Bytes) : List Bytes × Except IoError Unit := payloadsAfter [] stream

end Stream

end LeakRecorder
