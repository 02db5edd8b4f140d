/-
# LeakRecorder.Bytes.Lossy — text out of any bytes

UTF-8 characters are read as they are. Where the bytes are no UTF-8, each
longest run that still could have begun a character counts as one unreadable
character and becomes U+FFFD; a byte that can begin none is such a run by
itself.
-/
import LeakRecorder.Bytes.Word

set_option autoImplicit false

namespace LeakRecorder

namespace Lossy

/-- What a first byte announces: its own bits, how many bytes follow, and the range of the next. -/
structure Lead where
  bits : Nat
  tail : Nat
  low : UInt8
  high : UInt8

/-- The character that a first byte begins; `none` if it begins none. -/
def lead? (byte : UInt8) : Option Lead :=
  if byte < 0x80 then some ⟨byte.toNat, 0, 0x80, 0xBF⟩
  else if byte < 0xC2 then none
  else if byte < 0xE0 then some ⟨byte.toNat - 0xC0, 1, 0x80, 0xBF⟩
  else if byte = 0xE0 then some ⟨0, 2, 0xA0, 0xBF⟩
  else if byte = 0xED then some ⟨0xD, 2, 0x80, 0x9F⟩
  else if byte < 0xF0 then some ⟨byte.toNat - 0xE0, 2, 0x80, 0xBF⟩
  else if byte = 0xF0 then some ⟨0, 3, 0x90, 0xBF⟩
  else if byte < 0xF4 then some ⟨byte.toNat - 0xF0, 3, 0x80, 0xBF⟩
  else if byte = 0xF4 then some ⟨4, 3, 0x80, 0x8F⟩
  else none

/-- The character unreadable bytes become. -/
def replacement : Char := '\ufffd'

/-- Reads on inside a character of which `bits` are known and `tail` bytes are owed, the next one
between `low` and `high`; `done` holds the finished characters, newest first. -/
def readFrom (done : List Char) (bits : Nat) : Nat → UInt8 → UInt8 → Bytes → List Char
  | 0, _, _, [] => (Char.ofNat bits :: done).reverse
  | _ + 1, _, _, [] => (replacement :: done).reverse
  | 0, _, _, byte :: rest => begin (Char.ofNat bits :: done) byte rest
  | tail + 1, low, high, byte :: rest =>
      if low ≤ byte ∧ byte ≤ high then
        readFrom done (bits * 64 + (byte.toNat - 0x80)) tail 0x80 0xBF rest
      else begin (replacement :: done) byte rest
where
  /-- Reads on with the first byte of a character. -/
  begin (done : List Char) (byte : UInt8) (rest : Bytes) : List Char :=
    match lead? byte with
    | some lead => readFrom done lead.bits lead.tail lead.low lead.high rest
    | none =>
        match rest with
        | [] => (replacement :: done).reverse
        | next :: rest => begin (replacement :: done) next rest

/-- The text of the bytes. -/
def decode : Bytes → String
  | [] => ""
  | byte :: rest => String.ofList (readFrom.begin [] byte rest)

end Lossy

end LeakRecorder
