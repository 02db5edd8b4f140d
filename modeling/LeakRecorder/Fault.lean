/-
# LeakRecorder.Fault — what goes wrong

Each way in which an operation can fail is a constructor that holds the facts of
the failure; the wording is in one function per type. `Fault` is a caller's
mistake that no caller is expected to handle. The failures a caller does handle
are in `LeakRecorder.Failure`.
-/
set_option autoImplicit false

namespace LeakRecorder

/-- A mistake of the caller: the program stops with the message. -/
inductive Fault where
  /-- A method's holder has more bits than a method identifier can carry. -/
  | holderTooLarge
  /-- A count slot of four bytes at `offset` ends past the buffer's `size` bytes. -/
  | slotOutOfRange (offset size : Nat)
  deriving DecidableEq

def Fault.message : Fault → String
  | .holderTooLarge => "holder class id does not fit a method id"
  | .slotOutOfRange offset size =>
      if size < offset then s!"range start index {offset} out of range for slice of length {size}"
      else s!"range end index {offset + 4} out of range for slice of length {size}"

end LeakRecorder
