/-
# LeakRecorder.Trace — captured stack traces

A trace is handed over by the subsystem that captures stacks: its identifier and
hash, its frames from the innermost out, whether they reach the root of the
stack, and whether that subsystem has written the trace into the stream itself.
-/
import LeakRecorder.Ident

set_option autoImplicit false

namespace LeakRecorder

/-- How the code of a frame was run. -/
inductive FrameKind where
  | interpreted
  | jit
  | inlined
  | native
  deriving DecidableEq

namespace FrameKind

/-- The byte that stands for a kind. -/
def toByte : FrameKind → UInt8
  | .interpreted => 0
  | .jit => 1
  | .inlined => 2
  | .native => 3

/-- The kind that a byte stands for; a byte that stands for none reads as interpreted. -/
def ofByte (byte : UInt8) : FrameKind :=
  if byte = 1 then .jit
  else if byte = 2 then .inlined
  else if byte = 3 then .native
  else .interpreted

@[simp] theorem ofByte_toByte (kind : FrameKind) : ofByte kind.toByte = kind := by
  cases kind <;> rfl

def name : FrameKind → String
  | .interpreted => "Interpreted"
  | .jit => "Jit"
  | .inlined => "Inlined"
  | .native => "Native"

end FrameKind

/-- One frame of a stack. -/
structure Frame where
  /-- The class that the frame names as the method's holder. -/
  classId : ClassId
  method : MethodId
  line : Int32
  /-- Index of the instruction within the method's bytecode. -/
  bci : Int32
  kind : FrameKind
  deriving DecidableEq

/-- A frame of a method, under the holder that the method itself carries. -/
def Frame.ofMethod (method : MethodId) (line bci : Int32) (kind : FrameKind) : Frame :=
  { classId := method.holder, method, line, bci, kind }

/-- A captured stack trace. -/
structure Trace where
  id : TraceId
  hash : UInt64
  reachedRoot : Bool
  frames : List Frame
  /-- The capture side has written the trace into the stream. -/
  written : Bool
  deriving DecidableEq

namespace Trace

/-- What the trace is recorded under. -/
def key (trace : Trace) : TraceKey := ⟨trace.hash, trace.id⟩

/-- The capture side still owes the trace to the stream. -/
def shouldWrite (trace : Trace) : Bool := !trace.written

end Trace

end LeakRecorder
