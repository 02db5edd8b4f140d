/-
# LeakRecorder.ExitedThreads — the threads that have exited

The set of exited threads is made when the first exit is recorded and destroyed
at a safepoint, when no exit can be recorded at the same time. `allocated` is
the flag that a query reads first: while it is down no set is looked at.

An operation that fails leaves everything as it is (`record_refused`,
`clear_refused`).
-/
import LeakRecorder.Ident.Set

set_option autoImplicit false

namespace LeakRecorder

structure ExitedThreads where
  /-- The number of members that the set is made for. -/
  initialSize : UInt64
  allocated : Bool
  members : Option (IdSet .constant)

namespace ExitedThreads

def ofSize (initialSize : UInt64) : ExitedThreads :=
  { initialSize, allocated := false, members := none }

/-- The set that there is, or a new one. -/
def memberSet (exited : ExitedThreads) : Except Failure (IdSet .constant) :=
  match exited.members with
  | some set => .ok set
  | none => IdSet.withCapacity exited.initialSize

/-- Records an exit, making the set at the first. -/
def record (exited : ExitedThreads) (tid : TraceId) : ExitedThreads × Except Failure Unit :=
  if tid.isNone then (exited, .error (.violation .exitOfNoThread))
  else
    match exited.memberSet with
    | .error cause => (exited, .error cause)
    | .ok set => ({ exited with members := some (set.add tid).2, allocated := true }, .ok ())

def hasExited (exited : ExitedThreads) (tid : TraceId) : Bool :=
  exited.allocated && match exited.members with
    | some set => set.contains tid
    | none => false

/-- How many exits are recorded. -/
def size (exited : ExitedThreads) : Nat :=
  match exited.members with
  | some set => set.size
  | none => 0

def isEmpty (exited : ExitedThreads) : Bool := exited.size == 0

/-- Destroys the set, which is legal only at a safepoint. -/
def clear (exited : ExitedThreads) (atSafepoint : Bool) : ExitedThreads × Except Failure Unit :=
  if atSafepoint then ({ exited with members := none, allocated := false }, .ok ())
  else (exited, .error (.violation .clearOutsideSafepoint))

theorem record_refused {exited after : ExitedThreads} {tid : TraceId} {cause : Failure}
    (refused : exited.record tid = (after, .error cause)) : after = exited := by
  rw [record] at refused
  split at refused
  next => cases refused; rfl
  next =>
    split at refused
    next => cases refused; rfl
    next => cases refused

theorem clear_refused {exited after : ExitedThreads} {atSafepoint : Bool} {cause : Failure}
    (refused : exited.clear atSafepoint = (after, .error cause)) : after = exited := by
  cases atSafepoint with
  | true => cases refused
  | false => cases refused; rfl

end ExitedThreads

end LeakRecorder
