/-
# LeakRecorder.Failure — the failures that an operation reports

Four kinds of failure reach a caller. `IoError` comes from a file or from a sink;
`FormatError` says that bytes are no checkpoint, or that something does not fit
into one; `Violation` says that the passes were used against their protocol, and
names the pass; `allocation` says that a collection of the requested size cannot
exist. Each is a cause with its facts, and `message` is the only place that puts
it into words.
-/
import LeakRecorder.Ident

set_option autoImplicit false

namespace LeakRecorder

/-- The pass that was running when a failure surfaced. -/
inductive Pass where
  | rotation
  | typeSet
  | write
  | mark
  | clear
  | threadExit
  deriving DecidableEq

def Pass.name : Pass → String
  | .rotation => "rotation"
  | .typeSet => "type-set"
  | .write => "write"
  | .mark => "mark"
  | .clear => "clear"
  | .threadExit => "thread-exit"

/-- A failure of a file, of a stream or of a sink. -/
inductive IoError where
  /-- Fewer bytes were left than a fixed-size field needs. -/
  | shortRead
  /-- A checkpoint's length field promises more than the stream holds. -/
  | truncated (got promised : Nat)
  /-- A frame starts with a tag that no frame has. -/
  | unknownTag (tag : UInt8)
  /-- A payload is longer than a length field can say. -/
  | payloadTooLarge
  | notFound
  | alreadyExists
  | notADirectory
  | isADirectory
  /-- A sink declined the operation. -/
  | refused (operation : String)
  deriving DecidableEq

/-- Who raised the failure decides whether it has a text: the operating system's do not. -/
def IoError.message? : IoError → Option String
  | .shortRead => some "failed to fill whole buffer"
  | .truncated got promised =>
      some s!"checkpoint frame truncated: {got} of {promised} bytes"
  | .unknownTag tag => some ("unknown frame tag " ++ toString tag.toNat)
  | .payloadTooLarge => some "checkpoint exceeds 4 GiB"
  | .refused operation => some s!"sink refused {operation}"
  | .notFound | .alreadyExists | .notADirectory | .isADirectory => none

/-- Why bytes are no checkpoint, or why something cannot be written as one. -/
inductive FormatError where
  /-- The bytes end inside a field. -/
  | short
  /-- A string's bytes are no UTF-8. -/
  | invalidText
  /-- A block with records has a type that no record has. -/
  | unknownType (typeId : UInt64)
  | tooManyFrames (trace : TraceId)
  | tooManyTraces
  | tooManyClasses
  | tooManyEdges
  /-- A collaborator declined. -/
  | refused (collaborator : String)
  deriving DecidableEq

def FormatError.detail : FormatError → String
  | .short => "failed to fill whole buffer"
  | .invalidText => "invalid UTF-8"
  | .unknownType typeId => "unknown type id " ++ toString typeId.toNat
  | .tooManyFrames trace =>
      "stack trace " ++ toString trace.val.toNat ++ " has too many frames"
  | .tooManyTraces => "stack trace block too large"
  | .tooManyClasses => "type set too large"
  | .tooManyEdges => "too many reference chain edges"
  | .refused collaborator => s!"{collaborator} refused"

/-- How the protocol of the passes was broken. -/
inductive Violation where
  /-- A pass that needs the profiler running met it stopped. -/
  | stopped (pass : Pass)
  | rotationAtSafepoint
  /-- No trace is recorded under the key of a live sample. -/
  | traceMissing (key : TraceKey)
  /-- The trace source answered `wanted` with a trace recorded under `found`. -/
  | traceMismatch (found wanted : TraceKey)
  /-- A blob was asked for, or cached, without a trace to name it. -/
  | cacheWithoutTrace
  | alreadyCached (key : TraceKey)
  | exitOfNoThread
  | clearOutsideSafepoint
  /-- The deduplicated block has another number of records than there are pending traces. -/
  | countMismatch (records pending : Nat)
  deriving DecidableEq

namespace Violation

/-- The pass whose protocol was broken. -/
def pass : Violation → Pass
  | .stopped pass => pass
  | .rotationAtSafepoint | .traceMissing _ | .traceMismatch _ _ => .rotation
  | .cacheWithoutTrace | .alreadyCached _ => .rotation
  | .exitOfNoThread => .threadExit
  | .clearOutsideSafepoint => .clear
  | .countMismatch _ _ => .write

/-- A key in words: the identifier in decimal, the hash in hexadecimal. -/
def keyText (key : TraceKey) : String :=
  toString key.id.val.toNat ++ " (hash 0x" ++
    String.ofList (Nat.toDigits 16 key.hash.toNat) ++ ")"

def detail : Violation → String
  | .stopped _ => "pass invoked while the profiler is stopped"
  | .rotationAtSafepoint => "rotation entered while at a safepoint"
  | .traceMissing key => "stack trace " ++ keyText key ++ " missing for a live sample"
  | .traceMismatch found wanted =>
      "repository returned trace " ++ keyText found ++ " for sample trace " ++ keyText wanted
  | .cacheWithoutTrace => "blob cache used with a sample lacking a stack trace id"
  | .alreadyCached key => "stack trace " ++ keyText key ++ " already cached"
  | .exitOfNoThread => "exit notification for thread id 0"
  | .clearOutsideSafepoint => "exited-thread set cleared outside a safepoint"
  | .countMismatch records pending =>
      s!"stack trace block holds {records} records for {pending} pending ids"

end Violation

/-- A failure that an operation reports to its caller. -/
inductive Failure where
  | io (cause : IoError)
  | format (cause : FormatError)
  | violation (cause : Violation)
  /-- A collection of the requested size cannot exist. -/
  | allocation
  deriving DecidableEq

/-- The text of a failure; only the operating system's failures have none. -/
def Failure.message? : Failure → Option String
  | .io cause => cause.message?
  | .format cause => some ("malformed checkpoint stream: " ++ cause.detail)
  | .violation cause =>
      some ("invariant violated during " ++ cause.pass.name ++ " pass: " ++ cause.detail)
  | .allocation =>
      some ("allocation failed while growing pass-scoped storage: memory allocation failed " ++
        "because the computed capacity exceeded the collection's maximum")

/-- A collection asked to hold at least this many entries at once cannot exist. -/
def allocationLimit : UInt64 := 0x8000000000000000

/-- Succeeds exactly for the sizes that a collection can be asked to hold. -/
def reserve (size : UInt64) : Except Failure Unit :=
  if size < allocationLimit then .ok () else .error .allocation

end LeakRecorder
