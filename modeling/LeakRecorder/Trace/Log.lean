/-
# LeakRecorder.Trace.Log — recorded traces by identifier

The capture side records traces; the first trace recorded under an identifier
stays. Iteration is in rising order of identifiers.
-/
import LeakRecorder.Trace
import Std.Data.TreeMap

set_option autoImplicit false

namespace LeakRecorder

/-- Recorded traces, one for each identifier. -/
structure TraceLog where
  traces : Std.TreeMap TraceId Trace

namespace TraceLog

def empty : TraceLog := ⟨∅⟩

instance : Inhabited TraceLog := ⟨empty⟩

def get? (log : TraceLog) (id : TraceId) : Option Trace := log.traces[id]?

/-- Records a trace; a trace recorded earlier under its identifier is kept instead. -/
def record (log : TraceLog) (trace : Trace) : TraceLog :=
  ⟨log.traces.insertIfNew trace.id trace⟩

/-- Notes that the capture side has written a trace into the stream. -/
def markWritten (log : TraceLog) (id : TraceId) : TraceLog :=
  ⟨log.traces.modify id fun trace => { trace with written := true }⟩

def size (log : TraceLog) : Nat := log.traces.size

def isEmpty (log : TraceLog) : Bool := log.traces.isEmpty

/-- The traces in rising order of identifiers. -/
def toList (log : TraceLog) : List Trace := log.traces.values

/-- The trace recorded under a key: identifier and hash have to agree. -/
def lookup (log : TraceLog) (key : TraceKey) : Option Trace :=
  (log.get? key.id).filter fun trace => trace.hash == key.hash

end TraceLog

end LeakRecorder
