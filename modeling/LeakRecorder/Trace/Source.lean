/-
# LeakRecorder.Trace.Source — where the passes get traces from

The passes see the recorded traces through three operations: look one up, visit
them all, and release the ones a rotation has consumed. A `TraceSource` is any
implementation of the three over any state; nothing is assumed of it, so what is
proved of a pass for every source holds also for one that answers wrongly.

`TraceSource.log` is the source that a `TraceLog` is. The others answer from a
log too, but ignore the hash or visit everything twice.
-/
import LeakRecorder.Failure
import LeakRecorder.Trace.Log

set_option autoImplicit false

namespace LeakRecorder

/-- The operations of a trace source with states in `ρ`. -/
structure TraceSource (ρ : Type) where
  /-- The trace recorded under a key. -/
  lookup : ρ → TraceKey → Option Trace
  /-- The traces in the order in which an iteration visits them, and how it ends. -/
  visit : ρ → List Trace × Except Failure Unit
  /-- Releases the traces that a rotation has consumed. -/
  clear : ρ → ρ

namespace TraceSource

/-- A log of recorded traces. -/
def log : TraceSource TraceLog where
  lookup := TraceLog.lookup
  visit log := (log.toList, .ok ())
  clear _ := TraceLog.empty

/-- Answers a lookup by identifier alone. -/
def ignoringHash : TraceSource TraceLog :=
  { log with lookup := fun traces key => traces.get? key.id }

/-- Visits every trace and then every trace again. -/
def visitingTwice : TraceSource TraceLog :=
  { log with visit := fun traces => (traces.toList ++ traces.toList, .ok ()) }

end TraceSource

end LeakRecorder
