/-
# LeakRecorder.Profiler.Marking — keeping sampled objects through a collection

The mark pass hands over the objects of the emission window, newest first. It
changes nothing.
-/
import LeakRecorder.Profiler

set_option autoImplicit false

namespace LeakRecorder

/-- The objects that the next collection must not clear. -/
def Profiler.mark {σ ρ : Type} (profiler : Profiler σ ρ) (emitAll : Bool) : List ObjectRef :=
  (profiler.sampler.window emitAll).filterMap (·.object)

end LeakRecorder
