/-
# LeakRecorder.Profiler.TypeSet — ending a period

The type-set pass attaches the type set of the period that ends to every sample
of the period, and then moves the boundary up to the newest sample. A sample
that has a type set already keeps it.
-/
import LeakRecorder.Profiler

set_option autoImplicit false

namespace LeakRecorder

namespace Profiler

variable {σ ρ : Type}

/-- Installs a type set on the unresolved samples and moves the boundary; says how many samples
received it. -/
def installTypeSet (profiler : Profiler σ ρ) (typeSet : Option BlobId) :
    Profiler σ ρ × Except Failure Nat :=
  if !profiler.running then (profiler, .error (stoppedDuring .typeSet))
  else if !profiler.sampler.hasUnresolved then (profiler, .ok 0)
  else
    let sampler := profiler.sampler
    let fresh := sampler.unresolved
    match typeSet with
    | none =>
        ({ profiler with sampler := sampler.setBoundary sampler.newest? }, .ok 0)
    | some blob =>
        let installed := fresh.countP (·.typeSet.isNone)
        let front := fresh.map (·.attach .typeSet blob)
        let sampler := (sampler.replaceFront front).setBoundary sampler.newest?
        ({ profiler with sampler }, .ok installed)

/-- Only the sampler may change when a type set is installed. -/
theorem installTypeSet_eq (profiler : Profiler σ ρ) (typeSet : Option BlobId) :
    ∃ sampler, (profiler.installTypeSet typeSet).1 = { profiler with sampler } := by
  rw [installTypeSet]
  split
  · exact ⟨_, rfl⟩
  split
  · exact ⟨_, rfl⟩
  cases typeSet <;> exact ⟨_, rfl⟩

end Profiler

end LeakRecorder
